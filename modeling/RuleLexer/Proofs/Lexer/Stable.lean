import RuleLexer.Proofs.Lexer.Coverage
import RuleLexer.Proofs.Lexer.ReferenceStream

/-!
# Rules that more text does not change

A lexer with a small buffer judges its rules on short starts of the text. For some rules a start is
enough (`ExtensionStable`): a match that leaves some of the start over is the match on all of the
text, and where nothing is found in a start, nothing is found in the text. With such rules, and with
single characters as white space, every buffer gives the tokens of the whole text, as long as the
input does not end in the middle of a character.

* `Unbroken`: what the reads of a lexer keep to if the input does not end in the middle of a
  character; then a read that brings no bytes brings no text either.
* `Blanks.stripped_eq`: passing over single characters, one buffer after the other, strips the text.
* `At.first?_of_matched`, `At.agrees_noToken`: a pass over the rules gives what the whole text
  gives.
* `At.agrees_scan`, `At.agrees_scans`: so do a scan and any number of them.
* `exists_scans_of_stable`: so it is from the start of the input. Of an unknown token only the place
  is the same; how far its literal goes depends on the buffer.
-/

namespace RuleLexer

open WholeText (Rest stripped first?)

/-! ### Rules -/

section Rules

variable {ρ : Type} [TokenRule ρ]

/-- A rule that more text does not change: what it finds in a text without taking all of it, it
finds in every continuation, and where it finds nothing that counts, no continuation helps. -/
structure ExtensionStable (rule : ρ) : Prop where
  found : ∀ (x y : Text) (position : Position) (token : Token), x ≠ [] →
    TokenRule.hit? rule x position = some token → token.literal.length < x.length →
    TokenRule.find? rule (x ++ y) position = some token
  missed : ∀ (x y : Text) (position : Position), x ≠ [] →
    TokenRule.hit? rule x position = none → TokenRule.hit? rule (x ++ y) position = none

/-- A match on a start that leaves some of it over is the match on the whole text. -/
theorem ExtensionStable.hit?_append {rule : ρ} (h : ExtensionStable rule) {x : Text}
    {position : Position} {token : Token} (hhit : TokenRule.hit? rule x position = some token)
    (hne : token.literal ≠ x) (y : Text) :
    TokenRule.hit? rule (x ++ y) position = some token := by
  obtain ⟨hliteral, rest, hrest⟩ := TokenRule.hit?_eq_some hhit
  have hx : x ≠ [] := by
    rw [hrest]
    exact List.append_ne_nil_of_left_ne_nil hliteral _
  have hpos : 0 < rest.length := by
    rw [List.length_pos_iff]
    rintro rfl
    exact hne (by rw [hrest, List.append_nil])
  have hless : token.literal.length < x.length := by
    rw [hrest, List.length_append]
    omega
  -- the literal stands at the front of the start, so it counts in the text as well
  have hcounts : token.consumes (x ++ y) = true := by
    unfold Token.consumes Text.startsWith
    rw [hrest, List.append_assoc, Text.after?_append, List.isEmpty_eq_false_iff.mpr hliteral]
    rfl
  unfold TokenRule.hit?
  rw [h.found x y position token hx hhit hless]
  exact Option.filter_some_pos hcounts

/-- A rule for single characters: it finds what a list of literals of one character each finds. -/
def SingleCharacters (rule : ρ) : Prop :=
  ∃ (id : TokenId) (cs : List Char), ∀ (t : Text) (position : Position),
    TokenRule.find? rule t position = Rule.find? (.literals id (cs.map fun c => [c])) t position

/-- There is no white space, or it is single characters. -/
def RuleSet.SingleBlanks (rules : RuleSet ρ) : Prop :=
  ∀ w ∈ rules.whitespace, SingleCharacters w

/-- Single characters are seen on the first character. -/
theorem RuleSet.SingleBlanks.blank?_append {rules : RuleSet ρ} (h : rules.SingleBlanks) {x : Text}
    (hx : x ≠ []) (y : Text) (position : Position) :
    WholeText.blank? rules ⟨x ++ y, position⟩ = WholeText.blank? rules ⟨x, position⟩ := by
  unfold WholeText.blank?
  cases hw : rules.whitespace with
  | none => rfl
  | some w =>
    obtain ⟨id, cs, hfind⟩ := h w hw
    cases x with
    | nil => exact absurd rfl hx
    | cons c x =>
      have hhit (t : Text) : TokenRule.hit? w (c :: t) position =
          if c ∈ cs then some ⟨id, [c], [], position⟩ else none := by
        rw [← Reference.hit?_singletons id cs c t position]
        unfold TokenRule.hit?
        rw [hfind]
        rfl
      simp only [Option.bind_some, List.cons_append, hhit]

end Rules

namespace Lexer

variable {σ ρ : Type}

/-! ### An input that ends with a character -/

section Unbroken

variable [ByteSource σ]

/-- The input does not end in the middle of a character: once all bytes to come are decoded, nothing
is held. -/
structure Unbroken (l : Lexer σ ρ) : Prop where
  sound : Utf8.Sound l.pending
  ends : l.exhausted = false → ∃ bytes, Delivers l.sizes.effectiveChunk l.source bytes ∧
    (Utf8.decode l.pending bytes).2 = .none

theorem unbroken_create {source : σ} (rules : RuleSet ρ) {sizes : BufferSizes} {bytes : List UInt8}
    (hd : Delivers sizes.effectiveChunk source bytes) (hw : (Utf8.decode .none bytes).2 = .none) :
    (create source rules sizes).Unbroken :=
  ⟨Utf8.sound_none, fun _ => ⟨bytes, hd, hw⟩⟩

/-- A read keeps to it, and one that brings no bytes brings no text. -/
theorem Unbroken.fill {l : Lexer σ ρ} (h : l.Unbroken) :
    l.fill.2.Unbroken ∧ ∀ l', l.fill = (.ok 0, l') → l'.buffer = l.buffer := by
  rcases l.fill_cases with ⟨-, hf⟩ | ⟨he, fault, hr, -⟩ | ⟨he, status, journal, hr, hf⟩
  · rw [hf]
    refine ⟨h, ?_⟩
    intro l' hl'
    cases hl'
    rfl
  · -- a source that delivers does not fail
    obtain ⟨bytes, hd, -⟩ := h.ends he
    obtain ⟨n, ended, hok, -⟩ := hd.cases
    have hok' : l.reply.outcome = .ok ⟨n, ended⟩ := hok
    rw [hr] at hok'
    cases hok'
  · obtain ⟨bytes, hd, hnone⟩ := h.ends he
    obtain ⟨n, ended, hok, hsize, hwritten, hcases⟩ := hd.cases
    have hstatus : status = ⟨n, ended⟩ := by
      have hok' : l.reply.outcome = .ok ⟨n, ended⟩ := hok
      rw [hr] at hok'
      exact Except.ok.inj hok'
    subst hstatus
    have hcount : l.asked.counted ⟨n, ended⟩ = l.reply.written.take n :=
      counted_asked ended hsize hwritten
    have hlen : (l.reply.written.take n).length = n := by
      rw [List.length_take]
      exact Nat.min_eq_left hwritten
    rw [brought_asked he, leftPending_asked he h.sound, hcount, hlen] at hf
    rw [hf]
    rcases hcases with ⟨rfl, hbytes⟩ | ⟨rfl, hn, rest, hrest, hbytes⟩
    · refine ⟨⟨Utf8.sound_none, fun hmore => by cases hmore⟩, ?_⟩
      intro l' hl'
      cases hl'
      -- no bytes were left, so nothing was held
      have hnil : bytes = [] := hbytes.trans List.take_zero
      rw [hnil] at hnone
      have hpending : l.pending = .none := hnone
      show l.buffer ++ Utf8.textAfter l.pending (l.reply.written.take 0) = l.buffer
      rw [List.take_zero, hpending]
      exact List.append_nil _
    · rw [hbytes, Utf8.decode_append] at hnone
      refine ⟨⟨h.sound.decode _, fun _ => ⟨rest, hrest, hnone⟩⟩, ?_⟩
      intro l' hl'
      cases hl'
      exact absurd hn (Nat.lt_irrefl 0)

theorem Unbroken.refills {l l' : Lexer σ ρ} (h : l.Unbroken) (hr : Refills l l') :
    l'.Unbroken := by
  induction hr with
  | refl => exact h
  | tail _ hstep ih =>
    cases hstep with
    | read => exact ih.fill.1
    | note e => exact ⟨ih.sound, ih.ends⟩

theorem Unbroken.moves [TokenRule ρ] {l l' : Lexer σ ρ} (h : l.Unbroken) (hm : Moves l l') :
    l'.Unbroken := by
  induction hm with
  | refl => exact h
  | tail _ hstep ih =>
    cases hstep with
    | skip hskip =>
      cases hskip with
      | topUp _ => exact ih.fill.1
      | pass _ => exact ⟨ih.sound, ih.ends⟩
    | note e => exact ⟨ih.sound, ih.ends⟩
    | retry _ _ _ => exact ih.fill.1

end Unbroken

/-! ### Passing over single characters -/

section Blanks

variable [TokenRule ρ] {rules : RuleSet ρ}

/-- **Single characters that were passed over** are stripped off the whole text. -/
theorem Blanks.stripped_eq (hsingle : rules.SingleBlanks) {position : Position} {gap rest : Text}
    (h : Blanks rules position gap rest) :
    stripped rules ⟨gap ++ rest, position⟩ = stripped rules ⟨rest, position.advanced gap⟩ := by
  induction h with
  | nil position rest => rfl
  | @cons position token gap rest start behind hstart hblank _ ih =>
    have hne : start ≠ [] := by
      rintro rfl
      rw [WholeText.blank?_of_text_nil rfl] at hblank
      cases hblank
    have hall : WholeText.blank? rules ⟨token.literal ++ (gap ++ rest), position⟩ = some token := by
      rw [hstart, hsingle.blank?_append hne]
      exact hblank
    have hafter : (⟨token.literal ++ (gap ++ rest), position⟩ : Rest).after token.literal =
        ⟨gap ++ rest, position.advanced token.literal⟩ := by
      unfold WholeText.Rest.after
      rw [List.drop_left]
    rw [List.append_assoc, WholeText.stripped_of_some hall, hafter, ih, Position.advanced_append]

variable [ByteSource σ] {sizes : BufferSizes} {l l₁ : Lexer σ ρ} {r : Rest}

/-- A pass starts where the whole text is stripped. -/
theorem At.stripped_of_passStart (hsingle : rules.SingleBlanks) (h : At rules sizes l r)
    (hs : PassStart l l₁) : At rules sizes l₁ (stripped rules r) := by
  obtain ⟨hprimed, gap, rest, htext, hgap, hat⟩ := h.passStart hs
  have hnone : WholeText.blank? rules ⟨rest, r.position.advanced gap⟩ = none := by
    by_cases hnil : l₁.buffer = []
    · exact WholeText.blank?_of_text_nil (hat.text_eq_nil hprimed hnil).2
    · -- the buffer is not empty, so its first character is that of the rest
      obtain ⟨behind, hbehind⟩ := hat.faces.exists_append
      change rest = l₁.buffer ++ behind at hbehind
      have hblank := hs.blank
      rw [hat.blank?_buffer] at hblank
      rw [hbehind, hsingle.blank?_append hnil]
      exact hblank
  have hstripped : stripped rules r = ⟨rest, r.position.advanced gap⟩ := by
    have hr : r = ⟨gap ++ rest, r.position⟩ := by
      rw [← htext]
    rw [hr, hgap.stripped_eq hsingle, WholeText.stripped_of_none hnone]
  rw [hstripped]
  exact hat

end Blanks

/-! ### One answer -/

section Answer

variable [TokenRule ρ] [ByteSource σ] {rules : RuleSet ρ} {sizes : BufferSizes}
  {l l' : Lexer σ ρ} {r : Rest}

/-- A stable rule that has missed on a buffer that is not empty misses on the whole rest. -/
theorem At.hit?_eq_none (h : At rules sizes l r) (hne : l.buffer ≠ []) {rule : ρ}
    (hstable : ExtensionStable rule) (hmiss : TokenRule.hit? rule l.buffer l.cursor = none) :
    TokenRule.hit? rule r.text r.position = none := by
  obtain ⟨behind, hbehind⟩ := h.faces.exists_append
  rw [h.cursor] at hmiss
  rw [hbehind]
  exact hstable.missed _ behind _ hne hmiss

/-- A stable rule that has settled on a token finds it in the whole rest. -/
theorem At.hit?_of_settled (h : At rules sizes l r) (hu : l.Unbroken) {rule : ρ} {token : Token}
    (hstable : ExtensionStable rule) (hs : Settled rule token l l') :
    TokenRule.hit? rule r.text r.position = some token := by
  have hhit := hs.hit
  rw [h.cursor] at hhit
  -- where the token could have gone on, there is nothing more
  have hall (hbuffer : r.text = l.buffer) : TokenRule.hit? rule r.text r.position = some token := by
    rw [hbuffer]
    exact hhit
  rcases hs.last with ⟨-, hend | hshort⟩ | hfill
  · exact hall (h.faces.eq_buffer hend)
  · obtain ⟨behind, hbehind⟩ := h.faces.exists_append
    rw [hbehind]
    exact hstable.hit?_append hhit hshort behind
  · have hread := h.read
    rw [hfill] at hread
    obtain ⟨k, l₁, hf, -, hlast⟩ := h.faces.fill
    rw [hfill] at hf
    cases hf
    apply hall
    rw [hread.faces.eq_buffer (hlast rfl).1, hu.fill.2 l' hfill]

/-- **A pass that finds a token** finds that of the whole text, and leaves the lexer in its
place. -/
theorem At.first?_of_matched (h : At rules sizes l r) (hu : l.Unbroken)
    (hstable : ∀ rule ∈ rules.rules, ExtensionStable rule) {token : Token}
    (hp : Passed rules.rules l (.ok (.matched token)) l') :
    first? rules r = some token ∧ At rules sizes l' r := by
  cases hp with
  | @matched l₁ _ before after rule _ rounds hrules hmiss hstill hmatch =>
    obtain ⟨found, l₂, hfound, -, hrefills, hsettled⟩ := settled_of_matchRule hmatch
    have hreads : Refills l l₂ := hstill.refills.trans hrefills
    -- a rule that finds something has something to find it in
    have hne : l.buffer ≠ [] := by
      rw [← hstill.buffer]
      intro hnil
      rw [hnil, Reference.hit?_nil] at hfound
      cases hfound
    constructor
    · have hbefore : before.findSome? (TokenRule.hit? · r.text r.position) = none := by
        rw [List.findSome?_eq_none_iff]
        intro q hq
        have hmem : q ∈ rules.rules := by
          rw [hrules]
          exact List.mem_append_left _ hq
        exact h.hit?_eq_none hne (hstable q hmem) (hmiss q hq)
      have hmem : rule ∈ rules.rules := by
        rw [hrules]
        exact List.mem_append_right _ (List.mem_cons_self ..)
      have hhit : TokenRule.hit? rule r.text r.position = some token :=
        (h.refills hreads).hit?_of_settled (hu.refills hreads) (hstable rule hmem) hsettled
      unfold first?
      rw [hrules, List.findSome?_append, hbefore, List.findSome?_cons, hhit]
      rfl
    · have hlast : Refills l₂ l' := by
        rcases hsettled.last with ⟨rfl, -⟩ | hfill
        · exact .refl
        · have hread : Refills l₂ l₂.fill.2 := .single (.read l₂)
          rw [hfill] at hread
          exact hread
      exact h.refills (hreads.trans hlast)

/-- Two answers that agree: the same token or none, or an unknown token at the same place. Its
literal goes up to where something is recognised again, so it depends on what was looked at. -/
inductive Agrees : Except LexError (Option Token) → Except LexError (Option Token) → Prop where
  | ok (token : Option Token) : Agrees (.ok token) (.ok token)
  | unknown (literal literal' : Text) (position : Position) :
      Agrees (.error (.unknownToken literal position)) (.error (.unknownToken literal' position))

/-- **A pass without a token** means that the whole text has none there. -/
theorem At.agrees_noToken {l₁ : Lexer σ ρ} (h : At rules sizes l₁ (stripped rules r))
    (hprimed : l₁.Primed) (hstable : ∀ rule ∈ rules.rules, ExtensionStable rule)
    (hp : Passed rules.rules l₁ (.ok .noMatch) l) :
    Agrees l.noToken.1 (WholeText.next rules r).1 ∧
      At rules sizes l.noToken.2 (stripped rules r) := by
  cases hp with
  | missed hstill hmiss =>
    have hat : At rules sizes l (stripped rules r) := h.refills hstill.refills
    unfold noToken
    split_ifs with hempty
    · refine ⟨?_, hat⟩
      have hnil : l₁.buffer = [] := by
        rw [← hstill.buffer]
        exact List.isEmpty_iff.mp hempty
      have hend := (h.text_eq_nil hprimed hnil).2
      rcases WholeText.next_cases rules r with ⟨-, hnext⟩ | ⟨hne, -⟩ | ⟨token, hfirst, -⟩
      · rw [hnext]
        exact .ok none
      · exact absurd hend hne
      · rw [WholeText.first?_of_text_nil hend] at hfirst
        cases hfirst
    · refine ⟨?_, hat.note _⟩
      have hne : l₁.buffer ≠ [] := by
        rw [← hstill.buffer]
        exact fun hnil => hempty (List.isEmpty_iff.mpr hnil)
      have hfirst : first? rules (stripped rules r) = none := by
        unfold first?
        rw [List.findSome?_eq_none_iff]
        exact fun q hq => h.hit?_eq_none hne (hstable q hq) (hmiss q hq)
      rcases WholeText.next_cases rules r with ⟨hnil, -⟩ | ⟨-, -, hnext⟩ | ⟨token, hsome, -⟩
      · obtain ⟨behind, hbehind⟩ := h.faces.exists_append
        rw [hnil] at hbehind
        exact absurd (List.append_eq_nil_iff.mp hbehind.symm).1 hne
      · rw [hnext, hat.cursor]
        exact .unknown _ _ _
      · rw [hfirst] at hsome
        cases hsome

/-- Looking for a token with stable rules gives an answer that agrees with the whole text. -/
theorem At.agrees_peekWithin {rounds n : Nat} {res : Except LexError (Option Token)}
    (h : At rules sizes l r) (hu : l.Unbroken) (hsingle : rules.SingleBlanks)
    (hstable : ∀ rule ∈ rules.rules, ExtensionStable rule)
    (hpeek : Lexer.peekWithin rounds n l = some (res, l')) :
    Agrees res (WholeText.next rules r).1 ∧ At rules sizes l' (stripped rules r) := by
  rcases peekWithin_cases hpeek with ⟨e, -, hfails⟩ | ⟨l₁, token, hstart, hpass, rfl⟩ |
    ⟨l₁, l₂, hstart, hpass, hno⟩
  · exact absurd hfails h.not_fails
  · have hat := h.stripped_of_passStart hsingle hstart
    rw [hat.rules_eq] at hpass
    obtain ⟨hfirst, hat'⟩ := hat.first?_of_matched (hu.moves hstart.moves) hstable hpass
    rw [WholeText.next_of_first? hfirst]
    exact ⟨.ok (some token), hat'⟩
  · have hat := h.stripped_of_passStart hsingle hstart
    have hprimed := (h.passStart hstart).1
    rw [hat.rules_eq] at hpass
    have hagrees := hat.agrees_noToken hprimed hstable hpass
    rw [hno] at hagrees
    exact hagrees

end Answer

/-! ### Any number of scans -/

section Scans

variable [TokenRule ρ] [FiniteSource σ] {rules : RuleSet ρ} {sizes : BufferSizes}
  {l : Lexer σ ρ} {r : Rest}

/-- **A scan** gives an answer that agrees with the whole text, and goes on where the whole text
does. -/
theorem At.agrees_scan (h : At rules sizes l r) (hu : l.Unbroken) (hsingle : rules.SingleBlanks)
    (hstable : ∀ rule ∈ rules.rules, ExtensionStable rule) :
    ∃ res l', Lexer.scan l = some (res, l') ∧ Agrees res (WholeText.next rules r).1 ∧
      At rules sizes l' (WholeText.next rules r).2 ∧ l'.Unbroken := by
  obtain ⟨res, l₁, hpeek⟩ := peekWithin_ends hu.sound (reach_lt_rounds l) (ahead_lt_rounds l)
    (ahead_lt_rounds l)
  obtain ⟨hmoves, hfront⟩ := moves_peekWithin hpeek
  obtain ⟨hagrees, hat⟩ := h.agrees_peekWithin hu hsingle hstable hpeek
  have hu₁ : l₁.Unbroken := hu.moves hmoves
  have hscan := scan_eq l
  rw [scanWithin_eq, hpeek] at hscan
  rcases WholeText.next_cases rules r with ⟨-, hnext⟩ | ⟨-, -, hnext⟩ | ⟨token, -, hnext⟩
  · rw [hnext] at hagrees ⊢
    cases hagrees
    exact ⟨_, l₁, hscan, .ok none, hat, hu₁⟩
  · rw [hnext] at hagrees ⊢
    cases hagrees
    exact ⟨_, l₁, hscan, .unknown _ _ _, hat, hu₁⟩
  · rw [hnext] at hagrees ⊢
    cases hagrees
    exact ⟨_, _, hscan, .ok (some token), (hat.consume (hfront token rfl)).note _,
      hu₁.sound, hu₁.ends⟩

/-- **Any number of scans** give answers that agree with the whole text. -/
theorem At.agrees_scans (h : At rules sizes l r) (hu : l.Unbroken) (hsingle : rules.SingleBlanks)
    (hstable : ∀ rule ∈ rules.rules, ExtensionStable rule) (n : Nat) :
    ∃ answers, scans n l = some answers ∧
      List.Forall₂ Agrees answers (WholeText.results rules n r) := by
  induction n generalizing l r with
  | zero => exact ⟨[], rfl, .nil⟩
  | succ n ih =>
    obtain ⟨res, l', hscan, hagrees, hat, hu'⟩ := h.agrees_scan hu hsingle hstable
    obtain ⟨answers, hscans, hall⟩ := ih hat hu'
    refine ⟨res :: answers, ?_, .cons hagrees hall⟩
    rw [scans, hscan]
    simp only
    rw [hscans]
    rfl

/-- **Rules that more text does not change give the tokens of the whole text** through every buffer.
White space may be single characters, and the input must not end in the middle of a character. Then,
however the bytes are cut into reads, scanning again and again gives the tokens of the text one
after the other, and then for ever that there are none, or an unknown token where the whole text has
one. -/
theorem exists_scans_of_stable (source : σ) (rules : RuleSet ρ) (sizes : BufferSizes)
    (bytes : List UInt8) (hstable : ∀ rule ∈ rules.rules, ExtensionStable rule)
    (hsingle : rules.SingleBlanks) (hwhole : (Utf8.decode .none bytes).2 = .none)
    (hd : Delivers sizes.effectiveChunk source bytes) (n : Nat) :
    ∃ answers, scans n (create source rules sizes) = some answers ∧ List.Forall₂ Agrees answers
      ((List.range n).map (WholeText.answer (WholeText.tokens rules (Utf8.lossy bytes)))) := by
  rw [← WholeText.results_eq]
  exact (at_create rules hd).agrees_scans (unbroken_create rules hd hwhole) hsingle hstable n

end Scans

/-- Names are stable: what follows a name does not belong to it, and a text that does not start with
one does not start with one if it goes on. -/
theorem extensionStable_name : ExtensionStable Reference.nameRule where
  found x y position token hx hhit hshort := by
    cases x with
    | nil => exact absurd rfl hx
    | cons c x =>
      have hne : token.literal ≠ c :: x := fun hall => Nat.ne_of_lt hshort (by rw [hall])
      have hsteady := Reference.steadyRule_name c x y position
      exact (Option.filter_eq_some_iff.mp (hsteady.found token hhit (Or.inl hne))).1
  missed x y position hx hmiss := by
    cases x with
    | nil => exact absurd rfl hx
    | cons c x => exact (Reference.steadyRule_name c x y position).missed hmiss

/-- Two names and an unknown character, read one byte at a time. -/
theorem exists_scans_of_stable_names :
    let bytes : List UInt8 := [0x61, 0x62, 0x20, 0x63, 0x3F, 0x64]
    let source : Script := ⟨[.data bytes]⟩
    let rules : RuleSet Rule := ⟨some Reference.blankRule, [Reference.nameRule]⟩
    let unknown : LexError := .unknownToken ['?'] ⟨0, 4, 4⟩
    (∀ rule ∈ rules.rules, ExtensionStable rule) ∧ rules.SingleBlanks ∧
      (Utf8.decode .none bytes).2 = .none ∧ Delivers 1 source bytes ∧
      ∃ answers, scans 4 (create source rules ⟨1, 1⟩) = some answers ∧
        List.Forall₂ Agrees answers [.ok (some ⟨.ident, ['a', 'b'], [], .start⟩),
          .ok (some ⟨.ident, ['c'], [], ⟨0, 3, 3⟩⟩), .error unknown, .error unknown] := by
  intro bytes source rules unknown
  have hstable : ∀ rule ∈ rules.rules, ExtensionStable rule := by
    intro rule hrule
    rw [List.mem_singleton.mp hrule]
    exact extensionStable_name
  have hsingle : rules.SingleBlanks := by
    intro w hw
    cases hw
    exact ⟨.other, Reference.blanks, fun _ _ => rfl⟩
  have hwhole : (Utf8.decode .none bytes).2 = .none := by decide
  have hd : Delivers 1 source bytes := Script.delivers_data Nat.one_pos [bytes] (by decide)
  have hanswers :
      (List.range 4).map (WholeText.answer (WholeText.tokens rules (Utf8.lossy bytes))) =
      [.ok (some ⟨.ident, ['a', 'b'], [], .start⟩), .ok (some ⟨.ident, ['c'], [], ⟨0, 3, 3⟩⟩),
        .error unknown, .error unknown] := by decide +kernel
  have hscans := exists_scans_of_stable source rules ⟨1, 1⟩ bytes hstable hsingle hwhole hd 4
  rw [hanswers] at hscans
  exact ⟨hstable, hsingle, hwhole, hd, hscans⟩

end Lexer

end RuleLexer
