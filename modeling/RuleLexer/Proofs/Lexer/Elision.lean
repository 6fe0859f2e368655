import Mathlib.Data.List.Infix
import RuleLexer.Proofs.Lexer.Stable
import RuleLexer.Proofs.Utf8.Encoding

/-!
# Passing over white space through a buffer

White space is judged on what the buffer holds, and unlike a token it is not judged again if it goes
up to the end of the buffer. So where a buffer ends may decide how much is passed over: of a comment
that is cut, the first part is passed over and the second part is not.

* `Seamless`: no start of the text that is long enough for a buffer decides otherwise than the whole
  text, here and wherever the white space has been passed over up to then. This can be computed.
* `At.skipWhitespace_stripped`, `At.tryRules_stripped`, `At.peekWithin_stripped`: then every loop
  leaves the lexer where the white space of the whole text ends, whatever the reads bring and
  whatever the rules for tokens are.
* `seamless_of_byteLength_le`, `seamless_of_singleBlanks`: a buffer for all of the text cannot cut
  it the wrong way, and no buffer can if white space is single characters.
* `seamlessFront_of_elidesAlike`: a start that does decide otherwise is seen by a lexer if the first
  read brings just that start. So the condition cannot be weakened (`seamless_of_elidesAlike`).
* `elidesAlike_exactly_seamless`: all of this together, and `peek_splits_comment` is the comment.
-/

namespace RuleLexer

open WholeText (Rest stripped)

/-! ### White space in front of a text -/

theorem WholeText.blank?_position (rules : RuleSet Rule) (t : Text) (p q : Position) :
    WholeText.blank? rules ⟨t, q⟩ =
      (WholeText.blank? rules ⟨t, p⟩).map fun token => { token with position := q } := by
  unfold WholeText.blank?
  cases rules.whitespace with
  | none => rfl
  | some w => exact w.hit?_position t p q

/-- White space that is found in a start of a rest is in front of the rest. -/
theorem WholeText.exists_append_of_blank? {rules : RuleSet Rule} {r : Rest} {x y : Text}
    {token : Token} (hxy : r.text = x ++ y)
    (hb : WholeText.blank? rules ⟨x, r.position⟩ = some token) :
    token.literal ≠ [] ∧ ∃ rest, r.text = token.literal ++ rest := by
  obtain ⟨w, -, hw⟩ := Option.bind_eq_some_iff.mp hb
  obtain ⟨hne, rest, hrest⟩ := TokenRule.hit?_eq_some hw
  refine ⟨hne, rest ++ y, ?_⟩
  rw [hxy, ← List.append_assoc, ← hrest]

/-- A text without the white space in front of it. -/
def pastBlanks (w : Option Rule) (t : Text) : Text := (stripped ⟨w, []⟩ ⟨t, .start⟩).text

/-- Neither the place of a text nor the rules for tokens matter for its white space. -/
theorem text_stripped (rules : RuleSet Rule) (r : Rest) :
    (stripped rules r).text = pastBlanks rules.whitespace r.text := by
  suffices h : ∀ q, (stripped rules r).text =
      (stripped ⟨rules.whitespace, []⟩ ⟨r.text, q⟩).text from h .start
  induction r using WholeText.strip_induction rules with
  | none r hb =>
    intro q
    have hblank : WholeText.blank? ⟨rules.whitespace, []⟩ ⟨r.text, q⟩ = none := by
      rw [WholeText.blank?_position _ _ r.position q, Option.map_eq_none_iff]
      exact hb
    rw [WholeText.stripped_of_none hb, WholeText.stripped_of_none hblank]
  | some r token hb ih =>
    intro q
    have hblank : WholeText.blank? ⟨rules.whitespace, []⟩ ⟨r.text, q⟩ =
        some { token with position := q } := by
      rw [WholeText.blank?_position _ _ r.position q, Option.map_eq_some_iff]
      exact ⟨token, hb, rfl⟩
    rw [WholeText.stripped_of_some hb, WholeText.stripped_of_some hblank]
    exact ih (q.advanced token.literal)

/-- A start of a text that decides like the whole: where it shows no white space the text has none
in front, and what it shows can be passed over without a loss. -/
def Decides (w : Option Rule) (x t : Text) : Prop :=
  pastBlanks w t = match w.bind (TokenRule.hit? · x .start) with
    | none => t
    | some token => pastBlanks w (t.drop token.literal.length)

instance (w : Option Rule) (x t : Text) : Decidable (Decides w x t) :=
  inferInstanceAs (Decidable (_ = _))

/-- The whole text decides like the whole text. -/
theorem decides_self (w : Option Rule) (t : Text) : Decides w t t := by
  have hblank : w.bind (TokenRule.hit? · t .start) = WholeText.blank? ⟨w, []⟩ ⟨t, .start⟩ := rfl
  unfold Decides
  rw [hblank]
  cases hb : WholeText.blank? ⟨w, []⟩ ⟨t, .start⟩ with
  | none =>
    unfold pastBlanks
    rw [WholeText.stripped_of_none hb]
  | some token =>
    have hstripped := congrArg Rest.text (WholeText.stripped_of_some hb)
    rw [text_stripped, text_stripped] at hstripped
    exact hstripped

theorem decides_append_nil (w : Option Rule) (t : Text) : Decides w t (t ++ []) := by
  rw [List.append_nil]
  exact decides_self w t

/-- What a start decides about a rest, wherever it lies. -/
theorem Decides.stripped_eq {rules : RuleSet Rule} {r : Rest} {x y : Text}
    (h : Decides rules.whitespace x r.text) (hxy : r.text = x ++ y) :
    match WholeText.blank? rules ⟨x, r.position⟩ with
    | none => stripped rules r = r
    | some token => stripped rules r = stripped rules (r.after token.literal) := by
  have hstart : rules.whitespace.bind (TokenRule.hit? · x .start) =
      (WholeText.blank? rules ⟨x, r.position⟩).map fun token => { token with position := .start } :=
    WholeText.blank?_position rules x r.position .start
  unfold Decides at h
  rw [← text_stripped, hstart] at h
  have hbehind := WholeText.stripped_behind rules r
  cases hb : WholeText.blank? rules ⟨x, r.position⟩ with
  | none =>
    rw [hb] at h
    exact hbehind.eq_of_text (.refl r) h
  | some token =>
    rw [hb] at h
    obtain ⟨-, rest, htext⟩ := WholeText.exists_append_of_blank? hxy hb
    have hafter : (stripped rules (r.after token.literal)).Behind r :=
      (WholeText.stripped_behind rules _).trans (WholeText.Rest.after_behind htext)
    apply hbehind.eq_of_text hafter
    rw [text_stripped rules (r.after token.literal)]
    exact h

/-! ### Texts that a buffer cannot cut the wrong way -/

/-- A text in front of which a buffer decides like the whole: so does every start of it that is long
enough to be all that the buffer holds. -/
def SeamlessFront (mark : Nat) (w : Option Rule) (t : Text) : Prop :=
  ∀ x y, t = x ++ y → Lexer.Suffices mark x y → Decides w x t

/-- **A text that a buffer cannot cut the wrong way**, wherever the white space has been passed
over up to then. -/
def Seamless (mark : Nat) (w : Option Rule) (t : Text) : Prop :=
  ∀ s, s <:+ t → SeamlessFront mark w s

theorem Seamless.suffix {mark : Nat} {w : Option Rule} {s t : Text} (h : Seamless mark w t)
    (hs : s <:+ t) : Seamless mark w s :=
  fun u hu => h u (hu.trans hs)

instance (mark : Nat) (x y : Text) : Decidable (Lexer.Suffices mark x y) :=
  inferInstanceAs (Decidable (_ ∨ _))

theorem seamlessFront_iff {mark : Nat} {w : Option Rule} {t : Text} :
    SeamlessFront mark w t ↔
      ∀ x ∈ t.inits, Lexer.Suffices mark x (t.drop x.length) → Decides w x t := by
  constructor
  · intro h x hx
    obtain ⟨y, rfl⟩ := (List.mem_inits x t).mp hx
    rw [List.drop_left]
    exact h x y rfl
  · rintro h x y rfl hsuff
    apply h x ((List.mem_inits x _).mpr (List.prefix_append x y))
    rw [List.drop_left]
    exact hsuff

instance (mark : Nat) (w : Option Rule) (t : Text) : Decidable (SeamlessFront mark w t) :=
  decidable_of_iff _ seamlessFront_iff.symm

theorem seamless_iff {mark : Nat} {w : Option Rule} {t : Text} :
    Seamless mark w t ↔ ∀ s ∈ t.tails, SeamlessFront mark w s := by
  simp only [Seamless, List.mem_tails]

instance (mark : Nat) (w : Option Rule) (t : Text) : Decidable (Seamless mark w t) :=
  decidable_of_iff _ seamless_iff.symm

/-- **A buffer for the whole text** cannot cut it. -/
theorem seamless_of_byteLength_le {mark : Nat} (w : Option Rule) {t : Text}
    (ht : t.byteLength ≤ mark) : Seamless mark w t := by
  rintro s ⟨a, rfl⟩ x y hxy hsuff
  have hs : Text.byteLength s ≤ mark := by
    rw [Text.byteLength_append] at ht
    omega
  have hy : y = [] := Lexer.eq_nil_of_suffices hs hxy hsuff
  rw [hxy, hy]
  exact decides_append_nil w x

/-- **Single characters** cannot be cut. -/
theorem seamless_of_singleBlanks {mark : Nat} (hmark : 1 ≤ mark) {w : Option Rule}
    (h : (⟨w, []⟩ : RuleSet Rule).SingleBlanks) (t : Text) : Seamless mark w t := by
  intro s _ x y hxy hsuff
  by_cases hx : x = []
  · have hy : y = [] := by
      apply hsuff.resolve_left
      rw [hx, Text.byteLength_nil]
      omega
    rw [hxy, hy]
    exact decides_append_nil w x
  · -- the first character decides, and the start has it
    have hsame : w.bind (TokenRule.hit? · s .start) = w.bind (TokenRule.hit? · x .start) := by
      rw [hxy]
      exact h.blank?_append hx y .start
    have hself := decides_self w s
    unfold Decides at hself ⊢
    rwa [hsame] at hself

namespace Lexer

variable {σ : Type}

/-! ### The loops -/

section Loops

variable [ByteSource σ] {rules : RuleSet Rule} {sizes : BufferSizes} {l l' : Lexer σ Rule}
  {r : Rest}

/-- Topping up in front of a text that is delivered. -/
theorem At.ensureBuffered_primed {res : Except LexError Unit} (h : At rules sizes l r)
    (hensure : Lexer.ensureBuffered l = some (res, l')) :
    res = .ok () ∧ At rules sizes l' r ∧ l'.Primed := by
  have hcases := topUp_cases hensure
  have hat := h.refills (refills_topUp hensure)
  cases res with
  | error e => exact absurd hcases h.not_fails
  | ok u => exact ⟨rfl, hat, h.primed_of_toppedUp hcases⟩

/-- **Passing over white space** leads to where that of the whole text ends. -/
theorem At.skipWhitespace_stripped {n : Nat} {res : Except LexError Unit} (h : At rules sizes l r)
    (hs : Seamless sizes.mark rules.whitespace r.text)
    (hskip : Lexer.skipWhitespace n l = some (res, l')) :
    res = .ok () ∧ At rules sizes l' (stripped rules r) := by
  induction n generalizing l r with
  | zero => cases hskip
  | succ n ih =>
    rw [skipWhitespace_succ] at hskip
    split at hskip
    · cases hskip
    · next e l₁ hensure =>
      obtain ⟨hok, -, -⟩ := h.ensureBuffered_primed hensure
      cases hok
    · next l₁ hensure =>
      obtain ⟨-, hat, hprimed⟩ := h.ensureBuffered_primed hensure
      obtain ⟨y, hy, hsuff⟩ := hat.exists_suffices hprimed
      have hdecides := (hs _ (List.suffix_refl _) _ y hy hsuff).stripped_eq hy
      rw [← hat.blank?_buffer] at hdecides
      split at hskip
      · next hblank =>
        cases hskip
        rw [hblank] at hdecides
        rw [hdecides]
        exact ⟨rfl, hat⟩
      · next token hblank =>
        rw [hblank] at hdecides
        have hrest : Seamless sizes.mark rules.whitespace (r.after token.literal).text :=
          hs.suffix (List.drop_suffix _ _)
        rw [hdecides]
        exact ih (hat.consume (blank?_eq_some hblank)) hrest hskip

/-- **A pass over rules** stays where the white space of the whole text ends, since more text does
not bring more white space to the front. -/
theorem At.tryRules_stripped {rounds generation : Nat} {rest : List Rule}
    {res : Except LexError Attempt} (h : At rules sizes l r)
    (hs : Seamless sizes.mark rules.whitespace r.text) (hr : stripped rules r = r)
    (htry : Lexer.tryRules rounds generation rest l = some (res, l')) : At rules sizes l' r := by
  induction rest generalizing l with
  | nil =>
    rw [tryRules_nil] at htry
    cases htry
    exact h
  | cons rule rest ih =>
    rw [tryRules_cons] at htry
    split at htry
    · cases htry
    · next e l₁ hskip =>
      obtain ⟨hok, -⟩ := h.skipWhitespace_stripped hs hskip
      cases hok
    · next l₁ hskip =>
      obtain ⟨-, hat₁⟩ := h.skipWhitespace_stripped hs hskip
      rw [hr] at hat₁
      split at htry
      · cases htry
      · next e l₂ hensure =>
        obtain ⟨hok, -, -⟩ := hat₁.ensureBuffered_primed hensure
        cases hok
      · next l₂ hensure =>
        obtain ⟨-, hat₂, -⟩ := hat₁.ensureBuffered_primed hensure
        split at htry
        · cases htry
          exact hat₂
        · split at htry
          · cases htry
          · next e l₃ hmatch =>
            cases htry
            exact hat₂.refills (refills_matchRule hmatch)
          · next token l₃ hmatch =>
            cases htry
            exact hat₂.refills (refills_matchRule hmatch)
          · next l₃ hmatch => exact ih (hat₂.refills (refills_matchRule hmatch)) htry

/-- **Looking for a token** leaves the lexer where the white space of the whole text ends, whatever
it finds there. -/
theorem At.peekWithin_stripped {rounds n : Nat} {res : Except LexError (Option Token)}
    (h : At rules sizes l r) (hs : Seamless sizes.mark rules.whitespace r.text)
    (hpeek : Lexer.peekWithin rounds n l = some (res, l')) :
    At rules sizes l' (stripped rules r) := by
  induction n generalizing l r with
  | zero => cases hpeek
  | succ n ih =>
    have hrest : Seamless sizes.mark rules.whitespace (stripped rules r).text :=
      hs.suffix (WholeText.stripped_suffix r)
    have hagain : stripped rules (stripped rules r) = stripped rules r :=
      WholeText.stripped_stripped r
    rw [peekWithin_succ] at hpeek
    split at hpeek
    · cases hpeek
    · next e l₁ hskip =>
      obtain ⟨hok, -⟩ := h.skipWhitespace_stripped hs hskip
      cases hok
    · next l₁ hskip =>
      obtain ⟨-, hat⟩ := h.skipWhitespace_stripped hs hskip
      split at hpeek
      · cases hpeek
      · next e l₂ htry =>
        cases hpeek
        exact hat.tryRules_stripped hrest hagain htry
      · next token l₂ htry =>
        cases hpeek
        exact hat.tryRules_stripped hrest hagain htry
      · next l₂ htry =>
        have hat₂ := hat.tryRules_stripped hrest hagain htry
        have hlast := ih (hat₂.note .grewWhileMatching) hrest hpeek
        rwa [hagain] at hlast
      · next l₂ htry =>
        have hat₂ := hat.tryRules_stripped hrest hagain htry
        unfold noToken at hpeek
        split at hpeek
        · cases hpeek
          exact hat₂
        · cases hpeek
          exact hat₂.note _

end Loops

/-- Looking for a token comes to an end where the white space of the whole text ends. -/
theorem At.peek_stripped [FiniteSource σ] {rules : RuleSet Rule} {sizes : BufferSizes}
    {l : Lexer σ Rule} {r : Rest} (h : At rules sizes l r)
    (hs : Seamless sizes.mark rules.whitespace r.text) :
    ∃ res l', peek l = some (res, l') ∧ At rules sizes l' (stripped rules r) := by
  obtain ⟨res, l', hpeek⟩ := peekWithin_ends h.faces.sound l.reach_lt_rounds l.ahead_lt_rounds
    l.ahead_lt_rounds
  rw [peek_eq]
  exact ⟨res, l', hpeek, h.peekWithin_stripped hs hpeek⟩

/-! ### Cutting the input -/

/-- White space is passed over alike, however the input comes: after the first look for a token, the
lexer stands where the white space of the whole text ends. -/
def ElidesAlike (w : Option Rule) (lowWaterMark : UInt64) (bytes : List UInt8) : Prop :=
  ∀ (σ : Type) [FiniteSource σ] (source : σ) (rules : List Rule) (chunkSize : UInt64),
    Delivers (BufferSizes.effectiveChunk ⟨lowWaterMark, chunkSize⟩) source bytes →
      ∃ res l', peek (create source ⟨w, rules⟩ ⟨lowWaterMark, chunkSize⟩) = some (res, l') ∧
        l'.cursor = (stripped (⟨w, []⟩ : RuleSet Rule) ⟨Utf8.lossy bytes, .start⟩).position

theorem elidesAlike_of_seamless {w : Option Rule} {lowWaterMark : UInt64} {bytes : List UInt8}
    (h : Seamless (max lowWaterMark.toNat 1) w (Utf8.lossy bytes)) :
    ElidesAlike w lowWaterMark bytes := by
  intro σ _ source rules chunkSize hd
  have hat : At ⟨w, rules⟩ ⟨lowWaterMark, chunkSize⟩ (create source _ _)
      ⟨Utf8.lossy bytes, .start⟩ := at_create ⟨w, rules⟩ hd
  obtain ⟨res, l', hpeek, hlast⟩ := hat.peek_stripped h
  refine ⟨res, l', hpeek, ?_⟩
  -- the rules for tokens have no say in where the white space ends
  have hsame : stripped (⟨w, rules⟩ : RuleSet Rule) ⟨Utf8.lossy bytes, .start⟩ =
      stripped ⟨w, []⟩ ⟨Utf8.lossy bytes, .start⟩ := by
    apply (WholeText.stripped_behind _ _).eq_of_text (WholeText.stripped_behind _ _)
    rw [text_stripped, text_stripped]
  rw [hlast.cursor, hsame]

section Cut

variable [ByteSource σ] {sizes : BufferSizes}

/-- A read that brings all bytes of a text, with nothing held before them. -/
theorem exists_fill_of_data {l : Lexer σ Rule} {x : Text} (hopen : l.exhausted = false)
    (hpending : l.pending = .none) (hchunk : x.byteLength ≤ l.sizes.effectiveChunk)
    (hreply : l.reply = .data (Utf8.encode x)) :
    ∃ l', l.fill = (.ok x.byteLength, l') ∧ l'.buffer = l.buffer ++ x := by
  have hlength := Utf8.length_encode x
  have houtcome : l.reply.outcome = .ok ⟨(Utf8.encode x).length, false⟩ := by
    rw [hreply]
    rfl
  have hwritten : l.reply.written = Utf8.encode x := by
    rw [hreply]
    rfl
  have hcounted : l.asked.counted ⟨(Utf8.encode x).length, false⟩ = Utf8.encode x := by
    rw [counted_asked false (by omega) (Nat.le_of_eq (by rw [hwritten])), hwritten,
      List.take_length]
  have hbrought : l.asked.brought ⟨(Utf8.encode x).length, false⟩ = x := by
    rw [brought_asked hopen, hcounted, hpending, Utf8.decode_encode]
    exact Utf8.text_map_char x
  obtain ⟨journal, hfill⟩ := fill_of_status hopen houtcome
  rw [hcounted, hbrought, hlength] at hfill
  exact ⟨_, hfill, rfl⟩

/-- A first read that brings enough is all that the buffer holds then. -/
theorem exists_ensureBuffered_of_data {l : Lexer σ Rule} {x : Text} (hopen : l.exhausted = false)
    (hpending : l.pending = .none) (hempty : l.buffer = [])
    (hchunk : x.byteLength ≤ l.sizes.effectiveChunk) (hmark : l.sizes.mark ≤ x.byteLength)
    (hreply : l.reply = .data (Utf8.encode x)) :
    ∃ l', ensureBuffered l = some (.ok (), l') ∧ l'.buffer = x := by
  have hpos := mark_pos l.sizes
  obtain ⟨l', hfill, hbuffer⟩ := exists_fill_of_data hopen hpending hchunk hreply
  rw [hempty, List.nil_append] at hbuffer
  have hwanting : ¬ l.buffer.hasBytes l.sizes.mark = true := by
    rw [hempty, Text.hasBytes_eq, decide_eq_true_eq, Text.byteLength_nil]
    omega
  have henough : l'.buffer.hasBytes l.sizes.mark = true := by
    rw [hbuffer, Text.hasBytes_eq, decide_eq_true_eq]
    exact hmark
  refine ⟨l', ?_, hbuffer⟩
  rw [ensureBuffered_eq, topUp_succ, if_neg hwanting, hfill]
  simp only
  rw [if_neg (by omega), topUp_succ, if_pos henough]

/-- Without rules for tokens, looking for one does nothing but pass over white space. -/
theorem At.exists_skipWhitespace {w : Option Rule} {l l' : Lexer σ Rule} {r : Rest}
    {rounds n : Nat} {res : Except LexError (Option Token)} (h : At ⟨w, []⟩ sizes l r)
    (hpeek : Lexer.peekWithin rounds n l = some (res, l')) :
    ∃ l₁, Lexer.skipWhitespace rounds l = some (.ok (), l₁) ∧ l'.cursor = l₁.cursor := by
  cases n with
  | zero => cases hpeek
  | succ n =>
    rw [peekWithin_succ] at hpeek
    split at hpeek
    · cases hpeek
    · next e l₁ hskip => exact absurd (skipWhitespace_cases hskip) h.not_fails
    · next l₁ hskip =>
      obtain ⟨gap, rest, -, -, hat⟩ := h.moves (skips_skipWhitespace hskip).moves
      rw [hat.rules_eq, tryRules_nil, if_neg (fun hne => hne rfl)] at hpeek
      refine ⟨l₁, hskip, ?_⟩
      simp only [noToken, Option.some.injEq] at hpeek
      split at hpeek
      · cases hpeek
        rfl
      · cases hpeek
        rfl

/-- If a lexer without rules for tokens ends where the white space of the whole text does, its first
window has decided like the whole text. -/
theorem At.decides_window {w : Option Rule} {l l₀ l' : Lexer σ Rule} {t x y : Text}
    {rounds n : Nat} {res : Except LexError (Option Token)} (h : At ⟨w, []⟩ sizes l ⟨t, .start⟩)
    (hensure : Lexer.ensureBuffered l = some (.ok (), l₀)) (hx : l₀.buffer = x) (hxy : t = x ++ y)
    (hpeek : Lexer.peekWithin rounds n l = some (res, l'))
    (hcursor : l'.cursor = (stripped (⟨w, []⟩ : RuleSet Rule) ⟨t, .start⟩).position)
    (htail : ∀ s, s <:+ t → s.length < t.length → SeamlessFront sizes.mark w s) :
    Decides w x t := by
  obtain ⟨-, hat, -⟩ := h.ensureBuffered_primed hensure
  obtain ⟨l₁, hskip, hsame⟩ := h.exists_skipWhitespace hpeek
  rw [hsame] at hcursor
  have hblank : l₀.blank? = w.bind (TokenRule.hit? · x .start) := by
    rw [hat.blank?_buffer, hx]
    rfl
  have hbehind := WholeText.stripped_behind (⟨w, []⟩ : RuleSet Rule) ⟨t, .start⟩
  unfold Decides
  cases rounds with
  | zero => cases hskip
  | succ m =>
    rw [skipWhitespace_succ, hensure] at hskip
    simp only [hblank] at hskip
    cases hb : w.bind (TokenRule.hit? · x .start) with
    | none =>
      -- the lexer has not moved
      rw [hb] at hskip
      cases hskip
      have hplace := hbehind.eq_of_position (.refl _) (hcursor.symm.trans hat.cursor)
      exact congrArg Rest.text hplace
    | some token =>
      -- behind the first piece nothing can go wrong any more
      rw [hb] at hskip
      have hpiece : WholeText.blank? (⟨w, []⟩ : RuleSet Rule) ⟨x, .start⟩ = some token := hb
      obtain ⟨hne, rest, htext⟩ := WholeText.exists_append_of_blank? (r := ⟨t, .start⟩) hxy hpiece
      have hafter := WholeText.Rest.after_behind htext
      have hrest : Seamless sizes.mark w (t.drop token.literal.length) := by
        intro s hs
        apply htail s (hs.trans (List.drop_suffix _ _))
        have hlength := hs.length_le
        have hpos := List.length_pos_iff.mpr hne
        have hall := congrArg List.length htext
        simp only [List.length_append, List.length_drop] at hlength hall
        omega
      have hat₁ := hat.consume (blank?_eq_some (hblank.trans hb))
      obtain ⟨-, hlast⟩ := hat₁.skipWhitespace_stripped hrest hskip
      have hplace := hbehind.eq_of_position ((WholeText.stripped_behind _ _).trans hafter)
        (hcursor.symm.trans hlast.cursor)
      have htexts := congrArg Rest.text hplace
      rw [text_stripped, text_stripped] at htexts
      exact htexts

end Cut

/-- A text in two reads, the first of which brings what stands before a cut. -/
def twoReads (x y : Text) : Script := ⟨[.data (Utf8.encode x), .data (Utf8.encode y)]⟩

theorem delivers_twoReads {size : Nat} (hsize : 0 < size) {x y : Text} (hx : x ≠ [])
    (hy : y ≠ []) : Delivers size (twoReads x y) (Utf8.encode (x ++ y)) := by
  have hparts : ∀ p ∈ [Utf8.encode x, Utf8.encode y], p ≠ [] := by
    intro p hp
    simp only [List.mem_cons, List.not_mem_nil, or_false] at hp
    rcases hp with rfl | rfl
    · exact Utf8.encode_ne_nil hx
    · exact Utf8.encode_ne_nil hy
  have hdata := Script.delivers_data hsize _ hparts
  simp only [List.flatten_cons, List.flatten_nil, List.append_nil] at hdata
  rw [Utf8.encode_append]
  exact hdata

/-- The first window of a text in two reads is the text before the cut, if that is enough for the
buffer and fits into the read area. -/
theorem exists_ensureBuffered_of_twoReads (rules : RuleSet Rule) {sizes : BufferSizes} {x : Text}
    (y : Text) (hchunk : x.byteLength ≤ sizes.effectiveChunk) (hmark : sizes.mark ≤ x.byteLength) :
    ∃ l, ensureBuffered (create (twoReads x y) rules sizes) = some (.ok (), l) ∧ l.buffer = x := by
  have htake : (Utf8.encode x).take sizes.effectiveChunk = Utf8.encode x := by
    apply List.take_of_length_le
    rw [Utf8.length_encode]
    exact hchunk
  have hreply : (create (twoReads x y) rules sizes).reply = .data (Utf8.encode x) :=
    congrArg ReadReply.data htake
  exact exists_ensureBuffered_of_data rfl rfl rfl hchunk hmark hreply

/-- **A cut that makes no difference** decides like the whole text. If the input comes in two reads,
cut there, then what stands before the cut is looked at before the second read is made. -/
theorem seamlessFront_of_elidesAlike {w : Option Rule} {lowWaterMark : UInt64} {t : Text}
    (ht : t.byteLength < UInt64.size) (h : ElidesAlike w lowWaterMark (Utf8.encode t))
    (htail : ∀ s, s <:+ t → s.length < t.length → SeamlessFront (max lowWaterMark.toNat 1) w s) :
    SeamlessFront (max lowWaterMark.toNat 1) w t := by
  intro x y hxy hsuff
  by_cases hy : y = []
  · rw [hxy, hy]
    exact decides_append_nil w x
  · have hmark : max lowWaterMark.toNat 1 ≤ x.byteLength := hsuff.resolve_right hy
    have hx : x ≠ [] := by
      rintro rfl
      rw [Text.byteLength_nil] at hmark
      omega
    let sizes : BufferSizes := ⟨lowWaterMark, UInt64.ofNat x.byteLength⟩
    have hchunk : x.byteLength ≤ sizes.effectiveChunk := by
      have hlt : x.byteLength < UInt64.size := by
        rw [hxy, Text.byteLength_append] at ht
        omega
      have hsize : (UInt64.ofNat x.byteLength).toNat = x.byteLength := UInt64.toNat_ofNat_of_lt' hlt
      show x.byteLength ≤ max (UInt64.ofNat x.byteLength).toNat 1
      omega
    have hd : Delivers sizes.effectiveChunk (twoReads x y) (Utf8.encode t) := by
      rw [hxy]
      exact delivers_twoReads (Nat.lt_of_lt_of_le (Text.byteLength_pos hx) hchunk) hx hy
    have hat : At ⟨w, []⟩ sizes (create (twoReads x y) ⟨w, []⟩ sizes) ⟨t, .start⟩ := by
      have hcreate := at_create ⟨w, []⟩ hd
      rwa [Utf8.lossy_encode] at hcreate
    obtain ⟨res, l', hpeek, hcursor⟩ := h Script (twoReads x y) [] sizes.chunkSize hd
    rw [Utf8.lossy_encode] at hcursor
    rw [peek_eq] at hpeek
    obtain ⟨l₀, hensure, hwindow⟩ := exists_ensureBuffered_of_twoReads ⟨w, []⟩ y hchunk hmark
    exact hat.decides_window hensure hwindow hxy hpeek hcursor htail

/-- A text whose endings are all passed over alike cannot be cut the wrong way. -/
theorem seamless_of_elidesAlike {w : Option Rule} {lowWaterMark : UInt64} {t : Text}
    (ht : t.byteLength < UInt64.size)
    (h : ∀ s, s <:+ t → ElidesAlike w lowWaterMark (Utf8.encode s)) :
    Seamless (max lowWaterMark.toNat 1) w t := by
  induction t with
  | nil => exact seamless_of_byteLength_le w (Nat.zero_le _)
  | cons c t ih =>
    have hlt : Text.byteLength t < UInt64.size := by
      rw [Text.byteLength_cons] at ht
      omega
    have htail : Seamless (max lowWaterMark.toNat 1) w t :=
      ih hlt fun s hs => h s (hs.trans (List.suffix_cons c t))
    intro s hs
    rcases List.suffix_cons_iff.mp hs with rfl | hs
    · apply seamlessFront_of_elidesAlike ht (h _ (List.suffix_refl _))
      intro u hu hshort
      rcases List.suffix_cons_iff.mp hu with rfl | hu
      · exact absurd hshort (Nat.lt_irrefl _)
      · exact htail u hu
    · exact htail s hs

/-- **White space through a buffer.** If the buffer is large enough for the whole text, the first
look for a token leaves the lexer where the white space of the whole text ends, for every rule for
white space, all rules for tokens, all bytes and all ways to cut them into reads. So does every
other buffer if white space is single characters. In general, so does a buffer that cannot cut the
text the wrong way, and this is all that can be asked for: it is so for all endings of a text if and
only if the buffer cannot cut the text the wrong way. -/
theorem elidesAlike_exactly_seamless (w : Option Rule) (lowWaterMark : UInt64) :
    (∀ bytes, (Utf8.lossy bytes).byteLength ≤ lowWaterMark.toNat →
      ElidesAlike w lowWaterMark bytes) ∧
    ((⟨w, []⟩ : RuleSet Rule).SingleBlanks → ∀ bytes, ElidesAlike w lowWaterMark bytes) ∧
    (∀ bytes, Seamless (max lowWaterMark.toNat 1) w (Utf8.lossy bytes) →
      ElidesAlike w lowWaterMark bytes) ∧
    ∀ t : Text, t.byteLength < UInt64.size →
      ((∀ s, s <:+ t → ElidesAlike w lowWaterMark (Utf8.encode s)) ↔
        Seamless (max lowWaterMark.toNat 1) w t) := by
  refine ⟨?_, ?_, fun _ => elidesAlike_of_seamless, ?_⟩
  · intro bytes hbytes
    apply elidesAlike_of_seamless
    exact seamless_of_byteLength_le w (Nat.le_trans hbytes (Nat.le_max_left _ _))
  · intro hsingle bytes
    apply elidesAlike_of_seamless
    exact seamless_of_singleBlanks (Nat.le_max_right _ _) hsingle _
  · intro t ht
    constructor
    · exact seamless_of_elidesAlike ht
    · intro hseamless s hs
      apply elidesAlike_of_seamless
      rw [Utf8.lossy_encode]
      exact hseamless.suffix hs

/-- A rule for one or more spaces, used below. -/
def spacesRule : Rule :=
  .pattern ⟨0⟩ "^(?: +)".toList
    (.ofRegex (.seq (.look .textStart) (.repetition 1 none true (.set ⟨[(32, 32)]⟩))))

/-- Spaces may be cut anywhere, also if no character follows. A buffer of one byte passes over all
of them, as one does that holds them all, and so it does with a rule for a single space. -/
theorem elidesAlike_exactly_seamless_spaces :
    let t : Text := [' ', ' ', 'a']
    let single : Rule := .literals ⟨0⟩ [[' ']]
    ElidesAlike (some spacesRule) 1024 (Utf8.encode t) ∧
      ElidesAlike (some single) 1 (Utf8.encode t) ∧
      ElidesAlike (some spacesRule) 1 [0x20, 0x20, 0xFF] ∧
      Seamless 1 (some spacesRule) t ∧
      (∀ s, s <:+ t → ElidesAlike (some spacesRule) 1 (Utf8.encode s)) ∧
      (stripped (⟨some spacesRule, []⟩ : RuleSet Rule) ⟨t, .start⟩).position = ⟨0, 2, 2⟩ := by
  intro t single
  have hseamless : Seamless 1 (some spacesRule) t := by decide +kernel
  obtain ⟨hwhole, -, -, -⟩ := elidesAlike_exactly_seamless (some spacesRule) 1024
  obtain ⟨-, hsingle, -, -⟩ := elidesAlike_exactly_seamless (some single) 1
  obtain ⟨-, -, hcut, hexact⟩ := elidesAlike_exactly_seamless (some spacesRule) 1
  refine ⟨?_, ?_, ?_, hseamless, (hexact t (by decide)).mpr hseamless, by decide +kernel⟩
  · apply hwhole
    rw [Utf8.lossy_encode]
    decide
  · apply hsingle
    rintro _ ⟨⟩
    exact ⟨⟨0⟩, [' '], fun _ _ => rfl⟩
  · apply hcut
    decide +kernel

/-- A rule for comments that go to the end of the line, used below. -/
def commentRule : Rule :=
  .pattern ⟨0⟩ "^(?:#.*)".toList
    (.ofRegex (.seq (.look .textStart) (.seq (.set ⟨[(35, 35)]⟩)
      (.repetition 0 none true (.set ⟨[(0, 9), (11, 1114111)]⟩)))))

/-- A comment of two characters comes one by one. A buffer of one byte passes over the first of them
and finds a token in the second; a buffer that holds both passes over both. -/
theorem peek_splits_comment :
    let source : Script := ⟨[.data [0x23, 0x63]]⟩
    let rules : RuleSet Rule := ⟨some commentRule, [.literals ⟨1⟩ [['c']]]⟩
    Rule.ofPattern ⟨0⟩ "#.*".toList = .ok commentRule ∧
      (∃ l', peek (create source rules ⟨1, 1⟩) =
        some (.ok (some ⟨⟨1⟩, ['c'], [], ⟨0, 1, 1⟩⟩), l') ∧ l'.cursor = ⟨0, 1, 1⟩) ∧
      ∃ l', peek (create source rules ⟨1024, 2048⟩) = some (.ok none, l') ∧
        l'.cursor = ⟨0, 2, 2⟩ := by
  intro source rules
  refine ⟨?_, ?_, ?_⟩
  · have hparse : Regex.parse? (Rule.anchor "#.*".toList) = some (.seq (.look .textStart)
        (.seq (.set ⟨[(35, 35)]⟩)
          (.repetition 0 none true (.set ⟨[(0, 9), (11, 1114111)]⟩)))) := by
      decide +kernel
    rw [Rule.ofPattern, hparse]
    rfl
  · have hrun : (peek (create source rules ⟨1, 1⟩)).map (fun p => (p.1.toOption, p.2.cursor)) =
        some (some (some ⟨⟨1⟩, ['c'], [], ⟨0, 1, 1⟩⟩), ⟨0, 1, 1⟩) := by
      decide +kernel
    exact LexM.exists_of_map_eq_some Lexer.cursor hrun
  · have hrun : (peek (create source rules ⟨1024, 2048⟩)).map
        (fun p => (p.1.toOption, p.2.cursor)) = some (some none, ⟨0, 2, 2⟩) := by
      decide +kernel
    exact LexM.exists_of_map_eq_some Lexer.cursor hrun

end Lexer

end RuleLexer
