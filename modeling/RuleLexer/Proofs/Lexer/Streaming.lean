import RuleLexer.Proofs.Lexer.Facing
import RuleLexer.Proofs.WholeText

/-!
# Scanning a stream as if it were a whole text

A lexer judges white space and rules on what its buffer holds, and its buffer may hold any start of
the text that is long enough. Where all these starts give the same judgement as the whole text
(`Steady`), scanning gives what the whole text gives: the reads, the retries at the end of the
buffer and the new passes over the rules make no difference.

* `At.skipWhitespace`, `At.matchRule`, `At.tryRules`, `At.peekWithin`: each loop comes to an end
  within its rounds, with the answer of the whole text.
* `At.scan`: so does a scan, and it leaves the lexer where the whole text would go on.
* `scans_eq_results`: so do any number of scans.
* `scans_eq_answers_of_le_mark`: a buffer that takes in the whole text gives its tokens, whatever
  the rules.
-/

namespace RuleLexer.Lexer

open WholeText (Rest stripped first?)

variable {σ ρ : Type} [TokenRule ρ]

/-! ### Judging by a start of the text -/

/-- A start that can be all that is in a buffer: it has as many bytes as wanted, or nothing is
behind it. -/
def Suffices (mark : Nat) (x y : Text) : Prop := mark ≤ x.byteLength ∨ y = []

/-- White space in front of a rest is seen on every start that suffices. -/
def SteadyBlanks (mark : Nat) (rules : RuleSet ρ) (r : Rest) : Prop :=
  ∀ x y, r.text = x ++ y → Suffices mark x y →
    WholeText.blank? rules ⟨x, r.position⟩ = WholeText.blank? rules r

/-- **A rest that every start that suffices gives away.** A match on a start may end before the
start does, or there is nothing behind the start, or only what the end of the input has made of an
unfinished character; then it is the match on all of the rest. -/
structure Steady (mark : Nat) (rules : RuleSet ρ) (r : Rest) : Prop where
  found : ∀ rule ∈ rules.rules, ∀ x y token, r.text = x ++ y → Suffices mark x y →
    TokenRule.hit? rule x r.position = some token →
    (token.literal ≠ x ∨ y = [] ∨ y = [Utf8.replacement]) →
    TokenRule.hit? rule r.text r.position = some token
  missed : ∀ rule ∈ rules.rules, ∀ x y, r.text = x ++ y → Suffices mark x y →
    TokenRule.hit? rule x r.position = none → TokenRule.hit? rule r.text r.position = none
  /-- Where nothing is recognised, the buffer holds all there is. -/
  unknown : first? rules r = none → ∀ x y, r.text = x ++ y → Suffices mark x y → y = []

/-! ### Standing at a rest -/

section Source

variable [ByteSource σ]

/-- **A lexer at some place of a text**, with some rules and sizes: the rest lies before it, with
some faults on the way to its end, and its cursor says where. -/
structure Placed (rules : RuleSet ρ) (sizes : BufferSizes) (l : Lexer σ ρ) (r : Rest)
    (faults : List ReadFault) : Prop where
  awaits : l.Awaits r.text faults
  cursor : l.cursor = r.position
  rules_eq : l.rules = rules
  sizes_eq : l.sizes = sizes

/-- The same where there are no faults: the lexer faces the rest. -/
abbrev At (rules : RuleSet ρ) (sizes : BufferSizes) (l : Lexer σ ρ) (r : Rest) : Prop :=
  Placed rules sizes l r []

variable {rules : RuleSet ρ} {sizes : BufferSizes} {l l' : Lexer σ ρ} {r : Rest}
  {faults : List ReadFault}

namespace Placed

omit [TokenRule ρ] in
theorem note (h : Placed rules sizes l r faults) (e : Event) :
    Placed rules sizes (l.note e) r faults :=
  ⟨h.awaits.note e, h.cursor, h.rules_eq, h.sizes_eq⟩

omit [TokenRule ρ] in
/-- Consuming a literal leads to the rest behind it. -/
theorem consume (h : Placed rules sizes l r faults) {literal rest : Text}
    (hl : l.buffer = literal ++ rest) :
    Placed rules sizes (l.consume literal) (r.after literal) faults := by
  refine ⟨h.awaits.consume hl, ?_, h.rules_eq, h.sizes_eq⟩
  show l.cursor.advanced literal = _
  rw [h.cursor]
  rfl

omit [TokenRule ρ] in
/-- What stays in its place is where it was, whatever has become of the faults. -/
theorem of_samePlace (h : Placed rules sizes l r faults) (hsame : l.SamePlace l')
    {faults' : List ReadFault} (ha : l'.Awaits r.text faults') :
    Placed rules sizes l' r faults' :=
  ⟨ha, hsame.cursor.trans h.cursor, hsame.rules.trans h.rules_eq, hsame.sizes.trans h.sizes_eq⟩

omit [TokenRule ρ] in
/-- The buffer of a lexer that has topped it up is a start that suffices. -/
theorem exists_suffices (h : Placed rules sizes l r faults) (hp : l.Primed) :
    ∃ y, r.text = l.buffer ++ y ∧ Suffices sizes.mark l.buffer y := by
  rw [← h.sizes_eq]
  exact h.awaits.exists_append_of_primed hp

/-- White space is seen on a buffer that was topped up. -/
theorem blank?_eq (h : Placed rules sizes l r faults) (hp : l.Primed)
    (hb : SteadyBlanks sizes.mark rules r) : l.blank? = WholeText.blank? rules r := by
  obtain ⟨y, hy, hsuff⟩ := h.exists_suffices hp
  rw [← hb _ _ hy hsuff, ← h.cursor, ← h.rules_eq]
  rfl

end Placed

omit [TokenRule ρ] in
theorem At.faces (h : At rules sizes l r) : l.Faces r.text := h.awaits

omit [TokenRule ρ] in
theorem At.note (h : At rules sizes l r) (e : Event) : At rules sizes (l.note e) r :=
  Placed.note h e

omit [TokenRule ρ] in
theorem At.consume (h : At rules sizes l r) {token : Token} (ht : l.Fronts token) :
    At rules sizes (l.consume token.literal) (r.after token.literal) := by
  obtain ⟨-, rest, hrest⟩ := ht
  exact Placed.consume h hrest

/-- Where white space was passed over and the buffer topped up, both do nothing. -/
theorem skipWhitespace_of_primed (hp : l.Primed) (hb : l.blank? = none) (n : Nat) :
    skipWhitespace (n + 1) l = some (.ok (), l) := by
  rw [skipWhitespace_succ, ensureBuffered_of_primed hp]
  simp only [hb]

/-- One rule of several, where there is nothing to pass over and nothing to top up. -/
theorem tryRules_cons_of_primed (hp : l.Primed) (hb : l.blank? = none) (n : Nat) (rule : ρ)
    (rest : List ρ) :
    tryRules (n + 1) l.generation (rule :: rest) l = match matchRule rule (n + 1) l with
      | none => none
      | some (.error e, l₁) => some (.error e, l₁)
      | some (.ok (some token), l₁) => some (.ok (.matched token), l₁)
      | some (.ok none, l₁) => tryRules (n + 1) l.generation rest l₁ := by
  rw [tryRules_cons, skipWhitespace_of_primed hp hb]
  simp only
  rw [ensureBuffered_of_primed hp]
  exact if_neg (not_not_intro rfl)

/-- After the buffer has grown, a pass over the rules comes to nothing. -/
theorem tryRules_of_ne {rounds generation : Nat} (hp : l.Primed) (hb : l.blank? = none)
    (hg : l.generation ≠ generation) (rest : List ρ) :
    tryRules (rounds + 1) generation rest l = some (.ok .grew, l) := by
  cases rest with
  | nil => rw [tryRules_nil, if_pos hg]
  | cons rule rest =>
    rw [tryRules_cons, skipWhitespace_of_primed hp hb]
    simp only
    rw [ensureBuffered_of_primed hp]
    simp only [if_pos hg]

end Source

/-! ### The loops -/

section Finite

variable [FiniteSource σ] {rules : RuleSet ρ} {sizes : BufferSizes} {l : Lexer σ ρ} {r : Rest}

omit [TokenRule ρ] in
theorem At.grown {l' : Lexer σ ρ} (h : At rules sizes l r) (hg : Grown l l')
    (hf : l'.Faces r.text) : At rules sizes l' r := h.of_samePlace hg.same hf

omit [TokenRule ρ] in
/-- A read leaves a lexer where it is. -/
theorem At.fill (h : At rules sizes l r) :
    ∃ k l', l.fill = (.ok k, l') ∧ At rules sizes l' r ∧ Grown l l' ∧
      (k = 0 → l'.exhausted = true ∧
        (r.text = l.buffer ∨ r.text = l.buffer ++ [Utf8.replacement])) := by
  obtain ⟨k, l', hf, hfaces, hlast⟩ := h.faces.fill
  have hgrown := grown_fill hf
  exact ⟨k, l', hf, h.grown hgrown hfaces, hgrown, hlast⟩

/-- **Passing over white space** strips the rest. -/
theorem At.skipWhitespace {n : Nat} (h : At rules sizes l r)
    (hb : ∀ q : Rest, q.text <:+ r.text → SteadyBlanks sizes.mark rules q)
    (hn : r.text.length < n) :
    ∃ l', skipWhitespace n l = some (.ok (), l') ∧ At rules sizes l' (stripped rules r) ∧
      l'.Primed ∧ l'.ahead ≤ l.ahead := by
  -- every round but the last takes white space off, so characters bound the rounds
  induction n generalizing l r with
  | zero => exact absurd hn (Nat.not_lt_zero _)
  | succ n ih =>
    obtain ⟨l₁, he, hfaces, hgrown, hprimed⟩ := h.faces.ensureBuffered
    have hat := h.grown hgrown hfaces
    have hblank := hat.blank?_eq hprimed (hb r (List.suffix_refl _))
    rw [skipWhitespace_succ, he]
    cases hc : WholeText.blank? rules r with
    | none =>
      rw [hc] at hblank
      simp only [hblank]
      rw [WholeText.stripped_of_none hc]
      exact ⟨l₁, rfl, hat, hprimed, hgrown.ahead_le⟩
    | some token =>
      rw [hc] at hblank
      have hlt := WholeText.length_after_lt_of_blank hc
      have hb' : ∀ q : Rest, q.text <:+ (r.after token.literal).text →
          SteadyBlanks sizes.mark rules q :=
        fun q hq => hb q (hq.trans (List.drop_suffix _ _))
      obtain ⟨l', hskip, hat', hprimed', hahead'⟩ :=
        ih (hat.consume (blank?_eq_some hblank)) hb' (by omega)
      simp only [hblank]
      rw [WholeText.stripped_of_some hc]
      exact ⟨l', hskip, hat', hprimed', Nat.le_trans hahead' hgrown.ahead_le⟩

/-- **Trying a rule** gives what the rule finds in the whole rest. -/
theorem At.matchRule {rule : ρ} {n : Nat} (h : At rules sizes l r) (hp : l.Primed)
    (hs : Steady sizes.mark rules r) (hr : rule ∈ rules.rules) (hn : l.ahead < n) :
    ∃ l', matchRule rule n l = some (.ok (TokenRule.hit? rule r.text r.position), l') ∧
      At rules sizes l' r ∧ Grown l l' ∧ l'.Primed := by
  -- every round but the last brings bytes, so what is ahead bounds the rounds
  induction n generalizing l with
  | zero => exact absurd hn (Nat.not_lt_zero _)
  | succ n ih =>
    obtain ⟨y, hy, hsuff⟩ := h.exists_suffices hp
    have hfound := hs.found rule hr l.buffer y
    rw [matchRule_succ, h.cursor]
    cases hc : TokenRule.hit? rule l.buffer r.position with
    | none =>
      rw [hs.missed rule hr _ _ hy hsuff hc]
      exact ⟨l, rfl, h, Grown.refl l, hp⟩
    | some token =>
      simp only
      split_ifs with hstop
      · -- the match ends before the buffer does, or there is nothing more
        rw [hfound token hy hsuff hc ?_]
        · exact ⟨l, rfl, h, Grown.refl l, hp⟩
        · rw [Bool.or_eq_true, Bool.not_eq_true', List.isEmpty_eq_false_iff] at hstop
          rcases hstop with hend | hdrop
          · have hall := h.faces.eq_buffer hend
            rw [hy] at hall
            exact Or.inr (Or.inl (List.append_right_eq_self.mp hall))
          · left
            intro hall
            rw [hall, List.drop_length] at hdrop
            exact hdrop rfl
      · obtain ⟨k, l₁, hf, hat, hgrown, hlast⟩ := h.fill
        rw [hf]
        by_cases hk : k = 0
        · -- without bytes the match stands, and the end of the input cannot have made it longer
          obtain ⟨hend, htext⟩ := hlast hk
          simp only [if_pos hk]
          rw [hfound token hy hsuff hc ?_]
          · exact ⟨l₁, rfl, hat, hgrown, Or.inr hend⟩
          · rw [hy] at htext
            rcases htext with ht | ht
            · exact Or.inr (Or.inl (List.append_right_eq_self.mp ht))
            · exact Or.inr (Or.inr (List.append_cancel_left ht))
        · have hahead := (ahead_fill hf).1
          have hprimed : l₁.Primed := by
            obtain ⟨new, hnew⟩ := hgrown.buffer
            refine hp.of_append hgrown.same.sizes hnew fun he => ?_
            rw [fill_of_exhausted l he] at hf
            cases hf
            exact he
          have hn' : (l₁.note .matchGrew).ahead < n := by
            show l₁.ahead < n
            omega
          obtain ⟨l', hmatch, hat', hgrown', hprimed'⟩ := ih (hat.note .matchGrew) hprimed hn'
          simp only [if_neg hk]
          exact ⟨l', hmatch, hat', (hgrown.note .matchGrew).trans hgrown', hprimed'⟩

/-- **Trying rules in order** gives what the first of them finds in the whole rest, unless the
buffer has grown on the way; then there is less ahead. -/
theorem At.tryRules {rounds : Nat} {rest : List ρ} (h : At rules sizes l r) (hp : l.Primed)
    (hb : SteadyBlanks sizes.mark rules r) (hnone : WholeText.blank? rules r = none)
    (hs : Steady sizes.mark rules r) (hrest : ∀ rule ∈ rest, rule ∈ rules.rules)
    (hahead : l.ahead < rounds) :
    ∃ a l', tryRules rounds l.generation rest l = some (.ok a, l') ∧ At rules sizes l' r ∧
      l'.Primed ∧ match a with
        | .grew => l'.ahead < l.ahead
        | .matched token => rest.findSome? (TokenRule.hit? · r.text r.position) = some token
        | .noMatch => rest.findSome? (TokenRule.hit? · r.text r.position) = none := by
  obtain ⟨m, rfl⟩ : ∃ m, rounds = m + 1 := ⟨rounds - 1, by omega⟩
  induction rest generalizing l with
  | nil =>
    rw [tryRules_nil, if_neg (not_not_intro rfl)]
    exact ⟨.noMatch, l, rfl, h, hp, rfl⟩
  | cons rule rest ih =>
    have hblank : l.blank? = none := (h.blank?_eq hp hb).trans hnone
    obtain ⟨l₃, hmatch, hat, hgrown, hprimed⟩ :=
      h.matchRule hp hs (hrest rule (List.mem_cons_self ..)) hahead
    rw [tryRules_cons_of_primed hp hblank, hmatch, List.findSome?_cons]
    cases hc : TokenRule.hit? rule r.text r.position with
    | some token => exact ⟨.matched token, l₃, rfl, hat, hprimed, rfl⟩
    | none =>
      simp only
      rcases hgrown.generation with ⟨hg, -⟩ | ⟨hg, hless⟩
      · have hle := hgrown.ahead_le
        obtain ⟨a, l', htry, hat', hprimed', ha⟩ := ih hat hprimed
          (fun q hq => hrest q (List.mem_cons_of_mem _ hq)) (by omega)
        rw [hg] at htry
        refine ⟨a, l', htry, hat', hprimed', ?_⟩
        cases a with
        | grew => exact Nat.lt_of_lt_of_le ha hle
        | matched token => exact ha
        | noMatch => exact ha
      · -- the rule has read more before it gave up, and the pass is over
        have hblank₃ : l₃.blank? = none := (hat.blank?_eq hprimed hb).trans hnone
        rw [tryRules_of_ne hprimed hblank₃ (Nat.ne_of_gt hg)]
        exact ⟨.grew, l₃, rfl, hat, hprimed, hless⟩

/-- What is said when no rule has matched on a buffer that gives everything away. -/
theorem At.noToken_eq (h : At rules sizes l (stripped rules r)) (hp : l.Primed)
    (hs : Steady sizes.mark rules (stripped rules r))
    (hf : first? rules (stripped rules r) = none) :
    l.noToken.1 = (WholeText.next rules r).1 ∧ At rules sizes l.noToken.2 (stripped rules r) := by
  obtain ⟨y, hy, hsuff⟩ := h.exists_suffices hp
  have hbuf : (stripped rules r).text = l.buffer := by
    rw [hs.unknown hf _ _ hy hsuff, List.append_nil] at hy
    exact hy
  unfold noToken
  rcases WholeText.next_cases rules r with ⟨hnil, hnext⟩ | ⟨hne, -, hnext⟩ | ⟨token, hsome, -⟩
  · rw [hnext, if_pos (by rw [← hbuf, hnil]; rfl)]
    exact ⟨rfl, h⟩
  · rw [hnext, if_neg (by rw [List.isEmpty_iff, ← hbuf]; exact hne), h.rules_eq, h.cursor, ← hbuf]
    exact ⟨rfl, h.note _⟩
  · rw [hf] at hsome
    cases hsome

/-- **Looking for the next token** gives the answer of the whole text. -/
theorem At.peekWithin {rounds n : Nat} (h : At rules sizes l r)
    (hb : ∀ q : Rest, q.text <:+ r.text → SteadyBlanks sizes.mark rules q)
    (hs : Steady sizes.mark rules (stripped rules r)) (hlen : r.text.length < rounds)
    (hahead : l.ahead < rounds) (hn : l.ahead < n) :
    ∃ l', peekWithin rounds n l = some ((WholeText.next rules r).1, l') ∧
      At rules sizes l' (stripped rules r) := by
  induction n generalizing l r with
  | zero => exact absurd hn (Nat.not_lt_zero _)
  | succ n ih =>
    obtain ⟨l₁, hskip, hat, hprimed, hle⟩ := h.skipWhitespace hb hlen
    have hsuffix : (stripped rules r).text <:+ r.text := WholeText.stripped_suffix r
    obtain ⟨a, l₂, htry, hat', hprimed', ha⟩ := hat.tryRules hprimed (hb _ hsuffix)
      (WholeText.blank?_stripped r) hs (fun _ hq => hq) (Nat.lt_of_le_of_lt hle hahead)
    rw [peekWithin_succ, hskip]
    simp only
    rw [hat.rules_eq, htry]
    cases a with
    | matched token =>
      have hf : first? rules (stripped rules r) = some token := ha
      rw [WholeText.next_of_first? hf]
      exact ⟨l₂, rfl, hat'⟩
    | grew =>
      -- another pass over the rules, from the same place and with less ahead
      have hless : l₂.ahead < l₁.ahead := ha
      have hagain : stripped rules (stripped rules r) = stripped rules r :=
        WholeText.stripped_stripped r
      have hs' := hs
      rw [← hagain] at hs'
      obtain ⟨l', hpeek, hat''⟩ := ih (hat'.note .grewWhileMatching)
        (fun q hq => hb q (hq.trans hsuffix)) hs'
        (Nat.lt_of_le_of_lt hsuffix.length_le hlen)
        (by show l₂.ahead < rounds; omega) (by show l₂.ahead < n; omega)
      rw [WholeText.next_stripped] at hpeek
      rw [hagain] at hat''
      exact ⟨l', hpeek, hat''⟩
    | noMatch =>
      obtain ⟨hanswer, hat''⟩ := hat'.noToken_eq hprimed' hs ha
      exact ⟨_, by rw [← hanswer], hat''⟩

/-- **A scan** gives the answer of the whole text, and goes on where the whole text does. -/
theorem At.scan (h : At rules sizes l r)
    (hb : ∀ q : Rest, q.text <:+ r.text → SteadyBlanks sizes.mark rules q)
    (hs : Steady sizes.mark rules (stripped rules r)) :
    ∃ l', scan l = some ((WholeText.next rules r).1, l') ∧
      At rules sizes l' (WholeText.next rules r).2 := by
  obtain ⟨l₁, hpeek, hat⟩ := h.peekWithin hb hs h.faces.length_lt_rounds (ahead_lt_rounds l)
    (ahead_lt_rounds l)
  have hfront := (moves_peekWithin hpeek).2
  rw [scan_eq, scanWithin_eq, hpeek]
  rcases WholeText.next_cases rules r with ⟨-, hnext⟩ | ⟨-, -, hnext⟩ | ⟨token, -, hnext⟩
  · rw [hnext]
    exact ⟨l₁, rfl, hat⟩
  · rw [hnext]
    exact ⟨l₁, rfl, hat⟩
  · rw [hnext] at hfront ⊢
    exact ⟨_, rfl, (hat.consume (hfront token rfl)).note _⟩

/-! ### Any number of scans -/

/-- What so many scans in a row say, none if one of them does not end. -/
def scans : Nat → Lexer σ ρ → Option (List (Except LexError (Option Token)))
  | 0, _ => some []
  | n + 1, l =>
    match scan l with
    | none => none
    | some (answer, l') => (scans n l').map (answer :: ·)

/-- **Any number of scans** say what the whole text says, if every rest that is come to is
steady. -/
theorem scans_eq_results {P : Rest → Prop}
    (hb : ∀ r, P r → ∀ q : Rest, q.text <:+ r.text → SteadyBlanks sizes.mark rules q)
    (hs : ∀ r, P r → Steady sizes.mark rules (stripped rules r))
    (hnext : ∀ r, P r → P (WholeText.next rules r).2) (n : Nat) (h : At rules sizes l r)
    (hr : P r) : scans n l = some (WholeText.results rules n r) := by
  induction n generalizing l r with
  | zero => rfl
  | succ n ih =>
    obtain ⟨l', hscan, hat⟩ := h.scan (hb r hr) (hs r hr)
    rw [scans, hscan]
    simp only
    rw [ih hat (hnext r hr)]
    rfl

/-! ### A buffer for the whole text -/

omit [TokenRule ρ] [FiniteSource σ] in
/-- Of a text that is no longer than wanted, only all of it suffices. -/
theorem eq_nil_of_suffices {mark : Nat} {t x y : Text} (ht : t.byteLength ≤ mark)
    (h : t = x ++ y) (hs : Suffices mark x y) : y = [] := by
  rcases hs with hs | hs
  · rw [h, Text.byteLength_append] at ht
    cases y with
    | nil => rfl
    | cons c y =>
      have := c.utf8Size_pos
      rw [Text.byteLength_cons] at ht
      omega
  · exact hs

omit [FiniteSource σ] in
theorem steadyBlanks_of_byteLength_le {mark : Nat} (ht : r.text.byteLength ≤ mark) :
    SteadyBlanks mark rules r := by
  intro x y h hs
  rw [eq_nil_of_suffices ht h hs, List.append_nil] at h
  rw [← h]

omit [FiniteSource σ] in
theorem steady_of_byteLength_le {mark : Nat} (ht : r.text.byteLength ≤ mark) :
    Steady mark rules r where
  found rule _ x y token h hs hhit _ := by
    rw [eq_nil_of_suffices ht h hs, List.append_nil] at h
    rwa [h]
  missed rule _ x y h hs hhit := by
    rw [eq_nil_of_suffices ht h hs, List.append_nil] at h
    rwa [h]
  unknown _ x y h hs := eq_nil_of_suffices ht h hs

/-- **A lexer whose buffer takes in the whole text gives its tokens.** However the bytes are cut
into reads and whatever the rules are, scanning again and again says what the whole text says: its
tokens one after the other, and then for ever that there are none, or the error that ended them. -/
theorem scans_eq_answers_of_le_mark (source : σ) (rules : RuleSet ρ) (sizes : BufferSizes)
    (bytes : List UInt8) (hd : Delivers sizes.effectiveChunk source bytes)
    (hm : (Utf8.lossy bytes).byteLength ≤ sizes.lowWaterMark.toNat) (n : Nat) :
    scans n (create source rules sizes) =
      some ((List.range n).map (WholeText.answer (WholeText.tokens rules (Utf8.lossy bytes)))) := by
  have hat : At rules sizes (create source rules sizes) ⟨Utf8.lossy bytes, .start⟩ :=
    ⟨faces_create rules hd, rfl, rfl, rfl⟩
  have hshort {t s : Text} (hts : s <:+ t) (ht : t.byteLength ≤ sizes.mark) :
      s.byteLength ≤ sizes.mark := by
    obtain ⟨a, rfl⟩ := hts
    rw [Text.byteLength_append] at ht
    omega
  rw [← WholeText.results_eq]
  -- what remains never gets longer, so the buffer takes it in all the time
  refine scans_eq_results (P := fun r => r.text.byteLength ≤ sizes.mark) ?_ ?_ ?_ n hat ?_
  · exact fun r hr q hq => steadyBlanks_of_byteLength_le (hshort hq hr)
  · exact fun r hr => steady_of_byteLength_le (hshort (WholeText.stripped_suffix r) hr)
  · exact fun r hr => hshort (WholeText.next_suffix r) hr
  · exact Nat.le_trans hm (Nat.le_max_left _ _)

end Finite

/-- A character cut in two, and at the end of the input one of which only the start has come. -/
theorem scans_eq_answers_of_le_mark_cut :
    let parts : List (List UInt8) := [[0xC3], [0xA9, 0x20, 0x31], [0x32, 0x3F, 0xE2]]
    let rules : RuleSet Rule := ⟨some (.literals .other [[' ']]),
      [.literals .ident [['é']],
        .pattern .number [] (.ofRegex (.repetition 1 none true (.set ⟨[(48, 57)]⟩)))]⟩
    let unknown : LexError := .unknownToken ['?', '\uFFFD'] ⟨0, 4, 5⟩
    Delivers 2 (⟨parts.map .data⟩ : Script) parts.flatten ∧
      (Utf8.lossy parts.flatten).byteLength ≤ 16 ∧
      scans 4 (create (⟨parts.map .data⟩ : Script) rules ⟨16, 2⟩) =
        some [.ok (some ⟨.ident, ['é'], [], ⟨0, 0, 0⟩⟩),
          .ok (some ⟨.number, ['1', '2'], [], ⟨0, 2, 3⟩⟩), .error unknown, .error unknown] := by
  intro parts rules unknown
  have hd : Delivers 2 (⟨parts.map .data⟩ : Script) parts.flatten :=
    Script.delivers_data (by decide) parts (by decide)
  have hm : (Utf8.lossy parts.flatten).byteLength ≤ 16 := by decide
  refine ⟨hd, hm, (scans_eq_answers_of_le_mark (⟨parts.map .data⟩ : Script) rules ⟨16, 2⟩
    parts.flatten hd hm 4).trans ?_⟩
  decide +kernel

end RuleLexer.Lexer
