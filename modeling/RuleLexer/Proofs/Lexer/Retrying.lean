import RuleLexer.Proofs.Lexer.Coverage
import RuleLexer.Proofs.Source.Faltering

/-!
# Calling again after a failed read

A read may fail anywhere: before anything has come, in the middle of a character, between pieces of
white space, between two rules, or when a match asks for more text. The call fails with it, and
whoever calls again goes on where the failed call has stopped. If the buffer takes in the whole
text, this is not seen in the answers: they are those of the text, and every failing read is told
once.

* `Stands` is the invariant: the text that lies before the lexer, and the faults that its source
  will still run into. An operation keeps it, or it is `Interrupted`: then it has told the next of
  the faults, and what the lexer has moved over is white space.
* `Stands.peekWithin`, `Stands.scanWithin`: one call gives the answer of the whole text or is
  interrupted.
* `hears`: a caller that calls again and again, and skips what is not recognised. `heard` are the
  answers that it has from the whole text.
* `hears_of_falters`: apart from the failed reads, the caller has the same answers over a source
  that falters as over one that does not.
-/

namespace RuleLexer

open WholeText (Rest stripped first?)

variable {σ τ ρ : Type}

/-! ### A caller that goes on -/

namespace WholeText

variable [TokenRule ρ]

/-- Where a caller goes on after the next answer: behind the token, or behind the literal that was
not recognised. -/
def resumed (rules : RuleSet ρ) (r : Rest) : Rest :=
  match next rules r with
  | (.error (.unknownToken literal _), s) => s.after literal
  | (_, s) => s

/-- What a caller hears who asks a whole text so many times and skips what is not recognised. -/
def heard (rules : RuleSet ρ) : Nat → Rest → List (Except LexError (Option Token))
  | 0, _ => []
  | n + 1, r => (next rules r).1 :: heard rules n (resumed rules r)

variable {rules : RuleSet ρ}

/-- White space in front makes no difference to what is heard. -/
theorem heard_congr {q r : Rest} (h : stripped rules q = stripped rules r) (n : Nat) :
    heard rules n q = heard rules n r := by
  have hnext : next rules q = next rules r := by
    rw [← next_stripped q, h, next_stripped]
  cases n with
  | zero => rfl
  | succ n =>
    unfold heard resumed
    rw [hnext]

/-- Every answer takes something from the text, until nothing is left. -/
theorem length_resumed_lt {r : Rest} (h : (next rules r).1 ≠ .ok none) :
    (stripped rules (resumed rules r)).text.length < (stripped rules r).text.length := by
  refine Nat.lt_of_le_of_lt (length_stripped_le _) ?_
  unfold resumed
  rcases next_cases rules r with ⟨-, hnext⟩ | ⟨hne, -, hnext⟩ | ⟨token, hfirst, hnext⟩
  · rw [hnext] at h
    exact absurd rfl h
  · obtain ⟨hlit, rest, hrest⟩ := rules.unknownLiteral_append (stripped rules r).position hne
    have hpos := List.length_pos_iff.mpr hlit
    have hlen := congrArg List.length hrest
    rw [List.length_append] at hlen
    rw [hnext]
    show ((stripped rules r).text.drop _).length < _
    rw [List.length_drop]
    omega
  · obtain ⟨rule, -, hhit⟩ := first?_eq_some hfirst
    rw [hnext]
    exact length_after_lt hhit

end WholeText

namespace Lexer

/-- The lexer that a caller goes on with: the literal of an unknown token is skipped. -/
def resume (l : Lexer σ ρ) : Except LexError (Option Token) → Lexer σ ρ
  | .error (.unknownToken literal _) => (l.skipLiteral literal).2
  | _ => l

/-- What a caller hears who scans so many times, skips what is not recognised and just calls again
after a failed read, and the lexer afterwards. -/
def hears [FiniteSource σ] [TokenRule ρ] :
    Nat → Lexer σ ρ → Option (List (Except LexError (Option Token)) × Lexer σ ρ)
  | 0, l => some ([], l)
  | n + 1, l =>
    match scan l with
    | none => none
    | some (answer, l') =>
      (hears n (l'.resume answer)).map fun (answers, l'') => (answer :: answers, l'')

/-- The fault of an answer that tells of a failed read. -/
def readFault? : Except LexError (Option Token) → Option ReadFault
  | .error (.read _ fault) => some fault
  | _ => none

/-! ### What lies before a lexer -/

section Source

variable [ByteSource σ]

/-- **A lexer at some place of a text** that its buffer could take in from there on, with some
faults on the way to its end. -/
structure Stands (rules : RuleSet ρ) (sizes : BufferSizes) (l : Lexer σ ρ) (r : Rest)
    (faults : List ReadFault) : Prop extends Placed rules sizes l r faults where
  short : r.text.byteLength ≤ sizes.mark

variable {rules : RuleSet ρ} {sizes : BufferSizes} {l l' : Lexer σ ρ} {r q : Rest}
  {faults : List ReadFault}

namespace Stands

theorem note (h : Stands rules sizes l r faults) (e : Event) :
    Stands rules sizes (l.note e) r faults := ⟨h.toPlaced.note e, h.short⟩

theorem consume (h : Stands rules sizes l r faults) {literal rest : Text}
    (hl : l.buffer = literal ++ rest) :
    Stands rules sizes (l.consume literal) (r.after literal) faults := by
  have hshort : Text.byteLength (r.text.drop literal.length) ≤ r.text.byteLength := by
    conv_rhs => rw [← List.take_append_drop literal.length r.text, Text.byteLength_append]
    exact Nat.le_add_left _ _
  exact ⟨h.toPlaced.consume hl, Nat.le_trans hshort h.short⟩

theorem of_samePlace (h : Stands rules sizes l r faults) (hsame : l.SamePlace l')
    {faults' : List ReadFault} (ha : l'.Awaits r.text faults') :
    Stands rules sizes l' r faults' := ⟨h.toPlaced.of_samePlace hsame ha, h.short⟩

/-- A buffer that was topped up holds all of the rest. -/
theorem buffer_eq (h : Stands rules sizes l r faults) (hp : l.Primed) : l.buffer = r.text := by
  obtain ⟨y, hy, hsuff⟩ := h.toPlaced.exists_suffices hp
  rw [hy, eq_nil_of_suffices h.short hy hsuff, List.append_nil]

/-- Where nothing is left, the input is at its end. -/
theorem exhausted_of_nil (h : Stands rules sizes l r faults) (hp : l.Primed)
    (hnil : r.text = []) : l.exhausted = true := by
  rcases hp with hp | hend
  · have hmark := mark_pos l.sizes
    have hbuffer := h.buffer_eq (Or.inl hp)
    rw [hbuffer, hnil, Text.hasBytes_eq, decide_eq_true_eq, Text.byteLength_nil] at hp
    omega
  · exact hend

end Stands

/-! ### Operations that a fault ends -/

variable [TokenRule ρ]

/-- A fault has ended an operation that began before a rest. It was the next one on the way and is
told with the place of the lexer, which has moved over white space at most. -/
def Interrupted (rules : RuleSet ρ) (sizes : BufferSizes) (r : Rest) (faults : List ReadFault)
    (e : LexError) (l' : Lexer σ ρ) : Prop :=
  ∃ fault rest q, faults = fault :: rest ∧ e = .read l'.cursor fault ∧
    stripped rules q = stripped rules r ∧ Stands rules sizes l' q rest

theorem Interrupted.of_stripped {e : LexError} (h : Interrupted rules sizes q faults e l')
    (hq : stripped rules q = stripped rules r) : Interrupted rules sizes r faults e l' := by
  obtain ⟨fault, rest, q', hfaults, he, hq', hstands⟩ := h
  exact ⟨fault, rest, q', hfaults, he, hq'.trans hq, hstands⟩

namespace Stands

/-- A read stays where it is, or it is the one that fails. -/
theorem fill (h : Stands rules sizes l r faults) :
    (∃ k l', l.fill = (.ok k, l') ∧ Stands rules sizes l' r faults ∧
      (k = 0 → l'.exhausted = true)) ∨
    ∃ e l', l.fill = (.error e, l') ∧ Interrupted rules sizes r faults e l' := by
  obtain ⟨hsame, -⟩ := samePlace_fill l
  rcases h.awaits.fill with ⟨k, l', hf, ha, hlast⟩ | ⟨fault, rest, l', rfl, hf, ha⟩
  · rw [hf] at hsame
    exact Or.inl ⟨k, l', hf, h.of_samePlace hsame ha, hlast⟩
  · rw [hf] at hsame
    refine Or.inr ⟨_, l', hf, fault, rest, r, rfl, ?_, rfl, h.of_samePlace hsame ha⟩
    rw [hsame.cursor]

theorem topUp {n : Nat} {res : Except LexError Unit} (h : Stands rules sizes l r faults)
    (htop : topUp l.sizes.mark n l = some (res, l')) :
    (res = .ok () ∧ Stands rules sizes l' r faults ∧ l'.Primed) ∨
    ∃ e, res = .error e ∧ Interrupted rules sizes r faults e l' := by
  induction n generalizing l with
  | zero => cases htop
  | succ n ih =>
    rw [topUp_succ] at htop
    split_ifs at htop with hb
    · cases htop
      exact Or.inl ⟨rfl, h, Or.inl hb⟩
    · rcases h.fill with ⟨k, l₁, hf, hstands, hlast⟩ | ⟨e, l₁, hf, hbreak⟩
      · rw [hf] at htop
        simp only at htop
        split_ifs at htop with hk
        · cases htop
          exact Or.inl ⟨rfl, hstands, Or.inr (hlast hk)⟩
        · rw [h.sizes_eq, ← hstands.sizes_eq] at htop
          exact ih hstands htop
      · rw [hf] at htop
        cases htop
        exact Or.inr ⟨e, rfl, hbreak⟩

theorem ensureBuffered {res : Except LexError Unit} (h : Stands rules sizes l r faults)
    (he : ensureBuffered l = some (res, l')) :
    (res = .ok () ∧ Stands rules sizes l' r faults ∧ l'.Primed) ∨
    ∃ e, res = .error e ∧ Interrupted rules sizes r faults e l' :=
  h.topUp he

theorem blank?_eq (h : Stands rules sizes l r faults) (hp : l.Primed) :
    l.blank? = WholeText.blank? rules r :=
  h.toPlaced.blank?_eq hp (steadyBlanks_of_byteLength_le h.short)

/-- Passing over white space leads to the stripped rest, unless a read fails on the way. -/
theorem skipWhitespace {n : Nat} {res : Except LexError Unit} (h : Stands rules sizes l r faults)
    (hskip : skipWhitespace n l = some (res, l')) :
    (res = .ok () ∧ Stands rules sizes l' (stripped rules r) faults ∧ l'.Primed) ∨
    ∃ e, res = .error e ∧ Interrupted rules sizes r faults e l' := by
  induction n generalizing l r with
  | zero => cases hskip
  | succ n ih =>
    rw [skipWhitespace_succ] at hskip
    rcases he : Lexer.ensureBuffered l with _ | ⟨res₁, l₁⟩
    · rw [he] at hskip
      cases hskip
    · rw [he] at hskip
      rcases h.ensureBuffered he with ⟨rfl, hstands, hprimed⟩ | ⟨e, rfl, hbreak⟩
      · have hblank := hstands.blank?_eq hprimed
        simp only at hskip
        cases hb : WholeText.blank? rules r with
        | none =>
          rw [hblank, hb] at hskip
          cases hskip
          rw [WholeText.stripped_of_none hb]
          exact Or.inl ⟨rfl, hstands, hprimed⟩
        | some token =>
          rw [hb] at hblank
          rw [hblank] at hskip
          obtain ⟨-, rest, hrest⟩ := blank?_eq_some hblank
          have hsame := WholeText.stripped_of_some hb
          rcases ih (hstands.consume hrest) hskip with hdone | ⟨e, rfl, hbreak⟩
          · rw [hsame]
            exact Or.inl hdone
          · exact Or.inr ⟨e, rfl, hbreak.of_stripped hsame.symm⟩
      · cases hskip
        exact Or.inr ⟨e, rfl, hbreak⟩

omit [TokenRule ρ] in
/-- A read on a buffer that holds all of the rest brings no text. -/
theorem still_fill {k : Nat} (h : Stands rules sizes l r faults) (hp : l.Primed)
    (hstands : Stands rules sizes l' r faults) (hf : l.fill = (.ok k, l')) :
    l'.Primed ∧ l'.generation = l.generation := by
  obtain ⟨hsame, new, hnew⟩ := samePlace_fill l
  rw [hf] at hsame hnew
  have hprimed : l'.Primed := by
    refine hp.of_append hsame.sizes hnew fun he => ?_
    rw [fill_of_exhausted l he] at hf
    cases hf
    exact he
  refine ⟨hprimed, ?_⟩
  have hbuffer : l'.buffer = l.buffer := by
    rw [hstands.buffer_eq hprimed, h.buffer_eq hp]
  rcases fill_eq_ok hf with ⟨-, -, rfl⟩ | ⟨-, status, journal, -, -, rfl⟩
  · rfl
  · exact if_pos (List.append_right_eq_self.mp hbuffer)

/-- Trying a rule gives what it finds in the rest, unless a read fails on the way. -/
theorem matchRule {rule : ρ} {n : Nat} {res : Except LexError (Option Token)}
    (h : Stands rules sizes l r faults) (hp : l.Primed)
    (hmatch : matchRule rule n l = some (res, l')) :
    (res = .ok (TokenRule.hit? rule r.text r.position) ∧ Stands rules sizes l' r faults ∧
      l'.Primed ∧ l'.generation = l.generation) ∨
    ∃ e, res = .error e ∧ Interrupted rules sizes r faults e l' := by
  induction n generalizing l with
  | zero => cases hmatch
  | succ n ih =>
    rw [matchRule_succ, h.buffer_eq hp, h.cursor] at hmatch
    cases hhit : TokenRule.hit? rule r.text r.position with
    | none =>
      rw [hhit] at hmatch
      cases hmatch
      exact Or.inl ⟨rfl, h, hp, rfl⟩
    | some token =>
      rw [hhit] at hmatch
      simp only at hmatch
      split_ifs at hmatch with hstop
      · cases hmatch
        exact Or.inl ⟨rfl, h, hp, rfl⟩
      · rcases h.fill with ⟨k, l₁, hf, hstands, -⟩ | ⟨e, l₁, hf, hbreak⟩
        · obtain ⟨hprimed, hgeneration⟩ := h.still_fill hp hstands hf
          rw [hf] at hmatch
          simp only at hmatch
          split_ifs at hmatch with hk
          · cases hmatch
            exact Or.inl ⟨rfl, hstands, hprimed, hgeneration⟩
          · rw [← hgeneration, ← hhit]
            exact ih (l := l₁.note .matchGrew) (hstands.note _) hprimed hmatch
        · rw [hf] at hmatch
          cases hmatch
          exact Or.inr ⟨e, rfl, hbreak⟩

/-- Trying rules in order gives what the first of them finds in the rest, unless a read fails on the
way. The buffer holds all of the rest, so it does not grow any more. -/
theorem tryRules {rounds : Nat} {rest : List ρ} {res : Except LexError Attempt}
    (h : Stands rules sizes l r faults) (hp : l.Primed) (hnone : WholeText.blank? rules r = none)
    (htry : tryRules rounds l.generation rest l = some (res, l')) :
    (Stands rules sizes l' r faults ∧ l'.Primed ∧
      res = .ok (match rest.findSome? (TokenRule.hit? · r.text r.position) with
        | some token => .matched token
        | none => .noMatch)) ∨
    ∃ e, res = .error e ∧ Interrupted rules sizes r faults e l' := by
  induction rest generalizing l with
  | nil =>
    rw [tryRules_nil, if_neg (not_not_intro rfl)] at htry
    cases htry
    exact Or.inl ⟨h, hp, rfl⟩
  | cons rule rest ih =>
    cases rounds with
    | zero =>
      rw [tryRules_cons] at htry
      cases htry
    | succ rounds =>
      rw [tryRules_cons_of_primed hp ((h.blank?_eq hp).trans hnone)] at htry
      rcases hmatch : Lexer.matchRule rule (rounds + 1) l with _ | ⟨res₁, l₁⟩
      · rw [hmatch] at htry
        cases htry
      · rw [hmatch] at htry
        rcases h.matchRule hp hmatch with ⟨rfl, hstands, hprimed, hgeneration⟩ | ⟨e, rfl, hbreak⟩
        · rw [List.findSome?_cons]
          cases hhit : TokenRule.hit? rule r.text r.position with
          | some token =>
            rw [hhit] at htry
            cases htry
            exact Or.inl ⟨hstands, hprimed, rfl⟩
          | none =>
            rw [hhit, ← hgeneration] at htry
            exact ih hstands hprimed htry
        · cases htry
          exact Or.inr ⟨e, rfl, hbreak⟩

/-- What is said when no rule has matched. -/
theorem noToken_eq (h : Stands rules sizes l (stripped rules r) faults) (hp : l.Primed)
    (hfirst : first? rules (stripped rules r) = none) :
    l.noToken.1 = (WholeText.next rules r).1 ∧
      Stands rules sizes l.noToken.2 (stripped rules r) faults ∧ l.noToken.2.Primed := by
  have hbuffer := h.buffer_eq hp
  unfold noToken
  rcases WholeText.next_cases rules r with ⟨hnil, hnext⟩ | ⟨hne, -, hnext⟩ | ⟨token, hsome, -⟩
  · rw [hnext, if_pos (by rw [hbuffer, hnil]; rfl)]
    exact ⟨rfl, h, hp⟩
  · rw [hnext, if_neg (by rw [List.isEmpty_iff, hbuffer]; exact hne), h.rules_eq, h.cursor,
      hbuffer]
    exact ⟨rfl, h.note _, hp⟩
  · rw [hfirst] at hsome
    cases hsome

/-! ### One call -/

/-- **Looking for a token** gives the answer of the whole text, unless a read fails on the way. -/
theorem peekWithin {rounds n : Nat} {res : Except LexError (Option Token)}
    (h : Stands rules sizes l r faults) (hpeek : peekWithin rounds n l = some (res, l')) :
    (res = (WholeText.next rules r).1 ∧ Stands rules sizes l' (stripped rules r) faults ∧
      l'.Primed) ∨
    ∃ e, res = .error e ∧ Interrupted rules sizes r faults e l' := by
  -- the buffer does not grow behind the white space, so one pass over the rules is enough
  cases n with
  | zero => cases hpeek
  | succ n =>
    rw [peekWithin_succ] at hpeek
    rcases hskip : Lexer.skipWhitespace rounds l with _ | ⟨res₁, l₁⟩
    · rw [hskip] at hpeek
      cases hpeek
    · rw [hskip] at hpeek
      rcases h.skipWhitespace hskip with ⟨rfl, hstands, hprimed⟩ | ⟨e, rfl, hbreak⟩
      · simp only at hpeek
        rcases htry : Lexer.tryRules rounds l₁.generation l₁.rules.rules l₁ with _ | ⟨res₂, l₂⟩
        · rw [htry] at hpeek
          cases hpeek
        · rw [htry] at hpeek
          rw [hstands.rules_eq] at htry
          rcases hstands.tryRules hprimed (WholeText.blank?_stripped r) htry with
            ⟨hstands', hprimed', rfl⟩ | ⟨e, rfl, hbreak⟩
          · left
            have hfound : rules.rules.findSome? (TokenRule.hit? · (stripped rules r).text
              (stripped rules r).position) = first? rules (stripped rules r) := rfl
            rw [hfound] at hpeek
            cases hfirst : first? rules (stripped rules r) with
            | some token =>
              rw [hfirst] at hpeek
              cases hpeek
              rw [WholeText.next_of_first? hfirst]
              exact ⟨rfl, hstands', hprimed'⟩
            | none =>
              have hanswer := hstands'.noToken_eq hprimed' hfirst
              rw [hfirst] at hpeek
              have hno : l₂.noToken = (res, l') := Option.some.inj hpeek
              rw [hno] at hanswer
              exact hanswer
          · cases hpeek
            exact Or.inr ⟨e, rfl, hbreak.of_stripped (WholeText.stripped_stripped r)⟩
      · cases hpeek
        exact Or.inr ⟨e, rfl, hbreak⟩

/-- **A scan** gives the answer of the whole text, unless a read fails on the way. Behind the answer
the caller goes on where the whole text does, and if there is no token left, no fault is left
either. -/
theorem scanWithin {rounds : Nat} {res : Except LexError (Option Token)}
    (h : Stands rules sizes l r faults) (hscan : scanWithin rounds l = some (res, l')) :
    (res = (WholeText.next rules r).1 ∧
      Stands rules sizes (l'.resume res) (WholeText.resumed rules r) faults ∧
      (res = .ok none → faults = [])) ∨
    ∃ e, res = .error e ∧ Interrupted rules sizes r faults e l' := by
  obtain ⟨l₁, hpeek, rfl⟩ := exists_peekWithin_of_scanWithin hscan
  rcases h.peekWithin hpeek with ⟨hres, hstands, hprimed⟩ | ⟨e, rfl, hbreak⟩
  · left
    have hbuffer := hstands.buffer_eq hprimed
    refine ⟨hres, ?_, ?_⟩
    · unfold WholeText.resumed
      rcases WholeText.next_cases rules r with ⟨-, hnext⟩ | ⟨hne, -, hnext⟩ | ⟨token, -, hnext⟩
      · rw [hnext] at hres ⊢
        rw [hres]
        exact hstands
      · rw [hnext] at hres ⊢
        rw [hres]
        obtain ⟨hlit, rest, hrest⟩ := rules.unknownLiteral_append (stripped rules r).position hne
        have hfront := hbuffer.trans hrest
        show Stands rules sizes (l₁.skipLiteral _).2 _ faults
        rw [skipLiteral_of_append l₁ hlit hfront]
        exact (hstands.note _).consume hfront
      · obtain ⟨-, rest, hrest⟩ := (moves_peekWithin hpeek).2 token (by rw [hres, hnext])
        rw [hnext] at hres ⊢
        rw [hres]
        exact (hstands.consume hrest).note _
    · rintro rfl
      rcases WholeText.next_cases rules r with ⟨hnil, -⟩ | ⟨-, -, hnext⟩ | ⟨token, -, hnext⟩
      · exact (hstands.awaits.of_exhausted (hstands.exhausted_of_nil hprimed hnil)).2
      · rw [hnext] at hres
        cases hres
      · rw [hnext] at hres
        cases hres
  · exact Or.inr ⟨e, rfl, hbreak⟩

end Stands

end Source

/-! ### Any number of calls -/

section Finite

variable [FiniteSource σ] [FiniteSource τ] [TokenRule ρ]

omit [FiniteSource σ] [FiniteSource τ] in
/-- A whole text has no reads that could fail. -/
theorem readFault?_next (rules : RuleSet ρ) (r : Rest) :
    readFault? (WholeText.next rules r).1 = none := by
  rcases WholeText.next_cases rules r with ⟨-, hnext⟩ | ⟨-, -, hnext⟩ | ⟨token, -, hnext⟩ <;>
    rw [hnext] <;> rfl

omit [FiniteSource τ] in
theorem length_of_hears {n : Nat} {l l' : Lexer σ ρ}
    {answers : List (Except LexError (Option Token))} (h : hears n l = some (answers, l')) :
    answers.length = n := by
  induction n generalizing l answers with
  | zero =>
    cases h
    rfl
  | succ n ih =>
    unfold hears at h
    split at h
    · cases h
    · obtain ⟨⟨rest, l''⟩, hrest, hcons⟩ := Option.map_eq_some_iff.mp h
      cases hcons
      rw [List.length_cons, ih hrest]

/-- A row of calls: the answers are those of the whole text, with failed reads in between. The
faults told so far are the first ones on the way, and once there is no token left, all of them were
told. -/
theorem Stands.hears {rules : RuleSet ρ} {sizes : BufferSizes} {l : Lexer σ ρ} {r : Rest}
    {faults : List ReadFault} (h : Stands rules sizes l r faults) (n : Nat) :
    ∃ answers l' left, hears n l = some (answers, l') ∧
      faults = answers.filterMap readFault? ++ left ∧ (∃ q, Stands rules sizes l' q left) ∧
      (answers.filter fun a => (readFault? a).isNone) = WholeText.heard rules
        (answers.filter fun a => (readFault? a).isNone).length r ∧
      (.ok none ∈ answers → left = []) ∧
      ((stripped rules r).text.length + faults.length < n → .ok none ∈ answers) := by
  induction n generalizing l r faults with
  | zero =>
    exact ⟨[], l, faults, rfl, rfl, ⟨r, h⟩, rfl, fun hmem => absurd hmem List.not_mem_nil,
      fun hlt => absurd hlt (Nat.not_lt_zero _)⟩
  | succ n ih =>
    obtain ⟨res, l₁, hscan⟩ :=
      scanWithin_ends h.awaits.sound (reach_lt_rounds l) (ahead_lt_rounds l)
    unfold Lexer.hears
    rw [scan_eq, hscan]
    simp only
    rcases h.scanWithin hscan with ⟨hres, hstands, hnone⟩ | ⟨e, rfl, hbreak⟩
    · -- an answer of the text
      obtain ⟨answers, l', left, hhears, hfaults, hstands', hheard, hleft, hall⟩ := ih hstands
      have hread : readFault? res = none := hres ▸ readFault?_next rules r
      rw [hhears]
      refine ⟨res :: answers, l', left, rfl, ?_, hstands', ?_, ?_, ?_⟩
      · rw [List.filterMap_cons_none hread]
        exact hfaults
      · rw [List.filter_cons_of_pos (by rw [hread]; rfl), List.length_cons, WholeText.heard,
          ← hheard, ← hres]
      · intro hmem
        rcases List.mem_cons.mp hmem with hnow | hlater
        · rw [hnone hnow.symm] at hfaults
          exact (List.append_eq_nil_iff.mp hfaults.symm).2
        · exact hleft hlater
      · intro hlt
        by_cases hend : res = .ok none
        · rw [hend]
          exact List.mem_cons_self ..
        · have hless := WholeText.length_resumed_lt (hres ▸ hend)
          exact List.mem_cons_of_mem _ (hall (by omega))
    · -- a failed read, which has left the lexer before the same answers
      obtain ⟨fault, rest, q, rfl, rfl, hstripped, hstands⟩ := hbreak
      obtain ⟨answers, l', left, hhears, hfaults, hstands', hheard, hleft, hall⟩ := ih hstands
      rw [show l₁.resume (.error (.read l₁.cursor fault)) = l₁ from rfl, hhears]
      refine ⟨.error (.read l₁.cursor fault) :: answers, l', left, rfl, ?_, hstands', ?_, ?_, ?_⟩
      · rw [hfaults]
        rfl
      · rw [List.filter_cons_of_neg (by exact Bool.false_ne_true),
          ← WholeText.heard_congr hstripped]
        exact hheard
      · intro hmem
        exact hleft ((List.mem_cons.mp hmem).resolve_left (by simp))
      · intro hlt
        rw [List.length_cons, ← hstripped] at hlt
        exact List.mem_cons_of_mem _ (hall (by omega))

/-- **Failed reads are transparent to a caller that calls again.** Let a source deliver some bytes,
and another one deliver the same bytes but falter on the way, with any faults at any places, and let
the buffer take in the whole text. Whatever the rules are, a caller who scans again and again, skips
what is not recognised and just calls again after a failed read hears the same over both sources:

* Without the failed reads, what is heard over the one is what is heard over the other.
* The failed reads that were heard are the first faults in their order, each told once. Those that
  were not told lie ahead of the lexer.
* Sooner or later there is no token left, and then all faults were told. -/
theorem hears_of_falters (source : σ) (faltering : τ) (rules : RuleSet ρ) (sizes : BufferSizes)
    (bytes : List UInt8) (faults : List ReadFault)
    (hsource : Delivers sizes.effectiveChunk source bytes)
    (hfaltering : Falters sizes.effectiveChunk faltering bytes faults)
    (hm : (Utf8.lossy bytes).byteLength ≤ sizes.lowWaterMark.toNat) (n : Nat) :
    ∃ answers l', hears n (create faltering rules sizes) = some (answers, l') ∧
      (∃ c', hears (answers.filter fun a => (readFault? a).isNone).length
          (create source rules sizes) =
        some (answers.filter fun a => (readFault? a).isNone, c')) ∧
      (∃ left, faults = answers.filterMap readFault? ++ left ∧
        (l'.exhausted = true ∧ left = [] ∨ l'.exhausted = false ∧
          ∃ rest, Falters sizes.effectiveChunk l'.source rest left) ∧
        (.ok none ∈ answers → left = [])) ∧
      ((Utf8.lossy bytes).length + faults.length < n → .ok none ∈ answers) := by
  -- both lexers stand before the text of the bytes
  have hbefore {υ : Type} [FiniteSource υ] {s : υ} {faults : List ReadFault}
      (hs : Falters sizes.effectiveChunk s bytes faults) :
      Stands rules sizes (create s rules sizes) ⟨Utf8.lossy bytes, .start⟩ faults :=
    ⟨⟨awaits_create rules hs, rfl, rfl, rfl⟩, Nat.le_trans hm (Nat.le_max_left _ _)⟩
  obtain ⟨answers, l', left, hhears, hfaults, ⟨q, hstands⟩, hheard, hleft, hall⟩ :=
    (hbefore hfaltering).hears n
  refine ⟨answers, l', hhears, ?_, ⟨left, hfaults, ?_, hleft⟩, ?_⟩
  · obtain ⟨clean, c', none, hclean, hnone, -, hheard', -, -⟩ :=
      (hbefore hsource.falters).hears (answers.filter fun a => (readFault? a).isNone).length
    -- without faults, no answer tells of one
    have hplain : ∀ a ∈ clean, readFault? a = .none :=
      List.filterMap_eq_nil_iff.mp (List.append_eq_nil_iff.mp hnone.symm).1
    rw [List.filter_eq_self.mpr fun a ha => by rw [hplain a ha]; rfl, length_of_hears hclean,
      ← hheard] at hheard'
    rw [hheard'] at hclean
    exact ⟨c', hclean⟩
  · have hawaits := hstands.awaits
    cases hawaits with
    | atEnd he _ _ => exact Or.inl ⟨he, rfl⟩
    | within he _ rest hd _ =>
      rw [hstands.sizes_eq] at hd
      exact Or.inr ⟨he, rest, hd⟩
  · intro hlt
    have hle : (stripped rules ⟨Utf8.lossy bytes, .start⟩).text.length ≤
      (Utf8.lossy bytes).length := WholeText.length_stripped_le _
    exact hall (Nat.lt_of_le_of_lt (Nat.add_le_add_right hle _) hlt)

end Finite

/-- Reads fail before anything has come, in the middle of a character, and behind the first token,
where the buffer is no longer full. -/
theorem hears_of_falters_script :
    let fault (c : Char) : ReadFault := ⟨.other [c], []⟩
    let steps : List Step := [.fail (fault 'a'), .data [0xC3], .fail (fault 'b'),
      .data [0xA9, 0x20, 0x3F], .fail (fault 'c')]
    let clean : Script := ⟨[.data [0xC3], .data [0xA9, 0x20, 0x3F]]⟩
    let rules : RuleSet Rule := ⟨some (.literals .other [[' ']]), [.literals .ident [['é']]]⟩
    let answers : List (Except LexError (Option Token)) :=
      [.ok (some ⟨.ident, ['é'], [], .start⟩), .error (.unknownToken ['?'] ⟨0, 2, 3⟩), .ok none,
        .ok none]
    Delivers 2 clean [0xC3, 0xA9, 0x20, 0x3F] ∧
      Falters 2 (⟨steps⟩ : Script) [0xC3, 0xA9, 0x20, 0x3F] [fault 'a', fault 'b', fault 'c'] ∧
      ∃ heard l' c', hears 7 (create (⟨steps⟩ : Script) rules ⟨4, 2⟩) = some (heard, l') ∧
        (heard.filter fun a => (readFault? a).isNone) = answers ∧
        hears 4 (create clean rules ⟨4, 2⟩) = some (answers, c') ∧
        heard.filterMap readFault? = [fault 'a', fault 'b', fault 'c'] ∧ .ok none ∈ heard := by
  intro fault steps clean rules answers
  have hplain : ∀ step ∈ steps, step.Plain := by
    intro step hstep
    simp only [steps, List.mem_cons, List.not_mem_nil, or_false] at hstep
    rcases hstep with rfl | rfl | rfl | rfl | rfl
    · exact Or.inr ⟨_, rfl⟩
    · exact Or.inl ⟨_, List.cons_ne_nil _ _, rfl⟩
    · exact Or.inr ⟨_, rfl⟩
    · exact Or.inl ⟨_, List.cons_ne_nil _ _, rfl⟩
    · exact Or.inr ⟨_, rfl⟩
  have hd : Delivers 2 clean [0xC3, 0xA9, 0x20, 0x3F] :=
    Script.delivers_steps (by decide) steps hplain
  have hf : Falters 2 (⟨steps⟩ : Script) [0xC3, 0xA9, 0x20, 0x3F]
      [fault 'a', fault 'b', fault 'c'] := Script.falters_steps (by decide) steps hplain
  have hrun : ((hears 7 (create (⟨steps⟩ : Script) rules ⟨4, 2⟩)).map fun p =>
      p.1.filter fun a => (readFault? a).isNone) = some answers := by decide +kernel
  obtain ⟨heard, l', hhears, ⟨c', hclean⟩, ⟨left, hfaults, -, hleft⟩, hall⟩ :=
    hears_of_falters clean (⟨steps⟩ : Script) rules ⟨4, 2⟩ _ _ hd hf (by decide) 7
  rw [hhears] at hrun
  have hanswers : (heard.filter fun a => (readFault? a).isNone) = answers := Option.some.inj hrun
  have hend : .ok none ∈ heard := hall (by decide)
  rw [hleft hend, List.append_nil] at hfaults
  rw [hanswers] at hclean
  exact ⟨hd, hf, heard, l', c', hhears, hanswers, hclean, hfaults.symm, hend⟩

end Lexer

end RuleLexer
