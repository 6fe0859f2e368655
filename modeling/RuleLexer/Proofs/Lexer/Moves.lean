import Mathlib.Logic.Relation
import RuleLexer.Proofs.Lexer.Calls
import RuleLexer.Proofs.Lexer.Read

/-!
# What the operations of a lexer can do

Looking for a token is a tangle of loops, but all that any of them ever does to a lexer is to note
something, to read, or to pass over white space at the front of the buffer. These are the `Move`s,
and they say when a lexer reads: if there is too little in the buffer, or if a rule takes all of it.
Whatever every move preserves, every operation preserves.

* `topUp_run`, `matchRule_run`: the two loops that read, told for any relation that their reads
  stand in.
* `moves_peekWithin`: looking for the next token is a sequence of moves, whether it finds one, finds
  none or fails; a token that it finds stands at the front of the buffer.

A caller can do more: take a literal from the front of the buffer and exchange the rules. Together
with the moves these are the `Change`s. Every `Call` is a sequence of changes (`changes_of_op`), and
one that does not exchange the rules is a sequence of `Advance`s (`advances_of_op`).
-/

namespace RuleLexer

/-- What a hit is: not empty, and at the front of the text. -/
theorem TokenRule.hit?_eq_some {ρ : Type} [TokenRule ρ] {rule : ρ} {input : Text}
    {position : Position} {token : Token}
    (h : TokenRule.hit? rule input position = some token) :
    token.literal ≠ [] ∧ ∃ rest, input = token.literal ++ rest := by
  unfold TokenRule.hit? at h
  obtain ⟨-, hc⟩ := Option.filter_eq_some_iff.mp h
  unfold Token.consumes Text.startsWith at hc
  rw [Bool.and_eq_true, Option.isSome_iff_exists] at hc
  obtain ⟨hne, rest, hrest⟩ := hc
  refine ⟨?_, rest, Text.after?_eq_some_iff.mp hrest⟩
  intro h0
  rw [h0] at hne
  exact absurd hne (by decide)

namespace Lexer

variable {σ ρ : Type}

/-- A token at the front of the buffer, not empty. -/
def Fronts (l : Lexer σ ρ) (token : Token) : Prop :=
  token.literal ≠ [] ∧ ∃ rest, l.buffer = token.literal ++ rest

theorem blank?_eq_some [TokenRule ρ] {l : Lexer σ ρ} {token : Token} (h : l.blank? = some token) :
    l.Fronts token := by
  obtain ⟨w, -, hhit⟩ := Option.bind_eq_some_iff.mp h
  exact TokenRule.hit?_eq_some hhit

/-- A match that makes the lexer read takes all of the buffer. -/
theorem literal_eq_buffer [TokenRule ρ] {l : Lexer σ ρ} {rule : ρ} {position : Position}
    {token : Token} (h : TokenRule.hit? rule l.buffer position = some token)
    (hread : ¬ (l.exhausted || !(l.buffer.drop token.literal.length).isEmpty) = true) :
    token.literal = l.buffer := by
  obtain ⟨-, rest, hrest⟩ := TokenRule.hit?_eq_some h
  rw [hrest, List.drop_left, Bool.or_eq_true, Bool.not_eq_true', List.isEmpty_eq_false_iff, not_or,
    not_not] at hread
  rw [hrest, hread.2, List.append_nil]

/-! ### Moves -/

section

variable [ByteSource σ] [TokenRule ρ]

/-- One thing that passing over white space can do to a lexer: read because there is too little in
the buffer, or take white space from its front. -/
inductive Skip : Lexer σ ρ → Lexer σ ρ → Prop where
  | topUp (l : Lexer σ ρ) (h : l.buffer.hasBytes l.sizes.mark = false) : Skip l l.fill.2
  | pass (l : Lexer σ ρ) {token : Token} (h : l.blank? = some token) :
      Skip l (l.consume token.literal)

/-- Any number of such steps. -/
abbrev Skips : Lexer σ ρ → Lexer σ ρ → Prop := Relation.ReflTransGen Skip

/-- **One thing that looking for a token can do** to a lexer. Apart from what passing over white
space does, it reads only if a rule takes all of the buffer. -/
inductive Move : Lexer σ ρ → Lexer σ ρ → Prop where
  | skip {l l' : Lexer σ ρ} (h : Skip l l') : Move l l'
  | note (l : Lexer σ ρ) (e : Event) : Move l (l.note e)
  | retry (l : Lexer σ ρ) {rule : ρ} {token : Token} (hr : rule ∈ l.rules.rules)
      (h : TokenRule.hit? rule l.buffer l.cursor = some token) (hall : token.literal = l.buffer) :
      Move l l.fill.2

/-- Any number of moves. -/
abbrev Moves : Lexer σ ρ → Lexer σ ρ → Prop := Relation.ReflTransGen Move

theorem Skips.moves {l l' : Lexer σ ρ} (h : Skips l l') : Moves l l' :=
  Relation.ReflTransGen.mono (fun _ _ hs => .skip hs) _ _ h

/-- A move leaves the rules and the sizes alone. -/
theorem Move.keeps {l l' : Lexer σ ρ} (h : Move l l') :
    l'.rules = l.rules ∧ l'.sizes = l.sizes := by
  have hread : l.fill.2.rules = l.rules ∧ l.fill.2.sizes = l.sizes :=
    ⟨(samePlace_fill l).1.rules, (samePlace_fill l).1.sizes⟩
  cases h with
  | skip hs =>
    cases hs with
    | topUp _ => exact hread
    | pass _ => exact ⟨rfl, rfl⟩
  | note e => exact ⟨rfl, rfl⟩
  | retry _ _ _ => exact hread

theorem Moves.keeps {l l' : Lexer σ ρ} (h : Moves l l') :
    l'.rules = l.rules ∧ l'.sizes = l.sizes := by
  induction h with
  | refl => exact ⟨rfl, rfl⟩
  | tail _ hm ih => exact ⟨hm.keeps.1.trans ih.1, hm.keeps.2.trans ih.2⟩

theorem Moves.rules_eq {l l' : Lexer σ ρ} (h : Moves l l') : l'.rules = l.rules := h.keeps.1

theorem Moves.sizes_eq {l l' : Lexer σ ρ} (h : Moves l l') : l'.sizes = l.sizes := h.keeps.2

/-! ### What the loops do -/

omit [TokenRule ρ] in
/-- **Topping up is a sequence of reads**, each of them made because there is too little in the
buffer. It fails if the last read does, and otherwise there is enough now or the last read has
brought nothing. Here `R` is any relation that such a read stands in. -/
theorem topUp_run {R : Lexer σ ρ → Lexer σ ρ → Prop}
    (read : ∀ m, m.buffer.hasBytes m.sizes.mark = false → R m m.fill.2)
    {n : Nat} {l l' : Lexer σ ρ} {r : Except LexError Unit}
    (h : topUp l.sizes.mark n l = some (r, l')) :
    Relation.ReflTransGen R l l' ∧
      (∀ e, r = .error e → ∃ m, Relation.ReflTransGen R l m ∧ m.fill = (.error e, l')) ∧
      (r = .ok () → l'.buffer.hasBytes l'.sizes.mark = true ∨
        ∃ m, Relation.ReflTransGen R l m ∧ m.fill = (.ok 0, l')) := by
  induction n generalizing l with
  | zero => cases h
  | succ n ih =>
    rw [topUp_succ] at h
    split at h
    · next hbytes =>
      cases h
      exact ⟨.refl, nofun, fun _ => Or.inl hbytes⟩
    · next hbytes =>
      -- whatever it gave, a read was made
      have hread : R l l.fill.2 := read l (Bool.eq_false_iff.mpr hbytes)
      have hsizes := (samePlace_fill l).1.sizes
      split at h
      · next e l₁ hf =>
        cases h
        rw [hf] at hread
        refine ⟨.single hread, fun e' he => ?_, nofun⟩
        cases he
        exact ⟨l, .refl, hf⟩
      · next k l₁ hf =>
        rw [hf] at hread hsizes
        split at h
        · next hk =>
          cases h
          rw [hk] at hf
          exact ⟨.single hread, nofun, fun _ => Or.inr ⟨l, .refl, hf⟩⟩
        · rw [← hsizes] at h
          obtain ⟨hrest, hfailed, hdone⟩ := ih h
          refine ⟨hrest.head hread, fun e he => ?_, fun hr => ?_⟩
          · obtain ⟨m, hm, hf'⟩ := hfailed e he
            exact ⟨m, hm.head hread, hf'⟩
          · rcases hdone hr with hbytes' | ⟨m, hm, hf'⟩
            · exact Or.inl hbytes'
            · exact Or.inr ⟨m, hm.head hread, hf'⟩

theorem skips_ensureBuffered {l l' : Lexer σ ρ} {r : Except LexError Unit}
    (h : ensureBuffered l = some (r, l')) : Skips l l' :=
  (topUp_run .topUp h).1

theorem skips_skipWhitespace {n : Nat} {l l' : Lexer σ ρ} {r : Except LexError Unit}
    (h : skipWhitespace n l = some (r, l')) : Skips l l' := by
  induction n generalizing l with
  | zero => cases h
  | succ n ih =>
    rw [skipWhitespace_succ] at h
    split at h
    · cases h
    · next e l₁ he =>
      cases h
      exact skips_ensureBuffered he
    · next l₁ he =>
      have hskips := skips_ensureBuffered he
      split at h
      · cases h
        exact hskips
      · next token hb => exact (hskips.tail (.pass l₁ hb)).trans (ih h)

/-- **Trying a rule is a sequence of reads and notes**, each read made because a match takes all of
the buffer. It fails if the last read does, and a token that it gives stands at the front of the
buffer. Here `R` is any relation that such reads and notes stand in. -/
theorem matchRule_run {R : Lexer σ ρ → Lexer σ ρ → Prop} {rule : ρ} {n : Nat} {l l' : Lexer σ ρ}
    {r : Except LexError (Option Token)}
    (read : ∀ m token, m.rules = l.rules → TokenRule.hit? rule m.buffer m.cursor = some token →
      token.literal = m.buffer → R m m.fill.2)
    (note : ∀ m : Lexer σ ρ, R m (m.note .matchGrew)) (h : matchRule rule n l = some (r, l')) :
    Relation.ReflTransGen R l l' ∧
      (∀ e, r = .error e → ∃ m, Relation.ReflTransGen R l m ∧ m.fill = (.error e, l')) ∧
      ∀ token, r = .ok (some token) → l'.Fronts token := by
  induction n generalizing l with
  | zero => cases h
  | succ n ih =>
    rw [matchRule_succ] at h
    split at h
    · cases h
      exact ⟨.refl, nofun, fun token hr => by simp at hr⟩
    · next token ht =>
      obtain ⟨hne, rest, hrest⟩ := TokenRule.hit?_eq_some ht
      split at h
      · cases h
        refine ⟨.refl, nofun, fun token' hr => ?_⟩
        simp only [Except.ok.injEq, Option.some.injEq] at hr
        subst hr
        exact ⟨hne, rest, hrest⟩
      · next hcond =>
        have hread : R l l.fill.2 := read l token rfl ht (literal_eq_buffer ht hcond)
        obtain ⟨hsame, new, hnew⟩ := samePlace_fill l
        split at h
        · next e l₁ hf =>
          cases h
          rw [hf] at hread
          refine ⟨.single hread, fun e' he => ?_, fun token' hr => by simp at hr⟩
          cases he
          exact ⟨l, .refl, hf⟩
        · next k l₁ hf =>
          rw [hf] at hread hnew hsame
          split at h
          · -- the token was found before the read, which has only added to the buffer
            cases h
            refine ⟨.single hread, nofun, fun token' hr => ?_⟩
            simp only [Except.ok.injEq, Option.some.injEq] at hr
            subst hr
            exact ⟨hne, rest ++ new, by rw [hnew, hrest, List.append_assoc]⟩
          · have hstep : Relation.ReflTransGen R l (l₁.note .matchGrew) :=
              .tail (.single hread) (note l₁)
            have hrules : (l₁.note .matchGrew).rules = l.rules := hsame.rules
            obtain ⟨hmoves, hfailed, htoken⟩ :=
              ih (fun m token hm => read m token (hm.trans hrules)) h
            refine ⟨hstep.trans hmoves, fun e he => ?_, htoken⟩
            obtain ⟨m, hm, hf'⟩ := hfailed e he
            exact ⟨m, hstep.trans hm, hf'⟩

/-- Trying a rule is a sequence of moves if it is one of the rules of the lexer. It fails if the
last read does, and a token that it gives stands at the front of the buffer. -/
theorem moves_matchRule {rule : ρ} {n : Nat} {l l' : Lexer σ ρ}
    {r : Except LexError (Option Token)} (hrule : rule ∈ l.rules.rules)
    (h : matchRule rule n l = some (r, l')) :
    Moves l l' ∧ (∀ e, r = .error e → ∃ m, Moves l m ∧ m.fill = (.error e, l')) ∧
      ∀ token, r = .ok (some token) → l'.Fronts token :=
  matchRule_run (fun m _ hm ht hall => .retry m (hm ▸ hrule) ht hall) (.note · _) h

theorem moves_tryRules {rounds generation : Nat} {rules : List ρ} {l l' : Lexer σ ρ}
    {r : Except LexError Attempt} (hrules : ∀ rule ∈ rules, rule ∈ l.rules.rules)
    (h : tryRules rounds generation rules l = some (r, l')) :
    Moves l l' ∧ ∀ token, r = .ok (.matched token) → l'.Fronts token := by
  induction rules generalizing l with
  | nil =>
    rw [tryRules_nil] at h
    cases h
    refine ⟨.refl, fun token hr => ?_⟩
    split at hr <;> simp at hr
  | cons rule rest ih =>
    rw [tryRules_cons] at h
    split at h
    · cases h
    · next e l₁ hs =>
      cases h
      exact ⟨(skips_skipWhitespace hs).moves, fun token hr => by simp at hr⟩
    · next l₁ hs =>
      have h₁ := (skips_skipWhitespace hs).moves
      split at h
      · cases h
      · next e l₂ he =>
        cases h
        exact ⟨h₁.trans (skips_ensureBuffered he).moves, fun token hr => by simp at hr⟩
      · next l₂ he =>
        have h₂ : Moves l l₂ := h₁.trans (skips_ensureBuffered he).moves
        -- the rules that are tried are still those of the lexer
        rw [← h₂.rules_eq] at hrules
        have hrule := hrules rule (List.mem_cons_self ..)
        split at h
        · cases h
          exact ⟨h₂, fun token hr => by simp at hr⟩
        · split at h
          · cases h
          · next e l₃ hm =>
            cases h
            exact ⟨h₂.trans (moves_matchRule hrule hm).1, fun token hr => by simp at hr⟩
          · next token l₃ hm =>
            cases h
            obtain ⟨h₃, -, htoken⟩ := moves_matchRule hrule hm
            refine ⟨h₂.trans h₃, fun token' hr => ?_⟩
            simp only [Except.ok.injEq, Attempt.matched.injEq] at hr
            subst hr
            exact htoken token rfl
          · next l₃ hm =>
            have h₃ := (moves_matchRule hrule hm).1
            rw [← h₃.rules_eq] at hrules
            obtain ⟨h₄, htoken⟩ := ih (fun r hr => hrules r (List.mem_cons_of_mem _ hr)) h
            exact ⟨(h₂.trans h₃).trans h₄, htoken⟩

/-- **Looking for the next token is a sequence of moves**, however it ends. A token that is found
stands at the front of the buffer. -/
theorem moves_peekWithin {rounds n : Nat} {l l' : Lexer σ ρ}
    {r : Except LexError (Option Token)} (h : peekWithin rounds n l = some (r, l')) :
    Moves l l' ∧ ∀ token, r = .ok (some token) → l'.Fronts token := by
  induction n generalizing l with
  | zero => cases h
  | succ n ih =>
    rw [peekWithin_succ] at h
    split at h
    · cases h
    · next e l₁ hs =>
      cases h
      exact ⟨(skips_skipWhitespace hs).moves, fun token hr => by simp at hr⟩
    · next l₁ hs =>
      have h₁ := (skips_skipWhitespace hs).moves
      have hall : ∀ rule ∈ l₁.rules.rules, rule ∈ l₁.rules.rules := fun _ hr => hr
      split at h
      · cases h
      · next e l₂ ht =>
        cases h
        exact ⟨h₁.trans (moves_tryRules hall ht).1, fun token hr => by simp at hr⟩
      · next token l₂ ht =>
        cases h
        obtain ⟨h₂, htoken⟩ := moves_tryRules hall ht
        refine ⟨h₁.trans h₂, fun token' hr => ?_⟩
        simp only [Except.ok.injEq, Option.some.injEq] at hr
        subst hr
        exact htoken token rfl
      · next l₂ ht =>
        obtain ⟨h₃, htoken⟩ := ih h
        exact ⟨((h₁.trans (moves_tryRules hall ht).1).tail (.note l₂ _)).trans h₃, htoken⟩
      · next l₂ ht =>
        have h₂ := h₁.trans (moves_tryRules hall ht).1
        unfold noToken at h
        split at h
        · cases h
          exact ⟨h₂, fun token hr => by simp at hr⟩
        · cases h
          exact ⟨h₂.tail (.note l₂ _), fun token hr => by simp at hr⟩

end

/-! ### Changes -/

section

variable [ByteSource σ] [TokenRule ρ]

/-- **One thing that a call can do** to a lexer. -/
inductive Change : Lexer σ ρ → Lexer σ ρ → Prop where
  | move {l l' : Lexer σ ρ} (h : Move l l') : Change l l'
  | take (l : Lexer σ ρ) (literal : Text) {rest : Text} (h : l.buffer = literal ++ rest) :
      Change l (l.consume literal)
  | exchange (l : Lexer σ ρ) (rules : RuleSet ρ) : Change l { l with rules }

/-- Any number of changes. -/
abbrev Changes : Lexer σ ρ → Lexer σ ρ → Prop := Relation.ReflTransGen Change

/-- A change that is no exchange of rules. -/
def Advance (l l' : Lexer σ ρ) : Prop := Change l l' ∧ l'.rules = l.rules

/-- Any number of such changes. -/
abbrev Advances : Lexer σ ρ → Lexer σ ρ → Prop := Relation.ReflTransGen Advance

variable {l l' : Lexer σ ρ}

theorem Advances.changes (h : Advances l l') : Changes l l' :=
  Relation.ReflTransGen.mono (fun _ _ ha => ha.1) _ _ h

theorem Advances.rules_eq (h : Advances l l') : l'.rules = l.rules := by
  induction h with
  | refl => rfl
  | tail _ ha ih => exact ha.2.trans ih

theorem Moves.advances (h : Moves l l') : Advances l l' :=
  Relation.ReflTransGen.mono (fun _ _ hm => ⟨.move hm, hm.keeps.1⟩) _ _ h

theorem Moves.changes (h : Moves l l') : Changes l l' := h.advances.changes

theorem advance_note (l : Lexer σ ρ) (e : Event) : Advance l (l.note e) := ⟨.move (.note l e), rfl⟩

theorem advance_take {literal rest : Text} (h : l.buffer = literal ++ rest) :
    Advance l (l.consume literal) := ⟨.take l literal h, rfl⟩

theorem advances_scanWithin {rounds : Nat} {r : Except LexError (Option Token)}
    (h : scanWithin rounds l = some (r, l')) : Advances l l' := by
  rw [scanWithin_eq] at h
  split at h
  · cases h
  · next e l₁ hp =>
    cases h
    exact (moves_peekWithin hp).1.advances
  · next l₁ hp =>
    cases h
    exact (moves_peekWithin hp).1.advances
  · next token l₁ hp =>
    cases h
    obtain ⟨hmoves, htoken⟩ := moves_peekWithin hp
    obtain ⟨-, rest, hrest⟩ := htoken token rfl
    exact (hmoves.advances.tail (advance_take hrest)).tail (advance_note _ _)

theorem advances_lastLine {r : Except LexError Text} (h : Lexer.lastLine l = some (r, l')) :
    Advances l l' := by
  rw [lastLine_eq] at h
  split at h
  · cases h
  · next e l₁ hs =>
    cases h
    exact (skips_ensureBuffered hs).moves.advances
  · next l₁ hs =>
    cases h
    exact (skips_ensureBuffered hs).moves.advances

theorem advances_skipLiteral (l : Lexer σ ρ) (literal : Text) :
    Advances l (l.skipLiteral literal).2 := by
  unfold skipLiteral
  split_ifs with h
  · exact .refl
  · rw [Bool.or_eq_true, not_or, Bool.not_eq_true', Bool.not_eq_false, Text.startsWith,
      Option.isSome_iff_exists] at h
    obtain ⟨-, rest, hrest⟩ := h
    exact .tail (.single (advance_note l _)) (advance_take (Text.after?_eq_some_iff.mp hrest))

theorem changes_setRules (l : Lexer σ ρ) (rules : List ρ) : Changes l (l.setRules rules) :=
  .tail (.single (.move (.note l _))) (.exchange _ _)

/-- A call that does not exchange the rules is a sequence of changes that do not either. -/
theorem advances_of_op {rounds : Nat} {c : Call ρ} {outcome : Outcome}
    (hc : c.keepsRules = true) (h : c.op rounds l = some (outcome, l')) : Advances l l' := by
  cases c with
  | peek =>
    rw [op_peek] at h
    obtain ⟨⟨r, l₁⟩, hp, hr⟩ := Option.map_eq_some_iff.mp h
    cases hr
    exact (moves_peekWithin hp).1.advances
  | scan =>
    rw [op_scan] at h
    obtain ⟨⟨r, l₁⟩, hs, hr⟩ := Option.map_eq_some_iff.mp h
    cases hr
    exact advances_scanWithin hs
  | next failed =>
    rw [op_next] at h
    split at h
    · cases h
      exact .refl
    · obtain ⟨⟨r, l₁⟩, hs, hr⟩ := Option.map_eq_some_iff.mp h
      cases hr
      exact advances_scanWithin hs
  | lastLine =>
    rw [op_lastLine] at h
    obtain ⟨⟨r, l₁⟩, hl, hr⟩ := Option.map_eq_some_iff.mp h
    cases hr
    exact advances_lastLine hl
  | skipLiteral literal =>
    cases h
    exact advances_skipLiteral l literal
  | setRules rules => cases hc
  | setWhitespace whitespace => cases hc
  | setRuleSet rules => cases hc

/-- Every call is a sequence of changes. -/
theorem changes_of_op {rounds : Nat} {c : Call ρ} {outcome : Outcome}
    (h : c.op rounds l = some (outcome, l')) : Changes l l' := by
  cases c with
  | setRules rules =>
    cases h
    exact changes_setRules l rules
  | setWhitespace whitespace =>
    cases h
    exact .single (.exchange l _)
  | setRuleSet rules =>
    cases h
    exact Relation.ReflTransGen.trans (.single (.exchange l _)) (changes_setRules _ _)
  | peek | scan | next | lastLine | skipLiteral => exact (advances_of_op rfl h).changes

theorem changes_of_leads {c : Call ρ} (h : c.Leads l l') : Changes l l' := by
  obtain ⟨rounds, h⟩ := h
  obtain ⟨⟨outcome, l₁⟩, hop, rfl⟩ := Option.map_eq_some_iff.mp h
  exact changes_of_op hop

/-- A call that does not exchange the rules keeps them. -/
theorem Call.Leads.rules_eq {c : Call ρ} (h : c.Leads l l') (hc : c.keepsRules = true) :
    l'.rules = l.rules := by
  obtain ⟨rounds, h⟩ := h
  obtain ⟨⟨outcome, l₁⟩, hop, rfl⟩ := Option.map_eq_some_iff.mp h
  exact (advances_of_op hc hop).rules_eq

end

end Lexer

end RuleLexer
