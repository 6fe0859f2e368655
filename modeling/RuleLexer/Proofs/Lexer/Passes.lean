import RuleLexer.Proofs.Lexer.Facing
import RuleLexer.Proofs.Lexer.Moves

/-!
# What looking for a token comes to

A lexer looks for a token in passes over its rules. Before a pass it passes over white space and
tops the buffer up (`PassStart`), and between two rules it does so again. Whatever has come in the
meantime shows in the generation, so a pass can end in four ways only (`Passed`): a read has failed,
text has come, one of the rules has found a token, or all rules have missed. In the last two, the
rules that missed have missed on the buffer with which the pass began.

* `Skips.still`: if no text has come, passing over white space a second time changes nothing.
* `generation_lt_or_of_matchRule`, `settled_of_matchRule`: what it means that a rule has missed, and
  that it has found a token.
* `passed_of_tryRules`: a pass over rules ends in one of the four ways.
* `peekWithin_cases`: looking for a token ends with a failed read, or with a pass in which no text
  has come between the rules.
* `exists_hit_of_peekWithin`: a token that is found is the hit of one of the rules.

All of this holds for every source, whatever its reads bring.
-/

namespace RuleLexer.Lexer

variable {σ ρ : Type} [ByteSource σ]

/-! ### Reads and notes only -/

/-- One thing that asking a rule can do to a lexer. -/
inductive Refill : Lexer σ ρ → Lexer σ ρ → Prop where
  | read (l : Lexer σ ρ) : Refill l l.fill.2
  | note (l : Lexer σ ρ) (e : Event) : Refill l (l.note e)

/-- Any number of reads and notes. -/
abbrev Refills : Lexer σ ρ → Lexer σ ρ → Prop := Relation.ReflTransGen Refill

/-- Reads and notes stay in their place and only ever add to the end of the buffer. -/
theorem Refills.append {l l' : Lexer σ ρ} (h : Refills l l') :
    l.SamePlace l' ∧ ∃ new, l'.buffer = l.buffer ++ new := by
  induction h with
  | refl => exact ⟨⟨rfl, rfl, rfl, rfl⟩, [], (List.append_nil _).symm⟩
  | @tail m l' _ hstep ih =>
    obtain ⟨hsame, new, hnew⟩ := ih
    cases hstep with
    | read =>
      obtain ⟨hsame', new', hnew'⟩ := samePlace_fill m
      refine ⟨hsame.trans hsame', new ++ new', ?_⟩
      rw [hnew', hnew, List.append_assoc]
    | note e => exact ⟨⟨hsame.cursor, hsame.lineBack, hsame.rules, hsame.sizes⟩, new, hnew⟩

/-! ### Whether text has come -/

/-- No text has come and none has gone between two states: there were reads at most, and the buffer
is as it was. -/
structure Still (l l' : Lexer σ ρ) : Prop where
  refills : Refills l l'
  buffer : l'.buffer = l.buffer
  generation : l'.generation = l.generation

theorem Still.refl (l : Lexer σ ρ) : l.Still l := ⟨.refl, rfl, rfl⟩

theorem Still.trans {l l' l'' : Lexer σ ρ} (h : l.Still l') (h' : l'.Still l'') : l.Still l'' :=
  ⟨h.refills.trans h'.refills, h'.buffer.trans h.buffer, h'.generation.trans h.generation⟩

theorem Still.same {l l' : Lexer σ ρ} (h : l.Still l') : l.SamePlace l' := h.refills.append.1

/-- The generation tells whether a read has brought text, and a failed read has not. -/
theorem still_or_generation_lt_fill (l : Lexer σ ρ) :
    l.Still l.fill.2 ∨ l.generation < l.fill.2.generation := by
  have hread : Refills l l.fill.2 := .single (.read l)
  rcases l.fill_cases with ⟨-, hf⟩ | ⟨-, fault, -, hf⟩ | ⟨-, status, journal, -, hf⟩
  · rw [hf]
    exact Or.inl (Still.refl l)
  · rw [hf] at hread ⊢
    exact Or.inl ⟨hread, rfl, rfl⟩
  · rw [hf] at hread ⊢
    by_cases hnew : l.asked.brought status = []
    · refine Or.inl ⟨hread, ?_, if_pos hnew⟩
      show l.buffer ++ l.asked.brought status = l.buffer
      rw [hnew, List.append_nil]
    · right
      show l.generation < if l.asked.brought status = [] then l.generation else l.generation + 1
      rw [if_neg hnew]
      exact Nat.lt_succ_self _

theorem generation_le_fill (l : Lexer σ ρ) : l.generation ≤ l.fill.2.generation := by
  rcases still_or_generation_lt_fill l with h | h
  · exact Nat.le_of_eq h.generation.symm
  · exact Nat.le_of_lt h

variable [TokenRule ρ] {l l' : Lexer σ ρ}

theorem Still.blank?_eq (h : l.Still l') : l'.blank? = l.blank? := by
  unfold blank?
  rw [h.same.rules, h.same.cursor, h.buffer]

theorem Move.generation_le (h : Move l l') : l.generation ≤ l'.generation := by
  cases h with
  | skip hs =>
    cases hs with
    | topUp _ => exact generation_le_fill l
    | pass _ => exact Nat.le_refl _
  | note e => exact Nat.le_refl _
  | retry _ _ _ => exact generation_le_fill l

/-- The generation only ever goes up. -/
theorem Moves.generation_le (h : Moves l l') : l.generation ≤ l'.generation := by
  induction h with
  | refl => exact Nat.le_refl _
  | tail _ hm ih => exact Nat.le_trans ih hm.generation_le

/-- **Behind the white space, passing over it again changes nothing** unless text has come. -/
theorem Skips.still (h : Skips l l') (hb : l.blank? = none)
    (hg : l'.generation = l.generation) : l.Still l' := by
  induction h using Relation.ReflTransGen.head_induction_on with
  | refl => exact Still.refl l'
  | @head l m hstep hrest ih =>
    have hle : l.generation ≤ m.generation := (Move.skip hstep).generation_le
    have hle' : m.generation ≤ l'.generation := (Skips.moves hrest).generation_le
    cases hstep with
    | topUp _ =>
      -- the generation has not gone up, so the read has brought no text
      have hstill : l.Still l.fill.2 := by
        rcases still_or_generation_lt_fill l with hs | hlt
        · exact hs
        · omega
      have hrest' : l.fill.2.Still l' := by
        apply ih
        · rw [hstill.blank?_eq]
          exact hb
        · rw [hg, hstill.generation]
      exact hstill.trans hrest'
    | pass hblank =>
      rw [hb] at hblank
      cases hblank

/-! ### Failed reads -/

/-- A read on the way has failed. -/
def Fails (l : Lexer σ ρ) (e : LexError) (l' : Lexer σ ρ) : Prop :=
  ∃ l₀, Moves l l₀ ∧ l₀.fill = (.error e, l')

theorem Fails.after {l₁ : Lexer σ ρ} {e : LexError} (h : Fails l₁ e l') (hm : Moves l l₁) :
    Fails l e l' := by
  obtain ⟨l₀, hm', hf⟩ := h
  exact ⟨l₀, hm.trans hm', hf⟩

/-- What fails is a read, and the error says where the lexer stands. -/
theorem Fails.eq_read {e : LexError} (h : Fails l e l') : ∃ fault, e = .read l'.cursor fault := by
  obtain ⟨l₀, -, hf⟩ := h
  obtain ⟨fault, -, rfl, rfl⟩ := fill_eq_error hf
  exact ⟨fault, rfl⟩

/-! ### Before a pass -/

/-- A buffer that was topped up on the way: it holds as many bytes as are wanted, or the last read
has brought none. -/
def ToppedUp (l l' : Lexer σ ρ) : Prop :=
  l'.buffer.hasBytes l'.sizes.mark = true ∨ ∃ l₀, Moves l l₀ ∧ l₀.fill = (.ok 0, l')

theorem ToppedUp.after {l₁ : Lexer σ ρ} (h : ToppedUp l₁ l') (hm : Moves l l₁) :
    ToppedUp l l' := by
  rcases h with h | ⟨l₀, hm', hf⟩
  · exact Or.inl h
  · exact Or.inr ⟨l₀, hm.trans hm', hf⟩

theorem topUp_cases {n : Nat} {r : Except LexError Unit}
    (h : topUp l.sizes.mark n l = some (r, l')) :
    match r with
    | .error e => Fails l e l'
    | .ok _ => ToppedUp l l' := by
  obtain ⟨-, hfailed, hdone⟩ := topUp_run (fun m hm => Move.skip (.topUp m hm)) h
  cases r with
  | error e => exact hfailed e rfl
  | ok u => exact hdone rfl

omit [TokenRule ρ] in
/-- Topping up makes reads only, however it ends. -/
theorem refills_topUp {n : Nat} {r : Except LexError Unit}
    (h : topUp l.sizes.mark n l = some (r, l')) : Refills l l' :=
  (topUp_run (fun m _ => .read m) h).1

/-- What was done before a pass: white space was passed over and the buffer topped up. -/
structure PassStart (l l₁ : Lexer σ ρ) : Prop where
  moves : Moves l l₁
  topped : ToppedUp l l₁
  blank : l₁.blank? = none

theorem PassStart.after {l₁ : Lexer σ ρ} (h : PassStart l₁ l') (hm : Moves l l₁) :
    PassStart l l' :=
  ⟨hm.trans h.moves, h.topped.after hm, h.blank⟩

theorem skipWhitespace_cases {n : Nat} {r : Except LexError Unit}
    (h : skipWhitespace n l = some (r, l')) :
    match r with
    | .error e => Fails l e l'
    | .ok _ => PassStart l l' := by
  induction n generalizing l with
  | zero => cases h
  | succ n ih =>
    rw [skipWhitespace_succ] at h
    split at h
    · cases h
    · next e l₁ he =>
      cases h
      exact topUp_cases he
    · next l₁ he =>
      have hmoves : Moves l l₁ := (skips_ensureBuffered he).moves
      have htopped : ToppedUp l l₁ := topUp_cases he
      split at h
      · next hblank =>
        cases h
        exact ⟨hmoves, htopped, hblank⟩
      · next token hblank =>
        have hpass : Moves l (l₁.consume token.literal) := hmoves.tail (.skip (.pass l₁ hblank))
        have hrest := ih h
        cases r with
        | error e => exact Fails.after hrest hpass
        | ok u => exact PassStart.after hrest hpass

/-! ### Asking a rule -/

theorem fails_of_matchRule {rule : ρ} {n : Nat} {e : LexError} (hrule : rule ∈ l.rules.rules)
    (h : matchRule rule n l = some (.error e, l')) : Fails l e l' :=
  (moves_matchRule hrule h).2.1 e rfl

/-- Asking a rule only reads, whatever it answers. -/
theorem refills_matchRule {rule : ρ} {n : Nat} {r : Except LexError (Option Token)}
    (h : matchRule rule n l = some (r, l')) : Refills l l' :=
  (matchRule_run (fun m _ _ _ _ => .read m) (.note · _) h).1

/-- **A rule that has missed** has missed on the buffer as it was, unless text has come. -/
theorem generation_lt_or_of_matchRule {rule : ρ} {n : Nat}
    (h : matchRule rule n l = some (.ok none, l')) :
    l.generation < l'.generation ∨
      l' = l ∧ TokenRule.hit? rule l.buffer l.cursor = none := by
  induction n generalizing l with
  | zero => cases h
  | succ n ih =>
    rw [matchRule_succ] at h
    split at h
    · next hmiss =>
      cases h
      exact Or.inr ⟨rfl, hmiss⟩
    · next token ht =>
      -- here the rule has found something at first, so a read must have brought text
      left
      split at h
      · cases h
      · split at h
        · cases h
        · next k l₁ hf =>
          split at h
          · cases h
          · have hread := still_or_generation_lt_fill l
            rw [hf] at hread
            rcases ih h with hlt | ⟨rfl, hmiss⟩
            · have hlt' : l₁.generation < l'.generation := hlt
              rcases hread with hstill | hgrew
              · exact hstill.generation ▸ hlt'
              · exact Nat.lt_trans hgrew hlt'
            · rcases hread with hstill | hgrew
              · have hmiss' : TokenRule.hit? rule l₁.buffer l₁.cursor = none := hmiss
                rw [hstill.buffer, hstill.same.cursor, ht] at hmiss'
                cases hmiss'
              · exact hgrew

/-- A rule that has found a token, asked for the last time: the source is at its end, or the token
leaves text over in the buffer, or a last read has brought no bytes. -/
structure Settled (rule : ρ) (token : Token) (l l' : Lexer σ ρ) : Prop where
  hit : TokenRule.hit? rule l.buffer l.cursor = some token
  last : (l' = l ∧ (l.exhausted = true ∨ token.literal ≠ l.buffer)) ∨ l.fill = (.ok 0, l')

/-- Once a rule has settled, the lexer stays where it is, and all that can still come is a character
for what was left of one. -/
theorem Settled.append {rule : ρ} {token : Token} (h : Settled rule token l l') :
    l.SamePlace l' ∧
      ∃ last, l'.buffer = l.buffer ++ last ∧ (last = [] ∨ last = [Utf8.replacement]) := by
  rcases h.last with ⟨rfl, -⟩ | hfill
  · exact ⟨⟨rfl, rfl, rfl, rfl⟩, [], (List.append_nil _).symm, Or.inl rfl⟩
  · have hsame := (samePlace_fill l).1
    rw [hfill] at hsame
    exact ⟨hsame, buffer_of_fill_zero hfill⟩

/-- **A rule that gives a token settles on it** after some reads. It makes reads only if its first
match has taken all of the buffer. -/
theorem settled_of_matchRule {rule : ρ} {n : Nat} {token : Token}
    (h : matchRule rule n l = some (.ok (some token), l')) :
    ∃ first l₁, TokenRule.hit? rule l.buffer l.cursor = some first ∧
      (first.literal = l.buffer ∨ l' = l) ∧ Refills l l₁ ∧ Settled rule token l₁ l' := by
  induction n generalizing l with
  | zero => cases h
  | succ n ih =>
    rw [matchRule_succ] at h
    split at h
    · cases h
    · next first ht =>
      refine ⟨first, ?_⟩
      split at h
      · next hstop =>
        cases h
        refine ⟨l', ht, Or.inr rfl, .refl, ht, Or.inl ⟨rfl, ?_⟩⟩
        rw [Bool.or_eq_true, Bool.not_eq_true', List.isEmpty_eq_false_iff] at hstop
        rcases hstop with hend | hover
        · exact Or.inl hend
        · right
          intro hall
          rw [hall, List.drop_length] at hover
          exact hover rfl
      · next hcond =>
        have hall : first.literal = l.buffer := literal_eq_buffer ht hcond
        split at h
        · cases h
        · next k l₁ hf =>
          split at h
          · next hk =>
            cases h
            rw [hk] at hf
            exact ⟨l, ht, Or.inl hall, .refl, ht, Or.inr hf⟩
          · have hread : Refills l l.fill.2 := .single (.read l)
            rw [hf] at hread
            obtain ⟨-, l₂, -, -, hrefills, hsettled⟩ := ih h
            exact ⟨l₂, ht, Or.inl hall, (hread.tail (.note l₁ _)).trans hrefills, hsettled⟩

/-! ### A pass over the rules -/

/-- How a pass over rules can end. Where it is said that a rule has missed, it has missed on the
buffer with which the pass began. -/
inductive Passed (rules : List ρ) (l : Lexer σ ρ) : Except LexError Attempt → Lexer σ ρ → Prop where
  | failed {e : LexError} {l' : Lexer σ ρ} (h : Fails l e l') : Passed rules l (.error e) l'
  | grew {l' : Lexer σ ρ} (h : l.generation < l'.generation) : Passed rules l (.ok .grew) l'
  | matched {l₁ l' : Lexer σ ρ} {before after : List ρ} {rule : ρ} {token : Token} {rounds : Nat}
      (hrules : rules = before ++ rule :: after)
      (hmiss : ∀ r ∈ before, TokenRule.hit? r l.buffer l.cursor = none) (hstill : l.Still l₁)
      (hmatch : matchRule rule rounds l₁ = some (.ok (some token), l')) :
      Passed rules l (.ok (.matched token)) l'
  | missed {l' : Lexer σ ρ} (hstill : l.Still l')
      (hmiss : ∀ r ∈ rules, TokenRule.hit? r l.buffer l.cursor = none) :
      Passed rules l (.ok .noMatch) l'

/-- One more rule in front that has missed. -/
theorem Passed.cons {l₁ : Lexer σ ρ} {rules : List ρ} {r : Except LexError Attempt}
    (h : Passed rules l₁ r l') {rule : ρ} (hm : Moves l l₁) (hstill : l.Still l₁)
    (hrule : TokenRule.hit? rule l.buffer l.cursor = none) : Passed (rule :: rules) l r l' := by
  cases h with
  | failed h => exact .failed (h.after hm)
  | grew h => exact .grew (hstill.generation ▸ h)
  | @matched l₂ _ before after rule' token rounds hrules hmiss hstill' hmatch =>
    have hsplit : rule :: rules = (rule :: before) ++ rule' :: after := by
      rw [hrules]
      rfl
    refine .matched hsplit ?_ (hstill.trans hstill') hmatch
    intro q hq
    rcases List.mem_cons.mp hq with rfl | hq
    · exact hrule
    · rw [← hstill.buffer, ← hstill.same.cursor]
      exact hmiss q hq
  | missed hstill' hmiss =>
    refine .missed (hstill.trans hstill') ?_
    intro q hq
    rcases List.mem_cons.mp hq with rfl | hq
    · exact hrule
    · rw [← hstill.buffer, ← hstill.same.cursor]
      exact hmiss q hq

/-- Once text has come, no rule is asked anymore in a pass. -/
theorem tryRules_of_generation_lt {rounds generation : Nat} {rules : List ρ}
    {r : Except LexError Attempt} (hg : generation < l.generation)
    (h : tryRules rounds generation rules l = some (r, l')) :
    match r with
    | .error e => Fails l e l'
    | .ok a => a = .grew ∧ generation < l'.generation := by
  cases rules with
  | nil =>
    rw [tryRules_nil, if_pos (Nat.ne_of_gt hg)] at h
    cases h
    exact ⟨rfl, hg⟩
  | cons rule rest =>
    rw [tryRules_cons] at h
    split at h
    · cases h
    · next e l₁ hs =>
      cases h
      exact skipWhitespace_cases hs
    · next l₁ hs =>
      have h₁ : Moves l l₁ := (skips_skipWhitespace hs).moves
      split at h
      · cases h
      · next e l₂ he =>
        cases h
        exact Fails.after (topUp_cases he) h₁
      · next l₂ he =>
        have h₂ : Moves l l₂ := h₁.trans (skips_ensureBuffered he).moves
        have hle := h₂.generation_le
        rw [if_pos (by omega)] at h
        cases h
        exact ⟨rfl, by omega⟩

/-- **A pass over rules ends in one of four ways.** -/
theorem passed_of_tryRules {rounds : Nat} {rules : List ρ} {r : Except LexError Attempt}
    (hrules : ∀ rule ∈ rules, rule ∈ l.rules.rules) (hb : l.blank? = none)
    (h : tryRules rounds l.generation rules l = some (r, l')) : Passed rules l r l' := by
  induction rules generalizing l with
  | nil =>
    rw [tryRules_nil, if_neg (not_not_intro rfl)] at h
    cases h
    exact .missed (Still.refl l') fun q hq => absurd hq List.not_mem_nil
  | cons rule rest ih =>
    rw [tryRules_cons] at h
    split at h
    · cases h
    · next e l₁ hs =>
      cases h
      exact .failed (skipWhitespace_cases hs)
    · next l₁ hs =>
      have h₁ : Skips l l₁ := skips_skipWhitespace hs
      split at h
      · cases h
      · next e l₂ he =>
        cases h
        exact .failed (Fails.after (topUp_cases he) h₁.moves)
      · next l₂ he =>
        have h₂ : Skips l l₂ := h₁.trans (skips_ensureBuffered he)
        have hle := h₂.moves.generation_le
        split at h
        · next hne =>
          cases h
          exact .grew (by omega)
        · next heq =>
          -- no text has come, so the rule is asked about the buffer of the start
          have hstill : l.Still l₂ := h₂.still hb (not_not.mp heq)
          have hrule₂ : rule ∈ l₂.rules.rules := by
            rw [h₂.moves.rules_eq]
            exact hrules rule (List.mem_cons_self ..)
          split at h
          · cases h
          · next e l₃ hm =>
            cases h
            exact .failed ((fails_of_matchRule hrule₂ hm).after h₂.moves)
          · next token l₃ hm =>
            cases h
            have hsplit : rule :: rest = [] ++ rule :: rest := rfl
            exact .matched hsplit (fun q hq => absurd hq List.not_mem_nil) hstill hm
          · next l₃ hm =>
            rcases generation_lt_or_of_matchRule hm with hlt | ⟨rfl, hmiss⟩
            · -- the rule itself has read on before it missed
              have h₃ : Moves l l₃ := h₂.moves.trans (moves_matchRule hrule₂ hm).1
              have hgrew := tryRules_of_generation_lt (by rw [← hstill.generation]; exact hlt) h
              cases r with
              | error e => exact .failed (Fails.after hgrew h₃)
              | ok a =>
                obtain ⟨rfl, hlt'⟩ := hgrew
                exact .grew hlt'
            · rw [hstill.buffer, hstill.same.cursor] at hmiss
              rw [← hstill.generation] at h
              have hrest : ∀ q ∈ rest, q ∈ l₃.rules.rules := by
                intro q hq
                rw [h₂.moves.rules_eq]
                exact hrules q (List.mem_cons_of_mem _ hq)
              have hblank : l₃.blank? = none := by
                rw [hstill.blank?_eq]
                exact hb
              exact (ih hrest hblank h).cons h₂.moves hstill hmiss

/-! ### All passes -/

/-- **What looking for a token comes to**: a read has failed, or the last pass has found a token, or
the last pass has found none, and then what is in the buffer decides the answer. -/
theorem peekWithin_cases {rounds n : Nat} {res : Except LexError (Option Token)}
    (h : peekWithin rounds n l = some (res, l')) :
    (∃ e, res = .error e ∧ Fails l e l') ∨
    (∃ l₁ token, PassStart l l₁ ∧ Passed l₁.rules.rules l₁ (.ok (.matched token)) l' ∧
      res = .ok (some token)) ∨
    (∃ l₁ l₂, PassStart l l₁ ∧ Passed l₁.rules.rules l₁ (.ok .noMatch) l₂ ∧
      l₂.noToken = (res, l')) := by
  induction n generalizing l with
  | zero => cases h
  | succ n ih =>
    rw [peekWithin_succ] at h
    split at h
    · cases h
    · next e l₁ hs =>
      cases h
      exact Or.inl ⟨e, rfl, skipWhitespace_cases hs⟩
    · next l₁ hs =>
      have hstart : PassStart l l₁ := skipWhitespace_cases hs
      split at h
      · cases h
      · next e l₂ ht =>
        cases h
        have hpass := passed_of_tryRules (fun _ hq => hq) hstart.blank ht
        cases hpass with
        | failed hfails => exact Or.inl ⟨e, rfl, hfails.after hstart.moves⟩
      · next token l₂ ht =>
        cases h
        have hpass := passed_of_tryRules (fun _ hq => hq) hstart.blank ht
        exact Or.inr (Or.inl ⟨l₁, token, hstart, hpass, rfl⟩)
      · next l₂ ht =>
        -- another pass, which starts behind all that was done in this one
        have hmoves : Moves l (l₂.note .grewWhileMatching) :=
          (hstart.moves.trans (moves_tryRules (fun _ hq => hq) ht).1).tail (.note l₂ _)
        rcases ih h with ⟨e, rfl, hfails⟩ | ⟨l₃, token, hstart', hpass, rfl⟩ |
          ⟨l₃, l₄, hstart', hpass, hno⟩
        · exact Or.inl ⟨e, rfl, hfails.after hmoves⟩
        · exact Or.inr (Or.inl ⟨l₃, token, hstart'.after hmoves, hpass, rfl⟩)
        · exact Or.inr (Or.inr ⟨l₃, l₄, hstart'.after hmoves, hpass, hno⟩)
      · next l₂ ht =>
        have hpass := passed_of_tryRules (fun _ hq => hq) hstart.blank ht
        exact Or.inr (Or.inr ⟨l₁, l₂, hstart, hpass, Option.some.inj h⟩)

/-- **A token that is found is the hit of one of the rules**, where the lexer stands. The rule has
seen all of the buffer but a character that the end of the input may have made of an unfinished
one. -/
theorem exists_hit_of_peekWithin {rounds n : Nat} {token : Token}
    (h : peekWithin rounds n l = some (.ok (some token), l')) :
    ∃ rule ∈ l'.rules.rules, ∃ seen last, l'.buffer = seen ++ last ∧
      (last = [] ∨ last = [Utf8.replacement]) ∧
      TokenRule.hit? rule seen l'.cursor = some token := by
  rcases peekWithin_cases h with ⟨e, he, -⟩ | ⟨l₁, token', -, hpass, htoken⟩ | ⟨l₁, l₂, -, -, hno⟩
  · cases he
  · cases htoken
    cases hpass with
    | @matched l₂ _ before after rule _ m hrules _ hstill hmatch =>
      obtain ⟨-, l₃, -, -, hrefills, hsettled⟩ := settled_of_matchRule hmatch
      obtain ⟨hsame, last, hlast, hchar⟩ := hsettled.append
      have hplace : l₁.SamePlace l' := (hstill.same.trans hrefills.append.1).trans hsame
      refine ⟨rule, ?_, l₃.buffer, last, hlast, hchar, ?_⟩
      · rw [hplace.rules, hrules]
        exact List.mem_append_right _ (List.mem_cons_self ..)
      · rw [hsame.cursor]
        exact hsettled.hit
  · unfold noToken at hno
    split at hno <;> cases hno

end RuleLexer.Lexer
