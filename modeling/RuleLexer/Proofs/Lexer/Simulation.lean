import Mathlib.Data.List.Forall2
import Mathlib.Tactic.SplitIfs
import RuleLexer.Proofs.Lexer.Read
import RuleLexer.Proofs.Lexer.Sessions

/-!
# Two lexers side by side

The loops of a lexer look at a few of its fields only (`SameView`), and they change it in a few ways
only: by a read, a note, or by consuming a literal. So whatever relation between two lexers shows
them the same view and survives these changes survives every loop, every call and every row of
calls, and both lexers answer alike (`Simulates`). A failed read and an unknown token end a call;
they have a relation of their own, which may depend on the error.

* `Simulates.peekWithin` and the like: one lemma for each loop, made of the lemmas for the loops
  that it calls.
* `Simulates.op`, `Simulates.run`: every call, and any number of them.
* `Upholds.op`, `Upholds.run`: the same for a single lexer, where a property takes the place of the
  relation.
* `simulates_recast`: lexers over sources that reply alike, one of which has an older journal.
-/

namespace RuleLexer

/-- An event that nobody needs to be warned of. -/
def Event.Quiet (e : Event) : Prop := e.level.atLeast .warn = false

variable {σ τ ρ : Type}

namespace Lexer

/-- The same to look at: two lexers agree in all fields that a loop looks at. -/
structure SameView (l : Lexer σ ρ) (m : Lexer τ ρ) : Prop where
  buffer : m.buffer = l.buffer
  exhausted : m.exhausted = l.exhausted
  generation : m.generation = l.generation
  lineBack : m.lineBack = l.lineBack
  cursor : m.cursor = l.cursor
  rules : m.rules = l.rules
  sizes : m.sizes = l.sizes

/-- Two ends of an operation that match: both have not come to an end within their rounds, or both
give the same answer or the same error, with lexers that are related then. -/
inductive Matches {α : Type} (R : Lexer σ ρ → Lexer τ ρ → Prop)
    (F : LexError → Lexer σ ρ → Lexer τ ρ → Prop) :
    Option (Except LexError α × Lexer σ ρ) → Option (Except LexError α × Lexer τ ρ) → Prop where
  | outOfRounds : Matches R F none none
  | answer (a : α) {l : Lexer σ ρ} {m : Lexer τ ρ} (h : R l m) :
      Matches R F (some (.ok a, l)) (some (.ok a, m))
  | failure (e : LexError) {l : Lexer σ ρ} {m : Lexer τ ρ} (h : F e l m) :
      Matches R F (some (.error e, l)) (some (.error e, m))

/-- The relation after an outcome: the first one if there was no error. -/
def Follows (R : Lexer σ ρ → Lexer τ ρ → Prop) (F : LexError → Lexer σ ρ → Lexer τ ρ → Prop) :
    Option LexError → Lexer σ ρ → Lexer τ ρ → Prop
  | none => R
  | some e => F e

/-- If errors do not part the lexers, the outcome does not matter. -/
theorem follows_self {R : Lexer σ ρ → Lexer τ ρ → Prop} {error : Option LexError}
    {l : Lexer σ ρ} {m : Lexer τ ρ} : Follows R (fun _ => R) error l m ↔ R l m := by
  cases error <;> exact Iff.rfl

/-- Ends that match give outcomes that match, whatever the answer is called. -/
theorem Matches.outcome {α : Type} {R : Lexer σ ρ → Lexer τ ρ → Prop}
    {F : LexError → Lexer σ ρ → Lexer τ ρ → Prop} {x : Option (Except LexError α × Lexer σ ρ)}
    {y : Option (Except LexError α × Lexer τ ρ)} (h : Matches R F x y) {answer : α → Answer}
    (hanswer : ∀ a, Outcome.error? (.ok (answer a)) = none) :
    Option.Rel (fun p q => q.1 = p.1 ∧ Follows R F (Outcome.error? p.1) p.2 q.2)
      (x.map fun p => (p.1.map answer, p.2)) (y.map fun p => (p.1.map answer, p.2)) := by
  cases h with
  | outOfRounds => exact .none
  | failure e he => exact .some ⟨rfl, he⟩
  | answer a ha =>
    refine .some ⟨rfl, ?_⟩
    show Follows R F (Outcome.error? (.ok (answer a))) _ _
    rw [hanswer]
    exact ha

variable [ByteSource σ] [ByteSource τ]

/-- **A relation that everything a lexer does preserves.** -/
structure Simulates (R : Lexer σ ρ → Lexer τ ρ → Prop)
    (F : LexError → Lexer σ ρ → Lexer τ ρ → Prop) : Prop where
  view : ∀ {l m}, R l m → SameView l m
  fill : ∀ {l m}, R l m → Matches R F (some l.fill) (some m.fill)
  note : ∀ {l m} {e : Event}, e.Quiet → R l m → R (l.note e) (m.note e)
  /-- Nothing is recognised at the front of the buffer. -/
  unknown : ∀ {l m} (literal : Text), R l m → F (.unknownToken literal l.cursor)
    (l.note (.unknownToken literal l.cursor)) (m.note (.unknownToken literal l.cursor))
  consume : ∀ {l m} (literal : Text), R l m → R (l.consume literal) (m.consume literal)
  exchange : ∀ {l m} (rules : RuleSet ρ), R l m → R { l with rules } { m with rules }

namespace Simulates

variable {R : Lexer σ ρ → Lexer τ ρ → Prop} {F : LexError → Lexer σ ρ → Lexer τ ρ → Prop}
  {l : Lexer σ ρ} {m : Lexer τ ρ}

/-! ### Loop by loop -/

theorem topUp (h : Simulates R F) (mark n : Nat) (hlm : R l m) :
    Matches R F (Lexer.topUp mark n l) (Lexer.topUp mark n m) := by
  induction n generalizing l m with
  | zero => exact .outOfRounds
  | succ n ih =>
    have hread := h.fill hlm
    rw [topUp_succ, topUp_succ, (h.view hlm).buffer]
    generalize l.fill = x, m.fill = y at hread
    split_ifs
    · exact .answer _ hlm
    · cases hread with
      | failure e he => exact .failure e he
      | answer k hk =>
        simp only
        split_ifs
        · exact .answer _ hk
        · exact ih hk

theorem ensureBuffered (h : Simulates R F) (hlm : R l m) :
    Matches R F (Lexer.ensureBuffered l) (Lexer.ensureBuffered m) := by
  rw [ensureBuffered_eq, ensureBuffered_eq, (h.view hlm).sizes]
  exact h.topUp _ _ hlm

theorem lastLine (h : Simulates R F) (hlm : R l m) :
    Matches R F (Lexer.lastLine l) (Lexer.lastLine m) := by
  have hensure := h.ensureBuffered hlm
  rw [lastLine_eq, lastLine_eq]
  generalize Lexer.ensureBuffered l = x, Lexer.ensureBuffered m = y at hensure
  cases hensure with
  | outOfRounds => exact .outOfRounds
  | failure e he => exact .failure e he
  | @answer _ l₁ m₁ h₁ =>
    have hsame : m₁.line ++ m₁.buffer.firstLine = l₁.line ++ l₁.buffer.firstLine := by
      rw [line, line, (h.view h₁).lineBack, (h.view h₁).buffer]
    simp only [hsame]
    exact .answer _ h₁

theorem skipLiteral (h : Simulates R F) (literal : Text) (hlm : R l m) :
    (m.skipLiteral literal).1 = (l.skipLiteral literal).1 ∧
      R (l.skipLiteral literal).2 (m.skipLiteral literal).2 := by
  unfold Lexer.skipLiteral
  rw [(h.view hlm).buffer, (h.view hlm).cursor]
  split_ifs
  · exact ⟨rfl, hlm⟩
  · exact ⟨rfl, h.consume literal (h.note rfl hlm)⟩

theorem setRules (h : Simulates R F) (rules : List ρ) (hlm : R l m) :
    R (l.setRules rules) (m.setRules rules) := by
  have hnoted : R (l.note (.rulesReplaced l.rules.rules.length rules.length))
      (m.note (.rulesReplaced l.rules.rules.length rules.length)) := h.note rfl hlm
  have hset : m.setRules rules =
      { m.note (.rulesReplaced l.rules.rules.length rules.length) with
        rules := { l.rules with rules } } := by
    rw [← (h.view hlm).rules]
    rfl
  rw [hset]
  exact h.exchange { l.rules with rules } hnoted

theorem setWhitespace (h : Simulates R F) (whitespace : Option ρ) (hlm : R l m) :
    R (l.setWhitespace whitespace) (m.setWhitespace whitespace) := by
  unfold Lexer.setWhitespace
  rw [(h.view hlm).rules]
  exact h.exchange _ hlm

variable [TokenRule ρ]

theorem skipWhitespace (h : Simulates R F) (n : Nat) (hlm : R l m) :
    Matches R F (Lexer.skipWhitespace n l) (Lexer.skipWhitespace n m) := by
  induction n generalizing l m with
  | zero => exact .outOfRounds
  | succ n ih =>
    have hensure := h.ensureBuffered hlm
    rw [skipWhitespace_succ, skipWhitespace_succ]
    generalize Lexer.ensureBuffered l = x, Lexer.ensureBuffered m = y at hensure
    cases hensure with
    | outOfRounds => exact .outOfRounds
    | failure e he => exact .failure e he
    | @answer _ l₁ m₁ h₁ =>
      have hblank : m₁.blank? = l₁.blank? := by
        rw [blank?, blank?, (h.view h₁).rules, (h.view h₁).buffer, (h.view h₁).cursor]
      simp only [hblank]
      cases l₁.blank? with
      | none => exact .answer _ h₁
      | some token => exact ih (h.consume token.literal h₁)

theorem matchRule (h : Simulates R F) (rule : ρ) (n : Nat) (hlm : R l m) :
    Matches R F (Lexer.matchRule rule n l) (Lexer.matchRule rule n m) := by
  induction n generalizing l m with
  | zero => exact .outOfRounds
  | succ n ih =>
    have hread := h.fill hlm
    rw [matchRule_succ, matchRule_succ, (h.view hlm).buffer, (h.view hlm).cursor,
      (h.view hlm).exhausted]
    generalize l.fill = x, m.fill = y at hread
    cases TokenRule.hit? rule l.buffer l.cursor with
    | none => exact .answer _ hlm
    | some token =>
      simp only
      split_ifs
      · exact .answer _ hlm
      · cases hread with
        | failure e he => exact .failure e he
        | answer k hk =>
          simp only
          split_ifs
          · exact .answer _ hk
          · exact ih (h.note rfl hk)

theorem tryRules (h : Simulates R F) (rounds generation : Nat) (rules : List ρ) (hlm : R l m) :
    Matches R F (Lexer.tryRules rounds generation rules l)
      (Lexer.tryRules rounds generation rules m) := by
  induction rules generalizing l m with
  | nil =>
    rw [tryRules_nil, tryRules_nil, (h.view hlm).generation]
    exact .answer _ hlm
  | cons rule rest ih =>
    have hskip := h.skipWhitespace rounds hlm
    rw [tryRules_cons, tryRules_cons]
    generalize Lexer.skipWhitespace rounds l = x, Lexer.skipWhitespace rounds m = y at hskip
    cases hskip with
    | outOfRounds => exact .outOfRounds
    | failure e he => exact .failure e he
    | @answer _ l₁ m₁ h₁ =>
      have hensure := h.ensureBuffered h₁
      simp only
      generalize Lexer.ensureBuffered l₁ = x, Lexer.ensureBuffered m₁ = y at hensure
      cases hensure with
      | outOfRounds => exact .outOfRounds
      | failure e he => exact .failure e he
      | @answer _ l₂ m₂ h₂ =>
        have hmatch := h.matchRule rule rounds h₂
        simp only [(h.view h₂).generation]
        generalize Lexer.matchRule rule rounds l₂ = x, Lexer.matchRule rule rounds m₂ = y at hmatch
        split_ifs
        · exact .answer _ h₂
        · cases hmatch with
          | outOfRounds => exact .outOfRounds
          | failure e he => exact .failure e he
          | answer token h₃ =>
            cases token with
            | none => exact ih h₃
            | some token => exact .answer _ h₃

theorem noToken (h : Simulates R F) (hlm : R l m) :
    Matches R F (some l.noToken) (some m.noToken) := by
  unfold Lexer.noToken
  rw [(h.view hlm).buffer, (h.view hlm).cursor, (h.view hlm).rules]
  split_ifs
  · exact .answer _ hlm
  · exact .failure _ (h.unknown _ hlm)

theorem peekWithin (h : Simulates R F) (rounds n : Nat) (hlm : R l m) :
    Matches R F (Lexer.peekWithin rounds n l) (Lexer.peekWithin rounds n m) := by
  induction n generalizing l m with
  | zero => exact .outOfRounds
  | succ n ih =>
    have hskip := h.skipWhitespace rounds hlm
    rw [peekWithin_succ, peekWithin_succ]
    generalize Lexer.skipWhitespace rounds l = x, Lexer.skipWhitespace rounds m = y at hskip
    cases hskip with
    | outOfRounds => exact .outOfRounds
    | failure e he => exact .failure e he
    | @answer _ l₁ m₁ h₁ =>
      have htry := h.tryRules rounds l₁.generation l₁.rules.rules h₁
      simp only [(h.view h₁).generation, (h.view h₁).rules]
      generalize Lexer.tryRules rounds l₁.generation l₁.rules.rules l₁ = x,
        Lexer.tryRules rounds l₁.generation l₁.rules.rules m₁ = y at htry
      cases htry with
      | outOfRounds => exact .outOfRounds
      | failure e he => exact .failure e he
      | answer attempt h₂ =>
        cases attempt with
        | matched token => exact .answer _ h₂
        | grew => exact ih (h.note rfl h₂)
        | noMatch => exact h.noToken h₂

theorem scanWithin (h : Simulates R F) (rounds : Nat) (hlm : R l m) :
    Matches R F (Lexer.scanWithin rounds l) (Lexer.scanWithin rounds m) := by
  have hpeek := h.peekWithin rounds rounds hlm
  rw [scanWithin_eq, scanWithin_eq]
  generalize Lexer.peekWithin rounds rounds l = x, Lexer.peekWithin rounds rounds m = y at hpeek
  cases hpeek with
  | outOfRounds => exact .outOfRounds
  | failure e he => exact .failure e he
  | answer token h₁ =>
    cases token with
    | none => exact .answer _ h₁
    | some token => exact .answer _ (h.note rfl (h.consume token.literal h₁))

/-! ### Calls -/

/-- **A call of both lexers** is answered alike. -/
theorem op (h : Simulates R F) (c : Call ρ) (rounds : Nat) (hlm : R l m) :
    Option.Rel (fun p q => q.1 = p.1 ∧ Follows R F (Outcome.error? p.1) p.2 q.2)
      (c.op rounds l) (c.op rounds m) := by
  cases c with
  | peek =>
    rw [op_peek, op_peek]
    exact (h.peekWithin rounds rounds hlm).outcome fun _ => rfl
  | scan =>
    rw [op_scan, op_scan]
    exact (h.scanWithin rounds hlm).outcome fun _ => rfl
  | next failed =>
    have hscan := h.scanWithin rounds hlm
    rw [op_next, op_next]
    generalize Lexer.scanWithin rounds l = x, Lexer.scanWithin rounds m = y at hscan
    split_ifs
    · exact .some ⟨rfl, hlm⟩
    · cases hscan with
      | outOfRounds => exact .none
      | failure e he => exact .some ⟨rfl, he⟩
      | answer token h₁ => cases token <;> exact .some ⟨rfl, h₁⟩
  | lastLine =>
    rw [op_lastLine, op_lastLine]
    exact (h.lastLine hlm).outcome fun _ => rfl
  | skipLiteral literal =>
    obtain ⟨hsame, h₁⟩ := h.skipLiteral literal hlm
    exact .some ⟨congrArg (Except.ok ∘ Answer.skipped) hsame, h₁⟩
  | setRules rules => exact .some ⟨rfl, h.setRules rules hlm⟩
  | setWhitespace whitespace => exact .some ⟨rfl, h.setWhitespace whitespace hlm⟩
  | setRuleSet rules =>
    exact .some ⟨rfl, h.setRules rules.rules (h.setWhitespace rules.whitespace hlm)⟩

/-- **Calls in a row** are answered alike one by one, if errors do not part the lexers. -/
theorem run (h : Simulates R fun _ => R) (rounds : Nat) (calls : List (Call ρ)) (hlm : R l m) :
    Option.Rel (List.Forall₂ fun p q => q.1 = p.1 ∧ R p.2 q.2)
      (run? rounds l calls) (run? rounds m calls) := by
  induction calls generalizing l m with
  | nil => exact .some .nil
  | cons c calls ih =>
    have hcall := h.op c rounds hlm
    unfold run?
    generalize c.op rounds l = x, c.op rounds m = y at hcall
    cases hcall with
    | none => exact .none
    | @some p q hpq =>
      obtain ⟨hsame, hfollows⟩ := hpq
      have hafter : R p.2 q.2 := follows_self.mp hfollows
      have hrest := ih hafter
      simp only [Option.bind_some]
      generalize run? rounds p.2 calls = xs, run? rounds q.2 calls = ys at hrest
      cases hrest with
      | none => exact .none
      | some hrest => exact .some (.cons ⟨hsame, hafter⟩ hrest)

end Simulates

/-! ### A single lexer -/

/-- A property that everything a lexer does preserves, with another one after an error. -/
structure Upholds (P : Lexer σ ρ → Prop) (Q : LexError → Lexer σ ρ → Prop) : Prop where
  read : ∀ {l l' : Lexer σ ρ} {k : Nat}, P l → l.fill = (.ok k, l') → P l'
  fail : ∀ {l l' : Lexer σ ρ} {e : LexError}, P l → l.fill = (.error e, l') → Q e l'
  note : ∀ {l : Lexer σ ρ} {e : Event}, e.Quiet → P l → P (l.note e)
  unknown : ∀ {l : Lexer σ ρ} (literal : Text), P l →
    Q (.unknownToken literal l.cursor) (l.note (.unknownToken literal l.cursor))
  consume : ∀ {l : Lexer σ ρ} (literal : Text), P l → P (l.consume literal)
  exchange : ∀ {l : Lexer σ ρ} (rules : RuleSet ρ), P l → P { l with rules }

namespace Upholds

variable {P : Lexer σ ρ → Prop} {Q : LexError → Lexer σ ρ → Prop}

/-- A lexer runs side by side with itself. -/
theorem simulates (h : Upholds P Q) :
    Simulates (fun l m => m = l ∧ P l) (fun e l m => m = l ∧ Q e l) where
  view := by
    rintro l _ ⟨rfl, -⟩
    exact ⟨rfl, rfl, rfl, rfl, rfl, rfl, rfl⟩
  fill := by
    rintro _ l ⟨rfl, hl⟩
    rcases hf : l.fill with ⟨e | k, l'⟩
    · exact .failure e ⟨rfl, h.fail hl hf⟩
    · exact .answer k ⟨rfl, h.read hl hf⟩
  note := by
    rintro l _ e he ⟨rfl, hl⟩
    exact ⟨rfl, h.note he hl⟩
  unknown := by
    rintro l _ literal ⟨rfl, hl⟩
    exact ⟨rfl, h.unknown literal hl⟩
  consume := by
    rintro l _ literal ⟨rfl, hl⟩
    exact ⟨rfl, h.consume literal hl⟩
  exchange := by
    rintro l _ rules ⟨rfl, hl⟩
    exact ⟨rfl, h.exchange rules hl⟩

/-- **What holds after a call.** -/
theorem op [TokenRule ρ] (h : Upholds P Q) {c : Call ρ} {rounds : Nat} {l l' : Lexer σ ρ}
    {outcome : Outcome} (hl : P l) (hop : c.op rounds l = some (outcome, l')) :
    match Outcome.error? outcome with
    | none => P l'
    | some e => Q e l' := by
  have hself := h.simulates.op c rounds ⟨rfl, hl⟩
  rw [hop, Option.rel_some_some] at hself
  obtain ⟨-, hfollows⟩ := hself
  split
  · next herror =>
    rw [herror] at hfollows
    exact hfollows.2
  · next e herror =>
    rw [herror] at hfollows
    exact hfollows.2

/-- **What holds after each of several calls**, if an error takes nothing away. -/
theorem run [TokenRule ρ] (h : Upholds P Q) (hafter : ∀ {e l}, Q e l → P l) {rounds : Nat}
    {calls : List (Call ρ)} {l : Lexer σ ρ} {results : List (Outcome × Lexer σ ρ)} (hl : P l)
    (hrun : run? rounds l calls = some results) :
    ∀ p ∈ results, match Outcome.error? p.1 with
      | none => P p.2
      | some e => Q e p.2 := by
  induction calls generalizing l results with
  | nil =>
    cases hrun
    exact fun p hp => absurd hp List.not_mem_nil
  | cons c calls ih =>
    obtain ⟨first, hop, hrest⟩ := Option.bind_eq_some_iff.mp hrun
    obtain ⟨others, hothers, rfl⟩ := Option.map_eq_some_iff.mp hrest
    have hfirst := h.op hl hop
    intro p hp
    rcases List.mem_cons.mp hp with rfl | hp
    · exact hfirst
    · refine ih ?_ hothers p hp
      split at hfirst
      · exact hfirst
      · exact hafter hfirst

end Upholds

end Lexer

/-! ### Other sources and older journals -/

/-- Sources that reply alike to reads through an area of some size, for as long as they are
asked. -/
def ReplyAlike [ByteSource σ] [ByteSource τ] (size : Nat) (S : σ → τ → Prop) : Prop :=
  ∀ {s t}, S s t → (ByteSource.readChunk t size).1 = (ByteSource.readChunk s size).1 ∧
    S (ByteSource.readChunk s size).2 (ByteSource.readChunk t size).2

namespace Lexer

/-- The same lexer over another source, with more in its journal before what it has noted. -/
def recast (l : Lexer σ ρ) (source : τ) (older : List Event) : Lexer τ ρ :=
  { l with source := source, journal := l.journal ++ older }

section

variable (l : Lexer σ ρ) (source : τ) (older : List Event)

theorem append_recast (pieces : List Utf8.Piece) :
    (l.recast source older).append pieces = (l.append pieces).recast source older := by
  unfold append recast
  simp only [List.append_assoc]

theorem flushPending_recast :
    (l.recast source older).flushPending = l.flushPending.recast source older := by
  unfold flushPending
  rw [apply_ite (recast · source older)]
  rfl

theorem decode_recast (bytes : List UInt8) :
    (l.recast source older).decode bytes = (l.decode bytes).recast source older := by
  have hpending : (l.recast source older).pending = l.pending := rfl
  unfold decode
  rw [hpending]
  rcases Utf8.decode l.pending bytes with ⟨pieces, pending⟩
  simp only [append_recast]
  rw [apply_ite (recast · source older), ← flushPending_recast]
  rfl

theorem accept_recast (status : ReadStatus) :
    (l.recast source older).accept status =
      ((l.accept status).1, (l.accept status).2.recast source older) := by
  -- what is marked and noted before the bytes are decoded
  have hmarked : (if status.exhausted then
        { (l.recast source older).note .exhausted with exhausted := true }
      else if min status.read l.sizes.effectiveChunk = 0 then
        (l.recast source older).note .nothingYet
      else l.recast source older) =
      recast (if status.exhausted then { l.note .exhausted with exhausted := true }
        else if min status.read l.sizes.effectiveChunk = 0 then l.note .nothingYet else l)
        source older := by
    rw [apply_ite (recast · source older), apply_ite (recast · source older)]
    rfl
  have hsizes : (l.recast source older).sizes = l.sizes := rfl
  unfold accept
  simp only [hsizes, hmarked]
  generalize (if status.exhausted then { l.note .exhausted with exhausted := true }
    else if min status.read l.sizes.effectiveChunk = 0 then l.note .nothingYet else l) = m
  have harea : (m.recast source older).area = m.area := rfl
  simp only [harea, decode_recast]
  generalize m.decode (areaBytes m.area (min status.read l.sizes.effectiveChunk)) = filled
  show (Except.ok (min status.read l.sizes.effectiveChunk), note (if
    m.buffer.length < filled.buffer.length then _ else _) _) = _
  split_ifs <;> rfl

end

section

variable [ByteSource σ] [ByteSource τ] {size : Nat} {S : σ → τ → Prop}

/-- A read of both lexers, if their sources reply alike. -/
theorem fill_recast {l : Lexer σ ρ} {source : τ} (older : List Event)
    (hreply : (ByteSource.readChunk source l.sizes.effectiveChunk).1 =
      (ByteSource.readChunk l.source l.sizes.effectiveChunk).1) (he : l.exhausted = false) :
    (l.recast source older).fill =
      (l.fill.1, l.fill.2.recast (ByteSource.readChunk source l.sizes.effectiveChunk).2 older) := by
  have hsizes : (l.recast source older).sizes = l.sizes := rfl
  have hsource : (l.recast source older).source = source := rfl
  have he' : ¬ (l.recast source older).exhausted = true := ne_true_of_eq_false he
  unfold fill
  rw [if_neg he', if_neg (ne_true_of_eq_false he), hsizes, hsource]
  rcases hread : ByteSource.readChunk source l.sizes.effectiveChunk with ⟨reply, left⟩
  rw [hread] at hreply
  simp only at hreply
  subst hreply
  simp only
  cases (ByteSource.readChunk l.source l.sizes.effectiveChunk).1.outcome with
  | error fault => rfl
  | ok status => exact accept_recast l.asked left older status

/-- Two lexers over sources that reply alike, the second with something in its journal before what
both have noted. In everything else they are the same. -/
structure Recast (size : Nat) (S : σ → τ → Prop) (older : List Event) (l : Lexer σ ρ)
    (m : Lexer τ ρ) : Prop where
  size_eq : l.sizes.effectiveChunk = size
  source : S l.source m.source
  eq_recast : m = l.recast m.source older

/-- **Where the reply comes from does not matter**, and neither does what was noted before. -/
theorem simulates_recast (h : ReplyAlike size S) (older : List Event) :
    Simulates (Recast size S older (ρ := ρ)) fun _ => Recast size S older where
  view := by
    rintro l m ⟨-, -, hm⟩
    rw [hm]
    exact ⟨rfl, rfl, rfl, rfl, rfl, rfl, rfl⟩
  fill := by
    rintro l m ⟨hsize, hsource, hm⟩
    generalize m.source = source at hsource hm
    subst hm
    cases he : l.exhausted with
    | true =>
      rw [fill_of_exhausted l he, fill_of_exhausted (l.recast source older) he]
      exact .answer 0 ⟨hsize, hsource, rfl⟩
    | false =>
      obtain ⟨hreply, hleft⟩ := h hsource
      rw [← hsize] at hreply hleft
      have hsame := (samePlace_fill l).1.sizes
      have hrecast : Recast size S older l.fill.2
          (l.fill.2.recast (ByteSource.readChunk source l.sizes.effectiveChunk).2 older) := by
        refine ⟨by rw [hsame, hsize], ?_, rfl⟩
        rw [fill_source he]
        exact hleft
      rw [fill_recast older hreply he]
      rcases hf : l.fill with ⟨e | k, l'⟩
      all_goals rw [hf] at hrecast
      · exact .failure e hrecast
      · exact .answer k hrecast
  note := by
    rintro l m e - ⟨hsize, hsource, hm⟩
    exact ⟨hsize, hsource, by rw [hm]; rfl⟩
  unknown := by
    rintro l m literal ⟨hsize, hsource, hm⟩
    exact ⟨hsize, hsource, by rw [hm]; rfl⟩
  consume := by
    rintro l m literal ⟨hsize, hsource, hm⟩
    exact ⟨hsize, hsource, by rw [hm]; rfl⟩
  exchange := by
    rintro l m rules ⟨hsize, hsource, hm⟩
    exact ⟨hsize, hsource, by rw [hm]; rfl⟩

end

end Lexer

end RuleLexer
