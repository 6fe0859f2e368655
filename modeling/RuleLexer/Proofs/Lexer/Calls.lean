import RuleLexer.Proofs.Lexer.Rounds

/-!
# Calls

What can be asked of a lexer is a `Call`. What a call does is said in one place, as an operation
that fails or gives an `Answer` (`Call.op`), and the rest is read off from there: the lexer after a
call (`Call.after?`), the error that it has given (`Call.error?`), and the lexers that one call
after the other leads to (`Trace`).

`op_peek`, `op_scan`, `op_next` and `op_lastLine` tell the operation of a call in the words of the
loops. Those of the other calls are told by their definitions.
-/

namespace RuleLexer.Lexer

variable {σ ρ : Type}

/-! ### What a call does -/

/-- **A call of a lexer.** A stream of tokens that is asked for its next item may have failed
before. -/
inductive Call (ρ : Type) where
  | peek
  | scan
  | next (failed : Bool)
  | lastLine
  | skipLiteral (literal : Text)
  | setRules (rules : List ρ)
  | setWhitespace (whitespace : Option ρ)
  | setRuleSet (rules : RuleSet ρ)

/-- The call exchanges neither the rules nor the rule for white space. -/
def Call.keepsRules : Call ρ → Bool
  | .setRules _ | .setWhitespace _ | .setRuleSet _ => false
  | _ => true

/-- What a call answers if it does not fail. -/
inductive Answer where
  | token (token : Option Token)
  /-- The next item of a stream, and whether the stream has failed by now. -/
  | item (item : Option (Except LexError Token)) (failed : Bool)
  | line (line : Text)
  | skipped (done : Bool)
  /-- The rules were exchanged. -/
  | exchanged

/-- What comes of a call: its answer, or why it has failed. -/
abbrev Outcome := Except LexError Answer

/-- The error that a call has given, be it that the call has failed or that the item of a stream is
an error. -/
def Outcome.error? : Outcome → Option LexError
  | .error e => some e
  | .ok (.item (some (.error e)) _) => some e
  | .ok _ => none

variable [ByteSource σ] [TokenRule ρ]

/-- A call as an operation that gives its answer, with so many rounds for each loop. -/
def Call.op (rounds : Nat) : Call ρ → LexM σ ρ Answer
  | .peek => Answer.token <$> peekWithin rounds rounds
  | .scan => Answer.token <$> scanWithin rounds
  | .next failed => (fun r => Answer.item r.1 r.2) <$> nextWithin rounds failed
  | .lastLine => Answer.line <$> Lexer.lastLine
  | .skipLiteral literal => LexM.ofFunction fun l =>
      (.ok (.skipped (l.skipLiteral literal).1), (l.skipLiteral literal).2)
  | .setRules rules => LexM.ofFunction fun l => (.ok .exchanged, l.setRules rules)
  | .setWhitespace whitespace => LexM.ofFunction fun l =>
      (.ok .exchanged, l.setWhitespace whitespace)
  | .setRuleSet rules => LexM.ofFunction fun l => (.ok .exchanged, l.setRuleSet rules)

section

variable {rounds : Nat} {l : Lexer σ ρ}

theorem op_peek : (Call.peek : Call ρ).op rounds l =
    (peekWithin rounds rounds l).map fun p => (p.1.map .token, p.2) := LexM.map_apply ..

theorem op_scan : (Call.scan : Call ρ).op rounds l =
    (scanWithin rounds l).map fun p => (p.1.map .token, p.2) := LexM.map_apply ..

theorem op_lastLine : (Call.lastLine : Call ρ).op rounds l =
    (Lexer.lastLine l).map fun p => (p.1.map .line, p.2) := LexM.map_apply ..

/-- Asking a stream never fails: an error is an item, and after it there are no more. -/
theorem op_next (failed : Bool) : (Call.next failed : Call ρ).op rounds l =
    if failed then some (.ok (.item none true), l)
    else (scanWithin rounds l).map fun p => (.ok (match p.1 with
      | .ok token => .item (token.map .ok) false
      | .error e => .item (some (.error e)) true), p.2) := by
  show ((fun r => Answer.item r.1 r.2) <$> nextWithin rounds failed) l = _
  rw [LexM.map_apply, nextWithin_eq]
  cases failed with
  | true => rfl
  | false => rcases scanWithin rounds l with _ | ⟨e | token, l'⟩ <;> rfl

end

/-! ### What is seen of a call -/

/-- The lexer after a call, whatever the call has answered and whether it has failed or not; none if
it does not end within so many rounds. -/
def Call.after? (rounds : Nat) (l : Lexer σ ρ) (c : Call ρ) : Option (Lexer σ ρ) :=
  (c.op rounds l).map Prod.snd

/-- The error that a call answers with, if it does, in so many rounds. -/
def Call.error? (rounds : Nat) (l : Lexer σ ρ) (c : Call ρ) : Option LexError :=
  (c.op rounds l).bind fun p => Outcome.error? p.1

/-- A call leads from one lexer to another, in however many rounds. -/
def Call.Leads (c : Call ρ) (l l' : Lexer σ ρ) : Prop := ∃ rounds, c.after? rounds l = some l'

theorem Call.leads_peek {rounds : Nat} {l l' : Lexer σ ρ} {r : Except LexError (Option Token)}
    (h : peekWithin rounds rounds l = some (r, l')) : (Call.peek : Call ρ).Leads l l' :=
  ⟨rounds, by rw [Call.after?, op_peek, h]; rfl⟩

theorem Call.leads_scan {rounds : Nat} {l l' : Lexer σ ρ} {r : Except LexError (Option Token)}
    (h : scanWithin rounds l = some (r, l')) : (Call.scan : Call ρ).Leads l l' :=
  ⟨rounds, by rw [Call.after?, op_scan, h]; rfl⟩

/-- **The lexers that calls lead to**, one after the other. -/
inductive Trace : Lexer σ ρ → List (Call ρ) → List (Lexer σ ρ) → Prop where
  | nil (l : Lexer σ ρ) : Trace l [] []
  | cons {l l' : Lexer σ ρ} {c : Call ρ} {calls : List (Call ρ)} {states : List (Lexer σ ρ)}
      (hc : c.Leads l l') (h : Trace l' calls states) : Trace l (c :: calls) (l' :: states)

/-- The lexers that calls lead to if each of them ends within so many rounds. -/
def trace? (rounds : Nat) (l : Lexer σ ρ) : List (Call ρ) → Option (List (Lexer σ ρ))
  | [] => some []
  | c :: calls => (c.after? rounds l).bind fun l' => (trace? rounds l' calls).map (l' :: ·)

theorem trace_of_trace? {rounds : Nat} {l : Lexer σ ρ} {calls : List (Call ρ)}
    {states : List (Lexer σ ρ)} (h : trace? rounds l calls = some states) :
    Trace l calls states := by
  induction calls generalizing l states with
  | nil =>
    cases h
    exact .nil l
  | cons c calls ih =>
    obtain ⟨l', hc, h⟩ := Option.bind_eq_some_iff.mp h
    obtain ⟨rest, hrest, rfl⟩ := Option.map_eq_some_iff.mp h
    exact .cons ⟨rounds, hc⟩ (ih hrest)

end RuleLexer.Lexer
