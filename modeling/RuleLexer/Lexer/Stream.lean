import RuleLexer.Lexer.Scan

/-!
# Streams of tokens

Several ways to take all tokens of a lexer one after the other: a stream that ends with the first
error, a list of all tokens, and a recovering loop that skips what is not recognised and goes on.

The lists are bounded by a number of entries. Every token and every skipped literal takes at least
one character, so the number of rounds of the lexer is enough for all of them.
-/

namespace RuleLexer.Lexer

variable {σ ρ : Type}

section Within

variable [ByteSource σ] [TokenRule ρ]

/-- The outcome of an operation as a value, so that a loop can look at it and go on. -/
def attempt {α : Type} (op : LexM σ ρ α) : LexM σ ρ (Except LexError α) := fun l =>
  (op l).map fun (result, l) => (.ok result, l)

/-- The next item of a stream that has failed or not: nothing after a failure, otherwise what
scanning gives. -/
def nextWithin (rounds : Nat) (failed : Bool) :
    LexM σ ρ (Option (Except LexError Token) × Bool) := do
  if failed then pure (none, true)
  else
    match ← attempt (scanWithin rounds) with
    | .ok token => pure (token.map .ok, false)
    | .error e => pure (some (.error e), true)

/-- What was taken from a stream: the items, whether it came to its end, and whether it has
failed. -/
structure Taken where
  items : List (Except LexError Token)
  ended : Bool
  failed : Bool

/-- Takes items from a stream until it ends, so many at most. -/
def takeWithin (rounds : Nat) : Nat → Bool → LexM σ ρ Taken
  | 0, failed => pure ⟨[], false, failed⟩
  | n + 1, failed => do
    match ← nextWithin rounds failed with
    | (none, failed) => pure ⟨[], true, failed⟩
    | (some item, failed) =>
      let taken ← takeWithin rounds n failed
      pure { taken with items := item :: taken.items }

/-- Scans tokens until there is none, so many at most. -/
def collectWithin (rounds : Nat) : Nat → LexM σ ρ (List Token)
  | 0 => LexM.outOfRounds
  | n + 1 => do
    match ← scanWithin rounds with
    | none => pure []
    | some token =>
      let tokens ← collectWithin rounds n
      pure (token :: tokens)

/-- Scans and recovers: an unknown token is listed and its literal skipped, a failed read is listed
and ends the list. At most so many entries are made. -/
def recoverWithin (rounds : Nat) : Nat → LexM σ ρ (List (Except LexError Token))
  | 0 => pure []
  | n + 1 => do
    match ← attempt (scanWithin rounds) with
    | .ok none => pure []
    | .ok (some token) =>
      let items ← recoverWithin rounds n
      pure (.ok token :: items)
    | .error e@(.unknownToken literal _) =>
      modify fun l => (l.skipLiteral literal).2
      let items ← recoverWithin rounds n
      pure (.error e :: items)
    | .error e => pure [.error e]

end Within

/-! ### With rounds that suffice -/

section Finite

variable [FiniteSource σ] [TokenRule ρ]

/-- The next item of a stream. -/
def next (failed : Bool) : LexM σ ρ (Option (Except LexError Token) × Bool) := do
  nextWithin (← get).rounds failed

/-- Takes items from a stream until it ends, so many at most. -/
def take (most : Nat) (failed : Bool) : LexM σ ρ Taken := do
  takeWithin (← get).rounds most failed

/-- All tokens, or the first error. -/
def collect : LexM σ ρ (List Token) := do
  let n := (← get).rounds
  collectWithin n n

/-- Scans and recovers, with at most so many entries. -/
def recover (most : Nat) : LexM σ ρ (List (Except LexError Token)) := do
  recoverWithin (← get).rounds most

end Finite

end RuleLexer.Lexer
