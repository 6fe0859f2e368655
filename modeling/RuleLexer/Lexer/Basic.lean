import RuleLexer.Lexer.Event
import RuleLexer.RuleSet
import RuleLexer.Utf8

/-!
# Lexers

A lexer holds a source, the text that was read from it and not consumed yet, the position of the
first character of that text, and the rules. Its operations may fail and may run for as long as the
source goes on giving bytes, so those with loops are told how many rounds to make at most; `none`
means that the rounds did not suffice.

What a lexer reports is written to its journal, newest event first. Nothing that a lexer does
depends on the journal.
-/

namespace RuleLexer

/-- **Why no token could be given.** -/
inductive LexError where
  /-- No rule recognises the text at the position; the literal ends where one might again. -/
  | unknownToken (literal : Text) (position : Position)
  /-- The source failed. -/
  | read (position : Position) (fault : ReadFault)
  deriving DecidableEq, Repr

namespace LexError

/-- Where the lexer stood. -/
def position : LexError → Position
  | .unknownToken _ p => p
  | .read p _ => p

/-- How people are told. -/
def message : LexError → Text
  | .unknownToken literal p =>
    p.display ++ ":UnknownTokenError: ".toList ++ Quoted.encode literal
  | .read p fault => p.display ++ ":ReadError: ".toList ++ fault.message

end LexError

/-- **A lexer** over a source of type `σ` with rules of type `ρ`. -/
structure Lexer (σ ρ : Type) where
  source : σ
  /-- Decoded text that is not consumed yet. -/
  buffer : Text := []
  /-- The start of a character whose bytes have not all come yet. -/
  pending : Utf8.Partial := .none
  /-- The bytes of the read area up to the last one ever written; those behind it are zero. -/
  area : List UInt8 := []
  exhausted : Bool := false
  /-- How often the buffer has grown. -/
  generation : Nat := 0
  /-- The part of the current line that is consumed, newest character first. -/
  lineBack : Text := []
  cursor : Position := .start
  rules : RuleSet ρ
  sizes : BufferSizes := {}
  journal : List Event := []

/-- **An operation of a lexer**: `none` if it was not given enough rounds, otherwise what it gives
or why it failed, and the lexer afterwards. -/
abbrev LexM (σ ρ : Type) := ExceptT LexError (StateT (Lexer σ ρ) Option)

namespace LexM

/-- Not enough rounds. -/
def outOfRounds {σ ρ α : Type} : LexM σ ρ α := fun _ => none

/-- An operation that always comes to an end. -/
def ofFunction {σ ρ α : Type} (f : Lexer σ ρ → Except LexError α × Lexer σ ρ) : LexM σ ρ α :=
  fun l => some (f l)

end LexM

namespace Lexer

variable {σ ρ : Type}

/-- A new lexer. -/
def create (source : σ) (rules : RuleSet ρ) (sizes : BufferSizes := {}) : Lexer σ ρ where
  source := source
  rules := rules
  sizes := sizes
  journal := [.created rules.rules.length rules.whitespace.isSome sizes]

/-- Writes an event to the journal. -/
def note (l : Lexer σ ρ) (e : Event) : Lexer σ ρ := { l with journal := e :: l.journal }

/-- The consumed part of a line after one more character, newest character first. -/
def extendLine (back : Text) (c : Char) : Text := if c = '\n' then [] else c :: back

/-- The consumed part of the current line. -/
def line (l : Lexer σ ρ) : Text := l.lineBack.reverse

/-- Consumes a literal that the buffer starts with: the cursor moves past it, and the consumed part
of the current line follows. -/
def consume (l : Lexer σ ρ) (literal : Text) : Lexer σ ρ :=
  { l with
    buffer := l.buffer.drop literal.length,
    cursor := l.cursor.advanced literal,
    lineBack := literal.foldl extendLine l.lineBack }

/-- Skips a literal if the buffer starts with it, for instance to go on after an unknown token. -/
def skipLiteral (l : Lexer σ ρ) (literal : Text) : Bool × Lexer σ ρ :=
  if literal.isEmpty || !l.buffer.startsWith literal then (false, l)
  else (true, (l.note (.skipped literal l.cursor)).consume literal)

/-! ### Changing the rules -/

/-- Exchanges the rules; the next token is looked for with the new ones. -/
def setRules (l : Lexer σ ρ) (rules : List ρ) : Lexer σ ρ :=
  let l := l.note (.rulesReplaced l.rules.rules.length rules.length)
  { l with rules := { l.rules with rules := rules } }

/-- Exchanges the rule for white space; without one nothing is passed over. -/
def setWhitespace (l : Lexer σ ρ) (whitespace : Option ρ) : Lexer σ ρ :=
  { l with rules := { l.rules with whitespace := whitespace } }

/-- Exchanges both. -/
def setRuleSet (l : Lexer σ ρ) (rules : RuleSet ρ) : Lexer σ ρ :=
  (l.setWhitespace rules.whitespace).setRules rules.rules

end Lexer

end RuleLexer
