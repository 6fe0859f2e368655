import RuleLexer.Lexer.Logged
import RuleLexer.Proofs.Lexer.Calls

/-!
# Sessions

What comes of several calls in a row: `Lexer.run?` for a lexer alone, and `LoggedLexer.session?` for
one with a logger, where the loggers and rings may be changed between the calls.
-/

namespace RuleLexer

namespace Lexer

variable {σ ρ : Type}

/-- The call has given the error of a failed read. -/
def Outcome.readFailed (outcome : Outcome) : Bool :=
  match outcome.error? with
  | some (.read ..) => true
  | _ => false

/-- The call has given the error that no rule recognises the text. -/
def Outcome.foundUnknown (outcome : Outcome) : Bool :=
  match outcome.error? with
  | some (.unknownToken ..) => true
  | _ => false

/-- What comes of calls in a row, and the lexer after each of them; none if one of them does not end
within so many rounds. -/
def run? [ByteSource σ] [TokenRule ρ] (rounds : Nat) (l : Lexer σ ρ) :
    List (Call ρ) → Option (List (Outcome × Lexer σ ρ))
  | [] => some []
  | c :: calls => (c.op rounds l).bind fun p => (run? rounds p.2 calls).map (p :: ·)

end Lexer

/-! ### With a logger -/

/-- One turn of a session: a call at some time, or something that is done to the loggers and rings
between two calls, such as setting a level, adding a sink or clearing a ring. -/
inductive Turn (ρ : Type) where
  | call (time : Nat) (call : Lexer.Call ρ)
  | meanwhile (change : Log.Network → Log.Network)

/-- The call of a turn. -/
def Turn.call? {ρ : Type} : Turn ρ → Option (Lexer.Call ρ)
  | .call _ c => some c
  | .meanwhile _ => none

namespace LoggedLexer

variable {σ ρ : Type}

/-- A new lexer with a logger, which is told of it. -/
def start (time : Nat) (source : σ) (rules : RuleSet ρ) (sizes : BufferSizes)
    (network : Log.Network) (logger : Nat) : LoggedLexer σ ρ :=
  flush time ⟨.create source rules sizes, network, logger⟩

variable [ByteSource σ] [TokenRule ρ]

/-- What comes of the calls of a session, and the lexer with its logger after each of them; none if
one of the calls does not end within so many rounds. -/
def session? (rounds : Nat) (l : LoggedLexer σ ρ) :
    List (Turn ρ) → Option (List (Lexer.Outcome × LoggedLexer σ ρ))
  | [] => some []
  | .meanwhile change :: turns =>
    session? rounds { l with network := change l.network } turns
  | .call time c :: turns =>
    (l.perform time (c.op rounds)).bind fun p => (session? rounds p.2 turns).map (p :: ·)

end LoggedLexer

end RuleLexer
