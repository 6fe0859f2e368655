import RuleLexer.Lexer.Basic
import RuleLexer.Log.Network

/-!
# Lexers with a logger

A lexer's journal is handed to a logger after every operation. The logger decides what is grave
enough to be kept; the lexer neither sees nor waits for it.
-/

namespace RuleLexer

/-- The part of the program that a lexer's records name. -/
def Lexer.logTarget : Text := "easylex_core::lexer".toList

/-- The record of an event. -/
def Event.record (time : Nat) (e : Event) : Log.Record :=
  ⟨time, e.level, Lexer.logTarget, e.message⟩

/-- **A lexer and the logger it reports to**, by its number in a network. -/
structure LoggedLexer (σ ρ : Type) where
  lexer : Lexer σ ρ
  network : Log.Network
  logger : Nat

namespace LoggedLexer

variable {σ ρ : Type}

/-- Hands the journal to the logger, oldest event first. -/
def flush (time : Nat) (l : LoggedLexer σ ρ) : LoggedLexer σ ρ :=
  { l with
    lexer := { l.lexer with journal := [] },
    network := l.lexer.journal.foldr
      (fun e n => if n.enabled l.logger e.level then n.log l.logger (e.record time) else n)
      l.network }

/-- Performs an operation and hands over what it has reported. -/
def perform {α : Type} (time : Nat) (op : LexM σ ρ α) (l : LoggedLexer σ ρ) :
    Option (Except LexError α × LoggedLexer σ ρ) :=
  (op l.lexer).map fun (result, lexer) => (result, flush time { l with lexer })

end LoggedLexer

end RuleLexer
