import RuleLexer.Text.Basic

/-!
# Log levels

Five levels, from the most talkative to the gravest.
-/

namespace RuleLexer.Log

/-- How grave a message is. -/
inductive Level where
  | trace | debug | info | warn | error
  deriving DecidableEq, Repr

namespace Level

/-- All levels, the most talkative first. -/
def all : List Level := [.trace, .debug, .info, .warn, .error]

/-- The place of a level in the order. -/
def code : Level → Nat
  | .trace => 0
  | .debug => 1
  | .info => 2
  | .warn => 3
  | .error => 4

/-- The level with a code. -/
def ofCode? (n : Nat) : Option Level := all[n]?

/-- A level is at least as grave as another. -/
def atLeast (l floor : Level) : Bool := floor.code ≤ l.code

/-- The name of a level, in capitals. -/
def name : Level → Text
  | .trace => "TRACE".toList
  | .debug => "DEBUG".toList
  | .info => "INFO".toList
  | .warn => "WARN".toList
  | .error => "ERROR".toList

/-- The name of a level with a capital first letter. -/
def title : Level → Text
  | .trace => "Trace".toList
  | .debug => "Debug".toList
  | .info => "Info".toList
  | .warn => "Warn".toList
  | .error => "Error".toList

/-- The level that a text names. Case does not count, and a warning has two names. -/
def ofText? (t : Text) : Option Level :=
  match String.ofList t.toLowerAscii with
  | "trace" => some .trace
  | "debug" => some .debug
  | "info" => some .info
  | "warn" => some .warn
  | "warning" => some .warn
  | "error" => some .error
  | _ => none

/-- What people are told about a text that names no level. -/
def unknownMessage (t : Text) : Text := "Unknown log level: ".toList ++ t

theorem ofCode?_code (l : Level) : ofCode? l.code = some l := by cases l <;> rfl

theorem ofText?_name (l : Level) : ofText? l.name = some l := by cases l <;> decide +kernel

end Level

end RuleLexer.Log
