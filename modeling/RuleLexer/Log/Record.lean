import RuleLexer.Log.Level

/-!
# Log records

A record is a message with its level, the part of the program it comes from and the time. It is
shown on one line, with the time of day in front.
-/

namespace RuleLexer.Log

/-- **A log record.** Time is counted in milliseconds. -/
structure Record where
  time : Nat
  level : Level
  target : Text
  message : Text
  deriving DecidableEq, Repr

/-- The time of day of a time in milliseconds: hours, minutes, seconds and milliseconds. -/
def timeOfDay (time : Nat) : Text :=
  let seconds := time / 1000
  Text.zeroPadded 2 (seconds / 3600 % 24) ++ ':' :: Text.zeroPadded 2 (seconds / 60 % 60) ++
    ':' :: Text.zeroPadded 2 (seconds % 60) ++ '.' :: Text.zeroPadded 3 (time % 1000)

/-- The line that shows a record. -/
def Record.line (r : Record) : Text :=
  '[' :: timeOfDay r.time ++ "] ".toList ++ r.level.name.padRight 5 ++ ' ' :: r.target ++
    ": ".toList ++ r.message

end RuleLexer.Log
