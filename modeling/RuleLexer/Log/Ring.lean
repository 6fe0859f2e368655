import RuleLexer.Log.Record

/-!
# Rings

A ring keeps the last records written to it, up to its capacity, and counts those it had to let go.
-/

namespace RuleLexer.Log

/-- **A ring**: its capacity, the records it holds, oldest first, and how many it has let go. -/
structure Ring where
  capacity : Nat
  records : List Record := []
  dropped : Nat := 0
  deriving DecidableEq, Repr

/-- The numbers of a ring. -/
structure RingStats where
  recordCount : Nat
  droppedCount : Nat
  capacity : Nat
  deriving DecidableEq, Repr

namespace Ring

/-- Writes a record. A full ring lets its oldest record go; one without room keeps nothing. -/
def write (r : Ring) (record : Record) : Ring :=
  if r.capacity = 0 then { r with dropped := r.dropped + 1 }
  else if r.capacity ≤ r.records.length then
    { r with records := r.records.drop 1 ++ [record], dropped := r.dropped + 1 }
  else { r with records := r.records ++ [record] }

/-- Forgets all records and the count of those let go. -/
def clear (r : Ring) : Ring := { r with records := [], dropped := 0 }

def stats (r : Ring) : RingStats := ⟨r.records.length, r.dropped, r.capacity⟩

/-- All records as lines, with a line break between them. -/
def dump (r : Ring) : Text :=
  match r.records.map Record.line with
  | [] => []
  | line :: lines => line ++ lines.flatMap ('\n' :: ·)

end Ring

end RuleLexer.Log
