import Mathlib.Data.List.DropRight
import Mathlib.Data.List.Induction
import RuleLexer.Log.Network

/-!
# What a ring holds

A ring that was empty and has been written to since holds the last of the records that were written,
as many as it has room for, and it counts the others (`Ring.foldl_write`). Clearing a ring makes it
empty again, so after any acts it holds the last of the records written since it was cleared
(`Ring.holds_last_since_cleared`).

`Routed` is the plain way from a logger to a ring: the logger has that ring and nothing else as a
sink, so every record that is grave enough for the logger is written to the ring once
(`Routed.log`).
-/

namespace RuleLexer.Log

/-- A ring holds the last records that were written to it, and counts those that it let go. -/
theorem Ring.foldl_write (capacity : Nat) (records : List Record) :
    records.foldl write ⟨capacity, [], 0⟩ =
      ⟨capacity, records.drop (records.length - capacity), records.length - capacity⟩ := by
  induction records using List.reverseRecOn with
  | nil => simp
  | append_singleton records record ih =>
    rw [List.foldl_append, ih, List.foldl_cons, List.foldl_nil, List.length_append,
      List.length_singleton]
    unfold write
    simp only [List.length_drop]
    split_ifs with hzero hfull
    · -- without room, nothing is ever held
      subst hzero
      simp
    · -- the ring is full, so one more record is let go
      have hmore : records.length + 1 - capacity = records.length - capacity + 1 := by omega
      have hdrop : (records ++ [record]).drop (records.length - capacity + 1) =
          records.drop (records.length - capacity + 1) ++ [record] :=
        List.drop_append_of_le_length (by omega)
      simp only [hmore, hdrop, List.drop_drop]
    · have hnone : records.length + 1 - capacity = 0 := by omega
      have hnone' : records.length - capacity = 0 := by omega
      simp only [hnone, hnone', List.drop_zero]

namespace Ring

/-- What can be done to a ring. -/
inductive Act where
  | write (record : Record)
  | clear
  deriving DecidableEq, Repr

/-- The record that an act writes. -/
def Act.record? : Act → Option Record
  | .write record => some record
  | .clear => none

/-- The ring after an act. -/
def apply (r : Ring) : Act → Ring
  | .write record => r.write record
  | .clear => r.clear

/-- The records written since the ring was cleared for the last time, oldest first, or all of them
if it never was. -/
def sinceCleared (acts : List Act) : List Record :=
  (acts.rtakeWhile (· ≠ .clear)).filterMap Act.record?

/-- Clearing undoes all that was before it, so only the records behind it count. -/
theorem foldl_apply (capacity : Nat) (acts : List Act) :
    acts.foldl apply ⟨capacity, [], 0⟩ = (sinceCleared acts).foldl write ⟨capacity, [], 0⟩ := by
  induction acts using List.reverseRecOn with
  | nil => rfl
  | append_singleton acts act ih =>
    rw [List.foldl_append, ih, List.foldl_cons, List.foldl_nil]
    unfold sinceCleared
    cases act with
    | write record =>
      rw [List.rtakeWhile_concat_pos _ _ _ (by simp), List.filterMap_append, List.foldl_append]
      rfl
    | clear =>
      -- the capacity is all that is left of the ring
      rw [List.rtakeWhile_concat_neg _ _ _ (by simp), foldl_write]
      rfl

/-- **A ring holds the last records** that were written since it was cleared, oldest first, as many
as it has room for. It counts the others, and its numbers say so. So it never holds more than it has
room for, and what it holds and what it has let go add up to what was written. -/
theorem holds_last_since_cleared (capacity : Nat) (acts : List Act) :
    let ring := acts.foldl apply ⟨capacity, [], 0⟩
    let written := sinceCleared acts
    let n := written.length
    ring.records = written.rtake (min n capacity) ∧
      ring.dropped = n - min n capacity ∧
      ring.stats = ⟨min n capacity, n - min n capacity, capacity⟩ ∧
      ring.stats.recordCount ≤ capacity ∧
      ring.stats.recordCount + ring.stats.droppedCount = n := by
  intro ring written n
  have hring : ring = ⟨capacity, written.drop (n - capacity), n - capacity⟩ :=
    (foldl_apply capacity acts).trans (foldl_write capacity written)
  have hmin : n - min n capacity = n - capacity := by omega
  have hstats : ring.stats = ⟨min n capacity, n - min n capacity, capacity⟩ := by
    have hlength : (written.drop (n - capacity)).length = min n capacity := by
      rw [List.length_drop]
      omega
    rw [hring, stats, hlength, hmin]
  refine ⟨?_, ?_, hstats, ?_, ?_⟩
  · rw [hring, List.rtake, hmin]
  · rw [hring, hmin]
  · rw [hstats]
    exact min_le_right n capacity
  · rw [hstats]
    exact Nat.add_sub_of_le (min_le_left n capacity)

/-- Three records into a ring with room for two, after it was cleared. -/
example (a b c d : Record) : [.write a, .clear, .write b, .write c, .write d].foldl apply
    ⟨2, [], 0⟩ = ⟨2, [c, d], 1⟩ := rfl

end Ring

/-- A logger whose only sink is a ring, which is in some state now. -/
structure Routed (n : Network) (logger ring : Nat) (level : Level) (state : Ring) : Prop where
  logger_eq : n.loggers[logger]? = some ⟨level, [.ring ring]⟩
  ring_eq : n.rings[ring]? = some state

namespace Routed

variable {n : Network} {logger ring : Nat} {level : Level} {state : Ring}

theorem enabled_eq (h : Routed n logger ring level state) (other : Level) :
    n.enabled logger other = other.atLeast level := by
  unfold Network.enabled
  rw [h.logger_eq]
  rfl

/-- A record that is grave enough is written to the ring. -/
theorem log (h : Routed n logger ring level state) {record : Record}
    (hr : record.level.atLeast level = true) :
    Routed (n.log logger record) logger ring level (state.write record) := by
  obtain ⟨hlt, -⟩ := List.getElem?_eq_some_iff.mp h.logger_eq
  obtain ⟨depth, hdepth⟩ : ∃ depth, n.loggers.length = depth + 1 :=
    Nat.exists_eq_add_one.mpr (by omega)
  have hlog : n.log logger record = n.updateRing ring (·.write record) := by
    unfold Network.log Network.deliver
    rw [hdepth, Network.visit, h.logger_eq]
    exact if_pos hr
  rw [hlog]
  refine ⟨h.logger_eq, ?_⟩
  show (n.rings.modify ring (·.write record))[ring]? = _
  rw [List.getElem?_modify_eq, h.ring_eq]
  rfl

end Routed

end RuleLexer.Log
