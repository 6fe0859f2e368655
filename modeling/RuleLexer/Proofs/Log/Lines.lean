import Mathlib.Algebra.GroupWithZero.Nat
import RuleLexer.Log.Ring
import RuleLexer.Proofs.Text.ControlFree

/-!
# Records as lines

A record is meant to be one line, and what a ring dumps to have one line for each record. The time,
the level and the signs between the parts never break a line (`Record.exists_line_eq`), so the line
breaks of a record are those of its target and its message (`Record.count_line`). A dump has a line
for each record and one more for each of these line breaks (`Ring.length_splitOn_dump`).
-/

namespace RuleLexer.Log

theorem controlFree_zeroPadded (width n : Nat) : (Text.zeroPadded width n).ControlFree := by
  unfold Text.zeroPadded
  rw [Text.controlFree_append]
  refine ⟨?_, Text.controlFree_ofNat n⟩
  intro c hc
  rw [List.eq_of_mem_replicate hc]
  decide

theorem controlFree_timeOfDay (time : Nat) : (timeOfDay time).ControlFree := by
  unfold timeOfDay
  simp only [Text.controlFree_append, Text.controlFree_cons, controlFree_zeroPadded, and_true]
  decide

theorem Level.controlFree_padded (l : Level) : (l.name.padRight 5).ControlFree := by
  cases l <;> decide

namespace Record

/-- The line of a record is a front without control characters, then the target and the message as
they are. -/
theorem exists_line_eq (r : Record) :
    ∃ front, front.ControlFree ∧ r.line = front ++ r.target ++ ": ".toList ++ r.message := by
  refine ⟨'[' :: timeOfDay r.time ++ "] ".toList ++ r.level.name.padRight 5 ++ [' '], ?_, ?_⟩
  · simp only [Text.controlFree_append, Text.controlFree_cons, controlFree_timeOfDay,
      Level.controlFree_padded, and_true]
    decide
  · simp only [line, List.append_assoc, List.cons_append, List.nil_append]

/-- A line is broken only where the target or the message is. -/
theorem count_line (r : Record) :
    r.line.count '\n' = r.target.count '\n' + r.message.count '\n' := by
  obtain ⟨front, hfront, hline⟩ := exists_line_eq r
  have hzero : front.count '\n' = 0 := List.count_eq_zero.mpr hfront.not_mem
  have hcolon : ": ".toList.count '\n' = 0 := by decide
  rw [hline, List.count_append, List.count_append, List.count_append, hzero, hcolon]
  omega

end Record

/-! ### Dumps -/

/-- A text has one line more than it has line breaks. -/
theorem length_splitOn (t : Text) : (t.splitOn '\n').length = t.count '\n' + 1 := by
  induction t with
  | nil => rfl
  | cons c t ih =>
    rw [List.splitOn_eq_splitOnP] at ih ⊢
    rw [List.splitOnP_cons_eq_if_modifyHead, List.count_cons]
    split_ifs with hc
    · rw [List.length_cons, ih]
    · rw [List.length_modifyHead, ih]

namespace Ring

theorem dump_eq_intercalate (r : Ring) :
    r.dump = List.intercalate ['\n'] (r.records.map Record.line) := by
  unfold dump
  cases r.records.map Record.line with
  | nil => rfl
  | cons line lines =>
    show line ++ lines.flatMap ('\n' :: ·) = _
    induction lines generalizing line with
    | nil => simp
    | cons next lines ih =>
      rw [List.intercalate_cons_cons, ← ih next, List.flatMap_cons]
      simp only [List.append_assoc, List.cons_append, List.nil_append]

/-- A dump is split into its records, if each of them is one line. -/
theorem splitOn_dump {r : Ring} (hlines : ∀ record ∈ r.records, '\n' ∉ record.line)
    (hne : r.records ≠ []) : r.dump.splitOn '\n' = r.records.map Record.line := by
  rw [dump_eq_intercalate]
  refine List.splitOn_intercalate '\n' ?_ (by simpa using hne)
  intro line hline
  obtain ⟨record, hrecord, rfl⟩ := List.mem_map.mp hline
  exact hlines record hrecord

/-- The lines of a dump: one for each record, and one for each line break in a record. -/
theorem length_splitOn_dump {r : Ring} (hne : r.records ≠ []) :
    (r.dump.splitOn '\n').length =
      r.records.length + (r.records.map fun record => record.line.count '\n').sum := by
  rw [length_splitOn, dump_eq_intercalate]
  generalize r.records = records at hne ⊢
  induction records with
  | nil => exact absurd rfl hne
  | cons first records ih =>
    cases records with
    | nil => simp [Nat.add_comm]
    | cons second records =>
      have hrest := ih (List.cons_ne_nil _ _)
      simp only [List.map_cons, List.intercalate_cons_cons, List.count_append, List.sum_cons,
        List.length_cons, List.count_singleton_self] at hrest ⊢
      omega

end Ring

end RuleLexer.Log
