import Mathlib.Data.List.Basic
import RuleLexer.Text.Basic

/-!
# Text without control characters

A text that has no control character stays on the line it is written on. Such texts are closed under
joining (`controlFree_append`), and numbers are written without control characters in every base up
to sixteen, since each of their digits stands for a value less than the base (`exists_digits`).
-/

namespace RuleLexer.Text

/-- No control characters: none of those before the space. -/
def ControlFree (t : Text) : Prop := ∀ c ∈ t, 0x20 ≤ c.toNat

instance (t : Text) : Decidable (ControlFree t) := List.decidableBAll _ t

@[simp] theorem controlFree_nil : ControlFree [] := List.forall_mem_nil _

@[simp] theorem controlFree_cons {c : Char} {t : Text} :
    ControlFree (c :: t) ↔ 0x20 ≤ c.toNat ∧ ControlFree t := List.forall_mem_cons

@[simp] theorem controlFree_append {s t : Text} :
    ControlFree (s ++ t) ↔ ControlFree s ∧ ControlFree t := List.forall_mem_append

/-- No line is broken by such a text. -/
theorem ControlFree.not_mem {t : Text} (h : ControlFree t) : '\n' ∉ t := by
  intro hmem
  exact absurd (h '\n' hmem) (by decide)

theorem ControlFree.flatMap {α : Type} {l : List α} {f : α → Text}
    (h : ∀ a ∈ l, ControlFree (f a)) : ControlFree (l.flatMap f) := by
  intro c hc
  obtain ⟨a, ha, hc⟩ := List.mem_flatMap.mp hc
  exact h a ha c hc

theorem ControlFree.intercalate {separator : Text} {l : List Text} (hs : ControlFree separator)
    (h : ∀ t ∈ l, ControlFree t) : ControlFree (separator.intercalate l) := by
  induction l with
  | nil => exact controlFree_nil
  | cons t l ih =>
    obtain ⟨ht, hl⟩ := List.forall_mem_cons.mp h
    cases l with
    | nil => simpa using ht
    | cons u l =>
      rw [List.intercalate_cons_cons, controlFree_append, controlFree_append]
      exact ⟨⟨ht, hs⟩, ih hl⟩

/-! ### Numbers -/

/-- The digits of a number in a base: their values are less than the base, and they add up. -/
theorem exists_digits {base : Nat} (hbase : 1 < base) (n : Nat) :
    ∃ values : List Nat, Nat.toDigits base n = values.map Nat.digitChar ∧
      (∀ v ∈ values, v < base) ∧ values.foldl (fun m v => m * base + v) 0 = n := by
  induction n using Nat.strongRecOn with
  | ind n ih =>
  by_cases hn : n < base
  · refine ⟨[n], Nat.toDigits_of_lt_base hn, ?_, ?_⟩
    · exact List.forall_mem_singleton.mpr hn
    · rw [List.foldl_cons, List.foldl_nil, Nat.zero_mul, Nat.zero_add]
  · -- the last digit is the remainder
    obtain ⟨values, hdigits, hlt, hvalue⟩ := ih (n / base) (Nat.div_lt_self (by omega) hbase)
    refine ⟨values ++ [n % base], ?_, ?_, ?_⟩
    · rw [Nat.toDigits_of_base_le hbase (by omega), hdigits, List.map_append]
      rfl
    · exact List.forall_mem_append.mpr
        ⟨hlt, List.forall_mem_singleton.mpr (Nat.mod_lt n (by omega))⟩
    · rw [List.foldl_append, hvalue, List.foldl_cons, List.foldl_nil]
      exact Nat.div_add_mod' n base

theorem exists_digitChar_of_mem {base n : Nat} {c : Char} (hbase : 1 < base)
    (h : c ∈ Nat.toDigits base n) : ∃ v < base, v.digitChar = c := by
  obtain ⟨values, hdigits, hlt, -⟩ := exists_digits hbase n
  rw [hdigits] at h
  obtain ⟨v, hv, hc⟩ := List.mem_map.mp h
  exact ⟨v, hlt v hv, hc⟩

theorem controlFree_toDigits {base : Nat} (hbase : 1 < base) (hle : base ≤ 16) (n : Nat) :
    ControlFree (Nat.toDigits base n) := by
  have hall : ∀ v < 16, 0x20 ≤ (Nat.digitChar v).toNat := by decide
  intro c hc
  obtain ⟨v, hv, rfl⟩ := exists_digitChar_of_mem hbase hc
  exact hall v (by omega)

@[simp] theorem controlFree_ofNat (n : Nat) : ControlFree (ofNat n) :=
  controlFree_toDigits (by decide) (by decide) n

@[simp] theorem controlFree_hex (n : Nat) : ControlFree (hex n) :=
  controlFree_toDigits (by decide) (by decide) n

end RuleLexer.Text
