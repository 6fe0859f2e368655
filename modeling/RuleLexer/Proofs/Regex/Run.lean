import Mathlib.Algebra.Group.Nat.Defs
import Mathlib.Tactic.SplitIfs
import RuleLexer.Regex.Match

/-!
# Runs of characters

What a greedy loop over a set of characters finds. It takes the longest run that there is, and what
follows the loop is looked for behind the run first. If that succeeds, no shorter run is tried; if
it fails behind every shorter run as well, so does the loop.

A choice is refused where it was taken before. Choices are numbered so that every way through a
plan takes them in ascending order, first by label and then by place, so it is enough to know that
all choices taken so far lie below the next one (`Explored.Below`).

* `rounds_eq_ok`: a loop whose continuation succeeds behind the longest run.
* `rounds_fails`: a loop whose continuation fails everywhere.
-/

namespace RuleLexer

namespace Explored

/-- All choices taken so far lie below a number. -/
def Below (e : Explored) (m : Nat) : Prop := e.bits < 2 ^ m

theorem Below.mono {e : Explored} {m k : Nat} (h : e.Below m) (hk : m ≤ k) : e.Below k :=
  Nat.lt_of_lt_of_le h (Nat.pow_le_pow_right (by decide) hk)

theorem Below.contains_eq_false {e : Explored} {label index : Nat}
    (h : e.Below (label * e.width + index)) : e.contains label index = false :=
  Nat.testBit_lt_two_pow h

theorem Below.insert {e : Explored} {label index : Nat}
    (h : e.Below (label * e.width + index)) :
    (e.insert label index).Below (label * e.width + index + 1) := by
  have hself : e.bits < 2 ^ (label * e.width + index + 1) := h.mono (Nat.le_succ _)
  have hone : 1 <<< (label * e.width + index) < 2 ^ (label * e.width + index + 1) := by
    rw [Nat.one_shiftLeft]
    exact Nat.pow_lt_pow_right (by decide) (Nat.lt_succ_self _)
  exact Nat.or_lt_two_pow hself hone

end Explored

/-! ### The search of a plan, part by part -/

namespace Plan

variable (bound : Nat) (next : Search)

theorem search_empty : Plan.empty.search bound next = next := rfl

theorem search_set (s : CharSet) : (Plan.set s).search bound next = Search.readChar s next := rfl

theorem search_seq (a b : Plan) :
    (Plan.seq a b).search bound next = a.search bound (b.search bound next) := rfl

theorem search_choice (label : Nat) (a b : Plan) :
    (Plan.choice label a b).search bound next =
      Search.choose label (a.search bound next) (b.search bound next) := rfl

/-- A greedy loop over a set of characters. -/
theorem search_loop_set (label : Nat) (s : CharSet) :
    (Plan.loop label true (.set s)).search bound next =
      Search.rounds (Search.readChar s) label true next bound := rfl

end Plan

/-! ### Loops -/

namespace Search

/-- A choice that was not taken before: the first branch decides if it succeeds. -/
theorem choose_of_below {label : Nat} {first second : Search} {p : Place} {e : Explored}
    (h : e.Below (label * e.width + p.index)) :
    choose label first second p e =
      match first p (e.insert label p.index) with
      | .ok t => .ok t
      | .error e => second p e := by
  unfold choose
  rw [h.contains_eq_false]
  exact if_neg Bool.false_ne_true

theorem readChar_of_mem {s : CharSet} {c : Char} (hc : s.contains c = true) (next : Search)
    (index : Nat) (before : Option Char) (rest : Text) (e : Explored) :
    readChar s next ⟨index, before, c :: rest⟩ e = next ⟨index + 1, some c, rest⟩ e := by
  simp only [readChar, hc, if_true]

theorem readChar_of_not_mem {s : CharSet} {p : Place}
    (hc : ∀ c ∈ p.rest.head?, s.contains c = false) (next : Search) (e : Explored) :
    readChar s next p e = .error e := by
  unfold readChar
  cases hr : p.rest with
  | nil => rfl
  | cons c rest =>
    rw [hr] at hc
    simp only [hc c rfl, Bool.false_eq_true, if_false]

/-- **A greedy loop takes the longest run** of its characters if what follows is found behind it. -/
theorem rounds_eq_ok {s : CharSet} {label width : Nat} {next : Search} {trace : Trace} {t : Text}
    {n index : Nat} {before : Option Char} {e : Explored} (hn : t.length < n)
    (hw : e.width = width) (hb : e.Below (label * width + index))
    (hnext : ∀ before e, e.width = width →
      e.Below (label * width + (index + (t.takeWhile s.contains).length) + 1) →
      next ⟨index + (t.takeWhile s.contains).length, before, t.dropWhile s.contains⟩ e =
        .ok trace) :
    rounds (readChar s) label true next n ⟨index, before, t⟩ e = .ok trace := by
  obtain ⟨m, rfl⟩ : ∃ m, n = m + 1 := ⟨n - 1, by omega⟩
  -- along the text; the bound on the choices moves on with the place
  induction t generalizing m index before e with
  | nil =>
    subst hw
    rw [rounds, if_pos rfl, choose_of_below hb]
    exact hnext before _ rfl hb.insert
  | cons c t ih =>
    subst hw
    rw [rounds, if_pos rfl, choose_of_below hb]
    by_cases hc : s.contains c = true
    · have hplace : index + ((t.takeWhile s.contains).length + 1) =
          index + 1 + (t.takeWhile s.contains).length := by omega
      rw [List.takeWhile_cons_of_pos hc, List.dropWhile_cons_of_pos hc, List.length_cons,
        hplace] at hnext
      rw [List.length_cons] at hn
      obtain ⟨k, rfl⟩ : ∃ k, m = k + 1 := ⟨m - 1, by omega⟩
      have hgo : rounds (readChar s) label true next (k + 1) ⟨index + 1, some c, t⟩
          (e.insert label index) = .ok trace :=
        ih (e := e.insert label index) rfl hb.insert hnext k (by omega)
      rw [readChar_of_mem hc, hgo]
    · rw [List.takeWhile_cons_of_neg hc, List.dropWhile_cons_of_neg hc] at hnext
      have hnone : ∀ d ∈ (c :: t).head?, s.contains d = false := by
        rintro d ⟨⟩
        exact Bool.eq_false_iff.mpr hc
      rw [readChar_of_not_mem hnone]
      exact hnext before _ rfl hb.insert

/-- A search that fails at a place, whatever was tried before. -/
def Fails (next : Search) (p : Place) : Prop := ∀ e, ∃ e', next p e = .error e'

/-- **A loop fails** if what follows it fails wherever the loop may be left. -/
theorem rounds_fails {s : CharSet} {label n : Nat} {next : Search} {p : Place}
    (h : ∀ q : Place, q.rest <:+ p.rest → next.Fails q) :
    (rounds (readChar s) label true next n).Fails p := by
  induction n generalizing p with
  | zero => exact fun e => ⟨e, rfl⟩
  | succ n ih =>
    intro e
    have hagain : (readChar s (rounds (readChar s) label true next n)).Fails p := by
      intro e
      unfold readChar
      cases hr : p.rest with
      | nil => exact ⟨e, rfl⟩
      | cons c rest =>
        simp only
        split_ifs
        · refine ih (fun q hq => h q ?_) e
          rw [hr]
          exact hq.trans (List.suffix_cons c rest)
        · exact ⟨e, rfl⟩
    rw [rounds]
    simp only [if_true]
    unfold choose
    split_ifs
    · exact ⟨e, rfl⟩
    · obtain ⟨e₁, h₁⟩ := hagain (e.insert label p.index)
      rw [h₁]
      exact h p (List.suffix_refl _) e₁

end Search

end RuleLexer
