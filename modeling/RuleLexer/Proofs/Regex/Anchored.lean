import RuleLexer.Proofs.Regex.Run

/-!
# Expressions that match at the start of the text only

`Regex.anchored` is read off an expression: every way through it asks for the start of the text
before it reads a character. The search of such an expression fails at every place that has a
character before it, whatever was tried before and whatever is to be found behind it. So the first
match in a text, looked for at one place after the other, can only be at the front, and not to try
the other places makes no difference.

* `Regex.stays_of_onlyEmpty`: an expression for the empty text goes on where it began.
* `Regex.fastened_of_anchored`: an anchored expression fails behind a character.
* `Matcher.find?_eq_searchFrom`: what is found is the first match, for every expression.
* `Matcher.start_of_anchored`: the first match of an anchored expression starts at the front.
-/

namespace RuleLexer

/-! ### Searches that fail -/

namespace Search

theorem choose_fails {label : Nat} {first second : Search} {p : Place} (h : first.Fails p)
    (h' : second.Fails p) : (choose label first second).Fails p := by
  intro e
  unfold choose
  split_ifs
  · exact ⟨e, rfl⟩
  · obtain ⟨e₁, h₁⟩ := h (e.insert label p.index)
    rw [h₁]
    exact h' e₁

end Search

namespace Plan

/-- A plan that stays at its place: it goes on where it began, if at all. -/
def Stays (plan : Plan) : Prop :=
  ∀ (bound : Nat) (next : Search) (p : Place), next.Fails p → (plan.search bound next).Fails p

/-- A plan that is fastened to the start of the text: it fails behind any character. -/
def Fastened (plan : Plan) : Prop :=
  ∀ (bound : Nat) (next : Search) (p : Place), p.before ≠ none → (plan.search bound next).Fails p

theorem stays_empty : Plan.empty.Stays := fun _ _ _ h => h

theorem stays_look (l : Look) : (Plan.look l).Stays := by
  intro bound next p h e
  show ∃ e', (if l.holds p then next p e else .error e) = .error e'
  split_ifs
  · exact h e
  · exact ⟨e, rfl⟩

theorem fastened_textStart : (Plan.look .textStart).Fastened := by
  intro bound next p hp e
  have hno : Look.holds .textStart p = false := decide_eq_false hp
  refine ⟨e, ?_⟩
  show (if Look.holds .textStart p then next p e else .error e) = .error e
  rw [hno, if_neg Bool.false_ne_true]

variable {a b : Plan}

theorem Stays.seq (ha : a.Stays) (hb : b.Stays) : (Plan.seq a b).Stays :=
  fun bound next p h => ha bound _ p (hb bound next p h)

/-- What comes first need not be fastened if it stays at its place. -/
theorem Stays.seq_fastened (ha : a.Stays) (hb : b.Fastened) : (Plan.seq a b).Fastened :=
  fun bound next p hp => ha bound _ p (hb bound next p hp)

theorem Fastened.seq (ha : a.Fastened) (b : Plan) : (Plan.seq a b).Fastened :=
  fun bound _ p hp => ha bound _ p hp

theorem Stays.choice (label : Nat) (ha : a.Stays) (hb : b.Stays) : (Plan.choice label a b).Stays :=
  fun bound next p h => Search.choose_fails (ha bound next p h) (hb bound next p h)

theorem Fastened.choice (label : Nat) (ha : a.Fastened) (hb : b.Fastened) :
    (Plan.choice label a b).Fastened :=
  fun bound next p hp => Search.choose_fails (ha bound next p hp) (hb bound next p hp)

theorem Stays.optional (label : Nat) (greedy : Bool) (ha : a.Stays) :
    (optional label greedy a).Stays := by
  unfold Plan.optional
  split_ifs
  · exact ha.choice label stays_empty
  · exact stays_empty.choice label ha

theorem Stays.group (i : Nat) (ha : a.Stays) : (Plan.group i a).Stays := by
  intro bound next p h
  refine ha bound _ p fun e => ?_
  obtain ⟨e', he'⟩ := h e
  exact ⟨e', by rw [he']; rfl⟩

theorem Fastened.group (i : Nat) (ha : a.Fastened) : (Plan.group i a).Fastened :=
  fun bound _ p hp => ha bound _ p hp

/-! ### Copies -/

variable {body : Nat → Plan × Nat}

theorem stays_copies (h : ∀ label, (body label).1.Stays) (n label : Nat) :
    (copies body n label).1.Stays := by
  induction n generalizing label with
  | zero => exact stays_empty
  | succ n ih => exact (h label).seq (ih _)

theorem fastened_copies (h : ∀ label, (body label).1.Fastened) {n : Nat} (hn : 0 < n)
    (label : Nat) : (copies body n label).1.Fastened := by
  obtain ⟨n, rfl⟩ : ∃ k, n = k + 1 := ⟨n - 1, by omega⟩
  exact (h label).seq _

theorem stays_upTo (h : ∀ label, (body label).1.Stays) (greedy : Bool) (n label : Nat) :
    (upTo body greedy n label).1.Stays := by
  induction n generalizing label with
  | zero => exact stays_empty
  | succ n ih => exact ((h _).seq (ih _)).optional label greedy

end Plan

/-! ### From expressions to plans -/

namespace Regex

/-- **An expression for the empty text stays at its place.** -/
theorem stays_of_onlyEmpty {r : Regex} (h : r.onlyEmpty = true) (label : Nat) :
    (Plan.ofRegex r label).1.Stays := by
  induction r generalizing label with
  | empty => exact Plan.stays_empty
  | look l => exact Plan.stays_look l
  | set s => cases h
  | seq a b iha ihb =>
    obtain ⟨ha, hb⟩ := Bool.and_eq_true_iff.mp h
    exact (iha ha _).seq (ihb hb _)
  | alt a b iha ihb =>
    obtain ⟨ha, hb⟩ := Bool.and_eq_true_iff.mp h
    exact (iha ha _).choice label (ihb hb _)
  | repetition least most greedy body ih =>
    obtain ⟨hmost, hbody⟩ := Bool.and_eq_true_iff.mp h
    cases most with
    | none => cases hmost
    | some most =>
      rw [Plan.ofRegex]
      exact (Plan.stays_copies (ih hbody) _ _).seq (Plan.stays_upTo (ih hbody) _ _ _)
  | group i body ih => exact (ih h _).group i

/-- **An anchored expression is fastened** to the start of the text. -/
theorem fastened_of_anchored {r : Regex} (h : r.anchored = true) (label : Nat) :
    (Plan.ofRegex r label).1.Fastened := by
  induction r generalizing label with
  | empty => cases h
  | look l =>
    obtain rfl : l = .textStart := of_decide_eq_true h
    exact Plan.fastened_textStart
  | set s => cases h
  | seq a b iha ihb =>
    rcases Bool.or_eq_true_iff.mp h with ha | hab
    · exact (iha ha _).seq _
    · obtain ⟨ha, hb⟩ := Bool.and_eq_true_iff.mp hab
      exact (stays_of_onlyEmpty ha _).seq_fastened (ihb hb _)
  | alt a b iha ihb =>
    obtain ⟨ha, hb⟩ := Bool.and_eq_true_iff.mp h
    exact (iha ha _).choice label (ihb hb _)
  | repetition least most greedy body ih =>
    obtain ⟨hleast, hbody⟩ := Bool.and_eq_true_iff.mp h
    obtain ⟨n, rfl⟩ : ∃ n, least = n + 1 := ⟨least - 1, by have := of_decide_eq_true hleast; omega⟩
    cases most with
    | none =>
      -- the copies before the loop, or the loop's own first round if there are none
      rw [Plan.ofRegex]
      cases n with
      | zero => exact Plan.stays_empty.seq_fastened ((ih hbody _).seq _)
      | succ n => exact (Plan.fastened_copies (ih hbody) (Nat.succ_pos n) _).seq _
    | some most =>
      rw [Plan.ofRegex]
      exact (Plan.fastened_copies (ih hbody) (Nat.succ_pos n) _).seq _
  | group i body ih => exact (ih h _).group i

end Regex

/-! ### The first match -/

namespace Matcher

variable {r : Regex}

theorem matchAt_of_anchored (h : r.anchored = true) (size : Nat) {p : Place}
    (hp : p.before ≠ none) : (ofRegex r).matchAt size p = none := by
  obtain ⟨e, he⟩ := Regex.fastened_of_anchored h 0 (size + 2) Search.done p hp ⟨size + 1, 0⟩
  unfold matchAt
  rw [ofRegex]
  simp only [he]

theorem searchFrom_of_anchored (h : r.anchored = true) (size index : Nat) (c : Char) (t : Text) :
    (ofRegex r).searchFrom size index (some c) t = none := by
  induction t generalizing index c with
  | nil =>
    unfold searchFrom
    rw [matchAt_of_anchored h size (by simp)]
    rfl
  | cons d t ih =>
    unfold searchFrom
    rw [matchAt_of_anchored h size (by simp)]
    exact ih (index + 1) d

theorem find?_of_anchored (h : r.anchored = true) (t : Text) :
    (ofRegex r).find? t = ((ofRegex r).matchAt t.length (.ofText t)).map (0, ·) :=
  if_pos h

/-- **What is found is the first match**, looked for at one place after the other: where the other
places are not tried, there is nothing to be found. -/
theorem find?_eq_searchFrom (r : Regex) (t : Text) :
    (ofRegex r).find? t = (ofRegex r).searchFrom t.length 0 none t := by
  by_cases h : r.anchored = true
  · rw [find?_of_anchored h]
    cases t with
    | nil => rfl
    | cons c t =>
      rw [searchFrom, searchFrom_of_anchored h, Place.ofText]
      cases (ofRegex r).matchAt (c :: t).length ⟨0, none, c :: t⟩ <;> rfl
  · exact if_neg h

/-- **The first match of an anchored expression starts at the front.** -/
theorem start_of_anchored (h : r.anchored = true) {t : Text} {start : Nat} {trace : Trace}
    (hs : (ofRegex r).searchFrom t.length 0 none t = some (start, trace)) :
    start = 0 ∧ (ofRegex r).matchAt t.length (.ofText t) = some trace := by
  rw [← find?_eq_searchFrom, find?_of_anchored h] at hs
  obtain ⟨trace', hmatch, heq⟩ := Option.map_eq_some_iff.mp hs
  cases heq
  exact ⟨rfl, hmatch⟩

end Matcher

end RuleLexer
