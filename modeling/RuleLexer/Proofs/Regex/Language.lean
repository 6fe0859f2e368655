import RuleLexer.Proofs.Regex.Preference

/-!
# What expressions match

The textbook meaning of an expression, which knows neither plans nor preferences nor groups: from
which place of a text to which other it matches. Writing out repetitions and numbering choices
changes nothing about it, so the search finds a match at a place exactly if there is one.

* `Regex.Matches`: the meaning of an expression.
* `Plan.joins_copies`, `Plan.joins_upTo`, `Plan.joins_oneOrMore`, `Plan.joins_zeroOrMore`: the parts
  that a repetition is written out with.
* `Plan.joins_ofRegex`: the plan of an expression leads from a place to those that it matches to.
* `Matcher.isSome_matchAt_iff`: the search finds a match if there is one.
-/

namespace RuleLexer

/-! ### Several times in a row -/

/-- A step a number of times in a row. -/
def Times (step : Place → Place → Prop) : Nat → Place → Place → Prop
  | 0, p, q => p = q
  | n + 1, p, q => ∃ u, step p u ∧ Times step n u q

section Times

variable {step : Place → Place → Prop}

theorem times_add {m n : Nat} {p q : Place} :
    Times step (m + n) p q ↔ ∃ u, Times step m p u ∧ Times step n u q := by
  induction m generalizing p with
  | zero =>
    rw [Nat.zero_add]
    constructor
    · exact fun h => ⟨p, rfl, h⟩
    · rintro ⟨u, rfl, h⟩
      exact h
  | succ m ih =>
    rw [Nat.add_right_comm]
    constructor
    · rintro ⟨u, hstep, h⟩
      obtain ⟨v, hv, hv'⟩ := ih.mp h
      exact ⟨v, ⟨u, hstep, hv⟩, hv'⟩
    · rintro ⟨v, ⟨u, hstep, hv⟩, hv'⟩
      exact ⟨u, hstep, ih.mpr ⟨v, hv, hv'⟩⟩

theorem Times.congr {step' : Place → Place → Prop} (h : ∀ p q, step p q ↔ step' p q) (n : Nat)
    (p q : Place) : Times step n p q ↔ Times step' n p q := by
  have heq : step = step' := funext fun p => funext fun q => propext (h p q)
  rw [heq]

end Times

/-- **What an expression matches**: a match leads from one place of a text to another. A repetition
that asks for more rounds than it allows takes as many as it asks for. -/
def Regex.Matches : Regex → Place → Place → Prop
  | .empty, p, q => p = q
  | .look l, p, q => l.holds p = true ∧ p = q
  | .set s, p, q =>
    ∃ c rest, p.rest = c :: rest ∧ s.contains c = true ∧ q = ⟨p.index + 1, some c, rest⟩
  | .seq a b, p, q => ∃ u, a.Matches p u ∧ b.Matches u q
  | .alt a b, p, q => a.Matches p q ∨ b.Matches p q
  | .repetition least most _ body, p, q =>
    ∃ n, least ≤ n ∧ (∀ m ∈ most, n ≤ max least m) ∧ Times body.Matches n p q
  | .group _ body, p, q => body.Matches p q

/-! ### From place to place -/

namespace Plan

/-- There is a way through the plan. -/
def Joins (plan : Plan) (p q : Place) : Prop := ∃ ds cs, plan.Walk p ds cs q

variable {p q : Place}

theorem joins_empty : Plan.empty.Joins p q ↔ p = q := by
  constructor
  · rintro ⟨ds, cs, ⟨⟩⟩
    rfl
  · rintro rfl
    exact ⟨[], [], .empty p⟩

theorem joins_look {l : Look} : (Plan.look l).Joins p q ↔ l.holds p = true ∧ p = q := by
  constructor
  · rintro ⟨ds, cs, walk⟩
    cases walk with
    | look h => exact ⟨h, rfl⟩
  · rintro ⟨h, rfl⟩
    exact ⟨[], [], .look h⟩

theorem joins_set {s : CharSet} : (Plan.set s).Joins p q ↔
    ∃ c rest, p.rest = c :: rest ∧ s.contains c = true ∧ q = ⟨p.index + 1, some c, rest⟩ := by
  constructor
  · rintro ⟨ds, cs, walk⟩
    cases walk with
    | set h => exact ⟨_, _, rfl, h, rfl⟩
  · rintro ⟨c, rest, hrest, h, rfl⟩
    obtain ⟨index, before, _⟩ := p
    cases hrest
    exact ⟨[], [], .set h⟩

theorem joins_seq {a b : Plan} : (Plan.seq a b).Joins p q ↔ ∃ u, a.Joins p u ∧ b.Joins u q := by
  constructor
  · rintro ⟨ds, cs, walk⟩
    cases walk with
    | seq ha hb => exact ⟨_, ⟨_, _, ha⟩, ⟨_, _, hb⟩⟩
  · rintro ⟨u, ⟨_, _, ha⟩, ⟨_, _, hb⟩⟩
    exact ⟨_, _, .seq ha hb⟩

theorem joins_choice {label : Nat} {a b : Plan} :
    (Plan.choice label a b).Joins p q ↔ a.Joins p q ∨ b.Joins p q := by
  constructor
  · rintro ⟨ds, cs, walk⟩
    cases walk with
    | first _ _ ha => exact .inl ⟨_, _, ha⟩
    | second _ _ hb => exact .inr ⟨_, _, hb⟩
  · rintro (⟨_, _, ha⟩ | ⟨_, _, hb⟩)
    · exact ⟨_, _, .first label b ha⟩
    · exact ⟨_, _, .second label a hb⟩

theorem joins_optional {label : Nat} {greedy : Bool} {plan : Plan} :
    (optional label greedy plan).Joins p q ↔ plan.Joins p q ∨ p = q := by
  cases greedy with
  | true => exact joins_choice.trans (or_congr_right joins_empty)
  | false => exact joins_choice.trans ((or_congr_left joins_empty).trans or_comm)

theorem joins_loop {label : Nat} {greedy : Bool} {body : Plan} :
    (Plan.loop label greedy body).Joins p q ↔ ∃ n, Times body.Joins n p q := by
  constructor
  · rintro ⟨ds, cs, walk⟩
    generalize hplan : Plan.loop label greedy body = plan at walk
    induction walk with
    | leave => exact ⟨0, rfl⟩
    | again hbody hloop _ ih =>
      cases hplan
      obtain ⟨n, hn⟩ := ih rfl
      exact ⟨n + 1, _, ⟨_, _, hbody⟩, hn⟩
    | _ => cases hplan
  · rintro ⟨n, h⟩
    induction n generalizing p with
    | zero =>
      cases h
      exact ⟨_, _, .leave label greedy body _⟩
    | succ n ih =>
      obtain ⟨u, ⟨_, _, hbody⟩, hn⟩ := h
      obtain ⟨_, _, hloop⟩ := ih hn
      exact ⟨_, _, .again hbody hloop⟩

theorem joins_group {i : Nat} {body : Plan} : (Plan.group i body).Joins p q ↔ body.Joins p q := by
  constructor
  · rintro ⟨ds, cs, walk⟩
    cases walk with
    | group _ hbody => exact ⟨_, _, hbody⟩
  · rintro ⟨_, _, hbody⟩
    exact ⟨_, _, .group i hbody⟩

/-! ### Repetitions, written out -/

section Repetition

variable {body : Nat → Plan × Nat} {step : Place → Place → Prop}
  (h : ∀ label p q, (body label).1.Joins p q ↔ step p q)

include h

theorem joins_copies (n label : Nat) : (copies body n label).1.Joins p q ↔ Times step n p q := by
  induction n generalizing label p with
  | zero => exact joins_empty
  | succ n ih => exact joins_seq.trans (exists_congr fun u => and_congr (h _ _ _) (ih _))

theorem joins_upTo (greedy : Bool) (n label : Nat) :
    (upTo body greedy n label).1.Joins p q ↔ ∃ k ≤ n, Times step k p q := by
  induction n generalizing label p with
  | zero =>
    refine joins_empty.trans ⟨fun hpq => ⟨0, Nat.le_refl 0, hpq⟩, ?_⟩
    rintro ⟨k, hk, hpq⟩
    rwa [Nat.le_zero.mp hk] at hpq
  | succ n ih =>
    refine joins_optional.trans ?_
    constructor
    · rintro (hseq | hpq)
      · obtain ⟨u, hu, hrest⟩ := joins_seq.mp hseq
        obtain ⟨k, hk, hk'⟩ := (ih _).mp hrest
        exact ⟨k + 1, Nat.succ_le_succ hk, u, (h _ _ _).mp hu, hk'⟩
      · exact ⟨0, Nat.zero_le _, hpq⟩
    · rintro ⟨k, hk, hpq⟩
      cases k with
      | zero => exact .inr hpq
      | succ k =>
        obtain ⟨u, hu, hrest⟩ := hpq
        exact .inl (joins_seq.mpr
          ⟨u, (h _ _ _).mpr hu, (ih _).mpr ⟨k, Nat.le_of_succ_le_succ hk, hrest⟩⟩)

theorem joins_oneOrMore (greedy : Bool) (label : Nat) :
    (oneOrMore body greedy label).1.Joins p q ↔ ∃ k, Times step (k + 1) p q := by
  refine joins_seq.trans ?_
  constructor
  · rintro ⟨u, hu, hloop⟩
    obtain ⟨k, hk⟩ := joins_loop.mp hloop
    exact ⟨k, u, (h _ _ _).mp hu, (Times.congr (h _) k u q).mp hk⟩
  · rintro ⟨k, u, hu, hk⟩
    exact ⟨u, (h _ _ _).mpr hu, joins_loop.mpr ⟨k, (Times.congr (h _) k u q).mpr hk⟩⟩

theorem joins_zeroOrMore (consumes greedy : Bool) (label : Nat) :
    (zeroOrMore body consumes greedy label).1.Joins p q ↔ ∃ k, Times step k p q := by
  cases consumes with
  | true => exact joins_loop.trans (exists_congr fun k => Times.congr (h _) k p q)
  | false =>
    refine (joins_optional.trans (or_congr_left (joins_oneOrMore h greedy (label + 1)))).trans ?_
    constructor
    · rintro (⟨k, hk⟩ | hpq)
      · exact ⟨k + 1, hk⟩
      · exact ⟨0, hpq⟩
    · rintro ⟨k, hk⟩
      cases k with
      | zero => exact .inr hk
      | succ k => exact .inl ⟨k, hk⟩

end Repetition

/-- **The plan of an expression leads from a place to those that the expression matches to.** -/
theorem joins_ofRegex (r : Regex) (label : Nat) (p q : Place) :
    (ofRegex r label).1.Joins p q ↔ r.Matches p q := by
  induction r generalizing label p q with
  | empty => exact joins_empty
  | look l => exact joins_look
  | set s => exact joins_set
  | seq a b iha ihb =>
    exact joins_seq.trans (exists_congr fun u => and_congr (iha _ _ _) (ihb _ _ _))
  | alt a b iha ihb => exact joins_choice.trans (or_congr (iha _ _ _) (ihb _ _ _))
  | repetition least most greedy body ih =>
    cases most with
    | none =>
      cases least with
      | zero =>
        rw [ofRegex]
        refine (joins_zeroOrMore ih _ greedy label).trans (exists_congr fun n => ?_)
        simp
      | succ least =>
        rw [ofRegex]
        refine joins_seq.trans ?_
        constructor
        · rintro ⟨u, hcopies, hmore⟩
          obtain ⟨k, hk⟩ := (joins_oneOrMore ih greedy _).mp hmore
          refine ⟨least + (k + 1), by omega, by simp, ?_⟩
          exact times_add.mpr ⟨u, (joins_copies ih least label).mp hcopies, hk⟩
        · rintro ⟨n, hn, -, hpq⟩
          obtain ⟨k, rfl⟩ : ∃ k, n = least + (k + 1) := ⟨n - (least + 1), by omega⟩
          obtain ⟨u, hcopies, hmore⟩ := times_add.mp hpq
          exact ⟨u, (joins_copies ih least label).mpr hcopies,
            (joins_oneOrMore ih greedy _).mpr ⟨k, hmore⟩⟩
    | some most =>
      rw [ofRegex]
      refine joins_seq.trans ?_
      constructor
      · rintro ⟨u, hcopies, hmore⟩
        obtain ⟨k, hk, hk'⟩ := (joins_upTo ih greedy _ _).mp hmore
        refine ⟨least + k, Nat.le_add_right _ _, ?_, ?_⟩
        · rintro m ⟨⟩
          omega
        · exact times_add.mpr ⟨u, (joins_copies ih least label).mp hcopies, hk'⟩
      · rintro ⟨n, hn, hmost, hpq⟩
        have hle := hmost most rfl
        obtain ⟨k, rfl⟩ : ∃ k, n = least + k := ⟨n - least, by omega⟩
        obtain ⟨u, hcopies, hmore⟩ := times_add.mp hpq
        exact ⟨u, (joins_copies ih least label).mpr hcopies,
          (joins_upTo ih greedy _ _).mpr ⟨k, by omega, hmore⟩⟩
  | group i body ih => exact joins_group.trans (ih _ _ _)

end Plan

/-! ### The search decides -/

/-- The preferred match is a match. -/
theorem Regex.Prefers.matches {r : Regex} {p q : Place} {cs : List Capture}
    (h : r.Prefers p q cs) : r.Matches p q := by
  obtain ⟨ds, hprefers⟩ := h
  exact (Plan.joins_ofRegex r 0 p q).mp ⟨ds, cs, hprefers.walk⟩

namespace Matcher

variable {text : Text} {p : Place}

/-- **The search finds a match at a place exactly if there is one.** -/
theorem isSome_matchAt_iff (r : Regex) (hp : p.LiesIn text) :
    ((ofRegex r).matchAt text.length p).isSome = true ↔ ∃ q, r.Matches p q := by
  rw [Option.isSome_iff_ne_none, Ne, matchAt_eq_none_iff hp]
  constructor
  · intro h
    push Not at h
    obtain ⟨ds, cs, q, walk⟩ := h
    exact ⟨q, (Plan.joins_ofRegex r 0 p q).mp ⟨ds, cs, walk⟩⟩
  · rintro ⟨q, hq⟩ h
    obtain ⟨ds, cs, walk⟩ := (Plan.joins_ofRegex r 0 p q).mpr hq
    exact h ds cs q walk

end Matcher

end RuleLexer
