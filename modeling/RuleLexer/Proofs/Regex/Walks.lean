import Mathlib.Logic.Basic
import RuleLexer.Regex.Match

/-!
# Ways through a plan

What it means to match, told without a search. A walk leads through a plan from one place of the
text to another; at every choice it decides for one of the two ways, and it notes what the groups
take. Walks may go in circles: a loop whose body takes nothing leads back to the same choice at the
same place.

* `Plan.Walk`: the ways through a plan, with what they decide and what their groups take.
* `Plan.Walk.liesIn`, `Plan.Walk.index_le`: a walk stays in its text and never goes back.
* `Plan.Walk.captures_between`: what groups take lies between the two ends of the walk.
* `Plan.Walk.eq_of_append_eq`: the decisions tell all else.
* `Plan.through_seq`, `Plan.through_choice`, `Plan.through_loop`, `Plan.through_group`: the ways
  through a plan and on, part by part.
-/

namespace RuleLexer

/-! ### Places of a text -/

namespace Place

/-- The place is one of a text: what lies before it and what follows it make up the text. -/
def LiesIn (p : Place) (text : Text) : Prop :=
  ∃ front, text = front ++ p.rest ∧ p.index = front.length ∧ p.before = front.getLast?

theorem liesIn_ofText (text : Text) : (ofText text).LiesIn text := ⟨[], rfl, rfl, rfl⟩

variable {p q : Place} {text : Text}

theorem LiesIn.next {index : Nat} {before : Option Char} {c : Char} {rest : Text}
    (h : LiesIn ⟨index, before, c :: rest⟩ text) : LiesIn ⟨index + 1, some c, rest⟩ text := by
  obtain ⟨front, rfl, hindex, -⟩ := h
  refine ⟨front ++ [c], by simp, ?_, by simp⟩
  rw [List.length_append, List.length_singleton, ← hindex]

theorem LiesIn.index_le (h : p.LiesIn text) : p.index ≤ text.length := by
  obtain ⟨front, rfl, hindex, -⟩ := h
  rw [hindex, List.length_append]
  exact Nat.le_add_right _ _

/-- A place of a text is known by its number. -/
theorem LiesIn.eq_of_index_eq (hp : p.LiesIn text) (hq : q.LiesIn text) (h : p.index = q.index) :
    p = q := by
  obtain ⟨front, rfl, hindex, hbefore⟩ := hp
  obtain ⟨front', htext, hindex', hbefore'⟩ := hq
  obtain ⟨rfl, hrest⟩ := List.append_inj htext (by rw [← hindex, ← hindex', h])
  cases p
  cases q
  simp_all

end Place

/-! ### Walks -/

/-- A decision: the number of the choice, the number of the place, and whether it is for the second
of the two ways. -/
structure Decision where
  label : Nat
  index : Nat
  second : Bool
  deriving DecidableEq, Repr

/-- The choice and the place. -/
def Decision.node (d : Decision) : Nat × Nat := (d.label, d.index)

/-- What a group took lies between two places. -/
def Capture.Between (c : Capture) (start stop : Nat) : Prop :=
  start ≤ c.start ∧ c.start ≤ c.stop ∧ c.stop ≤ stop

theorem Capture.between_append {cs cs' : List Capture} {start middle stop : Nat}
    (hstart : start ≤ middle) (hstop : middle ≤ stop) (h : ∀ c ∈ cs, c.Between start middle)
    (h' : ∀ c ∈ cs', c.Between middle stop) : ∀ c ∈ cs ++ cs', c.Between start stop := by
  intro c hc
  rcases List.mem_append.mp hc with hc | hc
  · obtain ⟨h₁, h₂, h₃⟩ := h c hc
    exact ⟨h₁, h₂, Nat.le_trans h₃ hstop⟩
  · obtain ⟨h₁, h₂, h₃⟩ := h' c hc
    exact ⟨Nat.le_trans hstart h₁, h₂, h₃⟩

namespace Plan

/-- **A way through a plan** from a place to another, with its decisions and with what its groups
take, each in the order of the walk; a group takes its part when it is left. -/
inductive Walk : Plan → Place → List Decision → List Capture → Place → Prop where
  | empty (p : Place) : Walk .empty p [] [] p
  | look {l : Look} {p : Place} (h : l.holds p = true) : Walk (.look l) p [] [] p
  | set {s : CharSet} {index : Nat} {before : Option Char} {c : Char} {rest : Text}
      (h : s.contains c = true) :
      Walk (.set s) ⟨index, before, c :: rest⟩ [] [] ⟨index + 1, some c, rest⟩
  | seq {a b : Plan} {p u q : Place} {ds ds' : List Decision} {cs cs' : List Capture}
      (ha : Walk a p ds cs u) (hb : Walk b u ds' cs' q) :
      Walk (.seq a b) p (ds ++ ds') (cs ++ cs') q
  | first {a : Plan} {p q : Place} {ds : List Decision} {cs : List Capture} (label : Nat) (b : Plan)
      (ha : Walk a p ds cs q) : Walk (.choice label a b) p (⟨label, p.index, false⟩ :: ds) cs q
  | second {b : Plan} {p q : Place} {ds : List Decision} {cs : List Capture} (label : Nat)
      (a : Plan) (hb : Walk b p ds cs q) :
      Walk (.choice label a b) p (⟨label, p.index, true⟩ :: ds) cs q
  /-- A loop is left, which is the second way if it is greedy. -/
  | leave (label : Nat) (greedy : Bool) (body : Plan) (p : Place) :
      Walk (.loop label greedy body) p [⟨label, p.index, greedy⟩] [] p
  /-- Another round, and the loop again. -/
  | again {label : Nat} {greedy : Bool} {body : Plan} {p u q : Place} {ds ds' : List Decision}
      {cs cs' : List Capture} (hbody : Walk body p ds cs u)
      (hloop : Walk (.loop label greedy body) u ds' cs' q) :
      Walk (.loop label greedy body) p (⟨label, p.index, !greedy⟩ :: (ds ++ ds')) (cs ++ cs') q
  | group {body : Plan} {p q : Place} {ds : List Decision} {cs : List Capture} (i : Nat)
      (hbody : Walk body p ds cs q) :
      Walk (.group i body) p ds (cs ++ [⟨i, p.index, q.index⟩]) q

namespace Walk

variable {plan : Plan} {p q : Place} {ds : List Decision} {cs : List Capture}

/-- **A walk stays in its text.** -/
theorem liesIn (h : plan.Walk p ds cs q) {text : Text} (hp : p.LiesIn text) : q.LiesIn text := by
  induction h with
  | empty p => exact hp
  | look => exact hp
  | set => exact hp.next
  | seq _ _ iha ihb => exact ihb (iha hp)
  | first _ _ _ ih => exact ih hp
  | second _ _ _ ih => exact ih hp
  | leave => exact hp
  | again _ _ ihbody ihloop => exact ihloop (ihbody hp)
  | group _ _ ih => exact ih hp

/-- **A walk never goes back.** -/
theorem index_le (h : plan.Walk p ds cs q) : p.index ≤ q.index := by
  induction h with
  | empty p => exact Nat.le_refl _
  | look => exact Nat.le_refl _
  | set => exact Nat.le_succ _
  | seq _ _ iha ihb => exact Nat.le_trans iha ihb
  | first _ _ _ ih => exact ih
  | second _ _ _ ih => exact ih
  | leave => exact Nat.le_refl _
  | again _ _ ihbody ihloop => exact Nat.le_trans ihbody ihloop
  | group _ _ ih => exact ih

/-- **What groups take lies between the two ends of the walk.** -/
theorem captures_between (h : plan.Walk p ds cs q) : ∀ c ∈ cs, c.Between p.index q.index := by
  induction h with
  | empty p => exact fun c hc => absurd hc List.not_mem_nil
  | look => exact fun c hc => absurd hc List.not_mem_nil
  | set => exact fun c hc => absurd hc List.not_mem_nil
  | seq ha hb iha ihb => exact Capture.between_append ha.index_le hb.index_le iha ihb
  | first _ _ _ ih => exact ih
  | second _ _ _ ih => exact ih
  | leave => exact fun c hc => absurd hc List.not_mem_nil
  | again hbody hloop ihbody ihloop =>
    exact Capture.between_append hbody.index_le hloop.index_le ihbody ihloop
  | group i hbody ih =>
    intro c hc
    rcases List.mem_append.mp hc with hc | hc
    · exact ih c hc
    · obtain rfl := List.mem_singleton.mp hc
      exact ⟨Nat.le_refl _, hbody.index_le, Nat.le_refl _⟩

/-- **The decisions tell all else.** Of two ways from the same place, if what they decide is the
same as far as both go, they are the same way. -/
theorem eq_of_append_eq (h : plan.Walk p ds cs q) {q' : Place} {ds' xs xs' : List Decision}
    {cs' : List Capture} (h' : plan.Walk p ds' cs' q') (heq : ds ++ xs = ds' ++ xs') :
    ds = ds' ∧ cs = cs' ∧ q = q' := by
  induction h generalizing q' ds' cs' xs xs' with
  | empty p =>
    cases h'
    exact ⟨rfl, rfl, rfl⟩
  | look =>
    cases h'
    exact ⟨rfl, rfl, rfl⟩
  | set =>
    cases h'
    exact ⟨rfl, rfl, rfl⟩
  | seq ha hb iha ihb =>
    cases h' with
    | seq ha' hb' =>
      rw [List.append_assoc, List.append_assoc] at heq
      obtain ⟨rfl, rfl, rfl⟩ := iha ha' heq
      obtain ⟨rfl, rfl, rfl⟩ := ihb hb' (List.append_cancel_left heq)
      exact ⟨rfl, rfl, rfl⟩
  | first label b ha ih =>
    cases h' with
    | first _ _ ha' =>
      obtain ⟨rfl, rfl, rfl⟩ := ih ha' (List.cons.inj heq).2
      exact ⟨rfl, rfl, rfl⟩
    | second _ _ hb' => cases (List.cons.inj heq).1
  | second label a hb ih =>
    cases h' with
    | first _ _ ha' => cases (List.cons.inj heq).1
    | second _ _ hb' =>
      obtain ⟨rfl, rfl, rfl⟩ := ih hb' (List.cons.inj heq).2
      exact ⟨rfl, rfl, rfl⟩
  | leave label greedy body p =>
    cases h' with
    | leave => exact ⟨rfl, rfl, rfl⟩
    | again hbody' hloop' => simp at heq
  | again hbody hloop ihbody ihloop =>
    cases h' with
    | leave => simp at heq
    | again hbody' hloop' =>
      rw [List.cons_append, List.cons_append, List.cons.injEq, List.append_assoc,
        List.append_assoc] at heq
      have heq := heq.2
      obtain ⟨rfl, rfl, rfl⟩ := ihbody hbody' heq
      obtain ⟨rfl, rfl, rfl⟩ := ihloop hloop' (List.append_cancel_left heq)
      exact ⟨rfl, rfl, rfl⟩
  | group i hbody ih =>
    cases h' with
    | group _ hbody' =>
      obtain ⟨rfl, rfl, rfl⟩ := ih hbody' heq
      exact ⟨rfl, rfl, rfl⟩

end Walk

end Plan

/-! ### Through a plan and on -/

/-- The ways on from a place: what they decide, where they end and what their groups take. -/
abbrev Onward := Place → List Decision → Trace → Prop

namespace Onward

/-- There is nothing to do any more. -/
inductive Done (p : Place) : List Decision → Trace → Prop where
  | intro : Done p [] ⟨p.index, []⟩

/-- One of two ways, with the decision for it. -/
inductive Either (label : Nat) (first second : Onward) (p : Place) :
    List Decision → Trace → Prop where
  | first {ds : List Decision} {t : Trace} (h : first p ds t) :
      Either label first second p (⟨label, p.index, false⟩ :: ds) t
  | second {ds : List Decision} {t : Trace} (h : second p ds t) :
      Either label first second p (⟨label, p.index, true⟩ :: ds) t

/-- A group that was entered at a place is left, and then it goes on. -/
inductive Closing (i start : Nat) (onward : Onward) (q : Place) :
    List Decision → Trace → Prop where
  | intro {ds : List Decision} {t : Trace} (h : onward q ds t) :
      Closing i start onward q ds ⟨t.stop, ⟨i, start, q.index⟩ :: t.captures⟩

end Onward

namespace Plan

/-- Through a plan and on. -/
inductive Through (plan : Plan) (onward : Onward) (p : Place) : List Decision → Trace → Prop where
  | intro {q : Place} {ds ds' : List Decision} {cs : List Capture} {t : Trace}
      (walk : plan.Walk p ds cs q) (rest : onward q ds' t) :
      Through plan onward p (ds ++ ds') ⟨t.stop, cs ++ t.captures⟩

variable {onward : Onward} {p : Place} {ds : List Decision} {t : Trace}

theorem through_empty : Plan.empty.Through onward p ds t ↔ onward p ds t := by
  constructor
  · rintro ⟨⟨⟩, rest⟩
    exact rest
  · exact fun rest => .intro (.empty p) rest

theorem through_look {l : Look} :
    (Plan.look l).Through onward p ds t ↔ l.holds p = true ∧ onward p ds t := by
  constructor
  · rintro ⟨walk, rest⟩
    cases walk with
    | look h => exact ⟨h, rest⟩
  · exact fun ⟨h, rest⟩ => .intro (.look h) rest

theorem through_set {s : CharSet} {index : Nat} {before : Option Char} {c : Char} {rest : Text} :
    (Plan.set s).Through onward ⟨index, before, c :: rest⟩ ds t ↔
      s.contains c = true ∧ onward ⟨index + 1, some c, rest⟩ ds t := by
  constructor
  · rintro ⟨walk, rest⟩
    cases walk with
    | set h => exact ⟨h, rest⟩
  · exact fun ⟨h, rest⟩ => .intro (.set h) rest

theorem not_through_set {s : CharSet} {index : Nat} {before : Option Char} :
    ¬ (Plan.set s).Through onward ⟨index, before, []⟩ ds t := by
  rintro ⟨⟨⟩, -⟩

theorem through_seq {a b : Plan} :
    (Plan.seq a b).Through onward p ds t ↔ a.Through (b.Through onward) p ds t := by
  constructor
  · rintro ⟨walk, rest⟩
    cases walk with
    | seq ha hb =>
      rw [List.append_assoc, List.append_assoc]
      exact .intro ha (Through.intro hb rest)
  · rintro ⟨ha, ⟨hb, rest⟩⟩
    rw [← List.append_assoc, ← List.append_assoc]
    exact .intro (.seq ha hb) rest

theorem through_choice {label : Nat} {a b : Plan} :
    (Plan.choice label a b).Through onward p ds t ↔
      Onward.Either label (a.Through onward) (b.Through onward) p ds t := by
  constructor
  · rintro ⟨walk, rest⟩
    cases walk with
    | first _ _ ha => exact .first (.intro ha rest)
    | second _ _ hb => exact .second (.intro hb rest)
  · rintro (⟨⟨ha, rest⟩⟩ | ⟨⟨hb, rest⟩⟩)
    · exact .intro (.first label b ha) rest
    · exact .intro (.second label a hb) rest

theorem through_loop {label : Nat} {greedy : Bool} {body : Plan} :
    (Plan.loop label greedy body).Through onward p ds t ↔
      if greedy then
        Onward.Either label (body.Through ((Plan.loop label greedy body).Through onward)) onward
          p ds t
      else
        Onward.Either label onward (body.Through ((Plan.loop label greedy body).Through onward))
          p ds t := by
  have again {ds : List Decision} {t : Trace}
      (h : body.Through ((Plan.loop label greedy body).Through onward) p ds t) :
      (Plan.loop label greedy body).Through onward p (⟨label, p.index, !greedy⟩ :: ds) t := by
    obtain ⟨hbody, ⟨hloop, rest⟩⟩ := h
    rw [← List.append_assoc, ← List.append_assoc]
    exact .intro (.again hbody hloop) rest
  have leave {ds : List Decision} (h : onward p ds t) :
      (Plan.loop label greedy body).Through onward p (⟨label, p.index, greedy⟩ :: ds) t :=
    .intro (.leave label greedy body p) h
  constructor
  · rintro ⟨walk, rest⟩
    cases walk with
    | leave =>
      cases greedy with
      | true => exact .second rest
      | false => exact .first rest
    | again hbody hloop =>
      have h := Through.intro hbody (Through.intro hloop rest)
      rw [← List.append_assoc, ← List.append_assoc] at h
      cases greedy with
      | true => exact .first h
      | false => exact .second h
  · cases greedy with
    | true =>
      rintro (⟨h⟩ | ⟨h⟩)
      · exact again h
      · exact leave h
    | false =>
      rintro (⟨h⟩ | ⟨h⟩)
      · exact leave h
      · exact again h

theorem through_group {i : Nat} {body : Plan} :
    (Plan.group i body).Through onward p ds t ↔
      body.Through (onward.Closing i p.index) p ds t := by
  constructor
  · rintro ⟨walk, rest⟩
    cases walk with
    | group _ hbody =>
      rw [List.append_assoc]
      exact .intro hbody (Onward.Closing.intro rest)
  · rintro ⟨hbody, ⟨rest⟩⟩
    have h := Through.intro (.group i hbody) rest
    rwa [List.append_assoc] at h

end Plan

end RuleLexer
