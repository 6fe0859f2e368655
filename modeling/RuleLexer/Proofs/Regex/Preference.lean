import Mathlib.Data.Finset.Card
import Mathlib.Tactic.SplitIfs
import RuleLexer.Proofs.Regex.Numbering

/-!
# The preferred match

The search of a plan tries the first way of every choice before the second, and comes to no choice
twice at the same place. What it finds is the preferred one of all ways through the plan that do not
go in circles, and where it finds nothing, there is no way at all.

While it searches, the choices that it has taken are of two kinds: those on the path from the start
to where it is now, and those that it has given up. From a choice that was given up, every way on
comes back to the path. When the search steps back from a choice and that choice leaves the path,
this stays true of the others: a way on that needed this choice could go on from it as the choice
itself does (`Plan.Settled`), and from there nothing was found.

* `Plan.judged_choose`: one choice.
* `Plan.judged_search`: a whole plan, by its parts; loops by the rounds that are left.
* `Matcher.matchAt_eq_some_iff`: the search finds the preferred match.
* `Matcher.matchAt_eq_none_iff`: and there is none if it finds nothing.
-/

namespace RuleLexer

/-! ### Choices taken -/

namespace Explored

variable {e : Explored} {label label' index index' : Nat}

theorem contains_insert_self (e : Explored) (label index : Nat) :
    (e.insert label index).contains label index = true := by
  simp [insert, contains, Nat.testBit_or, Nat.one_shiftLeft]

theorem contains_insert_of_contains (h : e.contains label' index' = true) (label index : Nat) :
    (e.insert label index).contains label' index' = true := by
  unfold contains at h
  simp [insert, contains, Nat.testBit_or, h]

/-- One bit for each choice at each place. -/
theorem contains_insert (hi : index < e.width) (hi' : index' < e.width)
    (h : (e.insert label index).contains label' index' = true) :
    (label' = label ∧ index' = index) ∨ e.contains label' index' = true := by
  unfold insert contains at h
  rw [Nat.testBit_or, Nat.one_shiftLeft, Nat.testBit_two_pow, Bool.or_eq_true,
    decide_eq_true_eq] at h
  refine h.symm.imp_left fun heq => ?_
  simp only at heq
  have hlabel : (label * e.width + index) / e.width = (label' * e.width + index') / e.width := by
    rw [heq]
  have hpos : 0 < e.width := by omega
  rw [Nat.mul_comm label, Nat.mul_comm label', Nat.mul_add_div hpos, Nat.mul_add_div hpos,
    Nat.div_eq_of_lt hi, Nat.div_eq_of_lt hi'] at hlabel
  obtain rfl : label' = label := by omega
  exact ⟨rfl, by omega⟩

end Explored

/-! ### Preference -/

/-- One way is preferred to another if where they part it goes the first way. -/
inductive Decision.Preferred : List Decision → List Decision → Prop where
  | refl (ds : List Decision) : Preferred ds ds
  | first (label index : Nat) (ds ds' : List Decision) :
      Preferred (⟨label, index, false⟩ :: ds) (⟨label, index, true⟩ :: ds')
  | later {ds ds' : List Decision} (d : Decision) (h : Preferred ds ds') :
      Preferred (d :: ds) (d :: ds')

theorem Decision.Preferred.antisymm {ds ds' : List Decision} (h : Preferred ds ds')
    (h' : Preferred ds' ds) : ds = ds' := by
  induction h with
  | refl => rfl
  | first => cases h'
  | later d h ih =>
    cases h' with
    | refl => rfl
    | later _ h' => rw [ih h']

/-- The decisions do not come to a choice of the path. -/
def Decision.Avoids (path : Finset (Nat × Nat)) (ds : List Decision) : Prop :=
  ∀ d ∈ ds, d.node ∉ path

/-- The decisions do not go in circles, and do not come to a choice of the path. -/
def Decision.Fresh (path : Finset (Nat × Nat)) (ds : List Decision) : Prop :=
  Avoids path ds ∧ (ds.map node).Nodup

namespace Decision

variable {path : Finset (Nat × Nat)} {d : Decision} {ds ds' : List Decision}

theorem Avoids.suffix (h : Avoids path ds) (hs : ds' <:+ ds) : Avoids path ds' :=
  fun d hd => h d (hs.subset hd)

theorem fresh_cons : Fresh path (d :: ds) ↔ d.node ∉ path ∧ Fresh (insert d.node path) ds := by
  unfold Fresh Avoids
  simp only [List.forall_mem_cons, List.map_cons, List.nodup_cons, List.mem_map, not_exists,
    not_and, Finset.mem_insert, not_or]
  constructor
  · rintro ⟨⟨hd, hds⟩, hnot, hnodup⟩
    exact ⟨hd, fun d' hd' => ⟨hnot d' hd', hds d' hd'⟩, hnodup⟩
  · rintro ⟨hd, hds, hnodup⟩
    exact ⟨⟨hd, fun d' hd' => (hds d' hd').2⟩, fun d' hd' => (hds d' hd').1, hnodup⟩

/-- Decisions that come to a path only once a choice is on it come to that choice. -/
theorem exists_suffix_of_avoids {node : Nat × Nat} (h : Avoids path ds)
    (h' : ¬ Avoids (insert node path) ds) :
    ∃ d rest, d :: rest <:+ ds ∧ d.node = node := by
  unfold Avoids at h'
  push Not at h'
  obtain ⟨d, hd, hmem⟩ := h'
  obtain ⟨before, rest, rfl⟩ := List.append_of_mem hd
  refine ⟨d, rest, List.suffix_append _ _, ?_⟩
  exact (Finset.mem_insert.mp hmem).resolve_right (h d hd)

end Decision

open Decision

namespace Onward

/-- What can be decided. -/
def Leads (onward : Onward) : Plan.After := fun p ds => ∃ t, onward p ds t

theorem leads_through (plan : Plan) (onward : Onward) :
    Leads (plan.Through onward) = plan.Reach (Leads onward) := by
  funext p ds
  refine propext ⟨?_, ?_⟩
  · rintro ⟨t, ⟨walk, rest⟩⟩
    exact .intro walk ⟨_, rest⟩
  · rintro ⟨walk, ⟨t, rest⟩⟩
    exact ⟨_, .intro walk rest⟩

theorem leads_closing (i start : Nat) (onward : Onward) :
    Leads (onward.Closing i start) = Leads onward := by
  funext p ds
  refine propext ⟨?_, ?_⟩
  · rintro ⟨t, ⟨h⟩⟩
    exact ⟨_, h⟩
  · rintro ⟨t, h⟩
    exact ⟨_, .intro h⟩

end Onward

namespace Plan

variable {text : Text} {table : Nat → Nat → List Decision → Prop}

/-- The choices taken so far are accounted for: they are those of the path, and others from which
every way on comes back to the path. -/
structure Accounts (text : Text) (table : Nat → Nat → List Decision → Prop)
    (path : Finset (Nat × Nat)) (e : Explored) : Prop where
  width : e.width = text.length + 1
  taken : ∀ n ∈ path, e.contains n.1 n.2 = true
  vain : ∀ label index, index ≤ text.length → e.contains label index = true →
    (label, index) ∈ path ∨ ∀ ds, table label index ds → ¬ Avoids path ds

/-- A search at a place is judged by the ways on: what it finds is the preferred one of those that
go in no circle and do not come to the path, and if it finds nothing, every way comes back to the
path. -/
structure Judged (text : Text) (table : Nat → Nat → List Decision → Prop) (onward : Onward)
    (path : Finset (Nat × Nat)) (p : Place) (s : Search) : Prop where
  ok : ∀ e t, Accounts text table path e → s p e = .ok t →
    ∃ ds, onward p ds t ∧ Fresh path ds ∧
      ∀ ds' t', onward p ds' t' → Fresh path ds' → Preferred ds ds'
  error : ∀ e e', Accounts text table path e → s p e = .error e' →
    Accounts text table path e' ∧ ∀ ds t, onward p ds t → ¬ Avoids path ds

variable {onward onward' : Onward} {path : Finset (Nat × Nat)} {p : Place} {s : Search}

/-- Two searches that do the same, each at a place of its own, are judged alike by the same ways
on. -/
theorem Judged.congr {q : Place} {s' : Search} (h : Judged text table onward path p s)
    (hs : ∀ e, s' q e = s p e) (honward : ∀ ds t, onward' q ds t ↔ onward p ds t) :
    Judged text table onward' path q s' where
  ok e t he hs' := by
    rw [hs] at hs'
    obtain ⟨ds, hds, hfresh, hfirst⟩ := h.ok e t he hs'
    exact ⟨ds, (honward ds t).mpr hds, hfresh,
      fun ds' t' hds' => hfirst ds' t' ((honward ds' t').mp hds')⟩
  error e e' he hs' := by
    rw [hs] at hs'
    obtain ⟨he', hvain⟩ := h.error e e' he hs'
    exact ⟨he', fun ds t hds => hvain ds t ((honward ds t).mp hds)⟩

/-- A search that finds nothing where there is no way on. -/
theorem judged_of_none (hs : ∀ e, s p e = .error e) (honward : ∀ ds t, ¬ onward p ds t) :
    Judged text table onward path p s where
  ok e t _ hs' := by
    rw [hs] at hs'
    cases hs'
  error e e' he hs' := by
    rw [hs] at hs'
    cases hs'
    exact ⟨he, fun ds t hds => absurd hds (honward ds t)⟩

/-! ### One choice -/

/-- A choice comes onto the path. -/
theorem Accounts.enter {e : Explored} (h : Accounts text table path e) (label : Nat) {index : Nat}
    (hindex : index ≤ text.length) :
    Accounts text table (insert (label, index) path) (e.insert label index) where
  width := h.width
  taken n hn := by
    rcases Finset.mem_insert.mp hn with rfl | hn
    · exact e.contains_insert_self label index
    · exact Explored.contains_insert_of_contains (h.taken n hn) label index
  vain label' index' hindex' hcontains := by
    have hw := h.width
    rcases Explored.contains_insert (by omega) (by omega) hcontains with ⟨rfl, rfl⟩ | hcontains
    · exact .inl (Finset.mem_insert_self _ _)
    · refine (h.vain label' index' hindex' hcontains).imp Finset.mem_insert_of_mem ?_
      intro hvain ds hds havoids
      exact hvain ds hds fun d hd hmem => havoids d hd (Finset.mem_insert_of_mem hmem)

/-- A choice leaves the path: what was accounted for stays so if every way on from the choice comes
to the rest of the path. -/
theorem Accounts.leave (hclosed : ∀ label index ds, table label index ds → Settled table ds)
    {e : Explored} {label index : Nat} (h : Accounts text table (insert (label, index) path) e)
    (hvain : ∀ ds, table label index ds → ¬ Avoids path ds) : Accounts text table path e where
  width := h.width
  taken n hn := h.taken n (Finset.mem_insert_of_mem hn)
  vain label' index' hindex' hcontains := by
    rcases h.vain label' index' hindex' hcontains with hmem | hvain'
    · rcases Finset.mem_insert.mp hmem with heq | hmem
      · cases heq
        exact .inr hvain
      · exact .inl hmem
    · -- a way on that avoids the rest of the path comes to the choice, and goes on as it does
      refine .inr fun ds hds havoids => ?_
      obtain ⟨d, rest, hsuffix, hnode⟩ := exists_suffix_of_avoids havoids (hvain' ds hds)
      have hd := hclosed label' index' ds hds d rest hsuffix
      cases hnode
      exact hvain _ hd (havoids.suffix hsuffix)

section Choice

variable {label : Nat} {first second : Onward}
  (hclosed : ∀ label index ds, table label index ds → Settled table ds)
  (htable : ∀ ds, table label p.index ds ↔ Onward.Leads (Onward.Either label first second) p ds)

include hclosed htable

/-- Where both ways of a choice lead back to it or to the path, every way on from it leads back to
the path: there is a last time that it comes to the choice. -/
theorem vain_of_branches
    (hfirst : ∀ ds t, first p ds t → ¬ Avoids (insert (label, p.index) path) ds)
    (hsecond : ∀ ds t, second p ds t → ¬ Avoids (insert (label, p.index) path) ds)
    (ds : List Decision) (hds : table label p.index ds) : ¬ Avoids path ds := by
  induction hlength : ds.length using Nat.strong_induction_on generalizing ds with
  | h n ih =>
    intro havoids
    -- the way comes back to the choice behind its first decision
    obtain ⟨d, ds', rfl, hback⟩ : ∃ d ds', ds = d :: ds' ∧
        ¬ Avoids (insert (label, p.index) path) ds' := by
      obtain ⟨t, ht⟩ := (htable ds).mp hds
      cases ht with
      | first h => exact ⟨_, _, rfl, hfirst _ _ h⟩
      | second h => exact ⟨_, _, rfl, hsecond _ _ h⟩
    have havoids' := havoids.suffix (List.suffix_cons d ds')
    obtain ⟨d', rest, hsuffix, hnode⟩ := exists_suffix_of_avoids havoids' hback
    have hd' := hclosed _ _ _ hds d' rest (hsuffix.trans (List.suffix_cons d ds'))
    have hshorter : (d' :: rest).length < n := by
      have hle := hsuffix.length_le
      rw [List.length_cons] at hlength
      omega
    obtain ⟨rfl, hindex⟩ := Prod.mk.inj hnode
    rw [hindex] at hd'
    exact ih _ hshorter _ hd' rfl (havoids'.suffix hsuffix)

/-- **One choice**: its search is judged by its two ways, whose searches are judged with the choice
on the path. -/
theorem judged_choose {s₁ s₂ : Search} (hp : p.LiesIn text)
    (h₁ : (label, p.index) ∉ path →
      Judged text table first (insert (label, p.index) path) p s₁)
    (h₂ : (label, p.index) ∉ path →
      Judged text table second (insert (label, p.index) path) p s₂) :
    Judged text table (Onward.Either label first second) path p (Search.choose label s₁ s₂) where
  ok e t he hs := by
    unfold Search.choose at hs
    split_ifs at hs with hcontains
    have hnot : (label, p.index) ∉ path := fun hmem => hcontains (he.taken _ hmem)
    have he' := he.enter label hp.index_le
    split at hs
    next t' hs₁ =>
      -- the first way is found
      cases hs
      obtain ⟨ds, hds, hfresh, hfirst⟩ := (h₁ hnot).ok _ _ he' hs₁
      refine ⟨_, .first hds, fresh_cons.mpr ⟨hnot, hfresh⟩, fun ds' t' hds' hfresh' => ?_⟩
      cases hds' with
      | first hds' => exact .later _ (hfirst _ _ hds' (fresh_cons.mp hfresh').2)
      | second hds' => exact .first _ _ _ _
    next e₁ hs₁ =>
      -- nothing is found the first way, so the second one has no rival
      obtain ⟨he₁, hvain⟩ := (h₁ hnot).error _ _ he' hs₁
      obtain ⟨ds, hds, hfresh, hfirst⟩ := (h₂ hnot).ok _ _ he₁ hs
      refine ⟨_, .second hds, fresh_cons.mpr ⟨hnot, hfresh⟩, fun ds' t' hds' hfresh' => ?_⟩
      cases hds' with
      | first hds' => exact absurd (fresh_cons.mp hfresh').2.1 (hvain _ _ hds')
      | second hds' => exact .later _ (hfirst _ _ hds' (fresh_cons.mp hfresh').2)
  error e e' he hs := by
    have hof {ds : List Decision} {t : Trace} (h : Onward.Either label first second p ds t) :
        table label p.index ds := (htable ds).mpr ⟨t, h⟩
    unfold Search.choose at hs
    split_ifs at hs with hcontains
    · -- the choice was taken before
      cases hs
      refine ⟨he, fun ds t hds havoids => ?_⟩
      rcases he.vain label p.index hp.index_le hcontains with hmem | hvain
      · cases hds with
        | first => exact havoids _ List.mem_cons_self hmem
        | second => exact havoids _ List.mem_cons_self hmem
      · exact hvain ds (hof hds) havoids
    · have hnot : (label, p.index) ∉ path := fun hmem => hcontains (he.taken _ hmem)
      have he' := he.enter label hp.index_le
      split at hs
      next => cases hs
      next e₁ hs₁ =>
        obtain ⟨he₁, hvain₁⟩ := (h₁ hnot).error _ _ he' hs₁
        obtain ⟨he₂, hvain₂⟩ := (h₂ hnot).error _ _ he₁ hs
        have hvain := vain_of_branches hclosed htable hvain₁ hvain₂
        exact ⟨he₂.leave hclosed hvain, fun ds t hds => hvain ds (hof hds)⟩

end Choice

/-! ### Whole plans -/

theorem judged_done (p : Place) : Judged text table Onward.Done path p Search.done where
  ok e t he hs := by
    cases hs
    refine ⟨[], .intro, ⟨by simp [Avoids], List.nodup_nil⟩, fun ds' t' hds' _ => ?_⟩
    cases hds'
    exact .refl []
  error e e' he hs := by cases hs

theorem Judged.closing (h : Judged text table onward path p s) (i start : Nat) :
    Judged text table (onward.Closing i start) path p fun q e =>
      (s q e).map fun t => { t with captures := ⟨i, start, q.index⟩ :: t.captures } where
  ok e t he hs := by
    cases hsp : s p e with
    | error e' =>
      rw [hsp] at hs
      cases hs
    | ok t' =>
      rw [hsp] at hs
      cases hs
      obtain ⟨ds, hds, hfresh, hfirst⟩ := h.ok e t' he hsp
      refine ⟨ds, .intro hds, hfresh, fun ds' t'' hds' hfresh' => ?_⟩
      cases hds' with
      | intro hds' => exact hfirst _ _ hds' hfresh'
  error e e' he hs := by
    cases hsp : s p e with
    | ok t' =>
      rw [hsp] at hs
      cases hs
    | error e₁ =>
      rw [hsp] at hs
      cases hs
      obtain ⟨he', hvain⟩ := h.error e _ he hsp
      refine ⟨he', fun ds t hds => ?_⟩
      cases hds with
      | intro hds => exact hvain _ _ hds

/-- How many places of the text a choice is on the path at. -/
def visits (text : Text) (label : Nat) (path : Finset (Nat × Nat)) : Nat :=
  ((Finset.range (text.length + 1)).filter fun index => (label, index) ∈ path).card

theorem visits_le (text : Text) (label : Nat) (path : Finset (Nat × Nat)) :
    visits text label path ≤ text.length + 1 :=
  (Finset.card_filter_le _ _).trans_eq (Finset.card_range _)

theorem visits_mono {path' : Finset (Nat × Nat)} (label : Nat) (h : path ⊆ path') :
    visits text label path ≤ visits text label path' :=
  Finset.card_le_card (Finset.monotone_filter_right _ fun _ _ hmem => h hmem)

theorem visits_lt_insert {label index : Nat} (hindex : index ≤ text.length)
    (h : (label, index) ∉ path) :
    visits text label path < visits text label (insert (label, index) path) := by
  refine Finset.card_lt_card (Finset.ssubset_iff_of_subset ?_ |>.mpr ⟨index, ?_, ?_⟩)
  · exact Finset.monotone_filter_right _ fun _ _ hmem => Finset.mem_insert_of_mem hmem
  · exact Finset.mem_filter.mpr ⟨Finset.mem_range.mpr (by omega), Finset.mem_insert_self _ _⟩
  · exact fun hmem => h (Finset.mem_filter.mp hmem).2

theorem leads_either_iff {plan : Plan} {label : Nat} {first second : Onward}
    (hp : p.LiesIn text)
    (htable : ∀ index ds,
      table label index ds ↔ After.At text (plan.Reach (Onward.Leads onward)) index ds)
    (heither : ∀ ds t, plan.Through onward p ds t ↔ Onward.Either label first second p ds t)
    (ds : List Decision) :
    table label p.index ds ↔ Onward.Leads (Onward.Either label first second) p ds := by
  rw [htable, After.at_iff hp, ← Onward.leads_through]
  exact exists_congr fun t => heither ds t

section Search

variable (hclosed : ∀ label index ds, table label index ds → Settled table ds)

include hclosed

/-- Rounds of a loop. The rounds that are left are enough: every round before put the loop onto the
path at another place. -/
theorem judged_rounds {bound : Nat} (hbound : text.length + 2 ≤ bound) {body : Plan}
    {label : Nat} {greedy : Bool} {next : Search}
    (hbody : ∀ {onward : Onward} {next : Search} {path : Finset (Nat × Nat)} {p : Place},
      Fits text table body (Onward.Leads onward) →
      (∀ path', path ⊆ path' → ∀ q, q.LiesIn text → Judged text table onward path' q next) →
      p.LiesIn text → Judged text table (body.Through onward) path p (body.search bound next))
    (hfits : Fits text table (.loop label greedy body) (Onward.Leads onward))
    (hnext : ∀ path', path ⊆ path' → ∀ q, q.LiesIn text → Judged text table onward path' q next)
    (n : Nat) {path' : Finset (Nat × Nat)} (hpath : path ⊆ path')
    (hn : bound ≤ n + visits text label path') (hp : p.LiesIn text) :
    Judged text table ((Plan.loop label greedy body).Through onward) path' p
      (Search.rounds (body.search bound) label greedy next n) := by
  induction n generalizing path' p with
  | zero =>
    have hle := visits_le text label path'
    omega
  | succ n ih =>
    have hsub : path ⊆ insert (label, p.index) path' := fun _ h =>
      Finset.mem_insert_of_mem (hpath h)
    have hleave : Judged text table onward (insert (label, p.index) path') p next :=
      hnext _ hsub p hp
    have hagain (hnot : (label, p.index) ∉ path') :
        Judged text table (body.Through ((Plan.loop label greedy body).Through onward))
          (insert (label, p.index) path') p
          (body.search bound (Search.rounds (body.search bound) label greedy next n)) := by
      have hlt := visits_lt_insert hp.index_le hnot
      refine hbody ?_ (fun path'' hpath' q hq => ?_) hp
      · rw [Onward.leads_through]
        exact hfits.2
      · have hle : visits text label _ ≤ visits text label path'' := visits_mono label hpath'
        exact ih (hsub.trans hpath') (by omega) hq
    cases greedy with
    | true =>
      have heither (ds : List Decision) (t : Trace) :
          (Plan.loop label true body).Through onward p ds t ↔
            Onward.Either label (body.Through ((Plan.loop label true body).Through onward)) onward
              p ds t := through_loop
      exact (judged_choose hclosed (leads_either_iff hp hfits.1 heither) hp hagain
        fun _ => hleave).congr (fun _ => rfl) heither
    | false =>
      have heither (ds : List Decision) (t : Trace) :
          (Plan.loop label false body).Through onward p ds t ↔
            Onward.Either label onward (body.Through ((Plan.loop label false body).Through onward))
              p ds t := through_loop
      exact (judged_choose hclosed (leads_either_iff hp hfits.1 heither) hp (fun _ => hleave)
        hagain).congr (fun _ => rfl) heither

/-- **Whole plans.** The search of a plan is judged by the ways through it and on, if the search of
what follows is judged by the ways on. -/
theorem judged_search {bound : Nat} (hbound : text.length + 2 ≤ bound) (plan : Plan)
    {next : Search} (hfits : Fits text table plan (Onward.Leads onward))
    (hnext : ∀ path', path ⊆ path' → ∀ q, q.LiesIn text → Judged text table onward path' q next)
    (hp : p.LiesIn text) :
    Judged text table (plan.Through onward) path p (plan.search bound next) := by
  induction plan generalizing onward next path p with
  | empty => exact (hnext path subset_rfl p hp).congr (fun _ => rfl) fun _ _ => through_empty
  | look l =>
    by_cases hl : l.holds p = true
    · exact (hnext path subset_rfl p hp).congr (fun _ => if_pos hl)
        fun _ _ => through_look.trans (and_iff_right hl)
    · exact judged_of_none (fun _ => if_neg hl) fun _ _ h => hl (through_look.mp h).1
  | set s =>
    obtain ⟨index, before, _ | ⟨c, rest⟩⟩ := p
    · exact judged_of_none (fun _ => rfl) fun _ _ => not_through_set
    · by_cases hc : s.contains c = true
      · exact (hnext path subset_rfl _ hp.next).congr (fun _ => if_pos hc)
          fun _ _ => through_set.trans (and_iff_right hc)
      · exact judged_of_none (fun _ => if_neg hc) fun _ _ h => hc (through_set.mp h).1
  | seq a b iha ihb =>
    obtain ⟨ha, hb⟩ := hfits
    rw [← Onward.leads_through] at ha
    refine (iha ha (fun path' hpath q hq => ?_) hp).congr (fun _ => rfl) fun _ _ => through_seq
    exact ihb hb (fun path'' hpath' => hnext path'' (hpath.trans hpath')) hq
  | choice label a b iha ihb =>
    obtain ⟨htable, ha, hb⟩ := hfits
    have hnext' : ∀ path', insert (label, p.index) path ⊆ path' → ∀ q, q.LiesIn text →
        Judged text table onward path' q next := fun path' hpath =>
      hnext path' ((Finset.subset_insert _ _).trans hpath)
    have heither (ds : List Decision) (t : Trace) :
        (Plan.choice label a b).Through onward p ds t ↔
          Onward.Either label (a.Through onward) (b.Through onward) p ds t := through_choice
    exact (judged_choose hclosed (leads_either_iff hp htable heither) hp
      (fun _ => iha ha hnext' hp) fun _ => ihb hb hnext' hp).congr (fun _ => rfl) heither
  | loop label greedy body ih =>
    exact judged_rounds hclosed hbound ih hfits hnext bound subset_rfl (Nat.le_add_right _ _) hp
  | group i body ih =>
    have hbody : Fits text table body (Onward.Leads (onward.Closing i p.index)) := by
      rw [Onward.leads_closing]
      exact hfits
    have hnext' : ∀ path', path ⊆ path' → ∀ q, q.LiesIn text →
        Judged text table (onward.Closing i p.index) path' q fun q e =>
          (next q e).map fun t => { t with captures := ⟨i, p.index, q.index⟩ :: t.captures } :=
      fun path' hpath q hq => (hnext path' hpath q hq).closing i p.index
    exact (ih hbody hnext' hp).congr (fun _ => rfl) fun _ _ => through_group

end Search

theorem through_done {plan : Plan} {ds : List Decision} {t : Trace} :
    plan.Through Onward.Done p ds t ↔ ∃ q cs, plan.Walk p ds cs q ∧ t = ⟨q.index, cs⟩ := by
  constructor
  · rintro ⟨walk, ⟨⟩⟩
    rw [List.append_nil, List.append_nil]
    exact ⟨_, _, walk, rfl⟩
  · rintro ⟨q, cs, walk, rfl⟩
    have h := Through.intro walk (@Onward.Done.intro q)
    rwa [List.append_nil, List.append_nil] at h

/-- From the start of a search: no choice is taken yet, and nothing is to be found behind the
plan. -/
theorem Numbered.judged {n k : Nat} {plan : Plan} (h : Numbered n plan k) (hp : p.LiesIn text) :
    Judged text (Entry text plan (Onward.Leads Onward.Done)) (plan.Through Onward.Done) ∅ p
      (plan.search (text.length + 2) Search.done) := by
  have hfits : Fits text (Entry text plan (Onward.Leads Onward.Done)) plan
      (Onward.Leads Onward.Done) := h.fits fun _ _ _ _ _ => Iff.rfl
  have hdone (q : Place) (ds : List Decision) (_ : q.LiesIn text)
      (hds : Onward.Leads Onward.Done q ds) :
      Settled (Entry text plan (Onward.Leads Onward.Done)) ds := by
    obtain ⟨t, ⟨⟩⟩ := hds
    exact settled_nil
  exact judged_search (fun label index ds => Entry.settled hfits hdone) (Nat.le_refl _) plan hfits
    (fun path' _ q _ => judged_done q) hp

theorem accounts_empty (text : Text) (table : Nat → Nat → List Decision → Prop) :
    Accounts text table ∅ ⟨text.length + 1, 0⟩ where
  width := rfl
  taken n hn := absurd hn (Finset.notMem_empty n)
  vain label index _ h := by
    unfold Explored.contains at h
    rw [Nat.zero_testBit] at h
    cases h

/-- The preferred way through a plan from a place, of those that do not go in circles. -/
structure Prefers (plan : Plan) (p : Place) (ds : List Decision) (cs : List Capture) (q : Place) :
    Prop where
  walk : plan.Walk p ds cs q
  nodup : (ds.map node).Nodup
  first : ∀ ds' cs' q', plan.Walk p ds' cs' q' → (ds'.map node).Nodup → Preferred ds ds'

/-- There is one preferred way at most. -/
theorem Prefers.unique {plan : Plan} {q q' : Place} {ds ds' : List Decision}
    {cs cs' : List Capture} (h : plan.Prefers p ds cs q) (h' : plan.Prefers p ds' cs' q') :
    cs = cs' ∧ q = q' := by
  have heq := (h.first _ _ _ h'.walk h'.nodup).antisymm (h'.first _ _ _ h.walk h.nodup)
  exact (h.walk.eq_of_append_eq h'.walk (congrArg (· ++ []) heq)).2

end Plan

/-- The preferred match of an expression from one place to another, with what its groups take. -/
def Regex.Prefers (r : Regex) (p q : Place) (cs : List Capture) : Prop :=
  ∃ ds, (Plan.ofRegex r 0).1.Prefers p ds cs q

namespace Matcher

variable {text : Text} {p : Place}

theorem prefers_of_matchAt {r : Regex} (hp : p.LiesIn text) {t : Trace}
    (h : (ofRegex r).matchAt text.length p = some t) :
    ∃ q, r.Prefers p q t.captures ∧ t.stop = q.index := by
  have hjudged := (Plan.numbered_ofRegex r 0).judged hp
  unfold matchAt at h
  split at h
  next t' hs =>
    cases h
    obtain ⟨ds, hds, hfresh, hfirst⟩ := hjudged.ok _ _ (Plan.accounts_empty _ _) hs
    obtain ⟨q, cs, walk, rfl⟩ := Plan.through_done.mp hds
    refine ⟨q, ⟨ds, walk, hfresh.2, fun ds' cs' q' walk' hnodup => ?_⟩, rfl⟩
    refine hfirst ds' _ (Plan.through_done.mpr ⟨q', cs', walk', rfl⟩) ⟨?_, hnodup⟩
    exact fun d _ => Finset.notMem_empty _
  next => cases h

/-- **If the search finds nothing, there is no way** through the plan. -/
theorem matchAt_eq_none_iff {r : Regex} (hp : p.LiesIn text) :
    (ofRegex r).matchAt text.length p = none ↔
      ∀ ds cs q, ¬ (Plan.ofRegex r 0).1.Walk p ds cs q := by
  constructor
  · intro h ds cs q walk
    have hjudged := (Plan.numbered_ofRegex r 0).judged hp
    unfold matchAt at h
    split at h
    next => cases h
    next e' hs =>
      obtain ⟨-, hvain⟩ := hjudged.error _ _ (Plan.accounts_empty _ _) hs
      exact hvain ds _ (Plan.through_done.mpr ⟨q, cs, walk, rfl⟩) fun d _ => Finset.notMem_empty _
  · intro h
    cases hm : (ofRegex r).matchAt text.length p with
    | none => rfl
    | some t =>
      obtain ⟨q, ⟨ds, hprefers⟩, -⟩ := prefers_of_matchAt hp hm
      exact absurd hprefers.walk (h ds t.captures q)

/-- **The search finds the preferred match.** -/
theorem matchAt_eq_some_iff {r : Regex} (hp : p.LiesIn text) {t : Trace} :
    (ofRegex r).matchAt text.length p = some t ↔
      ∃ q, r.Prefers p q t.captures ∧ t.stop = q.index := by
  refine ⟨prefers_of_matchAt hp, ?_⟩
  rintro ⟨q, ⟨ds, hprefers⟩, hstop⟩
  cases hm : (ofRegex r).matchAt text.length p with
  | none => exact absurd hprefers.walk ((matchAt_eq_none_iff hp).mp hm _ _ _)
  | some t' =>
    obtain ⟨q', ⟨ds', hprefers'⟩, hstop'⟩ := prefers_of_matchAt hp hm
    obtain ⟨hcaptures, rfl⟩ := hprefers.unique hprefers'
    obtain ⟨stop, captures⟩ := t
    obtain ⟨stop', captures'⟩ := t'
    cases hcaptures
    rw [Option.some_inj, Trace.mk.injEq]
    exact ⟨hstop'.trans hstop.symm, rfl⟩

end Matcher

end RuleLexer
