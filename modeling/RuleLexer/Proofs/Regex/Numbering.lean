import RuleLexer.Proofs.Regex.Walks

/-!
# Numbers of choices

The search of a plan knows a choice by its number, and where it comes to a choice again at the same
place, it takes for granted that what was tried there before is what could be tried now. This holds
because the number tells what follows: plans number their choices one after the other, and the only
part that stands in a plan twice, the body in front of a loop and in it, goes on to the same loop
both times.

* `Plan.numbered_ofRegex`: the plan of an expression is numbered one by one.
* `Plan.Numbered.fits`: in such a plan, the ways on from a choice are known by its number and the
  place.
* `Plan.Entry.settled`: so any way that comes to a choice goes on from there as that choice does.
-/

namespace RuleLexer

namespace Plan

/-! ### Plans are numbered one by one -/

/-- A plan numbers its choices from one number up to another: a choice first, then its parts, and no
two parts share a number, unless they are the body in front of a loop and in it. -/
inductive Numbered : Nat → Plan → Nat → Prop where
  | empty (n : Nat) : Numbered n .empty n
  | look (n : Nat) (l : Look) : Numbered n (.look l) n
  | set (n : Nat) (s : CharSet) : Numbered n (.set s) n
  | seq {n m k : Nat} {a b : Plan} (ha : Numbered n a m) (hb : Numbered m b k) :
      Numbered n (.seq a b) k
  | choice {n m k : Nat} {a b : Plan} (ha : Numbered (n + 1) a m) (hb : Numbered m b k) :
      Numbered n (.choice n a b) k
  | loop {n k : Nat} {body : Plan} (greedy : Bool) (h : Numbered (n + 1) body k) :
      Numbered n (.loop n greedy body) k
  | oneOrMore {n k : Nat} {body : Plan} (greedy : Bool) (h : Numbered (n + 1) body k) :
      Numbered n (.seq body (.loop n greedy body)) k
  | group {n k : Nat} {body : Plan} (i : Nat) (h : Numbered n body k) :
      Numbered n (.group i body) k

theorem Numbered.le {n k : Nat} {plan : Plan} (h : Numbered n plan k) : n ≤ k := by
  induction h with
  | empty => exact Nat.le_refl _
  | look => exact Nat.le_refl _
  | set => exact Nat.le_refl _
  | seq _ _ iha ihb => exact Nat.le_trans iha ihb
  | choice _ _ iha ihb => omega
  | loop _ _ ih => omega
  | oneOrMore _ _ ih => omega
  | group _ _ ih => exact ih

theorem Numbered.optional {n k : Nat} {plan : Plan} (greedy : Bool)
    (h : Numbered (n + 1) plan k) : Numbered n (Plan.optional n greedy plan) k := by
  cases greedy with
  | true => exact .choice h (.empty k)
  | false => exact .choice (.empty (n + 1)) h

section

variable {body : Nat → Plan × Nat} (h : ∀ n, Numbered n (body n).1 (body n).2)

include h

theorem numbered_copies (count n : Nat) :
    Numbered n (copies body count n).1 (copies body count n).2 := by
  induction count generalizing n with
  | zero => exact .empty n
  | succ count ih => exact .seq (h n) (ih _)

theorem numbered_upTo (greedy : Bool) (count n : Nat) :
    Numbered n (upTo body greedy count n).1 (upTo body greedy count n).2 := by
  induction count generalizing n with
  | zero => exact .empty n
  | succ count ih => exact .optional greedy (.seq (h (n + 1)) (ih _))

theorem numbered_oneOrMore (greedy : Bool) (n : Nat) :
    Numbered n (oneOrMore body greedy n).1 (oneOrMore body greedy n).2 :=
  .oneOrMore greedy (h (n + 1))

theorem numbered_zeroOrMore (consumes greedy : Bool) (n : Nat) :
    Numbered n (zeroOrMore body consumes greedy n).1 (zeroOrMore body consumes greedy n).2 := by
  cases consumes with
  | true => exact .loop greedy (h (n + 1))
  | false => exact .optional greedy (numbered_oneOrMore h greedy (n + 1))

end

/-- **The plan of an expression is numbered one by one.** -/
theorem numbered_ofRegex (r : Regex) (n : Nat) : Numbered n (ofRegex r n).1 (ofRegex r n).2 := by
  induction r generalizing n with
  | empty => exact .empty n
  | look l => exact .look n l
  | set s => exact .set n s
  | seq a b iha ihb => exact .seq (iha n) (ihb _)
  | alt a b iha ihb => exact .choice (iha (n + 1)) (ihb _)
  | repetition least most greedy body ih =>
    cases most with
    | none =>
      cases least with
      | zero =>
        rw [ofRegex]
        exact numbered_zeroOrMore ih _ greedy n
      | succ least =>
        rw [ofRegex]
        exact .seq (numbered_copies ih least n) (numbered_oneOrMore ih greedy _)
    | some most =>
      rw [ofRegex]
      exact .seq (numbered_copies ih least n) (numbered_upTo ih greedy _ _)
  | group i body ih => exact .group i (ih n)

/-! ### What follows a choice -/

/-- What can be decided from a place on. -/
abbrev After := Place → List Decision → Prop

/-- Through a plan and on. -/
inductive Reach (plan : Plan) (after : After) (p : Place) : List Decision → Prop where
  | intro {q : Place} {ds ds' : List Decision} {cs : List Capture} (walk : plan.Walk p ds cs q)
      (rest : after q ds') : Reach plan after p (ds ++ ds')

/-- What can be decided from a place on, where the place is given by its number. -/
def After.At (text : Text) (after : After) (index : Nat) (ds : List Decision) : Prop :=
  ∃ p : Place, p.LiesIn text ∧ p.index = index ∧ after p ds

theorem After.at_iff {text : Text} {p : Place} (hp : p.LiesIn text) (after : After)
    (ds : List Decision) : after.At text p.index ds ↔ after p ds := by
  constructor
  · rintro ⟨q, hq, hindex, h⟩
    rwa [hq.eq_of_index_eq hp hindex] at h
  · exact fun h => ⟨p, hp, rfl, h⟩

/-- What can be decided from a choice on, the choice given by its number and the place by its
number: some choice of the plan has this number, and from there it can go on like this. -/
def Entry (text : Text) : Plan → After → Nat → Nat → List Decision → Prop
  | .empty, _, _, _, _ => False
  | .look _, _, _, _, _ => False
  | .set _, _, _, _, _ => False
  | .seq a b, after, label, index, ds =>
    Entry text a (b.Reach after) label index ds ∨ Entry text b after label index ds
  | .choice n a b, after, label, index, ds =>
    (label = n ∧ After.At text ((Plan.choice n a b).Reach after) index ds) ∨
      Entry text a after label index ds ∨ Entry text b after label index ds
  | .loop n greedy body, after, label, index, ds =>
    (label = n ∧ After.At text ((Plan.loop n greedy body).Reach after) index ds) ∨
      Entry text body ((Plan.loop n greedy body).Reach after) label index ds
  | .group _ body, after, label, index, ds => Entry text body after label index ds

/-- A table tells what can be decided from every choice of a plan on. -/
def Fits (text : Text) (table : Nat → Nat → List Decision → Prop) : Plan → After → Prop
  | .empty, _ => True
  | .look _, _ => True
  | .set _, _ => True
  | .seq a b, after => Fits text table a (b.Reach after) ∧ Fits text table b after
  | .choice n a b, after =>
    (∀ index ds, table n index ds ↔ After.At text ((Plan.choice n a b).Reach after) index ds) ∧
      Fits text table a after ∧ Fits text table b after
  | .loop n greedy body, after =>
    (∀ index ds,
      table n index ds ↔ After.At text ((Plan.loop n greedy body).Reach after) index ds) ∧
      Fits text table body ((Plan.loop n greedy body).Reach after)
  | .group _ body, after => Fits text table body after

variable {text : Text} {table : Nat → Nat → List Decision → Prop}

theorem Numbered.entry_mem {n k : Nat} {plan : Plan} (h : Numbered n plan k) {after : After}
    {label index : Nat} {ds : List Decision} (he : Entry text plan after label index ds) :
    n ≤ label ∧ label < k := by
  induction h generalizing after with
  | empty => exact he.elim
  | look => exact he.elim
  | set => exact he.elim
  | seq ha hb iha ihb =>
    have hle := ha.le
    have hle' := hb.le
    rcases he with he | he
    · have := iha he
      omega
    · have := ihb he
      omega
  | choice ha hb iha ihb =>
    have hle := ha.le
    have hle' := hb.le
    rcases he with ⟨rfl, -⟩ | he | he
    · omega
    · have := iha he
      omega
    · have := ihb he
      omega
  | loop greedy hbody ih =>
    have hle := hbody.le
    rcases he with ⟨rfl, -⟩ | he
    · omega
    · have := ih he
      omega
  | oneOrMore greedy hbody ih =>
    have hle := hbody.le
    rcases he with he | ⟨rfl, -⟩ | he
    · have := ih he
      omega
    · omega
    · have := ih he
      omega
  | group i hbody ih => exact ih he

theorem Numbered.not_entry {n k : Nat} {plan : Plan} (h : Numbered n plan k) {after : After}
    {label index : Nat} {ds : List Decision} (hlabel : label < n ∨ k ≤ label) :
    ¬ Entry text plan after label index ds := fun he => by
  have hmem := h.entry_mem he
  omega

/-- **In a plan that is numbered one by one, what follows a choice is known by its number.** -/
theorem Numbered.fits {n k : Nat} {plan : Plan} (h : Numbered n plan k) {after : After}
    (htable : ∀ label, n ≤ label → label < k → ∀ index ds,
      table label index ds ↔ Entry text plan after label index ds) :
    Fits text table plan after := by
  induction h generalizing after with
  | empty => exact trivial
  | look => exact trivial
  | set => exact trivial
  | seq ha hb iha ihb =>
    have hle := ha.le
    have hle' := hb.le
    refine ⟨iha fun label hlabel hlabel' index ds => ?_,
      ihb fun label hlabel hlabel' index ds => ?_⟩
    · rw [htable label hlabel (by omega)]
      exact or_iff_left (hb.not_entry (.inl hlabel'))
    · rw [htable label (by omega) hlabel']
      exact or_iff_right (ha.not_entry (.inr hlabel))
  | choice ha hb iha ihb =>
    have hle := ha.le
    have hle' := hb.le
    refine ⟨fun index ds => ?_, iha fun label hlabel hlabel' index ds => ?_,
      ihb fun label hlabel hlabel' index ds => ?_⟩
    · rw [htable _ (Nat.le_refl _) (by omega)]
      refine (or_iff_left (not_or.mpr ⟨ha.not_entry (.inl (Nat.lt_succ_self _)),
        hb.not_entry (.inl ?_)⟩)).trans (and_iff_right rfl)
      omega
    · rw [htable label (by omega) (by omega)]
      exact (or_iff_right fun hself => by omega).trans (or_iff_left (hb.not_entry (.inl hlabel')))
    · rw [htable label (by omega) hlabel']
      exact (or_iff_right fun hself => by omega).trans (or_iff_right (ha.not_entry (.inr hlabel)))
  | loop greedy hbody ih =>
    have hle := hbody.le
    refine ⟨fun index ds => ?_, ih fun label hlabel hlabel' index ds => ?_⟩
    · rw [htable _ (Nat.le_refl _) (by omega)]
      exact (or_iff_left (hbody.not_entry (.inl (Nat.lt_succ_self _)))).trans (and_iff_right rfl)
    · rw [htable label (by omega) hlabel']
      exact or_iff_right fun hself => by omega
  | @oneOrMore n k body greedy hbody ih =>
    have hle := hbody.le
    -- both times the body goes on to the same loop
    have hfits : Fits text table body ((Plan.loop n greedy body).Reach after) := by
      refine ih fun label hlabel hlabel' index ds => ?_
      rw [htable label (by omega) hlabel']
      exact (or_congr_right (or_iff_right fun hself => by omega)).trans or_self_iff
    have hnot {index : Nat} {ds : List Decision} :
        ¬ Entry text body ((Plan.loop n greedy body).Reach after) n index ds :=
      hbody.not_entry (.inl (Nat.lt_succ_self n))
    refine ⟨hfits, fun index ds => ?_, hfits⟩
    rw [htable _ (Nat.le_refl _) (by omega)]
    exact (or_iff_right hnot).trans ((or_iff_left hnot).trans (and_iff_right rfl))
  | group i hbody ih => exact ih htable

/-! ### Ways that come to a choice -/

/-- Wherever these decisions come to a choice, they go on as the table tells. -/
def Settled (table : Nat → Nat → List Decision → Prop) (ds : List Decision) : Prop :=
  ∀ d rest, d :: rest <:+ ds → table d.label d.index (d :: rest)

theorem settled_nil : Settled table [] := fun d rest h => by simp at h

theorem settled_cons {d : Decision} {ds : List Decision} (h : table d.label d.index (d :: ds))
    (hs : Settled table ds) : Settled table (d :: ds) := by
  intro d' rest hsuffix
  rcases List.suffix_cons_iff.mp hsuffix with heq | hsuffix
  · cases heq
    exact h
  · exact hs d' rest hsuffix

/-- A walk through a plan that the table fits is settled, if it is settled behind the plan. -/
theorem Walk.settled {plan : Plan} {p q : Place} {ds ds' : List Decision} {cs : List Capture}
    (h : plan.Walk p ds cs q) {after : After} (hfits : Fits text table plan after)
    (hp : p.LiesIn text) (hafter : after q ds') (hs : Settled table ds') :
    Settled table (ds ++ ds') := by
  induction h generalizing after ds' with
  | empty => exact hs
  | look => exact hs
  | set => exact hs
  | seq ha hb iha ihb =>
    rw [List.append_assoc]
    exact iha hfits.1 hp (.intro hb hafter) (ihb hfits.2 (ha.liesIn hp) hafter hs)
  | @first a p q ds cs label b ha ih =>
    refine settled_cons ?_ (ih hfits.2.1 hp hafter hs)
    exact (hfits.1 _ _).mpr ⟨p, hp, rfl, .intro (.first label b ha) hafter⟩
  | @second b p q ds cs label a hb ih =>
    refine settled_cons ?_ (ih hfits.2.2 hp hafter hs)
    exact (hfits.1 _ _).mpr ⟨p, hp, rfl, .intro (.second label a hb) hafter⟩
  | leave label greedy body p =>
    refine settled_cons ?_ hs
    exact (hfits.1 _ _).mpr ⟨p, hp, rfl, .intro (.leave label greedy body p) hafter⟩
  | @again label greedy body p u q ds ds₁ cs cs₁ hbody hloop ihbody ihloop =>
    have hloop' : Settled table (ds₁ ++ ds') := ihloop hfits (hbody.liesIn hp) hafter hs
    have hbody' : Settled table (ds ++ (ds₁ ++ ds')) :=
      ihbody hfits.2 hp (.intro hloop hafter) hloop'
    rw [← List.append_assoc] at hbody'
    refine settled_cons ?_ hbody'
    exact (hfits.1 _ _).mpr ⟨p, hp, rfl, .intro (.again hbody hloop) hafter⟩
  | group i _ ih => exact ih hfits hp hafter hs

theorem After.At.settled {plan : Plan} {after : After} (hfits : Fits text table plan after)
    (hafter : ∀ q ds, q.LiesIn text → after q ds → Settled table ds) {index : Nat}
    {ds : List Decision} (h : After.At text (plan.Reach after) index ds) : Settled table ds := by
  obtain ⟨p, hp, -, ⟨walk, rest⟩⟩ := h
  exact walk.settled hfits hp rest (hafter _ _ (walk.liesIn hp) rest)

/-- **What can be decided from a choice on is settled.** -/
theorem Entry.settled {plan : Plan} {after : After} (hfits : Fits text table plan after)
    (hafter : ∀ q ds, q.LiesIn text → after q ds → Settled table ds) {label index : Nat}
    {ds : List Decision} (h : Entry text plan after label index ds) : Settled table ds := by
  induction plan generalizing after with
  | empty => exact h.elim
  | look => exact h.elim
  | set => exact h.elim
  | seq a b iha ihb =>
    rcases h with h | h
    · refine iha hfits.1 (fun q ds hq hreach => ?_) h
      have hat := (After.at_iff hq _ ds).mpr hreach
      exact hat.settled hfits.2 hafter
    · exact ihb hfits.2 hafter h
  | choice n a b iha ihb =>
    rcases h with ⟨-, h⟩ | h | h
    · exact h.settled hfits hafter
    · exact iha hfits.2.1 hafter h
    · exact ihb hfits.2.2 hafter h
  | loop n greedy body ih =>
    rcases h with ⟨-, h⟩ | h
    · exact h.settled hfits hafter
    · refine ih hfits.2 (fun q ds hq hreach => ?_) h
      have hat := (After.at_iff hq _ ds).mpr hreach
      exact hat.settled hfits hafter
  | group i body ih => exact ih hfits hafter h

end Plan

end RuleLexer
