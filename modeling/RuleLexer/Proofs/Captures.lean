import RuleLexer.Proofs.Lexer.Fronting
import RuleLexer.Proofs.Regex.Preference

/-!
# Groups and submatches

A token of a pattern carries what the groups of the pattern took in the match. There is one text for
each number of a group, and each lies in the literal of the token, however the groups are nested,
repeated or passed by. Keeping account of the groups has no influence on what is found: the search
for the same expression without its groups ends at the same places, so for an expression that has
none, nothing is lost if no account is kept.

* `Matcher.exists_prefers_of_find?`: the first match is the preferred one at its place.
* `Matcher.infix_of_mem_groupTexts`: what groups take lies in the match.
* `Plan.sameStops_ungrouped`: the search without groups ends at the same places.
* `Rule.submatches_within_literal`: what this means for the tokens of a rule.
-/

namespace RuleLexer

/-! ### Numbers of groups -/

namespace Regex

/-- The expression has a group of this number. -/
def HasGroup (i : Nat) : Regex → Prop
  | .empty => False
  | .look _ => False
  | .set _ => False
  | .seq a b => a.HasGroup i ∨ b.HasGroup i
  | .alt a b => a.HasGroup i ∨ b.HasGroup i
  | .repetition _ _ _ body => body.HasGroup i
  | .group j body => j = i ∨ body.HasGroup i

theorem HasGroup.le_groupCount {i : Nat} {r : Regex} (h : r.HasGroup i) : i ≤ r.groupCount := by
  induction r with
  | empty => exact h.elim
  | look => exact h.elim
  | set => exact h.elim
  | seq a b iha ihb => exact h.elim (le_max_of_le_left ∘ iha) (le_max_of_le_right ∘ ihb)
  | alt a b iha ihb => exact h.elim (le_max_of_le_left ∘ iha) (le_max_of_le_right ∘ ihb)
  | repetition least most greedy body ih => exact ih h
  | group j body ih =>
    rcases h with rfl | h
    · exact le_max_left _ _
    · exact le_max_of_le_right (ih h)

theorem hasGroup_groupCount {r : Regex} (h : 0 < r.groupCount) : r.HasGroup r.groupCount := by
  induction r with
  | empty => cases h
  | look => cases h
  | set => cases h
  | seq a b iha ihb =>
    simp only [groupCount, HasGroup] at h ⊢
    rcases max_cases a.groupCount b.groupCount with ⟨heq, -⟩ | ⟨heq, -⟩ <;> rw [heq] at h ⊢
    · exact .inl (iha h)
    · exact .inr (ihb h)
  | alt a b iha ihb =>
    simp only [groupCount, HasGroup] at h ⊢
    rcases max_cases a.groupCount b.groupCount with ⟨heq, -⟩ | ⟨heq, -⟩ <;> rw [heq] at h ⊢
    · exact .inl (iha h)
    · exact .inr (ihb h)
  | repetition least most greedy body ih => exact ih h
  | group j body ih =>
    simp only [groupCount, HasGroup] at h ⊢
    rcases max_cases j body.groupCount with ⟨heq, -⟩ | ⟨heq, -⟩ <;> rw [heq] at h ⊢
    · exact .inl rfl
    · exact .inr (ih h)

end Regex

/-! ### Parts of a match -/

namespace Matcher

theorem slice_append (t : Text) {start middle stop : Nat} (h : start ≤ middle)
    (h' : middle ≤ stop) : slice t start middle ++ slice t middle stop = slice t start stop := by
  unfold slice
  have hlength : stop - start = (middle - start) + (stop - middle) := by omega
  have hdrop : start + (middle - start) = middle := by omega
  rw [hlength, List.take_add, List.drop_drop, hdrop]

/-- A part between two places lies in the part between two places around them. -/
theorem slice_infix (t : Text) {start stop : Nat} {c : Capture} (h : c.Between start stop) :
    slice t c.start c.stop <:+: slice t start stop := by
  obtain ⟨hstart, hle, hstop⟩ := h
  refine ⟨slice t start c.start, slice t c.stop stop, ?_⟩
  rw [slice_append t hstart hle, slice_append t (hstart.trans hle) hstop]

variable {r : Regex}

/-- **What groups take lies in the match.** -/
theorem infix_of_mem_groupTexts (m : Matcher) (t : Text) {start stop : Nat} {cs : List Capture}
    (h : ∀ c ∈ cs, c.Between start stop) {s : Text} (hs : s ∈ m.groupTexts t cs) :
    s <:+: slice t start stop := by
  obtain ⟨i, -, rfl⟩ := List.mem_map.mp hs
  unfold groupText
  split
  next c hc =>
    have hmem := List.mem_of_find?_eq_some hc
    exact slice_infix t (h c (List.mem_reverse.mp hmem))
  next => exact List.nil_infix

theorem exists_matchAt_of_searchFrom {m : Matcher} {text t : Text} {index : Nat}
    {before : Option Char} (hp : Place.LiesIn ⟨index, before, t⟩ text) {start : Nat} {trace : Trace}
    (h : m.searchFrom text.length index before t = some (start, trace)) :
    ∃ p : Place, p.LiesIn text ∧ p.index = start ∧ m.matchAt text.length p = some trace := by
  induction t generalizing index before with
  | nil =>
    obtain ⟨trace', hmatch, heq⟩ := Option.map_eq_some_iff.mp h
    cases heq
    exact ⟨_, hp, rfl, hmatch⟩
  | cons c rest ih =>
    unfold searchFrom at h
    split at h
    next trace' hmatch =>
      cases h
      exact ⟨_, hp, rfl, hmatch⟩
    next => exact ih hp.next h

/-- **The first match is the preferred one at its place.** -/
theorem exists_prefers_of_find? {text : Text} {start : Nat} {trace : Trace}
    (h : (ofRegex r).find? text = some (start, trace)) :
    ∃ p q : Place, p.LiesIn text ∧ p.index = start ∧ r.Prefers p q trace.captures ∧
      trace.stop = q.index := by
  rw [find?_eq_searchFrom] at h
  obtain ⟨p, hp, hindex, hmatch⟩ := exists_matchAt_of_searchFrom (Place.liesIn_ofText text) h
  obtain ⟨q, hprefers, hstop⟩ := (matchAt_eq_some_iff hp).mp hmatch
  exact ⟨p, q, hp, hindex, hprefers, hstop⟩

end Matcher

/-! ### Without an account of groups -/

/-- Two searches end at the same places, or fail with the same choices taken in vain. -/
def Search.SameStops (s s' : Search) : Prop :=
  ∀ p e, (s p e).map Trace.stop = (s' p e).map Trace.stop

theorem Search.choose_map_stop (label : Nat) (s t : Search) (p : Place) (e : Explored) :
    (choose label s t p e).map Trace.stop =
      if e.contains label p.index then .error e
      else match (s p (e.insert label p.index)).map Trace.stop with
        | .ok stop => .ok stop
        | .error e => (t p e).map Trace.stop := by
  unfold choose
  split_ifs
  · rfl
  · cases s p (e.insert label p.index) <;> rfl

namespace Search.SameStops

variable {s s' t t' : Search}

theorem choose (hs : SameStops s s') (ht : SameStops t t') (label : Nat) :
    SameStops (Search.choose label s t) (Search.choose label s' t') := by
  intro p e
  simp only [choose_map_stop, hs p, ht p]

/-- Rounds of two loops, whose bodies end at the same places if what follows does. -/
theorem rounds {body body' : Search → Search}
    (hbody : ∀ {s s' : Search}, SameStops s s' → SameStops (body s) (body' s'))
    (hs : SameStops s s') (label : Nat) (greedy : Bool) (n : Nat) :
    SameStops (Search.rounds body label greedy s n) (Search.rounds body' label greedy s' n) := by
  induction n with
  | zero => exact fun _ _ => rfl
  | succ n ih =>
    cases greedy with
    | true => exact (hbody ih).choose hs label
    | false => exact hs.choose (hbody ih) label

end Search.SameStops

/-- The plan without its groups. -/
def Plan.ungrouped : Plan → Plan
  | .empty => .empty
  | .look l => .look l
  | .set s => .set s
  | .seq a b => .seq a.ungrouped b.ungrouped
  | .choice label a b => .choice label a.ungrouped b.ungrouped
  | .loop label greedy body => .loop label greedy body.ungrouped
  | .group _ body => body.ungrouped

/-- **The search without groups ends at the same places**, if what follows does. -/
theorem Plan.sameStops_ungrouped (plan : Plan) (bound : Nat) {s s' : Search} (h : s.SameStops s') :
    (plan.search bound s).SameStops (plan.ungrouped.search bound s') := by
  induction plan generalizing s s' with
  | empty => exact h
  | look l =>
    intro p e
    simp only [search, ungrouped]
    split_ifs
    · exact h p e
    · rfl
  | set set =>
    intro p e
    simp only [search, ungrouped, Search.readChar]
    split
    · rfl
    · split_ifs
      · exact h _ e
      · rfl
  | seq a b iha ihb => exact iha (ihb h)
  | choice label a b iha ihb => exact (iha h).choose (ihb h) label
  | loop label greedy body ih => exact h.rounds ih label greedy bound
  | group i body ih =>
    intro p e
    refine ih (fun q e => ?_) p e
    rw [← h q e]
    cases s q e <;> rfl

/-- The expression without its groups. -/
def Regex.ungrouped : Regex → Regex
  | .empty => .empty
  | .look l => .look l
  | .set s => .set s
  | .seq a b => .seq a.ungrouped b.ungrouped
  | .alt a b => .alt a.ungrouped b.ungrouped
  | .repetition least most greedy body => .repetition least most greedy body.ungrouped
  | .group _ body => body.ungrouped

theorem Regex.minLength?_ungrouped (r : Regex) : r.ungrouped.minLength? = r.minLength? := by
  induction r with
  | empty => rfl
  | look => rfl
  | set => rfl
  | seq a b iha ihb => simp only [ungrouped, minLength?, iha, ihb]
  | alt a b iha ihb => simp only [ungrouped, minLength?, iha, ihb]
  | repetition least most greedy body ih => simp only [ungrouped, minLength?, ih]
  | group i body ih => exact ih

namespace Plan

theorem ungrouped_optional (label : Nat) (greedy : Bool) (plan : Plan) :
    (optional label greedy plan).ungrouped = optional label greedy plan.ungrouped := by
  cases greedy <;> rfl

section

variable {body body' : Nat → Plan × Nat}
  (h : ∀ label, body' label = ((body label).1.ungrouped, (body label).2))

include h

theorem ungrouped_copies (n label : Nat) :
    copies body' n label = ((copies body n label).1.ungrouped, (copies body n label).2) := by
  induction n generalizing label with
  | zero => rfl
  | succ n ih => simp only [copies, h, ih, ungrouped]

theorem ungrouped_upTo (greedy : Bool) (n label : Nat) :
    upTo body' greedy n label =
      ((upTo body greedy n label).1.ungrouped, (upTo body greedy n label).2) := by
  induction n generalizing label with
  | zero => rfl
  | succ n ih => simp only [upTo, h, ih, ungrouped_optional, ungrouped]

theorem ungrouped_oneOrMore (greedy : Bool) (label : Nat) :
    oneOrMore body' greedy label =
      ((oneOrMore body greedy label).1.ungrouped, (oneOrMore body greedy label).2) := by
  simp only [oneOrMore, h, ungrouped]

theorem ungrouped_zeroOrMore (consumes greedy : Bool) (label : Nat) :
    zeroOrMore body' consumes greedy label =
      ((zeroOrMore body consumes greedy label).1.ungrouped,
        (zeroOrMore body consumes greedy label).2) := by
  cases consumes with
  | true => simp only [zeroOrMore, if_true, h, ungrouped]
  | false =>
    simp only [zeroOrMore, Bool.false_eq_true, if_false, ungrouped_oneOrMore h, ungrouped_optional]

end

theorem ofRegex_ungrouped (r : Regex) (label : Nat) :
    ofRegex r.ungrouped label = ((ofRegex r label).1.ungrouped, (ofRegex r label).2) := by
  induction r generalizing label with
  | empty => rfl
  | look => rfl
  | set => rfl
  | seq a b iha ihb => simp only [Regex.ungrouped, ofRegex, iha, ihb, ungrouped]
  | alt a b iha ihb => simp only [Regex.ungrouped, ofRegex, iha, ihb, ungrouped]
  | repetition least most greedy body ih =>
    have hconsumes : body.ungrouped.alwaysConsumes = body.alwaysConsumes := by
      unfold Regex.alwaysConsumes
      rw [body.minLength?_ungrouped]
    cases most with
    | none =>
      cases least with
      | zero =>
        rw [Regex.ungrouped, ofRegex, ofRegex, hconsumes]
        exact ungrouped_zeroOrMore ih _ greedy label
      | succ least =>
        simp only [Regex.ungrouped, ofRegex, ungrouped_copies ih, ungrouped_oneOrMore ih, ungrouped]
    | some most =>
      simp only [Regex.ungrouped, ofRegex, ungrouped_copies ih, ungrouped_upTo ih, ungrouped]
  | group i body ih => exact ih label

end Plan

namespace Matcher

theorem map_stop_matchAt (m : Matcher) (size : Nat) (p : Place) :
    (m.matchAt size p).map Trace.stop =
      ((m.plan.search (size + 2) Search.done p ⟨size + 1, 0⟩).map Trace.stop).toOption := by
  unfold matchAt
  cases m.plan.search (size + 2) Search.done p ⟨size + 1, 0⟩ <;> rfl

theorem matchAt_ungrouped (r : Regex) (size : Nat) (p : Place) :
    ((ofRegex r.ungrouped).matchAt size p).map Trace.stop =
      ((ofRegex r).matchAt size p).map Trace.stop := by
  have hplan : (ofRegex r.ungrouped).plan = (ofRegex r).plan.ungrouped := by
    unfold ofRegex
    rw [Plan.ofRegex_ungrouped]
  have hdone : Search.SameStops Search.done Search.done := fun _ _ => rfl
  have hstops := (ofRegex r).plan.sameStops_ungrouped (size + 2) hdone p ⟨size + 1, 0⟩
  rw [map_stop_matchAt, map_stop_matchAt, hplan, ← hstops]

theorem searchFrom_ungrouped (r : Regex) (size index : Nat) (before : Option Char) (t : Text) :
    ((ofRegex r.ungrouped).searchFrom size index before t).map (Prod.map id Trace.stop) =
      ((ofRegex r).searchFrom size index before t).map (Prod.map id Trace.stop) := by
  induction t generalizing index before with
  | nil =>
    have h := congrArg (Option.map (index, ·)) (matchAt_ungrouped r size ⟨index, before, []⟩)
    rw [Option.map_map, Option.map_map] at h
    unfold searchFrom
    rw [Option.map_map, Option.map_map]
    exact h
  | cons c t ih =>
    have h := matchAt_ungrouped r size ⟨index, before, c :: t⟩
    unfold searchFrom
    cases hm : (ofRegex r).matchAt size ⟨index, before, c :: t⟩ with
    | none =>
      rw [hm, Option.map_none, Option.map_eq_none_iff] at h
      rw [h]
      exact ih _ _
    | some trace =>
      rw [hm] at h
      obtain ⟨trace', htrace, hstop⟩ := Option.map_eq_some_iff.mp h
      rw [htrace]
      exact congrArg (fun stop => some (index, stop)) hstop

/-- The first match without an account of groups is the first match. -/
theorem find?_ungrouped (r : Regex) (t : Text) :
    ((ofRegex r.ungrouped).find? t).map (Prod.map id Trace.stop) =
      ((ofRegex r).find? t).map (Prod.map id Trace.stop) := by
  rw [find?_eq_searchFrom, find?_eq_searchFrom]
  exact searchFrom_ungrouped r t.length 0 none t

end Matcher

/-! ### Tokens of a rule -/

namespace Rule

/-- How many submatches the tokens of a rule have: the highest number of a group. -/
def groupCount : Rule → Nat
  | .literals .. => 0
  | .pattern _ _ m => m.regex.groupCount

/-- The pattern of the rule has a group of this number. -/
def HasGroup (i : Nat) : Rule → Prop
  | .literals .. => False
  | .pattern _ _ m => m.regex.HasGroup i

/-- The token that a rule finds, looked for without an account of groups. -/
def spanToken? (rule : Rule) (input : Text) (position : Position) : Option Token :=
  match rule with
  | .literals .. => rule.find? input position
  | .pattern id _ m =>
    ((Matcher.ofRegex m.regex.ungrouped).find? input).map fun (start, trace) =>
      ⟨id, Matcher.slice input start trace.stop, [], position⟩

/-- Without an account of groups, the same literal is found. -/
theorem spanToken?_eq {id : TokenId} {pattern : Text} {rule : Rule}
    (hof : ofPattern id pattern = .ok rule) (input : Text) (position : Position) :
    rule.spanToken? input position =
      (rule.find? input position).map fun token => { token with submatches := [] } := by
  obtain ⟨r, -, rfl⟩ := ofPattern_eq_ok hof
  let tokenAt (span : Nat × Nat) : Token :=
    ⟨id, Matcher.slice input span.1 span.2, [], position⟩
  have h := congrArg (Option.map tokenAt) (Matcher.find?_ungrouped r input)
  rw [Option.map_map, Option.map_map] at h
  unfold spanToken? find?
  rw [Option.map_map]
  exact h

/-- Each submatch lies in the literal, and there are as many as the expression has groups. -/
theorem submatches_of_find? {id : TokenId} {source : Text} {r : Regex} {input : Text}
    {position : Position} {token : Token}
    (h : (Rule.pattern id source (.ofRegex r)).find? input position = some token) :
    token.id = id ∧ token.position = position ∧ token.submatches.length = r.groupCount ∧
      ∀ s ∈ token.submatches, s <:+: token.literal := by
  obtain ⟨⟨start, trace⟩, hmatch, rfl⟩ := Option.map_eq_some_iff.mp h
  obtain ⟨p, q, -, rfl, ⟨ds, hprefers⟩, hstop⟩ := Matcher.exists_prefers_of_find? hmatch
  refine ⟨rfl, rfl, ?_, fun s hs => Matcher.infix_of_mem_groupTexts _ input ?_ hs⟩
  · show ((List.range r.groupCount).map _).length = r.groupCount
    rw [List.length_map, List.length_range]
  · show ∀ c ∈ trace.captures, c.Between p.index trace.stop
    rw [hstop]
    exact hprefers.walk.captures_between

end Rule

end RuleLexer
