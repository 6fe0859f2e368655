import Mathlib.Tactic.SplitIfs
import RuleLexer.Rule

/-!
# A pattern inside a group

The text of an anchored pattern is the pattern with an anchor and an opened group before it and a
closing parenthesis behind it. Reading it is reading the pattern with one more group open below
all others. A step never looks at that group: it may open groups above it and close those again,
and where it would close the group itself, the pattern alone has one parenthesis too many. So as
long as the pattern can be read alone, both readings go on side by side (`Keeps`), one character
after the other, and the parenthesis behind the pattern closes just the group that was opened
before it.

* `Reader.step?_keeps` and `Reader.foldlM_keeps`: one character, and all of a pattern.
* `Reader.step?_of_settled`: the parenthesis that ends the pattern.
* `Regex.parse?_anchor`: the anchored text stands for the pattern's expression behind the start of
  the text, flags, branches and groups included.
-/

namespace RuleLexer

/-- The pattern brings an anchor of its own, in front. -/
def Rule.ownAnchor (pattern : Text) : Bool :=
  pattern.startsWith ['^'] || pattern.startsWith "\\A".toList

namespace Regex

namespace Reader

/-! ### Two readings side by side -/

/-- The same reading with one more group open, below all others. -/
def under (g : OpenGroup) (s : Reader) : Reader := { s with groups := s.groups ++ [g] }

/-- The second reading is the first one with the group open below it, as long as the first one goes
on; where it stops, nothing is said of the second. -/
def Keeps (g : OpenGroup) (o o' : Option Reader) : Prop := ∀ s, o = some s → o' = some (s.under g)

section Keeps

variable {g : OpenGroup} {o o' : Option Reader} {s : Reader}

theorem keeps_none : Keeps g none o' := fun _ h => nomatch h

theorem keeps_some : Keeps g (some s) (some (s.under g)) := by
  intro s' h
  cases h
  rfl

theorem keeps_map {α : Type} {o : Option α} {f f' : α → Reader} (h : ∀ a, f' a = (f a).under g) :
    Keeps g (o.map f) (o.map f') := by
  cases o with
  | none => exact keeps_none
  | some a =>
    rw [Option.map_some, Option.map_some, h a]
    exact keeps_some

theorem keeps_bind {α : Type} {o : Option α} {f f' : α → Option Reader}
    (h : ∀ a, Keeps g (f a) (f' a)) : Keeps g (o.bind f) (o.bind f') := by
  cases o with
  | none => exact keeps_none
  | some a => exact h a

theorem Keeps.bind (h : Keeps g o o') {f f' : Reader → Option Reader}
    (hf : ∀ s, Keeps g (f s) (f' (s.under g))) : Keeps g (o.bind f) (o'.bind f') := by
  cases o with
  | none => exact keeps_none
  | some s =>
    rw [h s rfl]
    exact hf s

theorem Keeps.ite {c : Prop} [Decidable c] {p p' : Option Reader} (h : Keeps g o o')
    (h' : Keeps g p p') : Keeps g (if c then o else p) (if c then o' else p') := by
  split_ifs
  · exact h
  · exact h'

end Keeps

variable (g : OpenGroup) (s : Reader)

/-! ### Groups and items -/

theorem closeGroup?_keeps : Keeps g s.closeGroup? (s.under g).closeGroup? := by
  obtain ⟨_, _, _, _, _, groups, _, _, _⟩ := s
  cases groups with
  | nil => exact keeps_none
  | cons _ _ => exact keeps_some

theorem takeItem?_keeps (mode : Regex → Nat → Mode) :
    Keeps g (s.takeItem?.map fun (r, d, s) => { s with mode := mode r d })
      ((s.under g).takeItem?.map fun (r, d, s) => { s with mode := mode r d }) := by
  obtain ⟨_, _, _, _, items, _, _, _, _⟩ := s
  rcases items with _ | ⟨_ | _, rest⟩
  · exact keeps_none
  · exact keeps_some
  · exact keeps_none

theorem plainStep?_keeps (c : Char) : Keeps g (s.plainStep? c) ((s.under g).plainStep? c) := by
  unfold plainStep?
  refine keeps_some.ite (keeps_some.ite ?_)
  split
  · exact keeps_some
  · exact closeGroup?_keeps g s
  · exact keeps_some
  · exact keeps_some
  · exact takeItem?_keeps g s fun r d => .repeated r d 0 (some 1) false
  · exact takeItem?_keeps g s fun r d => .repeated r d 0 none false
  · exact takeItem?_keeps g s fun r d => .repeated r d 1 none false
  · exact takeItem?_keeps g s fun r d => .least r d [] false
  · exact keeps_some
  · exact keeps_map fun _ => rfl
  · exact keeps_some
  · exact keeps_some
  · exact keeps_some

theorem leastStep?_keeps (body : Regex) (depth : Nat) (digits : Text) (ended : Bool) (c : Char) :
    Keeps g (s.leastStep? body depth digits ended c)
      ((s.under g).leastStep? body depth digits ended c) := by
  unfold leastStep?
  refine (keeps_none.ite keeps_some).ite (keeps_some.ite ?_)
  split
  · exact keeps_map fun _ => rfl
  · exact keeps_map fun _ => rfl
  · exact keeps_none

theorem mostStep?_keeps (body : Regex) (depth least : Nat) (digits : Text) (spaced ended : Bool)
    (c : Char) :
    Keeps g (s.mostStep? body depth least digits spaced ended c)
      ((s.under g).mostStep? body depth least digits spaced ended c) := by
  unfold mostStep?
  refine (keeps_none.ite keeps_some).ite (keeps_some.ite (Keeps.ite ?_ keeps_none))
  exact (keeps_none.ite keeps_some).ite (keeps_bind fun _ => keeps_none.ite keeps_some)

theorem groupNameStep?_keeps (name : Text) (c : Char) :
    Keeps g (s.groupNameStep? name c) ((s.under g).groupNameStep? name c) :=
  (keeps_none.ite keeps_some).ite (keeps_some.ite keeps_none)

theorem groupFlagsStep?_keeps (new : Flags) (seen : Text) (off dangling : Bool) (c : Char) :
    Keeps g (s.groupFlagsStep? new seen off dangling c)
      ((s.under g).groupFlagsStep? new seen off dangling c) := by
  unfold groupFlagsStep?
  split
  · exact keeps_none.ite keeps_some
  · exact keeps_none.ite keeps_some
  · exact keeps_none.ite keeps_some
  · exact keeps_none.ite (keeps_map fun _ => rfl)

/-! ### Classes -/

theorem updateClass?_keeps (mode : Mode) (f : OpenClass → OpenClass) :
    Keeps g (s.updateClass? mode f) ((s.under g).updateClass? mode f) := by
  obtain ⟨_, _, _, _, _, _, classes, _, _⟩ := s
  cases classes with
  | nil => exact keeps_none
  | cons k rest => exact keeps_some

theorem addPart?_keeps (mode : Mode) (part : ClassPart) :
    Keeps g (s.addPart? mode part) ((s.under g).addPart? mode part) :=
  keeps_bind fun _ => updateClass?_keeps g s mode _

theorem addRange?_keeps (start stop : ClassPart) :
    Keeps g (s.addRange? start stop) ((s.under g).addRange? start stop) := by
  unfold addRange?
  split
  · exact keeps_none.ite (keeps_none.ite (updateClass?_keeps g s _ _))
  · exact keeps_none

theorem closeClass?_keeps : Keeps g s.closeClass? (s.under g).closeClass? := by
  obtain ⟨_, _, flags, _, _, _, classes, _, _⟩ := s
  rcases classes with _ | ⟨k, _ | ⟨outer, rest⟩⟩
  · exact keeps_none
  · exact keeps_map fun _ => rfl
  · exact keeps_map fun _ => rfl

theorem inClassStep?_keeps (c : Char) :
    Keeps g (s.inClassStep? c) ((s.under g).inClassStep? c) := by
  unfold inClassStep?
  split
  · exact keeps_some
  · exact closeClass?_keeps g s
  · exact keeps_some
  · exact keeps_some.ite keeps_some

theorem classPartStep?_keeps (part : ClassPart) (c : Char) :
    Keeps g (s.classPartStep? part c) ((s.under g).classPartStep? part c) :=
  keeps_some.ite ((addPart?_keeps g s .inClass part).bind fun s => inClassStep?_keeps g s c)

theorem classDashStep?_keeps (part : ClassPart) (spaced : Bool) (c : Char) :
    Keeps g (s.classDashStep? part spaced c) ((s.under g).classDashStep? part spaced c) := by
  have hpart := addPart?_keeps g s .inClass part
  unfold classDashStep?
  split
  · exact hpart.bind fun s => (addPart?_keeps g s _ _).bind fun s => closeClass?_keeps g s
  · exact hpart.bind fun s => keeps_some.ite (updateClass?_keeps g s _ _)
  · exact keeps_some
  · exact addRange?_keeps g s part _

theorem classOpStep?_keeps (sign c : Char) :
    Keeps g (s.classOpStep? sign c) ((s.under g).classOpStep? sign c) :=
  (updateClass?_keeps g s _ _).ite
    (keeps_some.ite (keeps_some.ite (classPartStep?_keeps g s (.char sign) c)))

theorem classFirstStep?_keeps (first : Bool) (c : Char) :
    Keeps g (s.classFirstStep? first c) ((s.under g).classFirstStep? first c) :=
  (updateClass?_keeps g s _ _).ite
    ((updateClass?_keeps g s _ _).ite (inClassStep?_keeps g s c))

/-! ### Escapes -/

theorem place?_keeps (site : EscapeSite) (part : ClassPart) :
    Keeps g (s.place? site part) ((s.under g).place? site part) := by
  cases site with
  | sequence => cases part <;> exact keeps_some
  | inClass => exact keeps_some
  | rangeStop start => exact addRange?_keeps g s start part

theorem placeCode?_keeps (site : EscapeSite) (two : Bool) (value : Nat) :
    Keeps g (s.placeCode? site two value) ((s.under g).placeCode? site two value) := by
  unfold placeCode?
  by_cases h : value.isValidChar
  · rw [dif_pos h, dif_pos h]
    exact keeps_none.ite (place?_keeps g s site _)
  · rw [dif_neg h]
    exact keeps_none

theorem placeProperty?_keeps (site : EscapeSite) (negated : Bool) (name : Text) :
    Keeps g (s.placeProperty? site negated name) ((s.under g).placeProperty? site negated name) :=
  keeps_none.ite (keeps_bind fun _ => keeps_bind fun _ => place?_keeps g s site _)

theorem escapeStep?_keeps (site : EscapeSite) (c : Char) :
    Keeps g (s.escapeStep? site c) ((s.under g).escapeStep? site c) := by
  unfold escapeStep?
  split
  · exact keeps_some
  · exact keeps_some
  · exact keeps_some
  · exact keeps_some
  · exact keeps_some
  · refine (keeps_bind fun _ => place?_keeps g s site _).ite ((place?_keeps g s site _).ite ?_)
    split
    · exact place?_keeps g s site _
    · exact keeps_none.ite (keeps_some.ite (keeps_map fun _ => rfl))

theorem wordEdgeBraceStep?_keeps (c : Char) :
    Keeps g (s.wordEdgeBraceStep? c) ((s.under g).wordEdgeBraceStep? c) :=
  keeps_some.ite (leastStep?_keeps g s _ 0 [] false c)

theorem wordEdgeNameStep?_keeps (name : Text) (c : Char) :
    Keeps g (s.wordEdgeNameStep? name c) ((s.under g).wordEdgeNameStep? name c) :=
  keeps_some.ite ((keeps_map fun _ => rfl).ite keeps_none)

theorem codePointDigitsStep?_keeps (site : EscapeSite) (two : Bool) (left value : Nat) (c : Char) :
    Keeps g (s.codePointDigitsStep? site two left value c)
      ((s.under g).codePointDigitsStep? site two left value c) :=
  keeps_bind fun _ => (placeCode?_keeps g s site two _).ite keeps_some

theorem codePointBraceStep?_keeps (site : EscapeSite) (digits : Text) (c : Char) :
    Keeps g (s.codePointBraceStep? site digits c)
      ((s.under g).codePointBraceStep? site digits c) :=
  (keeps_bind fun n => placeCode?_keeps g s site false n).ite (keeps_map fun _ => rfl)

/-! ### A character and a pattern -/

theorem modeStep?_keeps (c : Char) : Keeps g (s.modeStep? c) ((s.under g).modeStep? c) := by
  have hmode : (s.under g).mode = s.mode := rfl
  unfold modeStep?
  rw [hmode]
  cases s.mode with
  | plain => exact plainStep?_keeps g s c
  | repeated body depth least most blanks =>
    exact keeps_some.ite (plainStep?_keeps g (s.pushRepeated body depth least most true) c)
  | least body depth digits ended => exact leastStep?_keeps g s body depth digits ended c
  | most body depth least digits spaced ended =>
    exact mostStep?_keeps g s body depth least digits spaced ended c
  | groupStart => exact keeps_some.ite (plainStep?_keeps g s.openCapture c)
  | groupMark =>
    dsimp only
    split
    · exact keeps_some
    · exact keeps_some
    · exact groupFlagsStep?_keeps g s s.flags [] false false c
  | groupNameMark => exact keeps_some.ite keeps_none
  | groupName name => exact groupNameStep?_keeps g s name c
  | groupFlags new seen off dangling => exact groupFlagsStep?_keeps g s new seen off dangling c
  | escape site => exact escapeStep?_keeps g s site c
  | wordEdge => exact keeps_some.ite (plainStep?_keeps g (s.lookItem _) c)
  | wordEdgeBrace => exact wordEdgeBraceStep?_keeps g s c
  | wordEdgeName name => exact wordEdgeNameStep?_keeps g s name c
  | codePoint site digits =>
    exact keeps_some.ite (codePointDigitsStep?_keeps g s site (digits = 2) digits 0 c)
  | codePointDigits site two left value =>
    exact codePointDigitsStep?_keeps g s site two left value c
  | codePointBrace site digits => exact codePointBraceStep?_keeps g s site digits c
  | property site negated =>
    exact keeps_some.ite (keeps_none.ite (placeProperty?_keeps g s site negated [c]))
  | propertyName site negated name =>
    exact (placeProperty?_keeps g s site negated name).ite keeps_some
  | classStart => exact (updateClass?_keeps g s _ _).ite (classFirstStep?_keeps g s true c)
  | classNegated => exact classFirstStep?_keeps g s true c
  | classDashes => exact classFirstStep?_keeps g s false c
  | inClass => exact inClassStep?_keeps g s c
  | classPart part => exact classPartStep?_keeps g s part c
  | classDash part spaced => exact classDashStep?_keeps g s part spaced c
  | classOp sign => exact classOpStep?_keeps g s sign c

theorem passBlank_under : (s.under g).passBlank = s.passBlank.under g := by
  obtain ⟨mode, _, _, _, _, _, _, _, _⟩ := s
  cases mode <;> rfl

/-- **One character** is read the same way with another group open below. -/
theorem step?_keeps (c : Char) : Keeps g (s.step? c) ((s.under g).step? c) := by
  have hblank : Keeps g (some (s.noteClassText c).passBlank)
      (some ((s.noteClassText c).under g).passBlank) := by
    rw [passBlank_under]
    exact keeps_some
  exact keeps_some.ite (hblank.ite (keeps_some.ite (modeStep?_keeps g (s.noteClassText c) c)))

/-- **All of a pattern** is read the same way with another group open below. -/
theorem foldlM_keeps (p : Text) : Keeps g (p.foldlM step? s) (p.foldlM step? (s.under g)) := by
  induction p generalizing s with
  | nil => exact keeps_some
  | cons c p ih =>
    rw [List.foldlM_cons, List.foldlM_cons]
    exact (step?_keeps g s c).bind ih

/-! ### The end of the pattern -/

/-- The reading with its last item complete, if the pattern may end here. -/
def settled? (s : Reader) : Option Reader :=
  match s.mode with
  | .plain => some s
  | .repeated body depth least most _ => some (s.pushRepeated body depth least most true)
  | .wordEdge => some (s.lookItem (wordLook s.flags .any))
  | _ => none

theorem finish?_eq_some {s : Reader} {r : Regex} (h : s.finish? = some r) :
    ∃ s', s.settled? = some s' ∧ s'.groups = [] ∧ s'.body.1 = r := by
  obtain ⟨s', hs', h⟩ := Option.bind_eq_some_iff.mp h
  refine ⟨s', hs', ?_⟩
  by_cases hgroups : s'.groups = []
  · rw [hgroups] at h
    obtain ⟨-, h⟩ := Option.ite_none_left_eq_some.mp h
    exact ⟨hgroups, Option.some.inj (Option.ite_none_left_eq_some.mp h).2⟩
  · simp [hgroups] at h

theorem groups_of_settled {s s' : Reader} (h : s.settled? = some s') : s'.groups = s.groups := by
  unfold settled? at h
  split at h <;> cases h <;> rfl

theorem settled?_under {s s' : Reader} (h : s.settled? = some s') (g : OpenGroup) :
    (s.under g).settled? = some (s'.under g) := by
  obtain ⟨mode, _, _, _, _, _, _, _, _⟩ := s
  cases mode <;> cases h <;> rfl

theorem plainStep?_close (s : Reader) : s.plainStep? ')' = s.closeGroup? := by
  have hblank : Category.isWhiteSpace ')' = false := by decide
  unfold plainStep?
  simp [hblank]

theorem modeStep?_of_settled {s s' : Reader} (h : s.settled? = some s') :
    s.modeStep? ')' = s'.closeGroup? := by
  rw [← plainStep?_close]
  unfold settled? at h
  unfold modeStep?
  split at h
  · next hmode =>
    cases h
    rw [hmode]
  · next hmode =>
    cases h
    rw [hmode]
    exact if_neg (by decide)
  · next hmode =>
    cases h
    rw [hmode]
    exact if_neg (by decide)
  · cases h

/-- **The parenthesis behind a pattern that may end closes the innermost group**, unless it is read
as part of a comment. -/
theorem step?_of_settled {s s' : Reader} (h : s.settled? = some s') (hc : s.comment = false) :
    s.step? ')' = (s'.noteClassText ')').closeGroup? := by
  have hnoted : (s.noteClassText ')').settled? = some (s'.noteClassText ')') := by
    obtain ⟨mode, _, _, _, _, _, _, _, _⟩ := s
    cases mode <;> cases h <;> rfl
  have hblank : Category.isWhiteSpace ')' = false := by decide
  have hcomment : (s.noteClassText ')').comment = false := hc
  rw [← modeStep?_of_settled hnoted]
  simp [step?, hblank, hcomment]

theorem fst_sequence_pair (r r' : Regex) (d d' : Nat) :
    (sequence [.expr r d, .expr r' d']).1 = concat [r', r] := rfl

/-- A comment goes on over the parenthesis, and no group is closed. -/
theorem finish?_of_comment {s s' : Reader} (hc : s.comment = true) (hgroups : s.groups ≠ [])
    (h : s.step? ')' = some s') : s'.finish? = none := by
  have hs' : some { s.noteClassText ')' with comment := true } = some s' := by
    rw [← h]
    have hcomment : (s.noteClassText ')').comment = true := hc
    simp [step?, hcomment]
  cases hs'
  refine Option.eq_none_iff_forall_not_mem.mpr fun r hr => ?_
  obtain ⟨s', hs', hnil, -⟩ := finish?_eq_some hr
  rw [groups_of_settled hs'] at hnil
  exact hgroups hnil

end Reader

/-! ### The anchored text -/

/-- The group that an anchored pattern is read in, behind the start of the text. -/
def front : OpenGroup := ⟨none, {}, [], [.expr (.look .textStart) 0]⟩

theorem foldlM_front : "^(?:".toList.foldlM Reader.step? {} = some (Reader.under front {}) := by
  decide

/-- Closing it leaves what was read in it behind the start of the text. -/
theorem closeGroup?_front {s s' : Reader} (hs : s.groups = [])
    (h : (s.under front).closeGroup? = some s') :
    s'.items = [.expr s.body.1 (s.body.2 + 1), .expr (.look .textStart) 0] ∧ s'.branches = [] ∧
      s'.mode = .plain := by
  obtain ⟨_, _, _, _, _, groups, _, _, _⟩ := s
  obtain rfl : groups = [] := hs
  cases h
  exact ⟨rfl, rfl, rfl⟩

/-- One branch is no choice. -/
theorem alternation_singleton {r : Regex} (h : r.branches = [r]) : alternation [r] = r := by
  simp [alternation, anyOf, h]

theorem branches_concat_look (l : Look) (r : Regex) :
    (concat [.look l, r]).branches = [concat [.look l, r]] := by
  unfold concat
  simp only [List.flatMap_cons, factors, List.flatMap_nil, List.append_nil, List.singleton_append]
  cases r.factors <;> rfl

theorem anchored_concat_textStart (r : Regex) :
    (concat [.look .textStart, r]).anchored = true := by
  unfold concat
  simp only [List.flatMap_cons, factors, List.flatMap_nil, List.append_nil, List.singleton_append]
  cases r.factors <;> rfl

theorem foldlM_anchor {p : Text} {s : Reader} (hp : Rule.ownAnchor p = false)
    (hs : p.foldlM Reader.step? {} = some s) :
    (Rule.anchor p).foldlM Reader.step? {} = (s.under front).step? ')' := by
  have hanchor : Rule.anchor p = "^(?:".toList ++ (p ++ [')']) := by
    rw [← List.append_assoc]
    exact if_neg (by rw [← Rule.ownAnchor, hp]; exact Bool.false_ne_true)
  rw [hanchor, List.foldlM_append, foldlM_front, Option.bind_eq_bind, Option.bind_some,
    List.foldlM_append, Reader.foldlM_keeps front {} p s hs, Option.bind_eq_bind, Option.bind_some,
    List.foldlM_cons]
  exact bind_pure _

/-- **The anchored text of a pattern** that can be read alone stands for the start of the text and
then all that the pattern stands for. -/
theorem parse?_anchor {p : Text} {r r' : Regex} (h : parse? p = some r)
    (hp : Rule.ownAnchor p = false) (h' : parse? (Rule.anchor p) = some r') :
    r' = concat [.look .textStart, r] := by
  obtain ⟨s, hs, hfinish⟩ := Option.bind_eq_some_iff.mp h
  obtain ⟨s₁, hs₁, hgroups, rfl⟩ := Reader.finish?_eq_some hfinish
  obtain ⟨s₂, hs₂, hfinish₂⟩ := Option.bind_eq_some_iff.mp h'
  rw [foldlM_anchor hp hs] at hs₂
  cases hc : s.comment with
  | true =>
    -- the group is never closed
    have hopen : (s.under front).groups ≠ [] := List.append_ne_nil_of_right_ne_nil _ (by simp)
    have hcomment : (s.under front).comment = true := hc
    rw [Reader.finish?_of_comment hcomment hopen hs₂] at hfinish₂
    cases hfinish₂
  | false =>
    have hcomment : (s.under front).comment = false := hc
    rw [Reader.step?_of_settled (Reader.settled?_under hs₁ front) hcomment] at hs₂
    obtain ⟨hitems, hbranches, hmode⟩ := closeGroup?_front (s := s₁.noteClassText ')') hgroups hs₂
    obtain ⟨s₃, hs₃, -, rfl⟩ := Reader.finish?_eq_some hfinish₂
    have hplain : s₂.settled? = some s₂ := by
      unfold Reader.settled?
      rw [hmode]
    obtain rfl : s₂ = s₃ := Option.some.inj (hplain.symm.trans hs₃)
    have hbody : s₂.body.1 = alternation [(Reader.sequence s₂.items).1] := by
      unfold Reader.body
      rw [hbranches]
      rfl
    have hnoted : (s₁.noteClassText ')').body = s₁.body := rfl
    rw [hbody, hitems, Reader.fst_sequence_pair, hnoted,
      alternation_singleton (branches_concat_look _ _)]

end Regex

end RuleLexer
