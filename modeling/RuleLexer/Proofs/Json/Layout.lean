import RuleLexer.Proofs.Json.Spelling

/-!
# How JSON objects and arrays are written

An object or array is written as parts with commas between them, and around each part there may be
blanks. The grammar here leaves open what the parts are, so that it serves for the values of a
format as well as for the members of an object, which are pairs of a key and the text of a value.

The readers of objects and arrays go through the parts from left to right. A reader of members may
do what it likes with a member, as long as it takes it (`TakesMember`); then the loop takes one
member after the other (`Takes`), and at the closing brace all of them have been taken.

* `Enclosed.loop`: what a loop does with all parts follows from what it does with one of them.
* `members_of_object`: an object is read member by member, whatever its blanks are.
* `elements_of_array`: an array is read as the list of what its elements are read as.
-/

namespace RuleLexer.Json

variable {α β : Type}

/-! ### The grammar -/

/-- Parts with commas between them, and blanks around each part. -/
inductive Parts (part : α → Text → Prop) : List α → Text → Prop where
  | last {a : α} {b v b' : Text} (hb : Blank b) (h : part a v) (hb' : Blank b') :
      Parts part [a] (b ++ (v ++ b'))
  | cons {a : α} {as : List α} {b v b' t : Text} (hb : Blank b) (h : part a v) (hb' : Blank b')
      (hs : Parts part as t) : Parts part (a :: as) (b ++ (v ++ (b' ++ ',' :: t)))

/-- A list between brackets, with nothing but blanks between them if it is empty. -/
inductive Enclosed (opening closing : Char) (part : α → Text → Prop) : List α → Text → Prop where
  | empty {b : Text} (hb : Blank b) : Enclosed opening closing part [] (opening :: (b ++ [closing]))
  | parts {as : List α} {t : Text} (h : Parts part as t) :
      Enclosed opening closing part as (opening :: (t ++ [closing]))

/-- A member: its key in any spelling, a colon, and the text of its value. -/
inductive MemberText : Text × Text → Text → Prop where
  | mk {key quoted b b' v : Text} (hkey : StringText key quoted) (hb : Blank b) (hb' : Blank b') :
      MemberText (key, v) (quoted ++ (b ++ ':' :: (b' ++ v)))

/-- The texts of an object with these keys and values, in this order. -/
def ObjectText : List (Text × Text) → Text → Prop := Enclosed '\x7b' '\x7d' MemberText

/-- The texts of an array with these elements, in this order. -/
def ArrayText (element : α → Text → Prop) : List α → Text → Prop := Enclosed '[' ']' element

theorem memberText_self {key : Text} (h : key.all isPlain = true) (v : Text) :
    MemberText (key, v) ('"' :: (key ++ ['"']) ++ ([] ++ ':' :: ([] ++ v))) :=
  .mk (stringText_self h) blank_nil blank_nil

theorem Parts.length_le {part : α → Text → Prop} {as : List α} {t : Text} (h : Parts part as t) :
    as.length ≤ t.length + 1 := by
  induction h with
  | last hb h hb' => simp
  | cons hb h hb' hs ih =>
    simp only [List.length_cons, List.length_append]
    omega

/-! ### Where a part is looked for -/

/-- What a loop looks at: the next part right away at the first time, a comma before it later on. -/
inductive Comes : Bool → Text → Text → Prop where
  | first (t : Text) : Comes true t t
  | next {b : Text} (hb : Blank b) (t : Text) : Comes false t (b ++ ',' :: t)

theorem nextKey_of_comes {first : Bool} {key quoted b t u : Text} (hb : Blank b)
    (hkey : StringText key quoted) (h : Comes first (b ++ (quoted ++ t)) u) :
    nextKey first u = .ok (some key, t) := by
  obtain ⟨k, hk, rfl⟩ := hkey
  have hread : (string (k ++ (['"'] ++ t))).map (fun p => (some p.1, p.2)) = .ok (some key, t) := by
    show (stringBody 0 (k ++ '"' :: t)).map _ = _
    rw [stringBody_of_spells hk]
    rfl
  cases h with
  | first =>
    unfold nextKey
    rw [skipBlanks_append hb, List.cons_append, List.append_assoc, skipBlanks_cons rfl]
    exact hread
  | next hb' =>
    unfold nextKey
    rw [skipBlanks_append hb', skipBlanks_cons rfl]
    show nextKey.key (skipBlanks _) = _
    rw [skipBlanks_append hb, List.cons_append, List.append_assoc, skipBlanks_cons rfl]
    exact hread

theorem nextKey_end {b : Text} (hb : Blank b) (first : Bool) (rest : Text) :
    nextKey first (b ++ '\x7d' :: rest) = .ok (none, rest) := by
  unfold nextKey
  rw [skipBlanks_append hb, skipBlanks_cons rfl]
  rfl

/-! ### Going through the parts -/

section Loops

variable {part : α → Text → Prop} {opening closing : Char}
  {motive : List α → Nat → Bool → Text → Prop} (rest : Text) (hclosing : closing ∈ delimiters)
  (stop : ∀ (b : Text) (n : Nat) (first : Bool), Blank b →
    motive [] (n + 1) first (b ++ closing :: rest))
  (step : ∀ (a : α) (as : List α) (b v t u : Text) (n : Nat) (first : Bool), Blank b →
    part a v → Delimited t → Comes first (b ++ (v ++ t)) u → motive as n false t →
    motive (a :: as) (n + 1) first u)

include hclosing stop step

/-- What a loop does with parts follows from what it does at the closing sign (`stop`), and from
what it does with one more part in front (`step`). Here `motive as n first u` is what is to be shown
of the loop where the parts `as` come in the text `u`, if it may go on for `n` rounds. -/
theorem Parts.loop {as : List α} {t : Text} (h : Parts part as t) {n : Nat} (hn : as.length < n)
    {first : Bool} {u : Text} (hu : Comes first (t ++ closing :: rest) u) :
    motive as n first u := by
  -- behind a part comes the closing sign, or a comma and the parts that are left
  induction h generalizing n first u with
  | @last a b v b' hb ha hb' =>
    rw [List.length_singleton] at hn
    obtain ⟨n, rfl⟩ : ∃ k, n = k + 2 := ⟨n - 2, by omega⟩
    simp only [List.append_assoc] at hu
    have hrest : Delimited (b' ++ closing :: rest) := hb'.delimited (delimited_cons hclosing _)
    exact step _ _ _ _ _ _ _ _ hb ha hrest hu (stop b' n false hb')
  | @cons a as b v b' t hb ha hb' hs ih =>
    rw [List.length_cons] at hn
    obtain ⟨n, rfl⟩ : ∃ k, n = k + 1 := ⟨n - 1, by omega⟩
    simp only [List.append_assoc, List.cons_append] at hu
    have hrest : Delimited (b' ++ ',' :: (t ++ closing :: rest)) :=
      hb'.delimited (delimited_cons (by decide) _)
    have hmore : motive as n false (b' ++ ',' :: (t ++ closing :: rest)) :=
      ih (Nat.lt_of_succ_lt_succ hn) (.next hb' _)
    exact step _ _ _ _ _ _ _ _ hb ha hrest hu hmore

/-- The same between brackets, where the loop may go on for more rounds than there are signs. -/
theorem Enclosed.loop {as : List α} {t : Text} (h : Enclosed opening closing part as t) :
    ∃ r, t ++ rest = opening :: r ∧ motive as (r.length + 1) true r := by
  cases h with
  | empty hb =>
    refine ⟨_, List.cons_append .., ?_⟩
    rw [List.append_assoc]
    exact stop _ _ _ hb
  | @parts _ t hparts =>
    refine ⟨_, List.cons_append .., ?_⟩
    rw [List.append_assoc]
    have hle := hparts.length_le
    refine hparts.loop rest hclosing stop step ?_ (.first _)
    simp only [List.length_append, List.length_cons]
    omega

end Loops

/-! ### Members of an object -/

section Members

variable {member : α → Text → Text → Except Fault (α × Text)}

/-- A reader takes a member: from what was gathered before it, it goes on to what is gathered with
it, and stops behind the value. -/
def TakesMember (member : α → Text → Text → Except Fault (α × Text)) (acc : α) (m : Text × Text)
    (acc' : α) : Prop :=
  ∀ b b' rest, Blank b → Blank b' → Delimited rest →
    member acc m.1 (b ++ ':' :: (b' ++ (m.2 ++ rest))) = .ok (acc', rest)

/-- A reader takes one member after the other. -/
inductive Takes (member : α → Text → Text → Except Fault (α × Text)) :
    α → List (Text × Text) → α → Prop where
  | nil (acc : α) : Takes member acc [] acc
  | cons {acc acc₁ acc₂ : α} {m : Text × Text} {ms : List (Text × Text)}
      (h : TakesMember member acc m acc₁) (hs : Takes member acc₁ ms acc₂) :
      Takes member acc (m :: ms) acc₂

theorem members_end {b : Text} (hb : Blank b) (n : Nat) (first : Bool) (acc : α) (rest : Text) :
    members member (n + 1) first acc (b ++ '\x7d' :: rest) = .ok (acc, rest) := by
  rw [members, nextKey_end hb]
  rfl

theorem members_step {n : Nat} {first : Bool} {acc acc' : α} {m : Text × Text}
    {b v rest u : Text} (hb : Blank b) (hm : MemberText m v) (ht : TakesMember member acc m acc')
    (hu : Comes first (b ++ (v ++ rest)) u) (hrest : Delimited rest) :
    members member (n + 1) first acc u = members member n false acc' rest := by
  obtain ⟨hkey, hb₁, hb₂⟩ := hm
  simp only [List.append_assoc, List.cons_append] at hu
  rw [members, nextKey_of_comes hb hkey hu]
  show (member acc _ _ >>= _) = _
  rw [ht _ _ rest hb₁ hb₂ hrest]
  rfl

/-- **An object is read member by member**, whatever its blanks are. -/
theorem members_of_object {ms : List (Text × Text)} {t : Text} (h : ObjectText ms t) {acc acc' : α}
    (ht : Takes member acc ms acc') (rest : Text) :
    ∃ r, t ++ rest = '\x7b' :: r ∧ members member (r.length + 1) true acc r = .ok (acc', rest) := by
  have hloop := h.loop rest (by decide)
    (motive := fun ms n first u =>
      ∀ acc, Takes member acc ms acc' → members member n first acc u = .ok (acc', rest))
    ?_ ?_
  · obtain ⟨r, hr, hmembers⟩ := hloop
    exact ⟨r, hr, hmembers acc ht⟩
  · intro b n first hb acc ht
    cases ht
    exact members_end hb n first _ rest
  · intro m ms b v t u n first hb hm hrest hu hmore acc ht
    cases ht with
    | cons hmember hs =>
      rw [members_step hb hm hmember hu hrest]
      exact hmore _ hs

end Members

/-! ### Elements of an array -/

/-- The start of a value: neither a blank nor the end of an array. -/
def Starts (v : Text) : Prop := ∃ c r, v = c :: r ∧ isBlank c = false ∧ c ≠ ']'

theorem nextElement_of_comes {first : Bool} {b v t u : Text} (hb : Blank b) (hv : Starts v)
    (h : Comes first (b ++ (v ++ t)) u) : nextElement first u = .ok (some (v ++ t)) := by
  obtain ⟨c, r, rfl, hblank, hclose⟩ := hv
  have hskip : skipBlanks (b ++ (c :: r ++ t)) = c :: (r ++ t) := by
    rw [skipBlanks_append hb, List.cons_append, skipBlanks_cons hblank]
  cases h with
  | first =>
    unfold nextElement
    rw [hskip]
    split
    · next heq => cases heq
    · next heq =>
      cases heq
      exact absurd rfl hclose
    · next heq =>
      cases heq
      rfl
  | next hb' =>
    unfold nextElement
    rw [skipBlanks_append hb', skipBlanks_cons rfl]
    split
    · next heq => cases heq
    · next heq => cases heq
    · next heq =>
      -- behind the comma the element is looked for once more
      cases heq
      rw [if_neg Bool.false_ne_true, if_pos rfl, hskip]
      split
      · next heq => cases heq
      · next heq =>
        cases heq
        exact absurd rfl hclose
      · rfl

section Elements

variable {element : Text → Except Fault (β × Text)} {part : α → Text → Prop} {f : α → β}

theorem elements_end {b : Text} (hb : Blank b) (n : Nat) (first : Bool) (rest : Text) :
    elements element (n + 1) first (b ++ ']' :: rest) = .ok ([], rest) := by
  have hnext : nextElement first (b ++ ']' :: rest) = .ok none := by
    unfold nextElement
    rw [skipBlanks_append hb, skipBlanks_cons rfl]
    rfl
  have hend : endArray (b ++ ']' :: rest) = .ok rest := by
    unfold endArray
    rw [skipBlanks_append hb, skipBlanks_cons rfl]
    rfl
  rw [elements, hnext]
  show (endArray _).map _ = _
  rw [hend]
  rfl

theorem elements_step {n : Nat} {first : Bool} {x : β} {b v rest u : Text} (hb : Blank b)
    (hv : Starts v) (hread : Reads element v x) (hu : Comes first (b ++ (v ++ rest)) u)
    (hrest : Delimited rest) :
    elements element (n + 1) first u =
      (elements element n false rest).map fun p => (x :: p.1, p.2) := by
  rw [elements, nextElement_of_comes hb hv hu]
  show (element (v ++ rest) >>= _) = _
  have hx := hread [] rest blank_nil hrest
  rw [List.nil_append] at hx
  rw [hx]
  show (elements element n false rest >>= _) = _
  cases elements element n false rest <;> rfl

/-- **An array is read element by element**, whatever its blanks are. -/
theorem elements_of_array (hpart : ∀ a v, part a v → Starts v ∧ Reads element v (f a))
    {as : List α} {t : Text} (h : ArrayText part as t) (rest : Text) :
    ∃ r, t ++ rest = '[' :: r ∧
      elements element (r.length + 1) true r = .ok (as.map f, rest) := by
  refine h.loop rest (by decide)
    (motive := fun as n first u => elements element n first u = .ok (as.map f, rest)) ?_ ?_
  · intro b n first hb
    exact elements_end hb n first rest
  · intro a as b v t u n first hb ha hrest hu hmore
    obtain ⟨hv, hread⟩ := hpart a v ha
    rw [elements_step hb hv hread hu hrest, hmore]
    rfl

end Elements

end RuleLexer.Json
