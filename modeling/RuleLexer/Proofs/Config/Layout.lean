import RuleLexer.Config.Reader
import RuleLexer.Proofs.Json.Layout

/-!
# Layouts of a configuration

The same configuration can be laid out in many ways. The members of each object come in any order;
members that have their standard value may be left out; other members, with plain scalars as values,
may stand anywhere and come more than once; and blanks may stand between any two signs. The texts of
a configuration are described here as a grammar, one level after the other, and every one of them is
read as that configuration.

A description of a rule says by one of its members of what kind it is, and only then it is known
which other member matters. A member that belongs to the other kind is one more member that does
not.

* `Given` and `Field`: what the members of an object say about one key.
* `Layout`: the documents of a configuration.
* `Reader.reads_pair`: an object with two known members, in any order and among other members.
* `Reader.reads_spec_of_members`: a description of a rule, which is kept until its kind is known.
* `ofJson_of_configText`: the text of a configuration is read as that configuration.
-/

namespace RuleLexer.Config

open Json

variable {α β : Type}

/-! ### Fields -/

/-- A key that is given: one member has it, and its value is written as it should be. -/
def Given (ms : List (Text × Text)) (key : Text) (written : Text → Prop) : Prop :=
  ∃ v, ms.filter (·.1 = key) = [(key, v)] ∧ written v

/-- A key that is given or left out, the latter only if its value is the standard one. -/
def Field (ms : List (Text × Text)) (key : Text) (written : Text → Prop) (standard : Prop) : Prop :=
  Given ms key written ∨ (ms.filter (·.1 = key) = [] ∧ standard)

/-- Other members hold plain scalars. -/
def Extras (keys : List Text) (ms : List (Text × Text)) : Prop :=
  ∀ m ∈ ms, m.1 ∉ keys → ScalarText m.2

theorem extras_of_subset {keys : List Text} {ms : List (Text × Text)}
    (h : ms.map Prod.fst ⊆ keys) : Extras keys ms := by
  intro m hm hne
  exact absurd (h (List.mem_map_of_mem hm)) hne

theorem extras_cons {keys : List Text} {m : Text × Text} {ms : List (Text × Text)}
    (h : ScalarText m.2) (hs : Extras keys ms) : Extras keys (m :: ms) :=
  List.forall_mem_cons.mpr ⟨fun _ => h, hs⟩

/-! ### The grammar -/

/-- Null, or a value. -/
def NullableText (written : α → Text → Prop) : Option α → Text → Prop
  | none, t => t = "null".toList
  | some a, t => written a t

/-- The texts of the sizes of the look-ahead. -/
def BufferText (s : BufferSizes) (t : Text) : Prop :=
  ∃ ms, ObjectText ms t ∧ Extras ["low_water_mark".toList, "chunk_size".toList] ms ∧
    Field ms "low_water_mark".toList (· = Text.ofNat s.lowWaterMark.toNat) (s.lowWaterMark = 1024) ∧
    Field ms "chunk_size".toList (· = Text.ofNat s.chunkSize.toNat) (s.chunkSize = 2048)

/-- The texts of the description of a rule. -/
def SpecText (s : RuleSpec) (t : Text) : Prop :=
  ∃ ms, ObjectText ms t ∧ Given ms "id".toList (· = Text.ofInt s.id.val.toInt) ∧
    match s with
    | .literals _ alternatives =>
      Extras ["kind".toList, "id".toList, "patterns".toList] ms ∧
        Given ms "kind".toList (StringText "pattern".toList) ∧
        Given ms "patterns".toList (ArrayText StringText alternatives)
    | .pattern _ pattern =>
      Extras ["kind".toList, "id".toList, "pattern".toList] ms ∧
        Given ms "kind".toList (StringText "regex".toList) ∧
        Given ms "pattern".toList (StringText pattern)

/-- The texts of the description of a rule set. -/
def RuleSetText (s : RuleSetSpec) (t : Text) : Prop :=
  ∃ ms, ObjectText ms t ∧ Extras ["whitespace".toList, "rules".toList] ms ∧
    Field ms "whitespace".toList (NullableText SpecText s.whitespace) (s.whitespace = none) ∧
    Field ms "rules".toList (ArrayText SpecText s.rules) (s.rules = [])

/-- The texts of a configuration. -/
def ConfigText (c : Config) (t : Text) : Prop :=
  ∃ ms, ObjectText ms t ∧ Extras ["buffer".toList, "rules".toList] ms ∧
    Field ms "buffer".toList (BufferText c.buffer) (c.buffer = {}) ∧
    Field ms "rules".toList (NullableText RuleSetText c.rules) (c.rules = none)

/-- **The documents of a configuration**: blanks may stand around it. -/
def Layout (c : Config) (t : Text) : Prop :=
  ∃ b v b', t = b ++ (v ++ b') ∧ Blank b ∧ Blank b' ∧ ConfigText c v

namespace Reader

/-! ### Single members -/

theorem colon_append {b : Text} (hb : Blank b) (t : Text) : colon (b ++ ':' :: t) = .ok t := by
  unfold colon
  rw [skipBlanks_append hb, skipBlanks_cons rfl]
  rfl

theorem once_none {read : Text → Except Fault (α × Text)} {v : Text} {a : α} (h : Reads read v a)
    {b b' rest : Text} (hb : Blank b) (hb' : Blank b') (hrest : Delimited rest) :
    once none read (b ++ ':' :: (b' ++ (v ++ rest))) = .ok (a, rest) := by
  show (colon _ >>= read) = _
  rw [colon_append hb]
  exact h b' rest hb' hrest

theorem ignored_of_scalar {v : Text} (h : ScalarText v) (acc : α) {b b' rest : Text} (hb : Blank b)
    (hb' : Blank b') (hrest : Delimited rest) :
    ignored acc (b ++ ':' :: (b' ++ (v ++ rest))) = .ok (acc, rest) := by
  show (colon _ >>= _) = _
  rw [colon_append hb]
  show (ignore _ >>= _) = _
  rw [ignore_of_scalar h hb' hrest]
  rfl

/-- What the members of an object add to what was found before for a key: nothing, or the value that
is read, if nothing was found before. -/
def Adds (read : Text → Except Fault (α × Text)) (key : Text) (ms : List (Text × Text))
    (found found' : Option α) : Prop :=
  (ms.filter (·.1 = key) = [] ∧ found' = found) ∨
    ∃ v a, ms.filter (·.1 = key) = [(key, v)] ∧ Reads read v a ∧ found = none ∧ found' = some a

section Adds

variable {read : Text → Except Fault (α × Text)} {key : Text} {m : Text × Text}
  {ms : List (Text × Text)} {found found' : Option α}

theorem Adds.of_ne (h : Adds read key (m :: ms) found found') (hm : m.1 ≠ key) :
    Adds read key ms found found' := by
  unfold Adds at h ⊢
  rwa [List.filter_cons_of_neg (by simpa using hm)] at h

theorem Adds.of_eq (h : Adds read key (m :: ms) found found') (hm : m.1 = key) :
    found = none ∧
      ∃ a, Reads read m.2 a ∧ found' = some a ∧ Adds read key ms (some a) (some a) := by
  unfold Adds at h
  rw [List.filter_cons_of_pos (by simpa using hm)] at h
  rcases h with ⟨hnil, -⟩ | ⟨v, a, hfilter, hread, hnone, hsome⟩
  · cases hnil
  · obtain ⟨rfl, hms⟩ := List.cons.inj hfilter
    exact ⟨hnone, a, hread, hsome, Or.inl ⟨hms, rfl⟩⟩

theorem Adds.of_nil (h : Adds read key [] found found') : found' = found := by
  rcases h with ⟨-, h⟩ | ⟨v, a, hfilter, -⟩
  · exact h
  · cases hfilter

/-- A field brings its value, or nothing if that is the standard one. -/
theorem adds_of_field {written : Text → Prop} {standard : Prop} {a : α}
    (h : Field ms key written standard) (hread : ∀ v, written v → Reads read v a) :
    ∃ found, Adds read key ms none found ∧ (found = some a ∨ found = none ∧ standard) := by
  rcases h with ⟨v, hfilter, hv⟩ | ⟨hnil, hstandard⟩
  · exact ⟨some a, Or.inr ⟨v, a, hfilter, hread v hv, rfl, rfl⟩, Or.inl rfl⟩
  · exact ⟨none, Or.inl ⟨hnil, rfl⟩, Or.inr ⟨rfl, hstandard⟩⟩

theorem getD_eq {a standard : α} (h : found = some a ∨ found = none ∧ a = standard) :
    found.getD standard = a := by
  rcases h with rfl | ⟨rfl, rfl⟩
  · rfl
  · rfl

theorem join_eq {found : Option (Option α)} {a : Option α}
    (h : found = some a ∨ found = none ∧ a = none) : found.join = a := by
  rcases h with rfl | ⟨rfl, rfl⟩
  · rfl
  · rfl

end Adds

/-! ### Two members -/

section Pair

variable {keyA keyB : Text} {readA : Text → Except Fault (α × Text)}
  {readB : Text → Except Fault (β × Text)}

theorem takes_pair (hne : keyA ≠ keyB) {ms : List (Text × Text)} (hextras : Extras [keyA, keyB] ms)
    {x x' : Option α} {y y' : Option β} (hx : Adds readA keyA ms x x')
    (hy : Adds readB keyB ms y y') :
    Takes (pairMember keyA keyB readA readB) (x, y) ms (x', y') := by
  -- a member with a known key is the only one with it, so nothing was found before
  induction ms generalizing x y with
  | nil =>
    rw [hx.of_nil, hy.of_nil]
    exact .nil _
  | cons m ms ih =>
    have hextras' : Extras [keyA, keyB] ms := fun n hn => hextras n (List.mem_cons_of_mem _ hn)
    by_cases hA : m.1 = keyA
    · obtain ⟨rfl, a, hread, rfl, hx'⟩ := hx.of_eq hA
      have hm : TakesMember (pairMember keyA keyB readA readB) (none, y) m (some a, y) := by
        intro b b' rest hb hb' hrest
        unfold pairMember
        rw [if_pos hA, once_none hread hb hb' hrest]
        rfl
      exact .cons hm (ih hextras' hx' (hy.of_ne (hA ▸ hne)))
    · by_cases hB : m.1 = keyB
      · obtain ⟨rfl, a, hread, rfl, hy'⟩ := hy.of_eq hB
        have hm : TakesMember (pairMember keyA keyB readA readB) (x, none) m (x, some a) := by
          intro b b' rest hb hb' hrest
          unfold pairMember
          rw [if_neg hA, if_pos hB, once_none hread hb hb' hrest]
          rfl
        exact .cons hm (ih hextras' (hx.of_ne hA) hy')
      · have hscalar : ScalarText m.2 := hextras m (List.mem_cons_self ..) (by simp [hA, hB])
        have hm : TakesMember (pairMember keyA keyB readA readB) (x, y) m (x, y) := by
          intro b b' rest hb hb' hrest
          unfold pairMember
          rw [if_neg hA, if_neg hB, ignored_of_scalar hscalar _ hb hb' hrest]
        exact .cons hm (ih hextras' (hx.of_ne hA) (hy.of_ne hB))

/-- **An object with two known members is read for what it says about them**, in any order and
among other members. -/
theorem reads_pair (hne : keyA ≠ keyB) {ms : List (Text × Text)} {t : Text} (h : ObjectText ms t)
    (hextras : Extras [keyA, keyB] ms) {x : Option α} {y : Option β}
    (hx : Adds readA keyA ms none x) (hy : Adds readB keyB ms none y) :
    Reads (pair keyA keyB readA readB) t (x, y) := by
  intro b rest hb hrest
  obtain ⟨r, hr, hmembers⟩ := members_of_object h (takes_pair hne hextras hx hy) rest
  unfold pair
  rw [hr, skipBlanks_append hb, skipBlanks_cons rfl]
  exact hmembers

end Pair

/-! ### Sizes and values that may be null -/

theorem reads_size (n : UInt64) : Reads size (Text.ofNat n.toNat) n := by
  intro b rest hb hrest
  have hread := number_natural n.toNat_lt hrest
  obtain ⟨c, r, hdigits, hdigit⟩ := exists_ofNat_eq n.toNat
  unfold size
  rw [hdigits, List.cons_append] at hread ⊢
  rw [skipBlanks_append hb, skipBlanks_cons (isBlank_of_isDigit hdigit)]
  split
  · next heq => cases heq
  · next heq =>
    cases heq
    cases hdigit
  · next heq =>
    cases heq
    rw [if_pos hdigit, hread]
    show Except.ok (n.toNat.toUInt64, rest) = _
    rw [Nat.toUInt64_eq, UInt64.ofNat_toNat]

theorem reads_nullable_none (read : Text → Except Fault (α × Text)) :
    Reads (nullable read) "null".toList none := by
  intro b rest hb hrest
  unfold nullable
  rw [skipBlanks_append hb]
  rfl

theorem reads_nullable_some {read : Text → Except Fault (α × Text)} {v : Text} {a : α}
    (hv : ∃ r, v = '\x7b' :: r) (h : Reads read v a) : Reads (nullable read) v (some a) := by
  intro b rest hb hrest
  obtain ⟨r, rfl⟩ := hv
  unfold nullable
  rw [skipBlanks_append hb, List.cons_append, skipBlanks_cons rfl]
  show (read (b ++ ('\x7b' :: r ++ rest))).map _ = _
  rw [h b rest hb hrest]
  rfl

/-! ### Descriptions of rules -/

/-- The word for a kind of rules. -/
def kindName : Kind → Text
  | .literals => "pattern".toList
  | .pattern => "regex".toList

theorem reads_kind {k : Kind} {v : Text} (h : StringText (kindName k) v) : Reads kind v k := by
  intro b rest hb hrest
  obtain ⟨s, hs, rfl⟩ := h
  unfold kind
  rw [skipBlanks_append hb, List.cons_append, List.append_assoc, skipBlanks_cons rfl]
  show (stringBody 0 (s ++ '"' :: rest) >>= _) = _
  rw [stringBody_of_spells hs]
  cases k <;> rfl

theorem exists_reads_tokenId (id : TokenId) (depth : Nat) :
    ∃ x, Reads (value depth) (Text.ofInt id.val.toInt) x ∧ tokenId? x = some id := by
  obtain ⟨val⟩ := id
  have hlow := val.le_toInt
  have hhigh := val.toInt_lt
  have hval := Int32.ofInt_toInt val
  cases hi : val.toInt with
  | ofNat n =>
    rw [hi] at hhigh hval
    have hn : n < 0x80000000 := by
      rw [Int.ofNat_eq_natCast] at hhigh
      omega
    refine ⟨_, reads_value_natural depth (by omega), ?_⟩
    show (if n < 0x80000000 then _ else none) = _
    rw [if_pos hn]
    exact congrArg (fun v => some (TokenId.mk v)) hval
  | negSucc n =>
    rw [hi] at hlow hval
    have hn : n + 1 ≤ 0x80000000 := by omega
    refine ⟨_, reads_value_negative depth n.succ_pos (by omega), ?_⟩
    show (if n + 1 ≤ 0x80000000 then _ else none) = _
    rw [if_pos hn]
    exact congrArg (fun v => some (TokenId.mk v)) hval

theorem reads_value_array {alternatives : List Text} {v : Text}
    (h : ArrayText StringText alternatives v) (depth : Nat) :
    Reads (value (depth + 1)) v (.array (alternatives.map .string)) := by
  intro b rest hb hrest
  have hpart : ∀ (s : Text) (t : Text), StringText s t →
      Starts t ∧ Reads (value depth) t (.string s) := by
    intro s t ht
    refine ⟨?_, reads_value_string depth ht⟩
    obtain ⟨k, -, rfl⟩ := ht
    exact ⟨'"', _, rfl, rfl, by decide⟩
  obtain ⟨r, hr, helements⟩ := elements_of_array hpart h rest
  rw [value_blanks _ hb, hr]
  unfold value
  show (elements (value depth) (r.length + 1) true r).map _ = _
  rw [helements]
  rfl

theorem texts?_array (alternatives : List Text) :
    texts? (.array (alternatives.map .string)) = some alternatives := by
  show (alternatives.map Value.string).mapM text? = _
  rw [List.mapM_map]
  induction alternatives with
  | nil => rfl
  | cons a alternatives ih =>
    rw [List.mapM_cons, ih]
    rfl

/-- The value that a text is read as. -/
def valueOf (depth : Nat) (v : Text) : Value :=
  match value depth v with
  | .ok (x, _) => x
  | .error _ => .null

theorem valueOf_eq {depth : Nat} {v : Text} {x : Value} (h : Reads (value depth) v x) :
    valueOf depth v = x := by
  have hread := h [] [] blank_nil delimited_nil
  rw [List.nil_append, List.append_nil] at hread
  unfold valueOf
  rw [hread]

/-- The members of a description that are kept until its kind is known. -/
def kept (depth : Nat) (ms : List (Text × Text)) : List (Text × Value) :=
  (ms.filter (·.1 ≠ "kind".toList)).map fun m => (m.1, valueOf depth m.2)

/-- The kind is looked at when it comes; everything else is kept, before it and after it. -/
theorem takes_spec {depth : Nat} {ms : List (Text × Text)} {k k' : Option Kind}
    (hkind : Adds kind "kind".toList ms k k')
    (hvalue : ∀ m ∈ ms, m.1 ≠ "kind".toList → ∃ x, Reads (value depth) m.2 x)
    (found : List (Text × Value)) :
    Takes (specMember depth) (k, found) ms (k', found ++ kept depth ms) := by
  induction ms generalizing k found with
  | nil =>
    rw [hkind.of_nil]
    simp only [kept, List.filter_nil, List.map_nil, List.append_nil]
    exact .nil _
  | cons m ms ih =>
    have hvalue' := fun n hn => hvalue n (List.mem_cons_of_mem m hn)
    by_cases hm : m.1 = "kind".toList
    · obtain ⟨rfl, a, hread, rfl, hkind'⟩ := hkind.of_eq hm
      have hkept : kept depth (m :: ms) = kept depth ms := by
        unfold kept
        rw [List.filter_cons_of_neg (by simp [hm])]
      have htakes : TakesMember (specMember depth) (none, found) m (some a, found) := by
        intro b b' rest hb hb' hrest
        unfold specMember
        rw [if_pos hm, once_none hread hb hb' hrest]
        rfl
      rw [hkept]
      exact .cons htakes (ih hkind' hvalue' found)
    · obtain ⟨x, hread⟩ := hvalue m (List.mem_cons_self ..) hm
      have hkept : kept depth (m :: ms) = (m.1, x) :: kept depth ms := by
        unfold kept
        rw [List.filter_cons_of_pos (by simpa using hm), List.map_cons, valueOf_eq hread]
      have htakes : TakesMember (specMember depth) (k, found) m (k, found ++ [(m.1, x)]) := by
        intro b b' rest hb hb' hrest
        unfold specMember
        rw [if_neg hm, colon_append hb]
        show (value depth _ >>= _) = _
        rw [hread b' rest hb' hrest]
        rfl
      rw [hkept, List.append_cons]
      exact .cons htakes (ih (hkind.of_ne hm) hvalue' _)

theorem single?_kept {depth : Nat} {ms : List (Text × Text)} {key v : Text} {x : Value}
    (hkey : key ≠ "kind".toList) (h : ms.filter (·.1 = key) = [(key, v)])
    (hread : Reads (value depth) v x) : single? (kept depth ms) key = some x := by
  have hfilter : (kept depth ms).filter (·.1 = key) = [(key, x)] := by
    have hboth : (ms.filter (·.1 ≠ "kind".toList)).filter (·.1 = key) = ms.filter (·.1 = key) := by
      rw [List.filter_filter]
      refine List.filter_congr fun m _ => ?_
      by_cases hm : m.1 = key
      · rw [decide_eq_true (show m.1 ≠ "kind".toList from hm ▸ hkey), Bool.and_true]
      · rw [decide_eq_false hm, Bool.false_and]
    unfold kept
    rw [List.filter_map]
    show ((ms.filter (·.1 ≠ "kind".toList)).filter (·.1 = key)).map _ = _
    rw [hboth, h, List.map_singleton, valueOf_eq hread]
  unfold single?
  rw [hfilter]

/-- **A description is read as what its members say**, once its kind is known. -/
theorem reads_spec_of_members {depth : Nat} {k : Kind} {s : RuleSpec} {x y : Value} {v w : Text}
    {ms : List (Text × Text)} {t : Text} (h : ObjectText ms t)
    (hextras : Extras ["kind".toList, "id".toList, k.key] ms)
    (hkind : Adds kind "kind".toList ms none (some k))
    (hid : ms.filter (·.1 = "id".toList) = [("id".toList, v)]) (hx : Reads (value depth) v x)
    (hwhat : ms.filter (·.1 = k.key) = [(k.key, w)]) (hy : Reads (value depth) w y)
    (hspec : spec? k x y = some s) : Reads (spec depth) t s := by
  intro b rest hb hrest
  -- all members but the kind are read as values, also those that do not matter
  have hvalue : ∀ m ∈ ms, m.1 ≠ "kind".toList → ∃ z, Reads (value depth) m.2 z := by
    intro m hm hne
    by_cases hmid : m.1 = "id".toList
    · have hmem : m ∈ ms.filter (·.1 = "id".toList) := List.mem_filter.mpr ⟨hm, by simpa using hmid⟩
      rw [hid, List.mem_singleton] at hmem
      exact ⟨x, hmem ▸ hx⟩
    · by_cases hmkey : m.1 = k.key
      · have hmem : m ∈ ms.filter (·.1 = k.key) := List.mem_filter.mpr ⟨hm, by simpa using hmkey⟩
        rw [hwhat, List.mem_singleton] at hmem
        exact ⟨y, hmem ▸ hy⟩
      · refine exists_reads_value depth (hextras m hm ?_)
        simp only [List.mem_cons, List.not_mem_nil, or_false, not_or]
        exact ⟨hne, hmid, hmkey⟩
  have hkey : k.key ≠ "kind".toList := by cases k <;> decide
  have hfound : specOfMembers? k (kept depth ms) = some s := by
    unfold specOfMembers?
    rw [single?_kept (by decide) hid hx, single?_kept hkey hwhat hy]
    exact hspec
  obtain ⟨r, hr, hmembers⟩ := members_of_object h (takes_spec hkind hvalue []) rest
  unfold spec
  rw [hr, skipBlanks_append hb, skipBlanks_cons rfl]
  show (members (specMember depth) (r.length + 1) true (none, []) r >>= _) = _
  rw [hmembers]
  show orUnsuitable (specOfMembers? k ([] ++ kept depth ms)) rest = _
  rw [List.nil_append, hfound]
  rfl

theorem adds_kind {ms : List (Text × Text)} {k : Kind}
    (h : Given ms "kind".toList (StringText (kindName k))) :
    Adds kind "kind".toList ms none (some k) := by
  obtain ⟨v, hfilter, hv⟩ := h
  exact Or.inr ⟨v, k, hfilter, reads_kind hv, rfl, rfl⟩

theorem reads_spec {s : RuleSpec} {t : Text} (h : SpecText s t) (depth : Nat) :
    Reads (spec (depth + 1)) t s := by
  obtain ⟨ms, hobject, ⟨v, hid, rfl⟩, hmore⟩ := h
  obtain ⟨x, hx, htoken⟩ := exists_reads_tokenId s.id (depth + 1)
  cases s with
  | literals id alternatives =>
    obtain ⟨hextras, hkind, w, hwhat, hw⟩ := hmore
    refine reads_spec_of_members (k := .literals) hobject hextras (adds_kind hkind) hid hx hwhat
      (reads_value_array hw depth) ?_
    unfold spec?
    rw [htoken]
    show (texts? (.array (alternatives.map .string))).map _ = _
    rw [texts?_array]
    rfl
  | pattern id pattern =>
    obtain ⟨hextras, hkind, w, hwhat, hw⟩ := hmore
    refine reads_spec_of_members (k := .pattern) hobject hextras (adds_kind hkind) hid hx hwhat
      (reads_value_string (depth + 1) hw) ?_
    unfold spec?
    rw [htoken]
    rfl

theorem exists_brace {ms : List (Text × Text)} {t : Text} (h : ObjectText ms t) :
    ∃ r, t = '\x7b' :: r := by
  cases h with
  | empty hb => exact ⟨_, rfl⟩
  | parts h => exact ⟨_, rfl⟩

theorem exists_brace_of_spec {s : RuleSpec} {t : Text} (h : SpecText s t) :
    ∃ r, t = '\x7b' :: r := by
  obtain ⟨ms, hobject, -⟩ := h
  exact exists_brace hobject

theorem reads_nullable {read : Text → Except Fault (α × Text)} {written : α → Text → Prop}
    (hread : ∀ a v, written a v → (∃ r, v = '\x7b' :: r) ∧ Reads read v a) {a : Option α} {v : Text}
    (h : NullableText written a v) : Reads (nullable read) v a := by
  cases a with
  | none =>
    obtain rfl : v = "null".toList := h
    exact reads_nullable_none read
  | some a =>
    obtain ⟨hbrace, hread⟩ := hread a v h
    exact reads_nullable_some hbrace hread

theorem reads_specs {rules : List RuleSpec} {t : Text} (h : ArrayText SpecText rules t) :
    Reads specs t rules := by
  intro b rest hb hrest
  have hpart : ∀ s v, SpecText s v → Starts v ∧ Reads (spec (maxNesting - 4)) v (id s) := by
    intro s v hv
    refine ⟨?_, reads_spec hv 122⟩
    obtain ⟨r, rfl⟩ := exists_brace_of_spec hv
    exact ⟨_, r, rfl, rfl, by decide⟩
  obtain ⟨r, hr, helements⟩ := elements_of_array hpart h rest
  unfold specs
  rw [hr, skipBlanks_append hb, skipBlanks_cons rfl]
  show elements _ (r.length + 1) true r = _
  rw [helements, List.map_id]

/-! ### Configurations -/

theorem reads_bufferSizes {s : BufferSizes} {t : Text} (h : BufferText s t) :
    Reads bufferSizes t s := by
  intro b rest hb hrest
  obtain ⟨ms, hobject, hextras, hmark, hchunk⟩ := h
  obtain ⟨mark, hadds, hmark⟩ := adds_of_field hmark fun v hv => hv ▸ reads_size s.lowWaterMark
  obtain ⟨chunk, hadds', hchunk⟩ := adds_of_field hchunk fun v hv => hv ▸ reads_size s.chunkSize
  have hpair := reads_pair (by decide) hobject hextras hadds hadds'
  unfold bufferSizes
  rw [hpair b rest hb hrest]
  show Except.ok ((⟨mark.getD 1024, chunk.getD 2048⟩ : BufferSizes), rest) = _
  rw [getD_eq hmark, getD_eq hchunk]

theorem reads_ruleSetSpec {s : RuleSetSpec} {t : Text} (h : RuleSetText s t) :
    Reads ruleSetSpec t s := by
  intro b rest hb hrest
  obtain ⟨ms, hobject, hextras, hwhitespace, hrules⟩ := h
  have hspec : ∀ r v, SpecText r v →
      (∃ u, v = '\x7b' :: u) ∧ Reads (spec (maxNesting - 3)) v r :=
    fun r v hv => ⟨exists_brace_of_spec hv, reads_spec hv 123⟩
  obtain ⟨whitespace, hadds, hwhitespace⟩ :=
    adds_of_field hwhitespace fun v hv => reads_nullable hspec hv
  obtain ⟨rules, hadds', hrules⟩ := adds_of_field hrules fun v hv => reads_specs hv
  have hpair := reads_pair (by decide) hobject hextras hadds hadds'
  unfold ruleSetSpec
  rw [hpair b rest hb hrest]
  show Except.ok ((⟨whitespace.join, rules.getD []⟩ : RuleSetSpec), rest) = _
  rw [join_eq hwhitespace, getD_eq hrules]

theorem reads_config {c : Config} {t : Text} (h : ConfigText c t) : Reads config t c := by
  intro b rest hb hrest
  obtain ⟨ms, hobject, hextras, hbuffer, hrules⟩ := h
  have hset : ∀ s v, RuleSetText s v → (∃ u, v = '\x7b' :: u) ∧ Reads ruleSetSpec v s := by
    intro s v hv
    refine ⟨?_, reads_ruleSetSpec hv⟩
    obtain ⟨ms, hobject, -⟩ := hv
    exact exists_brace hobject
  obtain ⟨buffer, hadds, hbuffer⟩ := adds_of_field hbuffer fun v hv => reads_bufferSizes hv
  obtain ⟨rules, hadds', hrules⟩ := adds_of_field hrules fun v hv => reads_nullable hset hv
  have hpair := reads_pair (by decide) hobject hextras hadds hadds'
  unfold config
  rw [hpair b rest hb hrest]
  show Except.ok ((⟨buffer.getD {}, rules.join⟩ : Config), rest) = _
  rw [getD_eq hbuffer, join_eq hrules]

end Reader

/-- **A document with nothing but blanks around a configuration.** -/
theorem ofJson_of_configText {c : Config} {b v b' : Text} (h : ConfigText c v) (hb : Blank b)
    (hb' : Blank b') : ofJson (b ++ (v ++ b')) = .ok c := by
  have hdelimited : Delimited b' := by
    have h := hb'.delimited delimited_nil
    rwa [List.append_nil] at h
  have hblank : skipBlanks b' = [] := by
    have h := skipBlanks_append hb' []
    rwa [List.append_nil] at h
  unfold ofJson
  rw [Reader.reads_config h b b' hb hdelimited]
  show (if (skipBlanks b').isEmpty then Except.ok c else _) = _
  rw [hblank]
  rfl

end RuleLexer.Config
