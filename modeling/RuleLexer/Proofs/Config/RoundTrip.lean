import RuleLexer.Config.Printer
import RuleLexer.Proofs.Config.Layout

/-!
# Configurations as documents

What is printed for a configuration is one of its layouts: every member is given, in the printer's
order, with line breaks and indentation between the parts. Since every layout is read as the
configuration that it is a layout of, reading what was printed gives the configuration back.

* `Printer.stringText_string`: a printed string is a spelling of that string.
* `Printer.objectText_object` and `Printer.arrayText_array`: printed blocks are objects and arrays.
* `ofJson_of_layout`: the layout makes no difference to what is read.
* `ofJson_toJson`: what is printed is read as what it was printed for.
-/

namespace RuleLexer.Config

open Json

namespace Printer

/-! ### Strings -/

theorem codeUnit_control {n : Nat} (hn : n < 0x20) :
    CodeUnit ("00".toList ++ (if n < 0x10 then ['0'] else []) ++ Text.hex n) n := by
  have hall : ∀ n < 0x20, "00".toList ++ (if n < 0x10 then ['0'] else []) ++ Text.hex n =
      [(0).digitChar, (0).digitChar, (n / 16).digitChar, (n % 16).digitChar] := by decide
  rw [hall n hn]
  refine ⟨0, 0, n / 16, n % 16, ?_, by omega⟩
  have hdigit : ∀ v < 16, HexDigit v.digitChar v := fun v hv => ⟨hv, Or.inl rfl⟩
  exact .cons (hdigit 0 (by decide)) (.cons (hdigit 0 (by decide))
    (.cons (hdigit _ (by omega)) (.cons (hdigit _ (by omega)) .nil)))

theorem spells_control {s k : Text} (h : Spells s k) {c : Char} (hc : c.toNat < 0x20) :
    Spells (c :: s)
      ("\\u00".toList ++ (if c.toNat < 0x10 then ['0'] else []) ++ Text.hex c.toNat ++ k) := by
  have hspells := Spells.unit (codeUnit_control hc) (Or.inl (by omega)) h
  rw [Char.ofNat_toNat] at hspells
  exact hspells

theorem spells_stringChar {s k : Text} (h : Spells s k) (c : Char) :
    Spells (c :: s) (stringChar c ++ k) := by
  unfold stringChar
  by_cases hquote : c = '"'
  · rw [if_pos hquote, hquote]
    exact .letter (by decide) h
  rw [if_neg hquote]
  by_cases hslash : c = '\\'
  · rw [if_pos hslash, hslash]
    exact .letter (by decide) h
  rw [if_neg hslash]
  by_cases hback : c = '\x08'
  · rw [if_pos hback, hback]
    exact .letter (by decide) h
  rw [if_neg hback]
  by_cases hform : c = '\x0c'
  · rw [if_pos hform, hform]
    exact .letter (by decide) h
  rw [if_neg hform]
  by_cases hnew : c = '\n'
  · rw [if_pos hnew, hnew]
    exact .letter (by decide) h
  rw [if_neg hnew]
  by_cases hreturn : c = '\r'
  · rw [if_pos hreturn, hreturn]
    exact .letter (by decide) h
  rw [if_neg hreturn]
  by_cases htab : c = '\t'
  · rw [if_pos htab, htab]
    exact .letter (by decide) h
  rw [if_neg htab]
  by_cases hcontrol : c.toNat < 0x20
  · rw [if_pos hcontrol]
    exact spells_control h hcontrol
  · rw [if_neg hcontrol]
    exact .plain (isPlain_iff.mpr ⟨hquote, hslash, Nat.le_of_not_lt hcontrol⟩) h

/-- **A printed string is a spelling of that string.** -/
theorem stringText_string (s : Text) : StringText s (string s) := by
  refine ⟨s.flatMap stringChar, ?_, rfl⟩
  induction s with
  | nil => exact .nil
  | cons c s ih =>
    rw [List.flatMap_cons]
    exact spells_stringChar ih c

/-! ### Objects and arrays -/

theorem blank_newLine (level : Nat) : Blank (newLine level) := by
  intro c hc
  rcases List.mem_cons.mp hc with rfl | hspace
  · decide
  · rw [List.eq_of_mem_replicate hspace]
    decide

section Block

variable {α : Type} {part : α → Text → Prop}

theorem parts_of_forall {a : α} {v : Text} {as : List α} {vs : List Text} (h : part a v)
    (hs : List.Forall₂ part as vs) {b b' : Text} (hb : Blank b) (hb' : Blank b') :
    Parts part (a :: as) (b ++ (v ++ (vs.flatMap (fun p => ',' :: b ++ p) ++ b'))) := by
  -- the blanks of the last line belong to the last part
  induction hs generalizing a v with
  | nil => exact .last hb h hb'
  | @cons a' v' as vs h' hs ih =>
    have hparts := Parts.cons hb h blank_nil (ih h')
    simpa only [List.flatMap_cons, List.nil_append, List.cons_append, List.append_assoc]
      using hparts

theorem enclosed_block {as : List α} {vs : List Text} (hs : List.Forall₂ part as vs)
    (opening closing : Char) (level : Nat) :
    Enclosed opening closing part as (block opening closing level vs) := by
  cases hs with
  | nil => exact .empty blank_nil
  | @cons a v as vs h hs =>
    have hparts := parts_of_forall h hs (blank_newLine (level + 1)) (blank_newLine level)
    have henclosed : Enclosed opening closing part (a :: as) _ := .parts hparts
    simpa only [block, List.cons_append, List.append_assoc] using henclosed

/-- **A printed object is an object** with the members it was printed for. -/
theorem objectText_object (level : Nat) (ms : List (Text × Text)) :
    ObjectText ms (object level ms) := by
  refine enclosed_block ?_ _ _ level
  rw [List.forall₂_map_right_iff]
  refine List.forall₂_same.mpr fun m _ => ?_
  have hmember := MemberText.mk (v := m.2) (stringText_string m.1) blank_nil
    (blank_cons (c := ' ') (by decide) blank_nil)
  simpa using hmember

theorem arrayText_array {as : List α} {print : α → Text} (h : ∀ a ∈ as, part a (print a))
    (level : Nat) : ArrayText part as (array level (as.map print)) := by
  refine enclosed_block ?_ _ _ level
  rw [List.forall₂_map_right_iff]
  exact List.forall₂_same.mpr h

end Block

/-! ### Configurations -/

theorem bufferText_bufferSizes (level : Nat) (s : BufferSizes) :
    BufferText s (bufferSizes level s) :=
  ⟨_, objectText_object level _, extras_of_subset (List.Subset.refl _), Or.inl ⟨_, rfl, rfl⟩,
    Or.inl ⟨_, rfl, rfl⟩⟩

theorem specText_spec (level : Nat) (s : RuleSpec) : SpecText s (spec level s) := by
  cases s with
  | literals id alternatives =>
    have halternatives := arrayText_array (fun a (_ : a ∈ alternatives) => stringText_string a)
      (level + 1)
    exact ⟨_, objectText_object level _, ⟨_, rfl, rfl⟩, extras_of_subset (List.Subset.refl _),
      ⟨_, rfl, stringText_string _⟩, ⟨_, rfl, halternatives⟩⟩
  | pattern id pattern =>
    exact ⟨_, objectText_object level _, ⟨_, rfl, rfl⟩, extras_of_subset (List.Subset.refl _),
      ⟨_, rfl, stringText_string _⟩, ⟨_, rfl, stringText_string _⟩⟩

theorem nullableText {α : Type} {written : α → Text → Prop} {print : α → Text}
    (h : ∀ a, written a (print a)) (a : Option α) :
    NullableText written a ((a.map print).getD null) := by
  cases a with
  | none => rfl
  | some a => exact h a

theorem ruleSetText_ruleSetSpec (level : Nat) (s : RuleSetSpec) :
    RuleSetText s (ruleSetSpec level s) := by
  have hrules := arrayText_array (fun r (_ : r ∈ s.rules) => specText_spec (level + 2) r)
    (level + 1)
  exact ⟨_, objectText_object level _, extras_of_subset (List.Subset.refl _),
    Or.inl ⟨_, rfl, nullableText (specText_spec (level + 1)) s.whitespace⟩,
    Or.inl ⟨_, rfl, hrules⟩⟩

end Printer

theorem configText_toJson (c : Config) : ConfigText c (toJson c) :=
  ⟨_, Printer.objectText_object 0 _, extras_of_subset (List.Subset.refl _),
    Or.inl ⟨_, rfl, Printer.bufferText_bufferSizes 1 c.buffer⟩,
    Or.inl ⟨_, rfl, Printer.nullableText (Printer.ruleSetText_ruleSetSpec 1) c.rules⟩⟩

/-! ### Reading documents -/

/-- **What is printed for a configuration is read as that configuration**, whatever its sizes,
identifiers and texts are, its rules in their order. What is printed is one of its layouts. -/
theorem ofJson_toJson (c : Config) : Layout c (toJson c) ∧ ofJson (toJson c) = .ok c := by
  have htext : toJson c = [] ++ (toJson c ++ []) := by rw [List.nil_append, List.append_nil]
  refine ⟨⟨[], toJson c, [], htext, blank_nil, blank_nil, configText_toJson c⟩, ?_⟩
  rw [htext]
  exact ofJson_of_configText (configText_toJson c) blank_nil blank_nil

/-- **Every layout of a configuration is read as that configuration**: members in any order, those
with their standard value left out or not, other members anywhere among them, and blanks between
any two signs make no difference. -/
theorem ofJson_of_layout (c : Config) (t : Text) (h : Layout c t) : ofJson t = .ok c := by
  obtain ⟨b, v, b', rfl, hb, hb', hconfig⟩ := h
  exact ofJson_of_configText hconfig hb hb'

/-- A configuration with one size left out and the other one last, a rule whose kind comes last and
has an escape in it and that holds a member of the other kind, and a further member that comes
twice. -/
theorem ofJson_of_layout_shuffled :
    let c : Config := ⟨⟨7, 2048⟩, some ⟨none, [.pattern ⟨-3⟩ ['a', '"']]⟩⟩
    let t := ("\n\x7b\"rules\":\x7b\"rules\":[\x7b\"patterns\":null,\"pattern\":\"a\\\"\"," ++
      "\"id\":-3,\"kind\":\"\\u0072egex\"\x7d]\x7d,\"x\":-1 ,\"x\":true,\"buffer\": " ++
      "\x7b\"low_water_mark\":7\x7d\x7d ").toList
    Layout c t ∧ ofJson t = .ok c := by
  intro c t
  have hkind : StringText "regex".toList "\"\\u0072egex\"".toList := by
    have hdigit : ∀ v < 16, HexDigit v.digitChar v := fun v hv => ⟨hv, Or.inl rfl⟩
    have hunit : CodeUnit "0072".toList 0x72 :=
      ⟨0, 0, 7, 2, .cons (hdigit 0 (by decide)) (.cons (hdigit 0 (by decide))
        (.cons (hdigit 7 (by decide)) (.cons (hdigit 2 (by decide)) .nil))), rfl⟩
    have hrest : Spells "egex".toList "egex".toList := spells_self rfl
    exact ⟨_, .unit hunit (Or.inl (by decide)) hrest, rfl⟩
  have hpattern : StringText ['a', '"'] "\"a\\\"\"".toList :=
    ⟨_, .plain rfl (.letter (e := '"') (by decide) .nil), rfl⟩
  have hspace : Blank [' '] := blank_cons (by decide) blank_nil
  have hspec : SpecText (.pattern ⟨-3⟩ ['a', '"']) _ :=
    ⟨[("patterns".toList, "null".toList), ("pattern".toList, "\"a\\\"\"".toList),
      ("id".toList, "-3".toList), ("kind".toList, "\"\\u0072egex\"".toList)],
      .parts (.cons blank_nil (memberText_self rfl _) blank_nil
        (.cons blank_nil (memberText_self rfl _) blank_nil
          (.cons blank_nil (memberText_self rfl _) blank_nil
            (.last blank_nil (memberText_self rfl _) blank_nil)))),
      ⟨_, rfl, rfl⟩, extras_cons .null (extras_of_subset (by decide)), ⟨_, rfl, hkind⟩,
      ⟨_, rfl, hpattern⟩⟩
  have hset : RuleSetText ⟨none, [.pattern ⟨-3⟩ ['a', '"']]⟩ _ :=
    ⟨[("rules".toList, _)],
      .parts (.last blank_nil (memberText_self rfl _) blank_nil),
      extras_of_subset (by simp), Or.inr ⟨rfl, rfl⟩,
      Or.inl ⟨_, rfl, .parts (.last blank_nil hspec blank_nil)⟩⟩
  have hbuffer : BufferText ⟨7, 2048⟩ _ :=
    ⟨[("low_water_mark".toList, "7".toList)],
      .parts (.last blank_nil (memberText_self rfl _) blank_nil),
      extras_of_subset (by decide), Or.inl ⟨_, rfl, rfl⟩, Or.inr ⟨rfl, rfl⟩⟩
  have hextras : ∀ v w : Text, Extras ["buffer".toList, "rules".toList] [("rules".toList, v),
      ("x".toList, Text.ofInt (-1)), ("x".toList, "true".toList), ("buffer".toList, w)] := by
    intro v w m hm hne
    simp only [List.mem_cons, List.not_mem_nil, or_false] at hm
    rcases hm with rfl | rfl | rfl | rfl
    · exact absurd (List.mem_cons_of_mem _ (List.mem_cons_self ..)) hne
    · exact .integer (i := -1) (by decide) (by decide)
    · exact .true
    · exact absurd (List.mem_cons_self ..) hne
  have hconfig : ConfigText c _ :=
    ⟨[("rules".toList, _), ("x".toList, Text.ofInt (-1)), ("x".toList, "true".toList),
      ("buffer".toList, _)],
      .parts (.cons blank_nil (memberText_self rfl _) blank_nil
        (.cons blank_nil (memberText_self rfl _) hspace
          (.cons blank_nil (memberText_self rfl _) blank_nil
            (.last blank_nil (.mk (stringText_self rfl) blank_nil hspace) blank_nil)))),
      hextras _ _, Or.inl ⟨_, rfl, hbuffer⟩, Or.inl ⟨_, rfl, hset⟩⟩
  have hlayout : Layout c t := by
    refine ⟨['\n'], _, [' '], ?_, blank_cons (by decide) blank_nil, hspace, hconfig⟩
    decide +kernel
  exact ⟨hlayout, ofJson_of_layout c t hlayout⟩

end RuleLexer.Config
