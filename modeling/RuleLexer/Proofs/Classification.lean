import Mathlib.Data.List.TakeWhile
import RuleLexer.Proofs.Reference

/-!
# Kinds of tokens

The reference rules are four patterns, and the first of them that finds something decides. What they
make of a text can be told without patterns and without an order: by the first character, by the
longest run of characters of one kind, and for numbers and strings by a look at what follows.

* `Classified`: the kinds of tokens, one by one.
* `longestRun_iff`: the longest run is what is taken as long as the characters are of the kind.
* `classified_token`, `Classified.token_eq`: a text that does not start with a blank is of one kind
  and of no other.
* `classifies_reference`: that is the token that the first of the reference rules finds.
-/

namespace RuleLexer.Reference

/-! ### Characters -/

/-- What a name can start with: the letters of ASCII and the underscore. -/
def isNameStart (c : Char) : Bool := c.isAlpha || c = '_'

/-- What a name can go on with: the letters and digits of ASCII and the underscore. -/
def isNameChar (c : Char) : Bool := c.isAlphanum || c = '_'

theorem isDigit_iff (c : Char) : c.isDigit = true ↔ 48 ≤ c.toNat ∧ c.toNat ≤ 57 :=
  Bool.and_eq_true_iff.trans (and_congr decide_eq_true_iff decide_eq_true_iff)

theorem isUpper_iff (c : Char) : c.isUpper = true ↔ 65 ≤ c.toNat ∧ c.toNat ≤ 90 :=
  decide_eq_true_iff

theorem isLower_iff (c : Char) : c.isLower = true ↔ 97 ≤ c.toNat ∧ c.toNat ≤ 122 :=
  Bool.and_eq_true_iff.trans (and_congr decide_eq_true_iff decide_eq_true_iff)

theorem isAlpha_iff (c : Char) :
    c.isAlpha = true ↔ 65 ≤ c.toNat ∧ c.toNat ≤ 90 ∨ 97 ≤ c.toNat ∧ c.toNat ≤ 122 :=
  Bool.or_eq_true_iff.trans (or_congr (isUpper_iff c) (isLower_iff c))

theorem eq_underscore_iff (c : Char) : c = '_' ↔ c.toNat = 95 := Char.toNat_inj.symm

theorem contains_digits : digits.contains = Char.isDigit := by
  funext c
  rw [Bool.eq_iff_iff, isDigit_iff]
  simp [digits, CharSet.contains]

theorem contains_letters : letters.contains = isNameStart := by
  funext c
  rw [Bool.eq_iff_iff, isNameStart, Bool.or_eq_true, isAlpha_iff, decide_eq_true_eq,
    eq_underscore_iff]
  simp [letters, CharSet.contains]
  omega

theorem contains_nameChars : nameChars.contains = isNameChar := by
  funext c
  rw [Bool.eq_iff_iff, isNameChar, Char.isAlphanum, Bool.or_eq_true, Bool.or_eq_true, isAlpha_iff,
    isDigit_iff, decide_eq_true_eq, eq_underscore_iff]
  simp [nameChars, CharSet.contains]
  omega

theorem isNameChar_of_isNameStart {c : Char} (h : isNameStart c = true) : isNameChar c = true := by
  unfold isNameStart at h
  unfold isNameChar Char.isAlphanum
  rw [Bool.or_eq_true] at h ⊢
  exact h.imp_left fun hc => by rw [hc, Bool.true_or]

/-- A digit does not start a name. -/
theorem isNameStart_of_isDigit {c : Char} (h : c.isDigit = true) : isNameStart c = false := by
  rw [isDigit_iff] at h
  rw [← Bool.not_eq_true, isNameStart, Bool.or_eq_true, isAlpha_iff, decide_eq_true_eq,
    eq_underscore_iff]
  omega

/-! ### Runs -/

/-- The longest start of a text whose characters are all of one kind. -/
structure LongestRun (kind : Char → Bool) (t run : Text) : Prop where
  isPrefix : run <+: t
  all : ∀ c ∈ run, kind c = true
  longest : ∀ s : Text, s <+: t → (∀ c ∈ s, kind c = true) → s <+: run

theorem longestRun_takeWhile (kind : Char → Bool) (t : Text) :
    LongestRun kind t (t.takeWhile kind) := by
  refine ⟨List.takeWhile_prefix kind, fun c hc => List.mem_takeWhile_imp hc, ?_⟩
  rintro s ⟨rest, rfl⟩ hall
  rw [List.takeWhile_append_of_pos hall]
  exact List.prefix_append s _

/-- **There is one longest run**, and it is what is taken as long as the characters are of the
kind. -/
theorem longestRun_iff {kind : Char → Bool} {t run : Text} :
    LongestRun kind t run ↔ run = t.takeWhile kind := by
  constructor
  · intro h
    have htaken := longestRun_takeWhile kind t
    have hle : run <+: t.takeWhile kind := htaken.longest run h.isPrefix h.all
    have hge : t.takeWhile kind <+: run := h.longest _ htaken.isPrefix htaken.all
    exact hle.eq_of_length_le hge.length_le
  · rintro rfl
    exact longestRun_takeWhile kind t

/-! ### Kinds -/

/-- **The kinds of tokens.** A text starts with a token of an identifier, a literal and the texts of
its groups. -/
inductive Classified : Text → TokenId → Text → List Text → Prop where
  /-- A name goes on as long as it can. -/
  | name {c : Char} {t literal : Text} (hc : isNameStart c = true)
      (hrun : LongestRun isNameChar (c :: t) literal) : Classified (c :: t) .ident literal []
  /-- A number is all digits, unless behind them there is a point and behind it a digit. -/
  | integer {c : Char} {t run rest : Text} (hc : c.isDigit = true)
      (hrun : LongestRun Char.isDigit (c :: t) run) (ht : c :: t = run ++ rest)
      (hrest : ∀ d r, rest = '.' :: d :: r → d.isDigit = false) :
      Classified (c :: t) .number run []
  /-- Then it goes on with the point and all digits behind it. -/
  | fraction {c : Char} {t run rest decimals : Text} (hc : c.isDigit = true)
      (hrun : LongestRun Char.isDigit (c :: t) run) (ht : c :: t = run ++ '.' :: rest)
      (hdecimals : LongestRun Char.isDigit rest decimals) (hne : decimals ≠ []) :
      Classified (c :: t) .number (run ++ '.' :: decimals) []
  /-- A string goes up to the next quote, over line breaks and all else, and has one group. -/
  | string {body rest : Text} (hbody : '"' ∉ body) :
      Classified ('"' :: (body ++ '"' :: rest)) .string ('"' :: (body ++ ['"'])) [body]
  /-- Anything else is a token for itself, and so is a quote without another one behind it. -/
  | other {c : Char} {t : Text} (hname : isNameStart c = false) (hdigit : c.isDigit = false)
      (hquote : c = '"' → '"' ∉ t) : Classified (c :: t) .other [c] []

theorem takeWhile_append_cons_of_not_mem {d : Char} {body : Text} (h : d ∉ body) (rest : Text) :
    (body ++ d :: rest).takeWhile (· ≠ d) = body := by
  have hall : ∀ c ∈ body, decide (c ≠ d) = true := fun c hc =>
    decide_eq_true (ne_of_mem_of_not_mem hc h)
  rw [List.takeWhile_append_of_pos hall, List.takeWhile_cons_of_neg (by simp), List.append_nil]

/-- **Every text that does not start with a blank is of some kind.** -/
theorem classified_token (c : Char) (t : Text) (position : Position) :
    Classified (c :: t) (token c t position).id (token c t position).literal
      (token c t position).submatches := by
  unfold token
  rw [contains_letters, contains_digits, contains_nameChars]
  split_ifs with hname hdigit hquote
  · refine .name hname (longestRun_iff.mpr ?_)
    rw [List.takeWhile_cons_of_pos (isNameChar_of_isNameStart hname)]
  · -- what the fraction is depends on what is behind the digits
    have hsplit : (c :: t).takeWhile Char.isDigit ++ (c :: t).dropWhile Char.isDigit = c :: t :=
      List.takeWhile_append_dropWhile
    have hrun := longestRun_takeWhile Char.isDigit (c :: t)
    rw [number, contains_digits]
    rcases fraction_cases ((c :: t).dropWhile Char.isDigit) with ⟨d, r, hr, hd, hf⟩ | ⟨hf, hnone⟩
    · rw [contains_digits] at hd hf
      rw [hr] at hsplit
      rw [hf, ← List.takeWhile_cons_of_pos hd]
      refine .fraction hdigit hrun hsplit.symm (longestRun_takeWhile _ _) ?_
      rw [List.takeWhile_cons_of_pos hd]
      exact List.cons_ne_nil _ _
    · rw [hf, List.append_nil]
      refine .integer hdigit hrun hsplit.symm fun d r hr => ?_
      rw [contains_digits] at hnone
      exact hnone _ hr d rfl
  · obtain ⟨rfl, hmem⟩ := hquote
    obtain ⟨rest, hrest⟩ := exists_dropWhile_ne hmem
    have hsplit : t = t.takeWhile (· ≠ '"') ++ '"' :: rest := by
      rw [← hrest]
      exact List.takeWhile_append_dropWhile.symm
    have hbody : '"' ∉ t.takeWhile (· ≠ '"') := fun h => by simpa using List.mem_takeWhile_imp h
    have hstring := @Classified.string _ rest hbody
    rwa [← hsplit] at hstring
  · refine .other (Bool.eq_false_iff.mpr hname) (Bool.eq_false_iff.mpr hdigit) ?_
    exact fun hc hmem => hquote ⟨hc, hmem⟩

/-- What is behind the longest run starts with a character of another kind. -/
theorem LongestRun.dropWhile_eq {kind : Char → Bool} {t run rest : Text}
    (h : LongestRun kind t run) (ht : t = run ++ rest) : t.dropWhile kind = rest := by
  have hsplit : t.takeWhile kind ++ t.dropWhile kind = t := List.takeWhile_append_dropWhile
  rw [← longestRun_iff.mp h] at hsplit
  exact List.append_cancel_left (hsplit.trans ht)

/-- **And of no other.** -/
theorem Classified.token_eq {c : Char} {t : Text} {id : TokenId} {literal : Text}
    {groups : List Text} (h : Classified (c :: t) id literal groups) (position : Position) :
    token c t position = ⟨id, literal, groups, position⟩ := by
  unfold token
  rw [contains_letters, contains_digits, contains_nameChars]
  cases h with
  | name hc hrun =>
    have hc' := isNameChar_of_isNameStart hc
    rw [if_pos hc, longestRun_iff.mp hrun, List.takeWhile_cons_of_pos hc']
  | integer hc hrun ht hrest =>
    have hf : Reference.fraction ((c :: t).dropWhile Char.isDigit) = [] := by
      rw [hrun.dropWhile_eq ht]
      rcases fraction_cases _ with ⟨d, r, hr, hd, -⟩ | ⟨hf, -⟩
      · rw [contains_digits, hrest d r hr] at hd
        cases hd
      · exact hf
    rw [if_neg (by rw [isNameStart_of_isDigit hc]; exact Bool.false_ne_true), if_pos hc, number,
      contains_digits, hf, List.append_nil, ← longestRun_iff.mp hrun]
  | @fraction _ _ _ rest decimals hc hrun ht hdecimals hne =>
    have hf : Reference.fraction ((c :: t).dropWhile Char.isDigit) = '.' :: decimals := by
      rw [hrun.dropWhile_eq ht, longestRun_iff.mp hdecimals, Reference.fraction, contains_digits,
        if_pos]
      rw [← longestRun_iff.mp hdecimals]
      exact ⟨rfl, hne⟩
    rw [if_neg (by rw [isNameStart_of_isDigit hc]; exact Bool.false_ne_true), if_pos hc, number,
      contains_digits, hf, ← longestRun_iff.mp hrun]
  | string hbody =>
    rw [if_neg (by decide), if_neg (by decide), if_pos ⟨rfl, by simp⟩,
      takeWhile_append_cons_of_not_mem hbody]
  | other hname hdigit hquote =>
    rw [if_neg (by rw [hname]; exact Bool.false_ne_true),
      if_neg (by rw [hdigit]; exact Bool.false_ne_true), if_neg fun h => hquote h.1 h.2]

/-! ### What the reference rules find -/

/-- **The reference rules tell the kinds of tokens apart.** In a text that does not start with a
blank, the rule for white space finds nothing, and the first of the other rules that finds something
there gives the token that the text starts with, at the position asked for. There always is one, and
there is only one. -/
theorem classifies_reference (c : Char) (t : Text) (position : Position)
    (hc : c ∉ blanks) :
    (∃ blank, RuleSet.reference.whitespace = some blank ∧
      TokenRule.find? blank (c :: t) position = none) ∧
    (∃ id literal groups, Classified (c :: t) id literal groups) ∧
    ∀ found : Token, WholeText.first? RuleSet.reference ⟨c :: t, position⟩ = some found ↔
      found.position = position ∧ Classified (c :: t) found.id found.literal found.submatches := by
  have hfirst := first?_reference hc t position
  have hblank : TokenRule.find? blankRule (c :: t) position = none := by
    show (Rule.findLiteral? (blanks.map fun d => [d]) (c :: t)).map _ = none
    rw [findLiteral?_singletons, if_neg hc, Option.map_none]
  have hkind := classified_token c t position
  refine ⟨⟨blankRule, by rw [reference_eq], hblank⟩, ⟨_, _, _, hkind⟩, fun found => ?_⟩
  rw [hfirst, Option.some_inj]
  constructor
  · rintro rfl
    refine ⟨?_, hkind⟩
    unfold token
    split_ifs <;> rfl
  · rintro ⟨hposition, hfound⟩
    rw [hfound.token_eq position, ← hposition]

/-- A number with a fraction, and a second point behind it that belongs to neither. -/
theorem classifies_reference_fraction :
    '3' ∉ blanks ∧
    WholeText.first? RuleSet.reference ⟨'3' :: ".50.x".toList, ⟨3, 7, 40⟩⟩ =
      some ⟨.number, "3.50".toList, [], ⟨3, 7, 40⟩⟩ := by
  refine ⟨by decide, ?_⟩
  refine ((classifies_reference '3' ".50.x".toList ⟨3, 7, 40⟩ (by decide)).2.2 _).mpr ⟨rfl, ?_⟩
  exact @Classified.fraction '3' _ ['3'] "50.x".toList "50".toList rfl (longestRun_iff.mpr rfl) rfl
    (longestRun_iff.mpr rfl) (List.cons_ne_nil _ _)

end RuleLexer.Reference
