import RuleLexer.Proofs.Lexer.Streaming
import RuleLexer.Proofs.Reference

/-!
# Streaming with the reference rules

A name, a number without a fraction and a single character are given away by every start of the
text: whatever the buffer holds, the rules find the same token there as in the whole text, or the
match takes all of the buffer and is tried again. Strings and fractions are not, since a start that
ends inside of them shows a single quote or a shorter number. `Plain` is what is neither.

* `steadyBlanks_reference`: blanks are single characters, so any start shows them.
* `steady_reference`: a rest whose next token is plain is steady, whatever the buffer holds.
* `scans_eq_results_of_plain`: a text of plain tokens gives the same tokens however it is buffered.
-/

namespace RuleLexer

/-- A plain token: no string, and no number with a fraction. -/
def Token.Plain (token : Token) : Prop :=
  token.id ≠ .string ∧ (token.id = .number → '.' ∉ token.literal)

namespace Token

variable {token : Token}

/-- Names are plain. -/
theorem plain_of_ident (h : token.id = .ident) : token.Plain := by
  unfold Plain
  rw [h]
  exact ⟨by decide, fun hn => by cases hn⟩

/-- Single characters are plain. -/
theorem plain_of_other (h : token.id = .other) : token.Plain := by
  unfold Plain
  rw [h]
  exact ⟨by decide, fun hn => by cases hn⟩

/-- Numbers without a point are plain. -/
theorem plain_of_number (h : token.id = .number) (hp : '.' ∉ token.literal) : token.Plain := by
  unfold Plain
  rw [h]
  exact ⟨by decide, fun _ => hp⟩

end Token

namespace Reference

/-! ### Starts of a text -/

/-- A run that ends before its text does is not made longer by what follows the text. -/
theorem takeWhile_append_eq {f : Char → Bool} {x y : Text}
    (h : x.takeWhile f ≠ x ∨ ∀ c ∈ y.head?, f c = false) :
    (x ++ y).takeWhile f = x.takeWhile f := by
  rw [List.takeWhile_append]
  split_ifs with hlen
  · have hall : x.takeWhile f = x := (List.takeWhile_prefix f).eq_of_length hlen
    rw [hall]
    rcases h with h | h
    · exact absurd hall h
    · cases y with
      | nil => rw [List.takeWhile_nil, List.append_nil]
      | cons c y =>
        rw [List.takeWhile_cons_of_neg (Bool.not_eq_true _ ▸ h c rfl), List.append_nil]
  · rfl

/-- A fraction that a start of a text shows is there. -/
theorem fraction_eq_nil_of_append {x y : Text} (h : fraction (x ++ y) = []) : fraction x = [] := by
  rcases fraction_cases x with ⟨d, r, rfl, hd, -⟩ | ⟨hx, -⟩
  · rcases fraction_cases ('.' :: d :: r ++ y) with ⟨d', r', -, -, hf⟩ | ⟨-, hnone⟩
    · rw [hf] at h
      cases h
    · have hfalse := hnone (d :: r ++ y) rfl d rfl
      rw [hd] at hfalse
      cases hfalse
  · exact hx

/-- Of a number without a fraction, every start that ends in it or behind it shows its digits
only. -/
theorem number_eq_takeWhile {x y : Text}
    (h : fraction ((x ++ y).dropWhile digits.contains) = []) :
    number x = x.takeWhile digits.contains := by
  -- behind the digits of the start comes what comes there in the text, or nothing
  have hx : fraction (x.dropWhile digits.contains) = [] := by
    rw [List.dropWhile_append] at h
    split_ifs at h with hnil
    · rw [List.isEmpty_iff.mp hnil]
      rfl
    · exact fraction_eq_nil_of_append h
  rw [number, hx, List.append_nil]

/-- Neither a letter nor a digit is what stands for something unreadable. -/
theorem head?_replacement {s : CharSet} (hs : s.contains Utf8.replacement = false) {y : Text}
    (hy : y = [] ∨ y = [Utf8.replacement]) : ∀ c ∈ y.head?, s.contains c = false := by
  rcases hy with rfl | rfl
  · intro c hc
    cases hc
  · rintro c ⟨⟩
    exact hs

/-! ### Plain tokens -/

theorem contains_letters_of_digit {c : Char} (h : digits.contains c = true) :
    letters.contains c = false := by
  unfold digits letters CharSet.contains at *
  simp only [List.any_cons, List.any_nil, Bool.or_false, Bool.and_eq_true, decide_eq_true_eq] at h
  simp only [List.any_cons, List.any_nil, Bool.or_false, Bool.or_eq_false_iff,
    Bool.and_eq_false_iff, decide_eq_false_iff_not]
  omega

theorem not_mem_takeWhile_digits (t : Text) : '.' ∉ t.takeWhile digits.contains := by
  intro h
  have hall := List.all_eq_true.mp (List.all_takeWhile (p := digits.contains) (l := t)) _ h
  exact absurd hall (by decide)

/-- A number shows its fraction by a point. -/
theorem point_mem_number (t : Text) :
    '.' ∈ number t ↔ fraction (t.dropWhile digits.contains) ≠ [] := by
  rw [number, List.mem_append, or_iff_right (not_mem_takeWhile_digits t)]
  rcases fraction_cases (t.dropWhile digits.contains) with ⟨d, r, -, -, hf⟩ | ⟨hf, -⟩
  · rw [hf]
    exact ⟨fun _ => List.cons_ne_nil _ _, fun _ => List.mem_cons_self ..⟩
  · rw [hf]
    exact ⟨fun h => absurd h List.not_mem_nil, fun h => absurd rfl h⟩

/-- What makes the token at the front plain. -/
theorem plain_token_iff (c : Char) (t : Text) (position : Position) :
    (token c t position).Plain ↔
      (digits.contains c = true → fraction ((c :: t).dropWhile digits.contains) = []) ∧
        ¬ (c = '"' ∧ '"' ∈ t) := by
  have hquote {s : CharSet} (hs : s.contains '"' = false) (h : s.contains c = true) :
      ¬ (c = '"' ∧ '"' ∈ t) := by
    rintro ⟨rfl, -⟩
    rw [hs] at h
    cases h
  unfold token
  by_cases hl : letters.contains c = true
  · rw [if_pos hl]
    refine iff_of_true (Token.plain_of_ident rfl) ⟨fun hd => ?_, hquote (by decide) hl⟩
    rw [contains_letters_of_digit hd] at hl
    cases hl
  · rw [if_neg hl]
    by_cases hd : digits.contains c = true
    · rw [if_pos hd]
      have hpoint := point_mem_number (c :: t)
      constructor
      · rintro ⟨-, hno⟩
        exact ⟨fun _ => not_not.mp fun hne => hno rfl (hpoint.mpr hne), hquote (by decide) hd⟩
      · rintro ⟨hno, -⟩
        exact Token.plain_of_number rfl fun hmem => hpoint.mp hmem (hno hd)
    · rw [if_neg hd]
      by_cases hq : c = '"' ∧ '"' ∈ t
      · rw [if_pos hq]
        exact iff_of_false (fun h => h.1 rfl) (fun h => h.2 hq)
      · rw [if_neg hq]
        exact iff_of_true (Token.plain_of_other rfl) ⟨fun h => absurd h hd, hq⟩

/-! ### Steady rests -/

open Lexer (Suffices SteadyBlanks Steady)
open WholeText (Rest)

/-- A start that suffices shows the first character, if there is one. -/
theorem exists_cons_of_suffices {mark : Nat} (hm : 1 ≤ mark) {c : Char} {t x y : Text}
    (h : c :: t = x ++ y) (hs : Suffices mark x y) : ∃ x', x = c :: x' ∧ t = x' ++ y := by
  cases x with
  | nil =>
    rcases hs with hs | hs
    · rw [Text.byteLength_nil] at hs
      omega
    · rw [hs] at h
      cases h
  | cons d x' =>
    cases h
    exact ⟨x', rfl, rfl⟩

/-- **Blanks are seen on every start that suffices.** -/
theorem steadyBlanks_reference {mark : Nat} (hm : 1 ≤ mark) (r : Rest) :
    SteadyBlanks mark RuleSet.reference r := by
  obtain ⟨text, position⟩ := r
  intro x y h hs
  rw [blank?_reference, blank?_reference]
  cases text with
  | nil => rw [(List.append_eq_nil_iff.mp h.symm).1]
  | cons c t =>
    obtain ⟨x', rfl, -⟩ := exists_cons_of_suffices hm h hs
    rw [hit?_blank, hit?_blank]

/-- A rule that a start of a text does not mislead: what it finds in the start is what it finds in
the text, and what it misses there it misses. -/
structure SteadyRule (rule : Rule) (position : Position) (x y : Text) : Prop where
  found : ∀ token, TokenRule.hit? rule x position = some token →
    (token.literal ≠ x ∨ y = [] ∨ y = [Utf8.replacement]) →
    TokenRule.hit? rule (x ++ y) position = some token
  missed : TokenRule.hit? rule x position = none → TokenRule.hit? rule (x ++ y) position = none

section Rules

variable (c : Char) (x y : Text) (position : Position)

theorem steadyRule_name : SteadyRule nameRule position (c :: x) y := by
  constructor
  · intro token h hend
    rw [hit?_name] at h
    rw [List.cons_append, hit?_name]
    split_ifs at h ⊢ with hc
    cases h
    rw [takeWhile_append_eq]
    rcases hend with hne | hy
    · exact Or.inl fun h => hne (by rw [h])
    · exact Or.inr (head?_replacement (by decide) hy)
  · intro h
    rw [hit?_name] at h
    rw [List.cons_append, hit?_name]
    split_ifs at h ⊢
    rfl

theorem steadyRule_number
    (hf : digits.contains c = true → fraction ((c :: x ++ y).dropWhile digits.contains) = []) :
    SteadyRule numberRule position (c :: x) y := by
  constructor
  · intro token h hend
    rw [hit?_number] at h
    rw [List.cons_append, hit?_number]
    split_ifs at h ⊢ with hc
    cases h
    have hx : number (c :: x) = (c :: x).takeWhile digits.contains :=
      number_eq_takeWhile (hf hc)
    have hxy : number (c :: (x ++ y)) = (c :: x ++ y).takeWhile digits.contains := by
      apply number_eq_takeWhile (y := [])
      rw [List.append_nil]
      exact hf hc
    rw [hx] at hend
    rw [hxy, hx, takeWhile_append_eq]
    rcases hend with hne | hy
    · exact Or.inl hne
    · exact Or.inr (head?_replacement (by decide) hy)
  · intro h
    rw [hit?_number] at h
    rw [List.cons_append, hit?_number]
    split_ifs at h ⊢
    rfl

theorem steadyRule_string (hq : ¬ (c = '"' ∧ '"' ∈ x ++ y)) :
    SteadyRule stringRule position (c :: x) y := by
  have hx : ¬ (c = '"' ∧ '"' ∈ x) := fun h => hq ⟨h.1, List.mem_append_left _ h.2⟩
  constructor
  · intro token h
    rw [hit?_string, if_neg hx] at h
    cases h
  · intro _
    rw [List.cons_append, hit?_string, if_neg hq]

theorem steadyRule_any : SteadyRule anyRule position (c :: x) y := by
  constructor
  · intro token h _
    rw [hit?_any] at h
    rwa [List.cons_append, hit?_any]
  · intro h
    rw [hit?_any] at h
    rwa [List.cons_append, hit?_any]

end Rules

/-- **A rest whose next token is plain is steady.** -/
theorem steady_reference {mark : Nat} (hm : 1 ≤ mark) {r : Rest}
    (hb : WholeText.blank? RuleSet.reference r = none)
    (hplain : ∀ token, WholeText.first? RuleSet.reference r = some token → token.Plain) :
    Steady mark RuleSet.reference r := by
  obtain ⟨text, position⟩ := r
  cases text with
  | nil =>
    refine ⟨fun rule _ x y token h _ hx _ => ?_, fun rule _ x y h _ hx => ?_, fun _ x y h _ => ?_⟩
    · rw [(List.append_eq_nil_iff.mp h.symm).1, hit?_nil] at hx
      cases hx
    · exact hit?_nil rule position
    · exact (List.append_eq_nil_iff.mp h.symm).2
  | cons c t =>
    have hfirst := first?_reference (not_mem_blanks hb) t position
    obtain ⟨hfraction, hstring⟩ := (plain_token_iff c t position).mp (hplain _ hfirst)
    -- a start that suffices has the first character, and that is all the rules ask for
    have hrules : ∀ rule ∈ RuleSet.reference.rules, ∀ x y, t = x ++ y →
        SteadyRule rule position (c :: x) y := by
      intro rule hrule x y hxy
      subst hxy
      rw [reference_eq] at hrule
      simp only [List.mem_cons, List.not_mem_nil, or_false] at hrule
      rcases hrule with rfl | rfl | rfl | rfl
      · exact steadyRule_name c x y position
      · exact steadyRule_number c x y position hfraction
      · exact steadyRule_string c x y position hstring
      · exact steadyRule_any c x y position
    refine ⟨fun rule hrule x y token h hs => ?_, fun rule hrule x y h hs => ?_, fun hnone => ?_⟩
    · obtain ⟨x', rfl, ht⟩ := exists_cons_of_suffices hm h hs
      rw [ht]
      exact (hrules rule hrule x' y ht).found token
    · obtain ⟨x', rfl, ht⟩ := exists_cons_of_suffices hm h hs
      rw [ht]
      exact (hrules rule hrule x' y ht).missed
    · rw [hfirst] at hnone
      cases hnone

/-- **Plain tokens do not depend on the buffer**: however the bytes come and whatever the sizes are,
scanning says what the whole text says. -/
theorem scans_eq_results_of_plain {σ : Type} [FiniteSource σ] {l : Lexer σ Rule}
    {sizes : BufferSizes} {r : Rest} (h : Lexer.At RuleSet.reference sizes l r)
    (hplain : ∀ n token, .ok (some token) ∈ WholeText.results RuleSet.reference n r → token.Plain)
    (n : Nat) : Lexer.scans n l = some (WholeText.results RuleSet.reference n r) := by
  have hmark : 1 ≤ sizes.mark := Nat.le_max_right _ _
  refine Lexer.scans_eq_results (P := fun r => ∀ n token,
    .ok (some token) ∈ WholeText.results RuleSet.reference n r → token.Plain) ?_ ?_ ?_ n h hplain
  · exact fun _ _ q _ => steadyBlanks_reference hmark q
  · intro r hr
    refine steady_reference hmark (WholeText.blank?_stripped r) fun token hf => hr 1 token ?_
    rw [WholeText.results, WholeText.next_of_first? hf]
    exact List.mem_cons_self ..
  · exact fun r hr n token hmem => hr (n + 1) token (List.mem_cons_of_mem _ hmem)

end Reference

end RuleLexer
