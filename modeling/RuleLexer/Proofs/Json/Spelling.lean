import Mathlib.Data.List.TakeWhile
import Mathlib.Data.List.Forall2
import Mathlib.Tactic.IntervalCases
import RuleLexer.Json.Value

/-!
# How JSON scalars are written

One string has many spellings in JSON: a character may stand for itself, have an escape of one
letter, or be given by one or two code units in hexadecimal digits. Blanks may stand before any
value, and what stands behind it tells where it ends. This module says which texts are spellings of
a string, an integer or a word, without a look at the readers, and shows that the readers take each
of them for what it is.

* `stringBody_of_spells`: every spelling of a string is read as that string.
* `number_natural` and `number_negative`: integers of 64 bits are read as they are.
* `ignore_of_scalar` and `exists_reads_value`: plain scalars can be passed over and read.
-/

namespace RuleLexer.Json

/-! ### Blanks, and what follows a value -/

/-- The characters that make up blanks. -/
def blanks : List Char := [' ', '\n', '\t', '\r']

/-- The characters that may stand right behind a value: blanks, and signs that separate or close. -/
def delimiters : List Char := blanks ++ [',', ']', '\x7d']

/-- Blanks between the parts of a document. -/
def Blank (b : Text) : Prop := ∀ c ∈ b, c ∈ blanks

/-- The text after a value that has ended: there is none, or it starts with a sign that no value
goes on with. -/
def Delimited (rest : Text) : Prop := ∀ c t, rest = c :: t → c ∈ delimiters

/-- A text that is read as a value, with any blanks before it and anything behind it that may follow
a value. -/
def Reads {α : Type} (read : Text → Except Fault (α × Text)) (v : Text) (a : α) : Prop :=
  ∀ b rest, Blank b → Delimited rest → read (b ++ (v ++ rest)) = .ok (a, rest)

theorem blank_nil : Blank [] := fun _ h => nomatch h

theorem blank_cons {c : Char} {b : Text} (hc : c ∈ blanks) (h : Blank b) :
    Blank (c :: b) :=
  List.forall_mem_cons.mpr ⟨hc, h⟩

theorem delimited_nil : Delimited [] := fun _ _ h => nomatch h

theorem delimited_cons {c : Char} (h : c ∈ delimiters) (t : Text) : Delimited (c :: t) := by
  intro d t' heq
  cases heq
  exact h

theorem Blank.isBlank {b : Text} (h : Blank b) : ∀ c ∈ b, isBlank c = true := by
  intro c hc
  have hall : blanks.all Json.isBlank = true := rfl
  exact List.all_eq_true.mp hall c (h c hc)

theorem Blank.delimited {b rest : Text} (hb : Blank b) (h : Delimited rest) :
    Delimited (b ++ rest) := by
  cases b with
  | nil => exact h
  | cons c b =>
    have hc : c ∈ blanks := hb c (List.mem_cons_self ..)
    exact delimited_cons (List.mem_append_left _ hc) _

theorem Delimited.of_all {c : Char} {t : Text} (h : Delimited (c :: t)) {p : Char → Bool}
    (hp : delimiters.all p = true) : p c = true :=
  List.all_eq_true.mp hp c (h c t rfl)

theorem skipBlanks_append {b : Text} (h : Blank b) (t : Text) :
    skipBlanks (b ++ t) = skipBlanks t := by
  unfold skipBlanks
  exact List.dropWhile_append_of_pos h.isBlank

theorem skipBlanks_cons {c : Char} (h : isBlank c = false) (t : Text) :
    skipBlanks (c :: t) = c :: t := by
  unfold skipBlanks
  rw [List.dropWhile_cons_of_neg (by rw [h]; exact Bool.false_ne_true)]

/-! ### Strings -/

/-- The escapes of one letter, with the characters that they stand for. -/
def letterEscapes : List (Char × Char) :=
  [('"', '"'), ('\\', '\\'), ('/', '/'), ('b', '\x08'), ('f', '\x0c'), ('n', '\n'), ('r', '\r'),
    ('t', '\t')]

/-- A digit in base sixteen, small or capital, and its value. -/
def HexDigit (c : Char) (v : Nat) : Prop :=
  v < 16 ∧ (c = v.digitChar ∨ c = v.digitChar.toUpper)

/-- The four digits of a code unit. -/
def CodeUnit (digits : Text) (n : Nat) : Prop :=
  ∃ a b c d, List.Forall₂ HexDigit digits [a, b, c, d] ∧ n = ((a * 16 + b) * 16 + c) * 16 + d

/-- A character that may stand for itself in a string: no quote, no backslash and no control. -/
def isPlain (c : Char) : Bool := c ≠ '"' && c ≠ '\\' && 0x20 ≤ c.toNat

theorem isPlain_iff {c : Char} : isPlain c = true ↔ c ≠ '"' ∧ c ≠ '\\' ∧ 0x20 ≤ c.toNat := by
  simp [isPlain, and_assoc]

/-- The spellings of a string, without its quotes. Every character stands for itself or is escaped;
those beyond the first plane are escaped by a pair of code units. -/
inductive Spells : Text → Text → Prop where
  | nil : Spells [] []
  | plain {c : Char} {s k : Text} (hc : isPlain c = true) (h : Spells s k) :
      Spells (c :: s) (c :: k)
  | letter {e c : Char} {s k : Text} (he : (e, c) ∈ letterEscapes) (h : Spells s k) :
      Spells (c :: s) ('\\' :: e :: k)
  | unit {digits : Text} {n : Nat} {s k : Text} (hd : CodeUnit digits n)
      (hn : n < 0xD800 ∨ 0xDFFF < n) (h : Spells s k) :
      Spells (Char.ofNat n :: s) ('\\' :: 'u' :: (digits ++ k))
  | pair {digits digits' : Text} {first second : Nat} {s k : Text} (hd : CodeUnit digits first)
      (hd' : CodeUnit digits' second) (hfirst : 0xD800 ≤ first ∧ first ≤ 0xDBFF)
      (hsecond : 0xDC00 ≤ second ∧ second ≤ 0xDFFF) (h : Spells s k) :
      Spells (Char.ofNat (0x10000 + (first - 0xD800) * 0x400 + (second - 0xDC00)) :: s)
        ('\\' :: 'u' :: (digits ++ '\\' :: 'u' :: (digits' ++ k)))

/-- The written forms of a string, with its quotes. -/
def StringText (s t : Text) : Prop := ∃ k, Spells s k ∧ t = '"' :: (k ++ ['"'])

theorem hexDigit?_eq {c : Char} {v : Nat} (h : HexDigit c v) : hexDigit? c = some v := by
  have hall : ∀ v < 16,
      hexDigit? v.digitChar = some v ∧ hexDigit? v.digitChar.toUpper = some v := by decide
  obtain ⟨hv, rfl | rfl⟩ := h
  · exact (hall v hv).1
  · exact (hall v hv).2

theorem codeUnit_append {digits : Text} {n : Nat} (h : CodeUnit digits n) (rest : Text) :
    codeUnit (digits ++ rest) = .ok n ∧ digits.length = 4 := by
  obtain ⟨a, b, c, d, hdigits, rfl⟩ := h
  rcases hdigits with _ | ⟨ha, _ | ⟨hb, _ | ⟨hc, _ | ⟨hd, _ | _⟩⟩⟩⟩
  next x y z w =>
  refine ⟨?_, rfl⟩
  have hbytes : ¬ Text.byteLength ([x, y, z, w] ++ rest) < 4 := by
    have := x.utf8Size_pos
    have := y.utf8Size_pos
    have := z.utf8Size_pos
    have := w.utf8Size_pos
    simp only [Text.byteLength_append, Text.byteLength_cons, Text.byteLength_nil]
    omega
  unfold codeUnit
  rw [if_neg hbytes]
  simp [hexDigit?_eq ha, hexDigit?_eq hb, hexDigit?_eq hc, hexDigit?_eq hd]

theorem stringBody_append (x t : Text) : stringBody x.length (x ++ t) = stringBody 0 t := by
  induction x with
  | nil => rfl
  | cons c x ih => exact ih

theorem escape_letter {e c : Char} (h : (e, c) ∈ letterEscapes) (t : Text) :
    escape (e :: t) = .ok (c, 1) := by
  have hall : letterEscapes.all (fun p => p.1 ≠ 'u' && letterEscape? p.1 = some p.2) = true := rfl
  have hpair := List.all_eq_true.mp hall (e, c) h
  obtain ⟨hu, hletter⟩ : e ≠ 'u' ∧ letterEscape? e = some c := by simpa using hpair
  unfold escape
  split
  · next heq => cases heq
  · next heq =>
    cases heq
    exact absurd rfl hu
  · next heq =>
    cases heq
    rw [hletter]

theorem escape_unit {digits : Text} {n : Nat} (h : CodeUnit digits n)
    (hn : n < 0xD800 ∨ 0xDFFF < n) (t : Text) :
    escape ('u' :: (digits ++ t)) = .ok (Char.ofNat n, 5) := by
  show (codeUnit (digits ++ t) >>= _) = _
  rw [(codeUnit_append h t).1]
  show (if _ then _ else if _ then _ else _) = _
  rw [if_neg (by omega), if_neg (by omega)]

theorem escape_pair {digits digits' : Text} {first second : Nat} (h : CodeUnit digits first)
    (h' : CodeUnit digits' second) (hfirst : 0xD800 ≤ first ∧ first ≤ 0xDBFF)
    (hsecond : 0xDC00 ≤ second ∧ second ≤ 0xDFFF) (t : Text) :
    escape ('u' :: (digits ++ '\\' :: 'u' :: (digits' ++ t))) =
      .ok (Char.ofNat (0x10000 + (first - 0xD800) * 0x400 + (second - 0xDC00)), 11) := by
  obtain ⟨hunit, hlength⟩ := codeUnit_append h ('\\' :: 'u' :: (digits' ++ t))
  show (codeUnit _ >>= _) = _
  rw [hunit]
  show (if _ then _ else if _ then _ else _) = _
  rw [if_neg (by omega), if_pos hfirst, ← hlength, List.drop_left]
  show ((codeUnit (digits' ++ t) >>= _) >>= _) = _
  rw [(codeUnit_append h' t).1]
  show ((if _ then _ else _) >>= _) = _
  rw [if_pos hsecond]
  rfl

/-- **Every spelling of a string is read as that string.** -/
theorem stringBody_of_spells {s k : Text} (h : Spells s k) (rest : Text) :
    stringBody 0 (k ++ '"' :: rest) = .ok (s, rest) := by
  induction h with
  | nil => rfl
  | @plain c s k hc h ih =>
    obtain ⟨hquote, hslash, hcontrol⟩ := isPlain_iff.mp hc
    rw [List.cons_append, stringBody, if_neg hquote, if_neg hslash, if_neg (by omega), ih]
    rfl
  | @letter e c s k he h ih =>
    rw [List.cons_append, List.cons_append, stringBody, if_neg (by decide), if_pos rfl,
      escape_letter he]
    show (stringBody 1 (e :: (k ++ '"' :: rest)) >>= _) = _
    rw [stringBody, ih]
    rfl
  | @unit digits n s k hd hn h ih =>
    rw [List.cons_append, List.cons_append, List.append_assoc, stringBody, if_neg (by decide),
      if_pos rfl, escape_unit hd hn]
    show (stringBody 5 ('u' :: (digits ++ (k ++ '"' :: rest))) >>= _) = _
    rw [stringBody, ← (codeUnit_append hd []).2, stringBody_append, ih]
    rfl
  | @pair digits digits' first second s k hd hd' hfirst hsecond h ih =>
    have htext : '\\' :: 'u' :: (digits ++ '\\' :: 'u' :: (digits' ++ k)) ++ '"' :: rest =
        '\\' :: 'u' :: (digits ++ '\\' :: 'u' :: (digits' ++ (k ++ '"' :: rest))) := by
      simp only [List.cons_append, List.append_assoc]
    have hlength : ('u' :: (digits ++ '\\' :: 'u' :: digits')).length = 11 := by
      simp [(codeUnit_append hd []).2, (codeUnit_append hd' []).2]
    rw [htext, stringBody, if_neg (by decide), if_pos rfl,
      escape_pair hd hd' hfirst hsecond]
    have hskip := stringBody_append ('u' :: (digits ++ '\\' :: 'u' :: digits')) (k ++ '"' :: rest)
    rw [hlength] at hskip
    simp only [List.cons_append, List.append_assoc] at hskip
    show (stringBody 11 _ >>= _) = _
    rw [hskip, ih]
    rfl

/-! ### Numbers -/

theorem digitsValue_ofNat (n : Nat) : digitsValue (Text.ofNat n) = n := by
  have h := Nat.ofDigitChars_ten_toDigits (n := n)
  rw [Nat.ofDigitChars_eq_foldl] at h
  unfold digitsValue Text.ofNat
  simpa only [Nat.mul_comm] using h

theorem isDigit_of_mem_ofNat {n : Nat} {c : Char} (h : c ∈ Text.ofNat n) : isDigit c = true := by
  have hdigit := Nat.isDigit_of_mem_toDigits (by decide) (by decide) h
  exact hdigit

theorem isDigit_of_ofNat_eq {n : Nat} {c : Char} {r : Text} (h : Text.ofNat n = c :: r) :
    isDigit c = true := by
  apply isDigit_of_mem_ofNat (n := n)
  rw [h]
  exact List.mem_cons_self ..

theorem exists_ofNat_eq (n : Nat) : ∃ c r, Text.ofNat n = c :: r ∧ isDigit c = true := by
  cases h : Text.ofNat n with
  | nil => exact absurd h Nat.toDigits_ne_nil
  | cons c r => exact ⟨c, r, rfl, isDigit_of_ofNat_eq h⟩

theorem exists_digitChar {c : Char} (h : isDigit c = true) : ∃ n < 10, c = Nat.digitChar n := by
  have hall : ∀ m < 58, 48 ≤ m → Char.ofNat m = Nat.digitChar (m - 48) := by decide
  obtain ⟨hlow, hhigh⟩ := Bool.and_eq_true_iff.mp h
  have hlow' : 48 ≤ c.toNat := of_decide_eq_true hlow
  have hhigh' : c.toNat ≤ 57 := of_decide_eq_true hhigh
  refine ⟨c.toNat - 48, by omega, ?_⟩
  rw [← hall c.toNat (by omega) hlow', Char.ofNat_toNat]

theorem isBlank_of_isDigit {c : Char} (h : isDigit c = true) : isBlank c = false := by
  obtain ⟨n, hn, rfl⟩ := exists_digitChar h
  interval_cases n <;> rfl

/-- No leading zeros: a number with more than one digit starts with another one. -/
theorem ofNat_cases (n : Nat) :
    Text.ofNat n = ['0'] ∨ ∃ c r, Text.ofNat n = c :: r ∧ c ≠ '0' := by
  induction n using Nat.strong_induction_on with
  | _ n ih =>
  unfold Text.ofNat at ih ⊢
  by_cases hn : n < 10
  · rw [Nat.toDigits_of_lt_base hn]
    by_cases h : n.digitChar = '0'
    · exact Or.inl (by rw [h])
    · exact Or.inr ⟨_, [], rfl, h⟩
  · rw [Nat.toDigits_of_base_le (by decide) (by omega)]
    rcases ih (n / 10) (by omega) with h | ⟨c, r, h, hc⟩
    · -- the front of the number would be zero
      have hvalue := digitsValue_ofNat (n / 10)
      rw [Text.ofNat, h] at hvalue
      have hzero : digitsValue ['0'] = 0 := rfl
      omega
    · exact Or.inr ⟨c, _, by rw [h, List.cons_append], hc⟩

theorem Delimited.isDigit_eq_false {c : Char} {t : Text} (h : Delimited (c :: t)) :
    isDigit c = false := by
  have hnot : (!isDigit c) = true := h.of_all (p := fun d => !isDigit d) rfl
  simpa using hnot

/-- Neither a fraction nor an exponent comes. -/
theorem Delimited.not_real {c : Char} {t : Text} (h : Delimited (c :: t)) :
    c ≠ '.' ∧ ¬ (c = 'e' || c = 'E') = true := by
  have hnot : (c != '.' && !(c = 'e' || c = 'E')) = true :=
    h.of_all (p := fun d => d != '.' && !(d = 'e' || d = 'E')) rfl
  simpa using hnot

theorem takeWhile_digits {n : Nat} {rest : Text} (h : Delimited rest) :
    (Text.ofNat n ++ rest).takeWhile isDigit = Text.ofNat n := by
  rw [List.takeWhile_append_of_pos fun _ => isDigit_of_mem_ofNat]
  cases rest with
  | nil => simp
  | cons c t => simp [h.isDigit_eq_false]

theorem dropWhile_digits {n : Nat} {rest : Text} (h : Delimited rest) :
    (Text.ofNat n ++ rest).dropWhile isDigit = rest := by
  rw [List.dropWhile_append_of_pos fun _ => isDigit_of_mem_ofNat]
  cases rest with
  | nil => rfl
  | cons c t => simp [h.isDigit_eq_false]

theorem numberTail_eq_integer {rest : Text} (h : Delimited rest) (negative : Bool) (whole : Text) :
    numberTail negative whole rest = numberTail.integer negative whole rest := by
  unfold numberTail
  split
  · exact absurd rfl h.not_real.1
  · exact if_neg h.not_real.2
  · rfl

/-- The digits of a number are read up to what ends it. -/
theorem number_eq_integer {rest : Text} (h : Delimited rest) (negative : Bool) (n : Nat) :
    number negative (Text.ofNat n ++ rest) =
      numberTail.integer negative (Text.ofNat n) rest := by
  rw [← numberTail_eq_integer h]
  rcases ofNat_cases n with hzero | ⟨c, r, hdigits, hc⟩
  · rw [hzero]
    cases rest with
    | nil => rfl
    | cons c t => exact if_neg (by rw [h.isDigit_eq_false]; exact Bool.false_ne_true)
  · have hdigit : isDigit c = true := isDigit_of_ofNat_eq hdigits
    have htake := takeWhile_digits (n := n) h
    have hdrop := dropWhile_digits (n := n) h
    rw [hdigits, List.cons_append] at htake hdrop ⊢
    unfold number
    split
    · next heq => cases heq
    · next heq =>
      cases heq
      exact absurd rfl hc
    · next heq =>
      cases heq
      rw [if_pos hdigit, htake, hdrop]

theorem number_natural {n : Nat} (hn : n < 0x10000000000000000) {rest : Text}
    (h : Delimited rest) : number false (Text.ofNat n ++ rest) = .ok (.natural n, rest) := by
  rw [number_eq_integer h, numberTail.integer, digitsValue_ofNat]
  simp [hn]

theorem number_negative {n : Nat} (hpos : 0 < n) (hn : n ≤ 0x8000000000000000) {rest : Text}
    (h : Delimited rest) : number true (Text.ofNat n ++ rest) = .ok (.negative n, rest) := by
  rw [number_eq_integer h, numberTail.integer, digitsValue_ofNat]
  simp [hpos, hn]

theorem ignoreNumberTail_of_delimited {rest : Text} (h : Delimited rest) :
    ignoreNumberTail rest = .ok rest := by
  unfold ignoreNumberTail
  split
  · exact absurd rfl h.not_real.1
  · exact if_neg h.not_real.2
  · rfl

theorem ignoreNumber_ofNat {rest : Text} (h : Delimited rest) (n : Nat) :
    ignoreNumber (Text.ofNat n ++ rest) = .ok rest := by
  rcases ofNat_cases n with hzero | ⟨c, r, hdigits, hc⟩
  · rw [hzero]
    cases rest with
    | nil => rfl
    | cons c t =>
      rw [← ignoreNumberTail_of_delimited h]
      exact if_neg (by rw [h.isDigit_eq_false]; exact Bool.false_ne_true)
  · have hdigit : isDigit c = true := isDigit_of_ofNat_eq hdigits
    have hdrop := dropWhile_digits (n := n) h
    rw [hdigits, List.cons_append] at hdrop ⊢
    unfold ignoreNumber
    split
    · next heq =>
      cases heq
      exact absurd rfl hc
    · next heq =>
      cases heq
      rw [if_pos hdigit, hdrop, ignoreNumberTail_of_delimited h]
    · next heq => cases heq

/-! ### Scalars -/

/-- Plain scalars: null, the truth values, the integers of 64 bits, and strings that need no
escapes. -/
inductive ScalarText : Text → Prop where
  | null : ScalarText "null".toList
  | true : ScalarText "true".toList
  | false : ScalarText "false".toList
  | integer {i : Int} (hlow : -0x8000000000000000 ≤ i) (hhigh : i < 0x10000000000000000) :
      ScalarText (Text.ofInt i)
  | string {s : Text} (h : s.all isPlain = true) : ScalarText ('"' :: (s ++ ['"']))

theorem spells_self {s : Text} (h : s.all isPlain = true) : Spells s s := by
  induction s with
  | nil => exact .nil
  | cons c s ih =>
    obtain ⟨hc, hs⟩ := Bool.and_eq_true_iff.mp h
    exact .plain hc (ih hs)

theorem stringText_self {s : Text} (h : s.all isPlain = true) :
    StringText s ('"' :: (s ++ ['"'])) :=
  ⟨s, spells_self h, rfl⟩

section Value

variable (depth : Nat)

theorem value_blanks {b : Text} (h : Blank b) (t : Text) :
    value depth (b ++ t) = value depth t := by
  unfold value
  rw [skipBlanks_append h]

theorem value_digit {c : Char} (h : isDigit c = true) (t : Text) :
    value depth (c :: t) =
      (number .false (c :: t)).map fun (n, rest) => (.number n, rest) := by
  obtain ⟨n, hn, rfl⟩ := exists_digitChar h
  unfold value
  interval_cases n <;> rfl

theorem reads_value_string {s t : Text} (h : StringText s t) :
    Reads (value depth) t (.string s) := by
  intro b rest hb hrest
  obtain ⟨k, hk, rfl⟩ := h
  rw [value_blanks depth hb, List.cons_append, List.append_assoc]
  unfold value
  show (stringBody 0 (k ++ '"' :: rest)).map _ = _
  rw [stringBody_of_spells hk]
  rfl

theorem reads_value_natural {n : Nat} (hn : n < 0x10000000000000000) :
    Reads (value depth) (Text.ofNat n) (.number (.natural n)) := by
  intro b rest hb hrest
  have hread := number_natural hn hrest
  obtain ⟨c, r, hdigits, hdigit⟩ := exists_ofNat_eq n
  rw [hdigits, List.cons_append] at hread
  rw [value_blanks depth hb, hdigits, List.cons_append, value_digit depth hdigit, hread]
  rfl

theorem reads_value_negative {n : Nat} (hpos : 0 < n) (hn : n ≤ 0x8000000000000000) :
    Reads (value depth) ('-' :: Text.ofNat n) (.number (.negative n)) := by
  intro b rest hb hrest
  rw [value_blanks depth hb, List.cons_append]
  unfold value
  show (number .true (Text.ofNat n ++ rest)).map _ = _
  rw [number_negative hpos hn hrest]
  rfl

/-- **Every plain scalar can be read.** -/
theorem exists_reads_value {v : Text} (h : ScalarText v) : ∃ x, Reads (value depth) v x := by
  cases h with
  | null =>
    refine ⟨.null, fun b rest hb hrest => ?_⟩
    rw [value_blanks depth hb]
    unfold value
    rfl
  | true =>
    refine ⟨.bool .true, fun b rest hb hrest => ?_⟩
    rw [value_blanks depth hb]
    unfold value
    rfl
  | false =>
    refine ⟨.bool .false, fun b rest hb hrest => ?_⟩
    rw [value_blanks depth hb]
    unfold value
    rfl
  | @integer i hlow hhigh =>
    cases i with
    | ofNat n => exact ⟨_, reads_value_natural depth (by simpa using hhigh)⟩
    | negSucc n => exact ⟨_, reads_value_negative depth n.succ_pos (by omega)⟩
  | string h => exact ⟨_, reads_value_string depth (stringText_self h)⟩

end Value

/-! ### Passing over scalars -/

theorem ignoreString_plain {s : Text} (h : s.all isPlain = true) (rest : Text) :
    ignoreString 0 (s ++ '"' :: rest) = .ok rest := by
  induction s with
  | nil => rfl
  | cons c s ih =>
    obtain ⟨hc, hs⟩ := Bool.and_eq_true_iff.mp h
    obtain ⟨hquote, hslash, hcontrol⟩ := isPlain_iff.mp hc
    rw [List.cons_append, ignoreString, if_neg hquote, if_neg hslash, if_neg (by omega)]
    exact ih hs

theorem ignoreStart_blanks {b : Text} (h : Blank b) (stack : List Open) (t : Text) :
    ignoreStart stack (b ++ t) = ignoreStart stack t := by
  unfold ignoreStart
  rw [skipBlanks_append h]

theorem ignoreStart_digit {c : Char} (h : isDigit c = true) (stack : List Open) (t : Text) :
    ignoreStart stack (c :: t) = (ignoreNumber (c :: t)).map (stack, .ended, ·) := by
  obtain ⟨n, hn, rfl⟩ := exists_digitChar h
  interval_cases n <;> rfl

theorem ignoreStart_of_scalar {v : Text} (h : ScalarText v) {rest : Text} (hrest : Delimited rest)
    (stack : List Open) : ignoreStart stack (v ++ rest) = .ok (stack, .ended, rest) := by
  cases h with
  | null => rfl
  | true => rfl
  | false => rfl
  | @integer i hlow hhigh =>
    cases i with
    | ofNat n =>
      have hread := ignoreNumber_ofNat hrest n
      obtain ⟨c, r, hdigits, hdigit⟩ := exists_ofNat_eq n
      show ignoreStart stack (Text.ofNat n ++ rest) = _
      rw [hdigits, List.cons_append] at hread ⊢
      rw [ignoreStart_digit hdigit, hread]
      rfl
    | negSucc n =>
      show (ignoreNumber (Text.ofNat (n + 1) ++ rest)).map _ = _
      rw [ignoreNumber_ofNat hrest]
      rfl
  | @string s h =>
    rw [List.cons_append, List.append_assoc]
    show (ignoreString 0 (s ++ '"' :: rest)).map _ = _
    rw [ignoreString_plain h]
    rfl

/-- **Every plain scalar can be passed over.** -/
theorem ignore_of_scalar {v b rest : Text} (h : ScalarText v) (hb : Blank b)
    (hrest : Delimited rest) : ignore (b ++ (v ++ rest)) = .ok rest := by
  unfold ignore
  rw [ignoreStart_blanks hb, ignoreStart_of_scalar h hrest]
  rfl

end RuleLexer.Json
