import RuleLexer.Proofs.Json.Spelling
import RuleLexer.Proofs.Text.ControlFree
import RuleLexer.Text.Quoted

/-!
# Reading quoted text back

Quoting is one to one: `Quoted.decode?` reads a quoted text back, without being told which
characters were written as code points. The reader goes through the text once and knows what it is
in the middle of (`Mode`). What one character is quoted as leads it from plain text to plain text
(`read_encodeChar`), so a whole text does (`decode?_encodeWith`).

A quoted text has no control characters if those without a short escape are written as code points
(`HidesControls`, `controlFree_encodeWith`). The choice `hidden` is of this kind.
-/

namespace RuleLexer

namespace Quoted

open Json (hexDigit? hexDigit?_eq)

/-! ### The reader -/

/-- What the reader is in the middle of: plain text, an escape, a code point whose opening brace
must come, or the digits of a code point, of which it knows the value so far. -/
inductive Mode where
  | plain
  | escape
  | brace
  | digits (value : Nat)

/-- The character of a short escape. -/
def ofShortEscape? : Char → Option Char
  | '0' => some '\x00'
  | 't' => some '\t'
  | 'r' => some '\r'
  | 'n' => some '\n'
  | '"' => some '"'
  | '\\' => some '\\'
  | _ => none

/-- Puts a character in front of what was read. -/
def emit (c : Char) (result : Option (Text × Text)) : Option (Text × Text) :=
  result.map fun (t, rest) => (c :: t, rest)

/-- Reads up to the closing quote: the text, and what follows the quote. -/
def read : Mode → Text → Option (Text × Text)
  | _, [] => none
  | .plain, c :: t =>
    if c = '"' then some ([], t)
    else if c = '\\' then read .escape t
    else emit c (read .plain t)
  | .escape, c :: t =>
    if c = 'u' then read .brace t
    else (ofShortEscape? c).bind fun d => emit d (read .plain t)
  | .brace, c :: t => if c = '\x7b' then read (.digits 0) t else none
  | .digits value, c :: t =>
    if c = '\x7d' then emit (Char.ofNat value) (read .plain t)
    else (hexDigit? c).bind fun v => read (.digits (value * 16 + v)) t

/-- Reads a quoted text at the front of a text: what was quoted, and what follows. -/
def decode? : Text → Option (Text × Text)
  | [] => none
  | c :: t => if c = '"' then read .plain t else none

/-! ### What was quoted is read -/

theorem ofShortEscape?_eq {c e : Char} (h : shortEscape? c = some e) :
    e ≠ 'u' ∧ ofShortEscape? e = some c := by
  unfold shortEscape? at h
  split at h <;> cases h <;> exact ⟨by decide, rfl⟩

/-- A character without a short escape neither closes the quotes nor starts an escape. -/
theorem ne_of_shortEscape?_eq_none {c : Char} (h : shortEscape? c = none) :
    c ≠ '"' ∧ c ≠ '\\' := by
  constructor
  · rintro rfl
    cases h
  · rintro rfl
    cases h

theorem read_digit {v : Nat} (hv : v < 16) (value : Nat) (t : Text) :
    read (.digits value) (v.digitChar :: t) = read (.digits (value * 16 + v)) t := by
  have hbrace : ∀ v < 16, Nat.digitChar v ≠ '\x7d' := by decide
  show (if v.digitChar = '\x7d' then _ else (hexDigit? v.digitChar).bind _) = _
  rw [if_neg (hbrace v hv), hexDigit?_eq ⟨hv, Or.inl rfl⟩]
  rfl

theorem read_digits {values : List Nat} (hvalues : ∀ v ∈ values, v < 16) (value : Nat) (t : Text) :
    read (.digits value) (values.map Nat.digitChar ++ t) =
      read (.digits (values.foldl (fun m v => m * 16 + v) value)) t := by
  induction values generalizing value with
  | nil => rfl
  | cons v values ih =>
    obtain ⟨hv, hvalues⟩ := List.forall_mem_cons.mp hvalues
    rw [List.map_cons, List.cons_append, read_digit hv, ih hvalues, List.foldl_cons]

/-- A code point is read as its character. -/
theorem read_codePoint (c : Char) (t : Text) :
    read (.digits 0) (Text.hex c.toNat ++ '\x7d' :: t) = emit c (read .plain t) := by
  obtain ⟨values, hdigits, hvalues, hvalue⟩ := Text.exists_digits (show 1 < 16 by decide) c.toNat
  unfold Text.hex
  rw [hdigits, read_digits hvalues, hvalue]
  show (if '\x7d' = '\x7d' then emit (Char.ofNat c.toNat) (read .plain t) else _) = _
  rw [if_pos rfl, Char.ofNat_toNat]

/-- One character inside quotes is read as that character. -/
theorem read_encodeChar (hide : Char → Bool) (c : Char) (t : Text) :
    read .plain (encodeChar hide c ++ t) = emit c (read .plain t) := by
  unfold encodeChar
  cases hshort : shortEscape? c with
  | some e =>
    obtain ⟨hne, hof⟩ := ofShortEscape?_eq hshort
    show read .escape (e :: t) = _
    show (if e = 'u' then _ else (ofShortEscape? e).bind _) = _
    rw [if_neg hne, hof]
    rfl
  | none =>
    obtain ⟨hquote, hslash⟩ := ne_of_shortEscape?_eq_none hshort
    by_cases hhide : hide c = true
    · simp only [hhide, if_true, List.cons_append, List.append_assoc]
      exact read_codePoint c t
    · simp only [hhide]
      show (if c = '"' then _ else if c = '\\' then _ else emit c (read .plain t)) = _
      rw [if_neg hquote, if_neg hslash]

/-- A quoted text is read back, whatever was written as code points. -/
theorem decode?_encodeWith (hide : Char → Bool) (t rest : Text) :
    decode? (encodeWith hide t ++ rest) = some (t, rest) := by
  have hread : read .plain (t.flatMap (encodeChar hide) ++ '"' :: rest) = some (t, rest) := by
    induction t with
    | nil => rfl
    | cons c t ih =>
      rw [List.flatMap_cons, List.append_assoc, read_encodeChar, ih]
      rfl
  have happend : encodeWith hide t ++ rest =
      '"' :: (t.flatMap (encodeChar hide) ++ '"' :: rest) := by
    simp only [encodeWith, List.cons_append, List.append_assoc, List.nil_append]
  rw [happend]
  exact hread

/-! ### No control characters -/

/-- Every control character that has no short escape is written as a code point. -/
def HidesControls (hide : Char → Bool) : Prop :=
  ∀ c : Char, c.toNat < 0x20 → shortEscape? c = none → hide c = true

theorem hidesControls_hidden : HidesControls hidden := by
  intro c hc _
  unfold hidden
  rw [if_pos (by omega)]
  exact decide_eq_true hc

theorem le_toNat_of_shortEscape?_eq {c e : Char} (h : shortEscape? c = some e) :
    0x20 ≤ e.toNat := by
  unfold shortEscape? at h
  split at h <;> cases h <;> decide

theorem controlFree_encodeChar {hide : Char → Bool} (hhide : HidesControls hide) (c : Char) :
    (encodeChar hide c).ControlFree := by
  unfold encodeChar
  cases hshort : shortEscape? c with
  | some e =>
    have he := le_toNat_of_shortEscape?_eq hshort
    exact Text.controlFree_cons.mpr
      ⟨by decide, Text.controlFree_cons.mpr ⟨he, Text.controlFree_nil⟩⟩
  | none =>
    by_cases hc : hide c = true
    · simp only [hc, if_true]
      have hfront : Text.ControlFree ['\\', 'u', '\x7b'] := by decide
      have hback : Text.ControlFree ['\x7d'] := by decide
      exact Text.controlFree_append.mpr
        ⟨Text.controlFree_append.mpr ⟨hfront, Text.controlFree_hex _⟩, hback⟩
    · -- a character that stands for itself is no control
      have hle : 0x20 ≤ c.toNat := by
        by_contra hlt
        exact hc (hhide c (by omega) hshort)
      simp only [hc]
      exact Text.controlFree_cons.mpr ⟨hle, Text.controlFree_nil⟩

/-- A quoted text has no control characters. -/
theorem controlFree_encodeWith {hide : Char → Bool} (hhide : HidesControls hide) (t : Text) :
    (encodeWith hide t).ControlFree := by
  have hbody := Text.ControlFree.flatMap fun c (_ : c ∈ t) => controlFree_encodeChar hhide c
  unfold encodeWith
  rw [Text.controlFree_append, Text.controlFree_cons]
  exact ⟨⟨by decide, hbody⟩, by decide⟩

@[simp] theorem controlFree_encode (t : Text) : (encode t).ControlFree :=
  controlFree_encodeWith hidesControls_hidden t

end Quoted

end RuleLexer
