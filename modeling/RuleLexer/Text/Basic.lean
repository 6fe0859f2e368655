/-!
# Text

The library works on decoded text, a list of Unicode characters. This module holds the few
operations on it that every other module needs: its size in bytes once encoded, a test for a
leading literal that also hands back what follows it, and the spelling of numbers.
-/

namespace RuleLexer

/-- Decoded text, first character first. -/
abbrev Text := List Char

namespace Text

/-- Encoded size: the number of bytes that the UTF-8 form of a text takes. -/
def byteLength : Text → Nat
  | [] => 0
  | c :: t => c.utf8Size + byteLength t

/-- At least so many bytes, without looking at more of the text than needed. -/
def hasBytes : Nat → Text → Bool
  | 0, _ => true
  | _ + 1, [] => false
  | n + 1, c :: t => hasBytes (n + 1 - c.utf8Size) t

/-- What follows a leading literal, or nothing if the text does not start with it. -/
def after? : Text → Text → Option Text
  | [], t => some t
  | _ :: _, [] => none
  | c :: l, d :: t => if c = d then after? l t else none

/-- The text starts with the literal. -/
def startsWith (t literal : Text) : Bool := (after? literal t).isSome

/-- The rest of the line: the part before the first line break, all of the text if there is none. -/
def firstLine (t : Text) : Text :=
  t.takeWhile (· ≠ '\n')

/-- The decimal digits of a number, without leading zeros. -/
def ofNat (n : Nat) : Text := Nat.toDigits 10 n

/-- The decimal digits of an integer, with a minus sign if it is negative. -/
def ofInt : Int → Text
  | .ofNat n => ofNat n
  | .negSucc n => '-' :: ofNat (n + 1)

/-- Pads a text on the right with spaces up to a width. -/
def padRight (width : Nat) (t : Text) : Text :=
  t ++ List.replicate (width - t.length) ' '

/-- A number in decimal digits, padded on the left with zeros up to a width. -/
def zeroPadded (width n : Nat) : Text :=
  List.replicate (width - (ofNat n).length) '0' ++ ofNat n

/-- A number in base sixteen, with small letters and no padding. -/
def hex (n : Nat) : Text := Nat.toDigits 16 n

/-- ASCII capital letters become small, everything else stays. -/
def toLowerAscii (t : Text) : Text :=
  t.map Char.toLower

/-! ### Laws of the leading literal -/

theorem after?_append (l t : Text) : after? l (l ++ t) = some t := by
  induction l with
  | nil => rfl
  | cons c l ih => simp [after?, ih]

theorem after?_eq_some_iff {l t r : Text} : after? l t = some r ↔ t = l ++ r := by
  constructor
  · intro h
    induction l generalizing t with
    | nil => simpa [after?] using h
    | cons c l ih =>
      cases t with
      | nil => simp [after?] at h
      | cons d t =>
        by_cases hc : c = d
        · simp only [after?, hc, if_true] at h
          simp [hc, ih h]
        · simp [after?, hc] at h
  · rintro rfl
    exact after?_append l r

@[simp] theorem byteLength_nil : byteLength [] = 0 := rfl

@[simp] theorem byteLength_cons (c : Char) (t : Text) :
    byteLength (c :: t) = c.utf8Size + byteLength t := rfl

@[simp] theorem byteLength_append (s t : Text) :
    byteLength (s ++ t) = byteLength s + byteLength t := by
  induction s with
  | nil => simp
  | cons c s ih => simp [ih, Nat.add_assoc]

theorem byteLength_pos {t : Text} (h : t ≠ []) : 0 < t.byteLength := by
  cases t with
  | nil => exact absurd rfl h
  | cons c t =>
    have := c.utf8Size_pos
    rw [byteLength_cons]
    omega

theorem hasBytes_eq (n : Nat) (t : Text) : hasBytes n t = decide (n ≤ t.byteLength) := by
  induction t generalizing n with
  | nil => cases n <;> simp [hasBytes]
  | cons c t ih =>
    cases n with
    | zero => simp [hasBytes]
    | succ n =>
      rw [hasBytes, ih, byteLength_cons, decide_eq_decide]
      omega

end Text

end RuleLexer
