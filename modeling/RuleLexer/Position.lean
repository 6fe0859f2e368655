import RuleLexer.Text.Basic

/-!
# Positions

A position counts the lines, the characters of the current line and the bytes that lie before it.
All three start at zero; people are shown line and column starting at one.
-/

namespace RuleLexer

/-- **A place in the input**: complete lines before it, characters since the last line break, bytes
since the start. -/
structure Position where
  line : Nat
  column : Nat
  offset : Nat
  deriving DecidableEq, Repr

namespace Position

/-- The start of the input. -/
def start : Position := ⟨0, 0, 0⟩

/-- The position after one character. Only the line feed ends a line. -/
def advance (p : Position) (c : Char) : Position :=
  if c = '\n' then ⟨p.line + 1, 0, p.offset + c.utf8Size⟩
  else ⟨p.line, p.column + 1, p.offset + c.utf8Size⟩

/-- The position after a text. -/
def advanced (p : Position) (t : Text) : Position := t.foldl advance p

/-- How people are told a position: line and column, both counted from one. -/
def display (p : Position) : Text :=
  Text.ofNat (p.line + 1) ++ ':' :: Text.ofNat (p.column + 1)

@[simp] theorem advanced_nil (p : Position) : p.advanced [] = p := rfl

@[simp] theorem advanced_cons (p : Position) (c : Char) (t : Text) :
    p.advanced (c :: t) = (p.advance c).advanced t := rfl

@[simp] theorem advanced_append (p : Position) (s t : Text) :
    p.advanced (s ++ t) = (p.advanced s).advanced t := by
  simp [advanced]

theorem offset_advanced (p : Position) (t : Text) :
    (p.advanced t).offset = p.offset + t.byteLength := by
  induction t generalizing p with
  | nil => rfl
  | cons c t ih =>
    rw [advanced_cons, ih, Text.byteLength_cons, advance]
    split <;> simp [Nat.add_assoc]

end Position

end RuleLexer
