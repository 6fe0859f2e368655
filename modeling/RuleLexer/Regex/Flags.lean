import RuleLexer.Text.CaseFold
import RuleLexer.Text.Category

/-!
# Flags of patterns

Letters in front of a group change how what follows is read: whether case counts, what the dot and
the line anchors mean, whether classes hold all characters or ASCII only. This module holds the
flags and the classes whose meaning hangs on them.

Without Unicode, a pattern speaks of bytes. Text consists of characters, so a class that would hold
bytes beyond ASCII is refused.
-/

namespace RuleLexer.Regex

/-- What the letters in front of a group switch. -/
structure Flags where
  ignoreCase : Bool := false
  multiLine : Bool := false
  dotAll : Bool := false
  swapGreed : Bool := false
  unicode : Bool := true
  crlf : Bool := false
  extended : Bool := false
  deriving DecidableEq, Repr

namespace Flags

/-- Sets the flag that a letter stands for. -/
def set? (f : Flags) (letter : Char) (value : Bool) : Option Flags :=
  match letter with
  | 'i' => some { f with ignoreCase := value }
  | 'm' => some { f with multiLine := value }
  | 's' => some { f with dotAll := value }
  | 'U' => some { f with swapGreed := value }
  | 'u' => some { f with unicode := value }
  | 'R' => some { f with crlf := value }
  | 'x' => some { f with extended := value }
  | _ => none

/-- A set together with the other cases of its letters, if case does not count. -/
def fold (f : Flags) (s : CharSet) : CharSet :=
  if f.ignoreCase then
    CaseFold.close (if f.unicode then CaseFold.pairs else CaseFold.asciiPairs) s
  else s

/-- The complement, if asked for. Without Unicode, a complement would hold bytes that are no
character, so there is none. -/
def negate? (f : Flags) (negated : Bool) (s : CharSet) : Option CharSet :=
  if !negated then some s else if f.unicode then some s.compl else none

/-- The characters that the dot stands for. -/
def dot? (f : Flags) : Option CharSet :=
  if !f.unicode then none
  else if f.dotAll then some .all
  else if f.crlf then some (CharSet.compl ⟨[(0x0A, 0x0A), (0x0D, 0x0D)]⟩)
  else some (CharSet.compl ⟨[(0x0A, 0x0A)]⟩)

/-- The character classes with a letter of their own; a capital letter stands for the complement. -/
def letterClass? (f : Flags) (letter : Char) : Option CharSet :=
  match letter with
  | 'd' => some (if f.unicode then Category.digitSet else ⟨[(0x30, 0x39)]⟩)
  | 's' => some (if f.unicode then Category.spaceSet else ⟨[(0x09, 0x0D), (0x20, 0x20)]⟩)
  | 'w' =>
    some (if f.unicode then Category.wordSet
      else ⟨[(0x30, 0x39), (0x41, 0x5A), (0x5F, 0x5F), (0x61, 0x7A)]⟩)
  | 'D' => f.negate? true (if f.unicode then Category.digitSet else .empty)
  | 'S' => f.negate? true (if f.unicode then Category.spaceSet else .empty)
  | 'W' => f.negate? true (if f.unicode then Category.wordSet else .empty)
  | _ => none

end Flags

/-- The ASCII classes that are written between colons. -/
def asciiClass? (name : Text) : Option CharSet :=
  match String.ofList name with
  | "alnum" => some ⟨[(0x30, 0x39), (0x41, 0x5A), (0x61, 0x7A)]⟩
  | "alpha" => some ⟨[(0x41, 0x5A), (0x61, 0x7A)]⟩
  | "ascii" => some ⟨[(0x00, 0x7F)]⟩
  | "blank" => some ⟨[(0x09, 0x09), (0x20, 0x20)]⟩
  | "cntrl" => some ⟨[(0x00, 0x1F), (0x7F, 0x7F)]⟩
  | "digit" => some ⟨[(0x30, 0x39)]⟩
  | "graph" => some ⟨[(0x21, 0x7E)]⟩
  | "lower" => some ⟨[(0x61, 0x7A)]⟩
  | "print" => some ⟨[(0x20, 0x7E)]⟩
  | "punct" => some ⟨[(0x21, 0x2F), (0x3A, 0x40), (0x5B, 0x60), (0x7B, 0x7E)]⟩
  | "space" => some ⟨[(0x09, 0x0D), (0x20, 0x20)]⟩
  | "upper" => some ⟨[(0x41, 0x5A)]⟩
  | "word" => some ⟨[(0x30, 0x39), (0x41, 0x5A), (0x5F, 0x5F), (0x61, 0x7A)]⟩
  | "xdigit" => some ⟨[(0x30, 0x39), (0x41, 0x46), (0x61, 0x66)]⟩
  | _ => none

end RuleLexer.Regex
