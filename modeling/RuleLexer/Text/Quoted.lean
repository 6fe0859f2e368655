import RuleLexer.Text.Category

/-!
# Quoted text

Messages show a text between double quotes on one line. Six characters have a short escape after a
backslash; a character without a shape of its own, or one that only modifies its neighbour, is
written as its code point in braces; every other character stands for itself.

The set of characters written as code points is a parameter of `Quoted.encodeWith`, so that what is
said about quoting does not depend on the tables behind `Quoted.hidden`.
-/

namespace RuleLexer.Quoted

/-- Characters that are written as code points: those that extend a grapheme, and those without a
visible shape. -/
def hidden (c : Char) : Bool :=
  if c.toNat < 0x7F then c.toNat < 0x20
  else Category.graphemeExtendSet.contains c || !Category.printableSet.contains c

/-- The short escape of a character, if it has one. -/
def shortEscape? : Char → Option Char
  | '\x00' => some '0'
  | '\t' => some 't'
  | '\r' => some 'r'
  | '\n' => some 'n'
  | '"' => some '"'
  | '\\' => some '\\'
  | _ => none

/-- One character inside quotes. -/
def encodeChar (hide : Char → Bool) (c : Char) : Text :=
  match shortEscape? c with
  | some e => ['\\', e]
  | none => if hide c then '\\' :: 'u' :: '\x7b' :: Text.hex c.toNat ++ ['\x7d'] else [c]

/-- A text in quotes, for a given choice of what is written as a code point. -/
def encodeWith (hide : Char → Bool) (t : Text) : Text :=
  '"' :: t.flatMap (encodeChar hide) ++ ['"']

/-- A text in quotes. -/
def encode (t : Text) : Text := encodeWith hidden t

end RuleLexer.Quoted
