import RuleLexer.Text.CharSet
import RuleLexer.Text.Category.Letter
import RuleLexer.Text.Category.Mark
import RuleLexer.Text.Category.Number
import RuleLexer.Text.Category.Punctuation
import RuleLexer.Text.Category.Symbol

/-!
# General categories

Every character has one general category. This module names the categories, gives the characters
of each, builds from them the classes that patterns and quoting speak of (word characters, decimal
digits, white space, printable characters), and finds a category by the names it goes by.

Names are compared loosely: case, spaces, hyphens, underscores and a leading `is` do not count.
-/

namespace RuleLexer

/-- General category of a character. -/
inductive Category where
  | uppercaseLetter | lowercaseLetter | titlecaseLetter | modifierLetter | otherLetter
  | nonspacingMark | spacingMark | enclosingMark
  | decimalNumber | letterNumber | otherNumber
  | connectorPunctuation | dashPunctuation | openPunctuation | closePunctuation
  | initialPunctuation | finalPunctuation | otherPunctuation
  | mathSymbol | currencySymbol | modifierSymbol | otherSymbol
  | spaceSeparator | lineSeparator | paragraphSeparator
  | control | format | surrogate | privateUse | unassigned
  deriving DecidableEq, Repr

namespace Category

/-- The categories that some character of the table has, one list entry each. -/
def tables : List (Category × List (Nat × Nat)) :=
  [(.uppercaseLetter, Table.uppercaseLetter), (.lowercaseLetter, Table.lowercaseLetter),
   (.titlecaseLetter, Table.titlecaseLetter), (.modifierLetter, Table.modifierLetter),
   (.otherLetter, Table.otherLetter), (.nonspacingMark, Table.nonspacingMark),
   (.spacingMark, Table.spacingMark), (.enclosingMark, Table.enclosingMark),
   (.decimalNumber, Table.decimalNumber), (.letterNumber, Table.letterNumber),
   (.otherNumber, Table.otherNumber), (.connectorPunctuation, Table.connectorPunctuation),
   (.dashPunctuation, Table.dashPunctuation), (.openPunctuation, Table.openPunctuation),
   (.closePunctuation, Table.closePunctuation), (.initialPunctuation, Table.initialPunctuation),
   (.finalPunctuation, Table.finalPunctuation), (.otherPunctuation, Table.otherPunctuation),
   (.mathSymbol, Table.mathSymbol), (.currencySymbol, Table.currencySymbol),
   (.modifierSymbol, Table.modifierSymbol), (.otherSymbol, Table.otherSymbol),
   (.spaceSeparator, Table.spaceSeparator), (.lineSeparator, Table.lineSeparator),
   (.paragraphSeparator, Table.paragraphSeparator), (.control, Table.control),
   (.format, Table.format), (.privateUse, Table.privateUse)]

/-- The union of several tables. -/
def unionOf (cats : List Category) : CharSet :=
  CharSet.unions ((tables.filter fun e => cats.contains e.1).map fun e => ⟨e.2⟩)

/-- Assigned characters: those that have a table entry. -/
def assigned : CharSet := CharSet.unions (tables.map fun e => ⟨e.2⟩)

/-- The characters of a category. No character is a surrogate; unassigned is what no table lists. -/
def chars : Category → CharSet
  | .surrogate => .empty
  | .unassigned => assigned.compl.diff (.range 0xD800 0xDFFF)
  | c => unionOf [c]

/-! ### Classes built from the categories -/

def letters : List Category :=
  [.uppercaseLetter, .lowercaseLetter, .titlecaseLetter, .modifierLetter, .otherLetter]

def marks : List Category := [.nonspacingMark, .spacingMark, .enclosingMark]

def numbers : List Category := [.decimalNumber, .letterNumber, .otherNumber]

def punctuations : List Category :=
  [.connectorPunctuation, .dashPunctuation, .openPunctuation, .closePunctuation,
   .initialPunctuation, .finalPunctuation, .otherPunctuation]

def symbols : List Category := [.mathSymbol, .currencySymbol, .modifierSymbol, .otherSymbol]

def separators : List Category := [.spaceSeparator, .lineSeparator, .paragraphSeparator]

/-- Decimal digits of every script. -/
def digitSet : CharSet := unionOf [.decimalNumber]

/-- White space. -/
def spaceSet : CharSet := ⟨Table.whiteSpace⟩

/-- Alphabetic characters: letters, letter numbers and the further ones. -/
def alphabeticSet : CharSet := (unionOf (.letterNumber :: letters)).union ⟨Table.otherAlphabetic⟩

/-- Word characters: alphabetic characters, marks, decimal digits, connectors and the two
joiners. -/
def wordSet : CharSet :=
  (alphabeticSet.union (unionOf (.decimalNumber :: .connectorPunctuation :: marks))).insert
    0x200C 0x200D

/-- Grapheme extenders, the characters that only continue the one before. -/
def graphemeExtendSet : CharSet :=
  (unionOf [.nonspacingMark, .enclosingMark]).union ⟨Table.otherGraphemeExtend⟩

/-- Characters with a visible shape: assigned, and neither a control, a format character, of private
use, nor a separator other than the plain space. -/
def printableSet : CharSet :=
  (assigned.diff (unionOf (.control :: .format :: .privateUse :: separators))).insert 0x20 0x20

/-- White space, as a test. -/
def isWhiteSpace (c : Char) : Bool := spaceSet.contains c

/-! ### Names -/

/-- Loose form of a name: small letters, without spaces, hyphens, underscores and a leading `is`. -/
def looseName (name : Text) : Text :=
  let kept := (name.filter fun c => c ≠ ' ' && c ≠ '-' && c ≠ '_').map Char.toLower
  match kept with
  | 'i' :: 's' :: rest => if rest = ['c'] then kept else rest
  | _ => kept

/-- The names of the single categories, in loose form. -/
def names : List (List String × Category) :=
  [(["lu", "uppercaseletter"], .uppercaseLetter), (["ll", "lowercaseletter"], .lowercaseLetter),
   (["lt", "titlecaseletter"], .titlecaseLetter), (["lm", "modifierletter"], .modifierLetter),
   (["lo", "otherletter"], .otherLetter), (["mn", "nonspacingmark"], .nonspacingMark),
   (["mc", "spacingmark"], .spacingMark), (["me", "enclosingmark"], .enclosingMark),
   (["nd", "decimalnumber", "digit"], .decimalNumber), (["nl", "letternumber"], .letterNumber),
   (["no", "othernumber"], .otherNumber),
   (["pc", "connectorpunctuation"], .connectorPunctuation),
   (["pd", "dashpunctuation"], .dashPunctuation), (["ps", "openpunctuation"], .openPunctuation),
   (["pe", "closepunctuation"], .closePunctuation),
   (["pi", "initialpunctuation"], .initialPunctuation),
   (["pf", "finalpunctuation"], .finalPunctuation),
   (["po", "otherpunctuation"], .otherPunctuation), (["sm", "mathsymbol"], .mathSymbol),
   (["sc", "currencysymbol"], .currencySymbol), (["sk", "modifiersymbol"], .modifierSymbol),
   (["so", "othersymbol"], .otherSymbol), (["zs", "spaceseparator"], .spaceSeparator),
   (["zl", "lineseparator"], .lineSeparator),
   (["zp", "paragraphseparator"], .paragraphSeparator), (["cc", "control", "cntrl"], .control),
   (["cf", "format"], .format), (["cs", "surrogate"], .surrogate),
   (["co", "privateuse"], .privateUse), (["cn", "unassigned"], .unassigned)]

/-- The names of groups of categories, in loose form. -/
def groupNames : List (List String × List Category) :=
  [(["l", "letter"], letters),
   (["lc", "casedletter"], [.uppercaseLetter, .lowercaseLetter, .titlecaseLetter]),
   (["m", "mark", "combiningmark"], marks), (["n", "number"], numbers),
   (["p", "punctuation", "punct"], punctuations), (["s", "symbol"], symbols),
   (["z", "separator"], separators)]

/-- A category, or group of categories, by name. -/
def byName? (name : Text) : Option CharSet :=
  let key := String.ofList (looseName name)
  if key = "any" then some .all
  else if key = "assigned" then some assigned
  else if key = "ascii" then some (.range 0 0x7F)
  else if key = "c" ∨ key = "other" then
    some (assigned.compl.union (unionOf [.control, .format, .privateUse]))
  else match groupNames.find? fun e => e.1.contains key with
    | some e => some (unionOf e.2)
    | none => (names.find? fun e => e.1.contains key).map fun e => e.2.chars

/-- A property by name: a category, or one of the properties that cut across them. A property with a
value is a category named as such. -/
def property? (name : Text) : Option CharSet :=
  let key := String.ofList (looseName name)
  if key = "alphabetic" ∨ key = "alpha" then some alphabeticSet
  else if key = "whitespace" ∨ key = "wspace" ∨ key = "space" then some spaceSet
  else byName? name

/-- A category by property and value, as in `gc=Lu`. -/
def propertyValue? (property value : Text) : Option CharSet :=
  let key := String.ofList (looseName property)
  if key = "gc" ∨ key = "generalcategory" then byName? value else none

end Category

end RuleLexer
