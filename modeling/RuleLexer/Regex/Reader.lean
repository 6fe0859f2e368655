import RuleLexer.Regex.Basic
import RuleLexer.Regex.Flags

/-!
# The state of reading a pattern

What a reader of patterns knows after some characters. Three layers make up the state. The groups
that are open, with what has been read in each of them, form a stack. Inside brackets, the classes
that are open form a second stack. And the `Mode` says what kind of item is being read right now:
between items, after a backslash, in the digits of a count, and so on.

The operations of this module open and close groups and classes and put items where they belong;
which character leads to which of them is told in `RuleLexer.Regex.Pattern`.
-/

namespace RuleLexer.Regex

/-! ### The state of reading -/

/-- An item of a sequence: an expression with the depth of its written form, or a place where flags
were switched, which cannot be repeated. -/
inductive Item where
  | expr (r : Regex) (depth : Nat)
  | flags
  deriving DecidableEq, Repr

/-- A part of a class in brackets that may turn out to be the start of a range. -/
inductive ClassPart where
  | char (c : Char)
  | set (s : CharSet)
  deriving DecidableEq, Repr

/-- The operations between the operands of a class. -/
inductive ClassOp where
  | inter | diff | symmDiff
  deriving DecidableEq, Repr

/-- A class in brackets that is still open: what the operand being read holds so far, the operands
before it, and its text, newest character first. -/
structure OpenClass where
  negated : Bool
  operand : CharSet
  before : Option (CharSet × ClassOp)
  text : Text
  depth : Nat
  deriving DecidableEq, Repr

/-- Where an escaped item belongs: into the sequence, into a class, or after the dash of a range. -/
inductive EscapeSite where
  | sequence
  | inClass
  | rangeStop (start : ClassPart)
  deriving DecidableEq, Repr

/-- What is being read. -/
inductive Mode where
  /-- Between two items. -/
  | plain
  /-- After a repetition sign; a question mark would make it reluctant. -/
  | repeated (body : Regex) (depth least : Nat) (most : Option Nat) (blanks : Bool)
  /-- In the first number of a count. -/
  | least (body : Regex) (depth : Nat) (digits : Text) (ended : Bool)
  /-- In the second number of a count. -/
  | most (body : Regex) (depth least : Nat) (digits : Text) (spaced ended : Bool)
  /-- After the parenthesis that opens a group. -/
  | groupStart
  /-- After the question mark of a group. -/
  | groupMark
  /-- After the letter that announces a name. -/
  | groupNameMark
  /-- In the name of a group. -/
  | groupName (name : Text)
  /-- In the flags of a group. -/
  | groupFlags (new : Flags) (seen : Text) (off dangling : Bool)
  /-- After a backslash. -/
  | escape (site : EscapeSite)
  /-- After the sign for a word edge; a brace would tell which. -/
  | wordEdge
  /-- After the brace that follows the sign for a word edge. -/
  | wordEdgeBrace
  /-- In the name of a word edge. -/
  | wordEdgeName (name : Text)
  /-- After the sign for a code point, which has this many digits unless a brace follows. -/
  | codePoint (site : EscapeSite) (digits : Nat)
  /-- In the digits of a code point of fixed length. -/
  | codePointDigits (site : EscapeSite) (two : Bool) (left value : Nat)
  /-- In the digits of a code point in braces. -/
  | codePointBrace (site : EscapeSite) (digits : Text)
  /-- After the sign for a property. -/
  | property (site : EscapeSite) (negated : Bool)
  /-- In the name of a property. -/
  | propertyName (site : EscapeSite) (negated : Bool) (name : Text)
  /-- After an opening bracket. -/
  | classStart
  /-- After the sign that negates a class. -/
  | classNegated
  /-- After leading dashes. -/
  | classDashes
  /-- Between two items of a class. -/
  | inClass
  /-- After an item of a class that may start a range. -/
  | classPart (part : ClassPart)
  /-- After an item of a class and a dash, with blanks after the dash or not. -/
  | classDash (part : ClassPart) (spaced : Bool)
  /-- After the first of the two equal signs that make an operation. -/
  | classOp (sign : Char)
  deriving DecidableEq, Repr

/-- A group that is open, with what was read around it: the flags and the number to restore and
give, the branches and the items before it, newest first. -/
structure OpenGroup where
  index : Option Nat
  flags : Flags
  branches : List (Regex × Nat)
  items : List Item
  deriving DecidableEq, Repr

/-- The state of reading a pattern. -/
structure Reader where
  mode : Mode := .plain
  comment : Bool := false
  flags : Flags := {}
  branches : List (Regex × Nat) := []
  items : List Item := []
  groups : List OpenGroup := []
  classes : List OpenClass := []
  groupCount : Nat := 0
  names : List Text := []
  deriving DecidableEq, Repr

/-- Modes that pass over blanks and comments in the extended notation. -/
def Mode.passesBlanks : Mode → Bool
  | .plain => true
  | .repeated _ _ _ _ blanks => blanks
  | .least .. => true
  | .most .. => true
  | .groupStart => true
  | .wordEdgeBrace => true
  | .wordEdgeName _ => true
  | .codePoint .. => true
  | .codePointDigits .. => true
  | .codePointBrace .. => true
  | .property .. => true
  | .propertyName .. => true
  | .classStart => true
  | .classNegated => true
  | .classDashes => true
  | .inClass => true
  | .classPart _ => true
  | .classDash .. => true
  | _ => false

namespace Reader

/-! ### Sequences and groups -/

/-- The deepest nesting that a pattern may have. -/
def maxDepth : Nat := 250

/-- The largest size of a pattern once its repetitions are written out, by the estimate of
`Regex.weight`. It is the limit that the `regex` library has for the bytes of a compiled pattern, so
patterns that come near it may be told apart differently there. -/
def maxWeight : Nat := 0xA00000

/-- Puts an item behind those read so far. -/
def push (s : Reader) (r : Regex) (depth : Nat) : Reader :=
  { s with mode := .plain, items := .expr r depth :: s.items }

def Item.regex? : Item → Option Regex
  | .expr r _ => some r
  | .flags => none

def Item.depth : Item → Nat
  | .expr _ d => d
  | .flags => 0

/-- The sequence of the items read so far, given newest first. -/
def sequence (items : List Item) : Regex × Nat :=
  let deepest := items.foldl (fun d i => max d (Item.depth i)) 0
  (concat (items.reverse.filterMap Item.regex?), if 2 ≤ items.length then deepest + 1 else deepest)

/-- The alternative of the branches read so far, given newest first. -/
def alternative (branches : List (Regex × Nat)) : Regex × Nat :=
  let deepest := branches.foldl (fun d b => max d b.2) 0
  (alternation (branches.reverse.map Prod.fst),
    if 2 ≤ branches.length then deepest + 1 else deepest)

/-- What has been read in the innermost group. -/
def body (s : Reader) : Regex × Nat := alternative (sequence s.items :: s.branches)

/-- Ends a branch. -/
def endBranch (s : Reader) : Reader :=
  { s with mode := .plain, branches := sequence s.items :: s.branches, items := [] }

/-- Opens a group. -/
def openGroup (s : Reader) (index : Option Nat) (flags : Flags) : Reader :=
  { s with
    mode := .plain, flags := flags, branches := [], items := [],
    groups := ⟨index, s.flags, s.branches, s.items⟩ :: s.groups }

/-- Opens a group with the next number. -/
def openCapture (s : Reader) : Reader :=
  { s.openGroup (some (s.groupCount + 1)) s.flags with groupCount := s.groupCount + 1 }

/-- Closes the innermost group, which then is an item of the group around it. -/
def closeGroup? (s : Reader) : Option Reader :=
  match s.groups with
  | [] => none
  | g :: rest =>
    let (r, depth) := s.body
    let inner := match g.index with
      | some i => .group i r
      | none => r
    some { s with
      mode := .plain, flags := g.flags, branches := g.branches,
      items := .expr inner (depth + 1) :: g.items, groups := rest }

/-- The item that a repetition sign belongs to, and the state without it. -/
def takeItem? (s : Reader) : Option (Regex × Nat × Reader) :=
  match s.items with
  | .expr r d :: rest => some (r, d, { s with items := rest })
  | _ => none

/-- Puts a repetition behind the items read so far. -/
def pushRepeated (s : Reader) (body : Regex) (depth least : Nat) (most : Option Nat)
    (greedy : Bool) : Reader :=
  s.push (Regex.repeated least most (greedy != s.flags.swapGreed) body) (depth + 1)

/-- A repetition sign was read. -/
def startRepeated? (s : Reader) (least : Nat) (most : Option Nat) : Option Reader :=
  s.takeItem?.map fun (r, d, s) => { s with mode := .repeated r d least most false }

/-! ### Single items -/

/-- A character that stands for itself, or for all its cases. -/
def charItem (f : Flags) (c : Char) : Regex := .set (f.fold (.single c))

def lookItem (s : Reader) (l : Look) : Reader := s.push (.look l) 0

/-- The condition that a word edge is asked for. -/
def wordLook (f : Flags) (e : WordEdge) : Look := .word e !f.unicode

/-! ### Classes in brackets -/

/-- Changes the innermost open class. -/
def updateClass? (s : Reader) (mode : Mode) (f : OpenClass → OpenClass) : Option Reader :=
  match s.classes with
  | [] => none
  | k :: rest => some { s with mode := mode, classes := f k :: rest }

/-- Adds characters to the operand being read. -/
def addToClass? (s : Reader) (mode : Mode) (added : CharSet) : Option Reader :=
  s.updateClass? mode fun k => { k with operand := k.operand.union added }

/-- What a part of a class stands for. Without Unicode it must be ASCII. -/
def partSet? (f : Flags) : ClassPart → Option CharSet
  | .char c => if f.unicode || c.toNat ≤ 0x7F then some (.single c) else none
  | .set s => some s

def addPart? (s : Reader) (mode : Mode) (part : ClassPart) : Option Reader :=
  (partSet? s.flags part).bind (s.addToClass? mode)

/-- A range: both ends are characters, in order. -/
def addRange? (s : Reader) (start stop : ClassPart) : Option Reader :=
  match start, stop with
  | .char a, .char b =>
    if b.toNat < a.toNat then none
    else if !s.flags.unicode && 0x7F < b.toNat then none
    else s.addToClass? .inClass (.range a.toNat b.toNat)
  | _, _ => none

/-- Opens a class. -/
def openClass (s : Reader) : Reader :=
  { s with mode := .classStart, classes := ⟨false, .empty, none, [], 0⟩ :: s.classes }

/-- The operands read so far as one. -/
def combined (f : Flags) (k : OpenClass) : CharSet :=
  match k.before with
  | none => k.operand
  | some (left, op) =>
    let left := f.fold left
    let right := f.fold k.operand
    match op with
    | .inter => left.inter right
    | .diff => left.diff right
    | .symmDiff => left.symmDiff right

/-- An operation between two operands was read. -/
def startOperand? (s : Reader) (op : ClassOp) : Option Reader :=
  s.updateClass? .inClass fun k =>
    { k with operand := .empty, before := some (combined s.flags k, op) }

/-- The ASCII class that the text of a class names, if it is nothing but a name between colons,
given newest character first. -/
def namedClass? (f : Flags) (text : Text) : Option (Option CharSet) :=
  match text.reverse with
  | ':' :: '^' :: name =>
    match name.reverse with
    | ':' :: rest => (asciiClass? rest.reverse).map fun s => f.negate? true (f.fold s)
    | _ => none
  | ':' :: name =>
    match name.reverse with
    | ':' :: rest => (asciiClass? rest.reverse).map fun s => some (f.fold s)
    | _ => none
  | _ => none

/-- The set of a class that is complete. -/
def classSet? (f : Flags) (k : OpenClass) : Option CharSet :=
  f.negate? k.negated (f.fold (combined f k))

/-- Closes the innermost class, which is an item of the class around it, or of the sequence. -/
def closeClass? (s : Reader) : Option Reader :=
  match s.classes with
  | [] => none
  | [k] =>
    (classSet? s.flags k).map fun set => { s with classes := [] }.push (.set set) (k.depth + 1)
  | k :: outer :: rest =>
    -- the newest character is the bracket that closes the class
    let set := match namedClass? s.flags k.text.tail with
      | some named => named
      | none => classSet? s.flags k
    set.map fun set =>
      { s with
        mode := .inClass,
        classes := { outer with
          operand := outer.operand.union set, depth := max outer.depth (k.depth + 1) } :: rest }

/-- Remembers a character of the text of every open class. -/
def noteClassText (s : Reader) (c : Char) : Reader :=
  { s with classes := s.classes.map fun k => { k with text := c :: k.text } }

end Reader

end RuleLexer.Regex
