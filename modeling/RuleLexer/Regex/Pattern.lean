import RuleLexer.Regex.Reader

/-!
# Patterns

The written form of regular expressions. A pattern is read one character at a time: `Reader.step?`
takes the state that the characters so far have led to and the next character, and gives the next
state, or nothing if no pattern starts like this. Because reading is a fold over the characters,
what a piece of a pattern means depends on what stands before it through the state alone.

In the extended notation, blanks and comments between the parts of an item are passed over; which
modes do so is told by `Mode.passesBlanks`.
-/

namespace RuleLexer.Regex

namespace Reader

/-! ### What an escape stands for -/

/-- Puts an escaped item where it belongs. -/
def place? (s : Reader) (site : EscapeSite) (part : ClassPart) : Option Reader :=
  match site, part with
  | .sequence, .char c => some (s.push (charItem s.flags c) 0)
  | .sequence, .set chars => some (s.push (.set chars) 0)
  | .inClass, part => some { s with mode := .classPart part }
  | .rangeStop start, part => s.addRange? start part

/-- A character given by its code point. Without Unicode, two digits mean a byte, which must be
ASCII. -/
def placeCode? (s : Reader) (site : EscapeSite) (two : Bool) (value : Nat) : Option Reader :=
  if h : value.isValidChar then
    if two && !s.flags.unicode && 0x7F < value then none
    else s.place? site (.char (Char.ofNatAux value h))
  else none

/-- The value of a digit in base sixteen. -/
def hexDigit? (c : Char) : Option Nat :=
  if '0' ≤ c ∧ c ≤ '9' then some (c.toNat - '0'.toNat)
  else if 'a' ≤ c ∧ c ≤ 'f' then some (c.toNat - 'a'.toNat + 10)
  else if 'A' ≤ c ∧ c ≤ 'F' then some (c.toNat - 'A'.toNat + 10)
  else none

/-- The number that digits stand for, if they are digits of the base and there are any. -/
def digitsValue? (base : Nat) (digits : Text) : Option Nat :=
  if digits.isEmpty then none
  else digits.foldlM (fun n c => (hexDigit? c).bind fun d =>
    if d < base then some (n * base + d) else none) 0

/-- Splits a text at the first place where the separator stands. -/
def splitAt? (separator : Text) : Text → Option (Text × Text)
  | [] => (Text.after? separator []).map ([], ·)
  | c :: t =>
    match Text.after? separator (c :: t) with
    | some rest => some ([], rest)
    | none => (splitAt? separator t).map fun (a, b) => (c :: a, b)

/-- The characters with a property. The name may be that of a property with a value behind an equals
sign, a colon, or a sign of inequality. -/
def propertySet? (name : Text) : Option CharSet :=
  match splitAt? "!=".toList name with
  | some (property, value) => (Category.propertyValue? property value).map CharSet.compl
  | none =>
    match splitAt? [':'] name with
    | some (property, value) => Category.propertyValue? property value
    | none =>
      match splitAt? ['='] name with
      | some (property, value) => Category.propertyValue? property value
      | none => Category.property? name

/-- Puts the characters with a property where they belong. -/
def placeProperty? (s : Reader) (site : EscapeSite) (negated : Bool) (name : Text) :
    Option Reader :=
  if !s.flags.unicode then none
  else (propertySet? name).bind fun set =>
    (s.flags.negate? negated (s.flags.fold set)).bind fun set => s.place? site (.set set)

/-- The characters that mean something in patterns and stand for themselves after a backslash. -/
def isMeta (c : Char) : Bool := "\\.+*?()|[]\x7b\x7d^$#&-~".toList.contains c

/-- Characters that stand for themselves after a backslash: of ASCII, all but letters, digits and
the two angles. -/
def isEscapable (c : Char) : Bool :=
  isMeta c || (c.toNat ≤ 0x7F && !c.isAlphanum && c ≠ '<' && c ≠ '>')

/-- The controls that have a letter. -/
def controlEscape? : Char → Option Char
  | 'a' => some '\x07'
  | 'f' => some '\x0c'
  | 't' => some '\t'
  | 'n' => some '\n'
  | 'r' => some '\r'
  | 'v' => some '\x0b'
  | _ => none

/-- The conditions that are written as an escape. -/
def lookEscape? (f : Flags) : Char → Option Look
  | 'A' => some .textStart
  | 'z' => some .textStop
  | 'B' => some (wordLook f .none)
  | '<' => some (wordLook f .start)
  | '>' => some (wordLook f .stop)
  | _ => none

/-- The word edge that goes by a name. -/
def wordEdge? (name : Text) : Option WordEdge :=
  match String.ofList name with
  | "start" => some .start
  | "end" => some .stop
  | "start-half" => some .startHalf
  | "end-half" => some .stopHalf
  | _ => none

/-! ### Steps, by mode -/

/-- A character between two items. -/
def plainStep? (s : Reader) (c : Char) : Option Reader :=
  if s.flags.extended && Category.isWhiteSpace c then some s
  else if s.flags.extended && c = '#' then some { s with comment := true }
  else match c with
    | '(' => some { s with mode := .groupStart }
    | ')' => s.closeGroup?
    | '|' => some s.endBranch
    | '[' => some s.openClass
    | '?' => s.startRepeated? 0 (some 1)
    | '*' => s.startRepeated? 0 none
    | '+' => s.startRepeated? 1 none
    | '\x7b' => s.takeItem?.map fun (r, d, s) => { s with mode := .least r d [] false }
    | '\\' => some { s with mode := .escape .sequence }
    | '.' => s.flags.dot?.map fun set => s.push (.set set) 0
    | '^' => some (s.lookItem (if s.flags.multiLine then .lineStart s.flags.crlf else .textStart))
    | '$' => some (s.lookItem (if s.flags.multiLine then .lineStop s.flags.crlf else .textStop))
    | c => some (s.push (charItem s.flags c) 0)

/-- The number that a count is written as, below `2^32`. -/
def count? (digits : Text) : Option Nat :=
  (digitsValue? 10 digits).bind fun n => if n < 0x100000000 then some n else none

def isDigit (c : Char) : Bool := '0' ≤ c && c ≤ '9'

/-- A character in the first number of a count. -/
def leastStep? (s : Reader) (body : Regex) (depth : Nat) (digits : Text) (ended : Bool) (c : Char) :
    Option Reader :=
  if isDigit c then
    if ended then none else some { s with mode := .least body depth (digits ++ [c]) false }
  else if Category.isWhiteSpace c then
    some { s with mode := .least body depth digits !digits.isEmpty }
  else match c with
    | ',' => (count? digits).map fun n => { s with mode := .most body depth n [] false false }
    | '\x7d' => (count? digits).map fun n => { s with mode := .repeated body depth n (some n) true }
    | _ => none

/-- A character in the second number of a count. -/
def mostStep? (s : Reader) (body : Regex) (depth least : Nat) (digits : Text) (spaced ended : Bool)
    (c : Char) : Option Reader :=
  if isDigit c then
    if ended then none
    else some { s with mode := .most body depth least (digits ++ [c]) spaced false }
  else if Category.isWhiteSpace c then
    some { s with mode := .most body depth least digits true !digits.isEmpty }
  else if c = '\x7d' then
    if digits.isEmpty then
      if spaced then none else some { s with mode := .repeated body depth least none true }
    else (count? digits).bind fun n =>
      if n < least then none else some { s with mode := .repeated body depth least (some n) true }
  else none

/-- A character in the name of a group. -/
def groupNameStep? (s : Reader) (name : Text) (c : Char) : Option Reader :=
  if c = '>' then
    if name.isEmpty || s.names.contains name then none
    else some { s.openCapture with names := name :: s.names }
  else
    let alphabetic := Category.alphabeticSet.contains c
    let allowed :=
      if name.isEmpty then c = '_' || alphabetic
      else c = '_' || c = '.' || c = '[' || c = ']' || alphabetic
        || (Category.unionOf Category.numbers).contains c
    if allowed then some { s with mode := .groupName (name ++ [c]) } else none

/-- A character in the flags of a group. -/
def groupFlagsStep? (s : Reader) (new : Flags) (seen : Text) (off dangling : Bool) (c : Char) :
    Option Reader :=
  match c with
  | ':' => if dangling then none else some (s.openGroup none new)
  | ')' =>
    if dangling || (seen.isEmpty && !off) then none
    else some { s with mode := .plain, flags := new, items := .flags :: s.items }
  | '-' => if off then none else some { s with mode := .groupFlags new seen true true }
  | c =>
    if seen.contains c then none
    else (new.set? c !off).map fun new =>
      { s with mode := .groupFlags new (c :: seen) off false }

/-- A character after a backslash. -/
def escapeStep? (s : Reader) (site : EscapeSite) (c : Char) : Option Reader :=
  match c with
  | 'x' => some { s with mode := .codePoint site 2 }
  | 'u' => some { s with mode := .codePoint site 4 }
  | 'U' => some { s with mode := .codePoint site 8 }
  | 'p' => some { s with mode := .property site false }
  | 'P' => some { s with mode := .property site true }
  | c =>
    if "dswDSW".toList.contains c then (s.flags.letterClass? c).bind fun k => s.place? site (.set k)
    else if isEscapable c then s.place? site (.char c)
    else match controlEscape? c with
      | some control => s.place? site (.char control)
      | none =>
        -- what is left are conditions, which have no place in a class
        if site ≠ .sequence then none
        else if c = 'b' then some { s with mode := .wordEdge }
        else (lookEscape? s.flags c).map s.lookItem

/-- The characters of the names of word edges. -/
def isEdgeNameChar (c : Char) : Bool := c.isAlpha || c = '-'

/-- A character after the brace that follows the sign for a word edge. If no name starts here, the
brace starts a count. -/
def wordEdgeBraceStep? (s : Reader) (c : Char) : Option Reader :=
  if isEdgeNameChar c then some { s with mode := .wordEdgeName [c] }
  else s.leastStep? (.look (wordLook s.flags .any)) 0 [] false c

def wordEdgeNameStep? (s : Reader) (name : Text) (c : Char) : Option Reader :=
  if isEdgeNameChar c then some { s with mode := .wordEdgeName (name ++ [c]) }
  else if c = '\x7d' then (wordEdge? name).map fun e => s.lookItem (wordLook s.flags e)
  else none

/-- A digit of a code point of fixed length. -/
def codePointDigitsStep? (s : Reader) (site : EscapeSite) (two : Bool) (left value : Nat)
    (c : Char) : Option Reader :=
  (hexDigit? c).bind fun d =>
    let value := value * 16 + d
    if left ≤ 1 then s.placeCode? site two value
    else some { s with mode := .codePointDigits site two (left - 1) value }

def codePointBraceStep? (s : Reader) (site : EscapeSite) (digits : Text) (c : Char) :
    Option Reader :=
  if c = '\x7d' then (digitsValue? 16 digits).bind (s.placeCode? site false)
  else (hexDigit? c).map fun _ => { s with mode := .codePointBrace site (digits ++ [c]) }

/-- A character where an item of a class may start. -/
def inClassStep? (s : Reader) (c : Char) : Option Reader :=
  match c with
  | '[' => some s.openClass
  | ']' => s.closeClass?
  | '\\' => some { s with mode := .escape .inClass }
  | c =>
    if c = '&' || c = '-' || c = '~' then some { s with mode := .classOp c }
    else some { s with mode := .classPart (.char c) }

/-- A character after an item of a class that may start a range. -/
def classPartStep? (s : Reader) (part : ClassPart) (c : Char) : Option Reader :=
  if c = '-' then some { s with mode := .classDash part false }
  else (s.addPart? .inClass part).bind (inClassStep? · c)

/-- A character after an item of a class and a dash. Before the closing bracket the dash stands for
itself, two dashes are a difference, and otherwise this is the end of a range. -/
def classDashStep? (s : Reader) (part : ClassPart) (spaced : Bool) (c : Char) : Option Reader :=
  match c with
  | ']' =>
    (s.addPart? .inClass part).bind fun s => (s.addPart? .inClass (.char '-')).bind closeClass?
  | '-' =>
    (s.addPart? .inClass part).bind fun s =>
      if spaced then some { s with mode := .classDash (.char '-') false }
      else s.startOperand? .diff
  | '\\' => some { s with mode := .escape (.rangeStop part) }
  | c => s.addRange? part (.char c)

/-- A character after one that would make an operation if it came twice. -/
def classOpStep? (s : Reader) (sign c : Char) : Option Reader :=
  if c = sign then
    s.startOperand? (if sign = '&' then .inter else if sign = '-' then .diff else .symmDiff)
  else if s.flags.extended && (Category.isWhiteSpace c) then
    some { s with mode := .classPart (.char sign) }
  else if s.flags.extended && c = '#' then
    some { s with mode := .classPart (.char sign), comment := true }
  else s.classPartStep? (.char sign) c

/-- A character after an opening bracket, once leading signs are read. A closing bracket in the
first place stands for itself. -/
def classFirstStep? (s : Reader) (first : Bool) (c : Char) : Option Reader :=
  if c = '-' then s.addToClass? .classDashes (.single '-')
  else if first && c = ']' then s.addToClass? .inClass (.single ']')
  else s.inClassStep? c

/-- One character, in the mode that the reader is in. -/
def modeStep? (s : Reader) (c : Char) : Option Reader :=
  match s.mode with
  | .plain => s.plainStep? c
  | .repeated body depth least most _ =>
    if c = '?' then some (s.pushRepeated body depth least most false)
    else (s.pushRepeated body depth least most true).plainStep? c
  | .least body depth digits ended => s.leastStep? body depth digits ended c
  | .most body depth least digits spaced ended => s.mostStep? body depth least digits spaced ended c
  | .groupStart =>
    if c = '?' then some { s with mode := .groupMark } else s.openCapture.plainStep? c
  | .groupMark =>
    match c with
    | 'P' => some { s with mode := .groupNameMark }
    | '<' => some { s with mode := .groupName [] }
    | c => s.groupFlagsStep? s.flags [] false false c
  | .groupNameMark => if c = '<' then some { s with mode := .groupName [] } else none
  | .groupName name => s.groupNameStep? name c
  | .groupFlags new seen off dangling => s.groupFlagsStep? new seen off dangling c
  | .escape site => s.escapeStep? site c
  | .wordEdge =>
    if c = '\x7b' then some { s with mode := .wordEdgeBrace }
    else (s.lookItem (wordLook s.flags .any)).plainStep? c
  | .wordEdgeBrace => s.wordEdgeBraceStep? c
  | .wordEdgeName name => s.wordEdgeNameStep? name c
  | .codePoint site digits =>
    if c = '\x7b' then some { s with mode := .codePointBrace site [] }
    else s.codePointDigitsStep? site (digits = 2) digits 0 c
  | .codePointDigits site two left value => s.codePointDigitsStep? site two left value c
  | .codePointBrace site digits => s.codePointBraceStep? site digits c
  | .property site negated =>
    if c = '\x7b' then some { s with mode := .propertyName site negated [] }
    else if c = '\\' then none
    else s.placeProperty? site negated [c]
  | .propertyName site negated name =>
    if c = '\x7d' then s.placeProperty? site negated name
    else some { s with mode := .propertyName site negated (name ++ [c]) }
  | .classStart =>
    if c = '^' then s.updateClass? .classNegated fun k => { k with negated := true }
    else s.classFirstStep? true c
  | .classNegated => s.classFirstStep? true c
  | .classDashes => s.classFirstStep? false c
  | .inClass => s.inClassStep? c
  | .classPart part => s.classPartStep? part c
  | .classDash part spaced => s.classDashStep? part spaced c
  | .classOp sign => s.classOpStep? sign c

/-- A blank after the dash of a range is remembered: two dashes with a blank between them are no
difference. -/
def passBlank (s : Reader) : Reader :=
  match s.mode with
  | .classDash part _ => { s with mode := .classDash part true }
  | _ => s

/-- Reads one character of a pattern, none if no pattern goes on like this. -/
def step? (s : Reader) (c : Char) : Option Reader :=
  let s := s.noteClassText c
  let passes := s.flags.extended && s.mode.passesBlanks
  if s.comment then some { s with comment := c ≠ '\n' }
  else if passes && Category.isWhiteSpace c then some s.passBlank
  else if passes && c = '#' then some { s with comment := true }
  else s.modeStep? c

/-- The expression that a pattern stands for, once all of it is read: nothing may be left open, and
the pattern may not be nested too deeply or grow too large. -/
def finish? (s : Reader) : Option Regex :=
  let closed := match s.mode with
    | .plain => some s
    | .repeated body depth least most _ => some (s.pushRepeated body depth least most true)
    | .wordEdge => some (s.lookItem (wordLook s.flags .any))
    | _ => none
  closed.bind fun s =>
    if !s.groups.isEmpty then none
    else
      let (r, depth) := s.body
      if maxDepth < depth || maxWeight < r.weight then none else some r

end Reader

/-- Reads a pattern, none if it is not one. -/
def parse? (pattern : Text) : Option Regex :=
  (pattern.foldlM Reader.step? {}).bind Reader.finish?

end RuleLexer.Regex
