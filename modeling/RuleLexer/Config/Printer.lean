import RuleLexer.Config.Basic

/-!
# Writing configurations

A configuration is written as a JSON document with one member or element per line, indented by two
spaces per level. All members are written, the sizes first and a rule's kind in front; an empty list
takes no line of its own.
-/

namespace RuleLexer.Config.Printer

/-- One character inside a JSON string. Quotes, backslashes and controls are escaped, everything
else stands for itself. -/
def stringChar (c : Char) : Text :=
  if c = '"' then "\\\"".toList
  else if c = '\\' then "\\\\".toList
  else if c = '\x08' then "\\b".toList
  else if c = '\x0c' then "\\f".toList
  else if c = '\n' then "\\n".toList
  else if c = '\r' then "\\r".toList
  else if c = '\t' then "\\t".toList
  else if c.toNat < 0x20 then
    "\\u00".toList ++ (if c.toNat < 0x10 then ['0'] else []) ++ Text.hex c.toNat
  else [c]

/-- A JSON string. -/
def string (t : Text) : Text := '"' :: t.flatMap stringChar ++ ['"']

/-- A line break and the indentation of a level. -/
def newLine (level : Nat) : Text := '\n' :: List.replicate (2 * level) ' '

/-- A list of parts between brackets, one part per line. -/
def block (opening closing : Char) (level : Nat) (parts : List Text) : Text :=
  match parts with
  | [] => [opening, closing]
  | part :: parts =>
    opening :: newLine (level + 1) ++ part ++
      parts.flatMap (fun p => ',' :: newLine (level + 1) ++ p) ++ newLine level ++ [closing]

def array (level : Nat) (parts : List Text) : Text := block '[' ']' level parts

/-- An object, given its keys and written values. -/
def object (level : Nat) (members : List (Text × Text)) : Text :=
  block '\x7b' '\x7d' level (members.map fun m => string m.1 ++ ": ".toList ++ m.2)

def null : Text := "null".toList

/-- The description of a rule. -/
def spec (level : Nat) : RuleSpec → Text
  | .literals id alternatives =>
    object level
      [("kind".toList, string "pattern".toList), ("id".toList, Text.ofInt id.val.toInt),
       ("patterns".toList, array (level + 1) (alternatives.map string))]
  | .pattern id pattern =>
    object level
      [("kind".toList, string "regex".toList), ("id".toList, Text.ofInt id.val.toInt),
       ("pattern".toList, string pattern)]

/-- The sizes of the look-ahead. -/
def bufferSizes (level : Nat) (s : BufferSizes) : Text :=
  object level
    [("low_water_mark".toList, Text.ofNat s.lowWaterMark.toNat),
     ("chunk_size".toList, Text.ofNat s.chunkSize.toNat)]

/-- The description of a rule set. -/
def ruleSetSpec (level : Nat) (s : RuleSetSpec) : Text :=
  object level
    [("whitespace".toList, (s.whitespace.map (spec (level + 1))).getD null),
     ("rules".toList, array (level + 1) (s.rules.map (spec (level + 2))))]

end RuleLexer.Config.Printer

namespace RuleLexer.Config

/-- Writes a configuration as a document. -/
def toJson (c : Config) : Text :=
  Printer.object 0
    [("buffer".toList, Printer.bufferSizes 1 c.buffer),
     ("rules".toList, (c.rules.map (Printer.ruleSetSpec 1)).getD Printer.null)]

end RuleLexer.Config
