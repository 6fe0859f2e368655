import RuleLexer.Log.Level
import RuleLexer.Source.Basic
import RuleLexer.Token

/-!
# What happens while scanning

Everything a lexer has to report about its work is an event. Events say what happened; how grave it
is and how it is put into words is told by `Event.level` and `Event.message`. Texts from the input
are quoted in messages, so that a message stays on one line; only the words of a failed read are
repeated as they are.
-/

namespace RuleLexer

/-- The sizes of the look-ahead: below how many bytes more input is asked for, and how many are
asked for at once. -/
structure BufferSizes where
  lowWaterMark : UInt64 := 1024
  chunkSize : UInt64 := 2048
  deriving DecidableEq, Repr

namespace BufferSizes

/-- The size of the read area. It is never empty, since a read through an empty area could bring
nothing. -/
def effectiveChunk (s : BufferSizes) : Nat := max s.chunkSize.toNat 1

/-- How many bytes are wanted in the buffer: at least one. -/
def mark (s : BufferSizes) : Nat := max s.lowWaterMark.toNat 1

end BufferSizes

/-- **What a lexer reports.** -/
inductive Event where
  | created (rules : Nat) (whitespace : Bool) (sizes : BufferSizes)
  /-- More input came while the rules were being tried. -/
  | grewWhileMatching
  /-- A match reached the end of the buffer, and there is more input. -/
  | matchGrew
  | unknownToken (literal : Text) (position : Position)
  | produced (token : Token)
  | skipped (literal : Text) (position : Position)
  | rulesReplaced (old new : Nat)
  | readFailed (position : Position) (fault : ReadFault)
  | exhausted
  | nothingYet
  | readBytes (read buffered : Nat)
  | invalidBytes (bytes : List UInt8) (position : Position)
  /-- The input ended inside a sequence. -/
  | incompleteBytes (bytes : List UInt8)
  deriving DecidableEq, Repr

namespace Event

/-- How grave an event is. -/
def level : Event → Log.Level
  | .created .. => .trace
  | .grewWhileMatching => .trace
  | .matchGrew => .trace
  | .unknownToken .. => .warn
  | .produced _ => .debug
  | .skipped .. => .debug
  | .rulesReplaced .. => .debug
  | .readFailed .. => .error
  | .exhausted => .trace
  | .nothingYet => .debug
  | .readBytes .. => .trace
  | .invalidBytes .. => .warn
  | .incompleteBytes _ => .warn

/-- A byte as two capital digits. -/
def byteText (b : UInt8) : Text :=
  let digits := (Nat.toDigits 16 b.toNat).map Char.toUpper
  List.replicate (2 - digits.length) '0' ++ digits

/-- Bytes in brackets, with commas between them. -/
def bytesText (bytes : List UInt8) : Text :=
  '[' :: List.intercalate ", ".toList (bytes.map byteText) ++ [']']

def boolText (b : Bool) : Text := if b then "true".toList else "false".toList

/-- An event in words. -/
def message : Event → Text
  | .created rules whitespace sizes =>
    "Creating lexer: ".toList ++ Text.ofNat rules ++ " rules, whitespace=".toList ++
      boolText whitespace ++ ", low_water_mark=".toList ++ Text.ofNat sizes.lowWaterMark.toNat ++
      ", chunk_size=".toList ++ Text.ofNat sizes.chunkSize.toNat
  | .grewWhileMatching => "Input arrived while matching, retrying from the first rule".toList
  | .matchGrew => "Match reached end of buffer, retrying with more input".toList
  | .unknownToken literal position =>
    "Unknown token at ".toList ++ position.display ++ ": ".toList ++ Quoted.encode literal
  | .produced token =>
    "Produced token: id=".toList ++ token.id.display ++ ", literal=".toList ++
      Quoted.encode token.literal ++ ", line=".toList ++ Text.ofNat token.position.line ++
      ", column=".toList ++ Text.ofNat token.position.column
  | .skipped literal position =>
    "Skipping ".toList ++ Quoted.encode literal ++ " at ".toList ++ position.display
  | .rulesReplaced old new =>
    "Replacing rules: ".toList ++ Text.ofNat old ++ " -> ".toList ++ Text.ofNat new
  | .readFailed position fault =>
    "Read failed at ".toList ++ position.display ++ ": ".toList ++ fault.message
  | .exhausted => "Source exhausted".toList
  | .nothingYet => "Source returned no data, not exhausted".toList
  | .readBytes read buffered =>
    "Read ".toList ++ Text.ofNat read ++ " bytes, ".toList ++ Text.ofNat buffered ++
      " buffered".toList
  | .invalidBytes bytes position =>
    "Invalid UTF-8 bytes ".toList ++ bytesText bytes ++ " near ".toList ++ position.display
  | .incompleteBytes bytes =>
    "Incomplete UTF-8 sequence at end of input: ".toList ++ bytesText bytes

end Event

end RuleLexer
