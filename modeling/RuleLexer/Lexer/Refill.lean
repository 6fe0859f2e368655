import RuleLexer.Lexer.Basic

/-!
# Getting more input

One read asks the source once, decodes what it gave and appends the text to the buffer. Before
anything is matched, the buffer is topped up: reads are made until it holds as many bytes as wanted
or a read brings nothing.
-/

namespace RuleLexer.Lexer

variable {σ ρ : Type}

/-- The first bytes of the read area, of which only some were ever written. -/
def areaBytes (area : List UInt8) (n : Nat) : List UInt8 :=
  area.take n ++ List.replicate (n - area.length) 0

/-- The read area after a write to its front, which cannot go beyond its size. -/
def overwrite (area written : List UInt8) (size : Nat) : List UInt8 :=
  written.take size ++ area.drop (written.take size).length

/-- Appends decoded pieces to the buffer and reports those that were no characters. -/
def append (l : Lexer σ ρ) (pieces : List Utf8.Piece) : Lexer σ ρ :=
  let faults := pieces.filterMap fun
    | .char _ => none
    | .invalid bytes => some (Event.invalidBytes bytes l.cursor)
  { l with buffer := l.buffer ++ Utf8.text pieces, journal := faults.reverse ++ l.journal }

/-- The end of the input inside a character. -/
def flushPending (l : Lexer σ ρ) : Lexer σ ρ :=
  if l.pending.isEmpty then l
  else { l.note (.incompleteBytes l.pending.bytes) with
    buffer := l.buffer ++ [Utf8.replacement], pending := .none }

/-- Decodes new bytes behind those that were waiting; at the end of the input nothing is left
waiting. -/
def decode (l : Lexer σ ρ) (bytes : List UInt8) : Lexer σ ρ :=
  let (pieces, pending) := Utf8.decode l.pending bytes
  let l := { l.append pieces with pending := pending }
  if l.exhausted then l.flushPending else l

/-- Takes over what a read has brought. -/
def accept (l : Lexer σ ρ) (status : ReadStatus) : Except LexError Nat × Lexer σ ρ :=
  let read := min status.read l.sizes.effectiveChunk
  let l :=
    if status.exhausted then { l.note .exhausted with exhausted := true }
    else if read = 0 then l.note .nothingYet
    else l
  let filled := l.decode (areaBytes l.area read)
  let filled :=
    if l.buffer.length < filled.buffer.length then { filled with generation := l.generation + 1 }
    else filled
  (.ok read, filled.note (.readBytes read filled.buffer.byteLength))

/-- One read: gives the number of bytes that it brought. An exhausted source is not asked again; a
failed read changes nothing but the source and its read area. -/
def fill [ByteSource σ] (l : Lexer σ ρ) : Except LexError Nat × Lexer σ ρ :=
  if l.exhausted then (.ok 0, l)
  else
    let (reply, source) := ByteSource.readChunk l.source l.sizes.effectiveChunk
    let l := { l with source, area := overwrite l.area reply.written l.sizes.effectiveChunk }
    match reply.outcome with
    | .error fault => (.error (.read l.cursor fault), l.note (.readFailed l.cursor fault))
    | .ok status => l.accept status

/-- Makes reads until the buffer holds so many bytes or a read brings nothing, in so many rounds at
most. -/
def topUp [ByteSource σ] (mark : Nat) : Nat → LexM σ ρ Unit
  | 0 => LexM.outOfRounds
  | n + 1 => do
    if !(← get).buffer.hasBytes mark then
      if (← LexM.ofFunction fill) ≠ 0 then topUp mark n

/-- Tops the buffer up. Every read but the last brings at least one byte, and no more than three of
them can be waiting to become a character, which bounds the rounds. -/
def ensureBuffered [ByteSource σ] : LexM σ ρ Unit := do
  let mark := (← get).sizes.mark
  topUp mark (mark + 4)

end RuleLexer.Lexer
