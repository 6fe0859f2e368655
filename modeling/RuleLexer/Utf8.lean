import RuleLexer.Text.Basic

/-!
# Decoding bytes

Bytes are decoded one at a time. Between two bytes the decoder holds the start of a sequence that is
not complete yet (`Partial`). A byte that cannot continue it ends it: the bytes held so far are
reported as one invalid piece, and the byte is looked at again as the start of a new sequence.
Since decoding is a fold over the bytes, it does not matter how they are cut into reads.

`Utf8.lossy` is the same rule for a whole byte string at once, without a decoder that could be
interrupted: every character stands for itself, and the longest start of a sequence that goes wrong
becomes one replacement character.
-/

namespace RuleLexer.Utf8

/-- The character that stands for bytes that are no character. -/
def replacement : Char := '\uFFFD'

/-- **A sequence that is not complete**: its bytes, how many are missing, the bounds of the next one
and the bits read so far. No bytes means that no sequence is open. -/
structure Partial where
  bytes : List UInt8
  missing : Nat
  low : Nat
  high : Nat
  bits : Nat
  deriving DecidableEq, Repr

namespace Partial

/-- No sequence is open. -/
def none : Partial := ⟨[], 0, 0, 0, 0⟩

def isEmpty (p : Partial) : Bool := p.bytes.isEmpty

end Partial

/-- A decoded piece: a character, or bytes that are none. -/
inductive Piece where
  | char (c : Char)
  | invalid (bytes : List UInt8)
  deriving DecidableEq, Repr

/-- What a piece is in the text. -/
def Piece.toChar : Piece → Char
  | .char c => c
  | .invalid _ => replacement

/-- The text of some pieces. -/
def text (pieces : List Piece) : Text := pieces.map Piece.toChar

/-- How a first byte goes on: the number of bytes to come, the bounds of the first of them, and the
bits of the byte itself; none for a byte that starts no sequence of several bytes. The bounds keep
out overlong forms, surrogates and what lies beyond the last code point. -/
def lead? (b : Nat) : Option (Nat × Nat × Nat × Nat) :=
  if 0xC2 ≤ b ∧ b ≤ 0xDF then some (1, 0x80, 0xBF, b - 0xC0)
  else if b = 0xE0 then some (2, 0xA0, 0xBF, 0)
  else if b = 0xED then some (2, 0x80, 0x9F, 0xD)
  else if 0xE1 ≤ b ∧ b ≤ 0xEF then some (2, 0x80, 0xBF, b - 0xE0)
  else if b = 0xF0 then some (3, 0x90, 0xBF, 0)
  else if 0xF1 ≤ b ∧ b ≤ 0xF3 then some (3, 0x80, 0xBF, b - 0xF0)
  else if b = 0xF4 then some (3, 0x80, 0x8F, 4)
  else none

/-- A byte where a sequence starts. -/
def start (b : UInt8) : List Piece × Partial :=
  if b.toNat < 0x80 then ([.char (Char.ofNat b.toNat)], .none)
  else
    match lead? b.toNat with
    | some (missing, low, high, bits) => ([], ⟨[b], missing, low, high, bits⟩)
    | none => ([.invalid [b]], .none)

/-- One byte, after what is held. -/
def push (p : Partial) (b : UInt8) : List Piece × Partial :=
  if p.isEmpty then start b
  else if p.low ≤ b.toNat ∧ b.toNat ≤ p.high then
    let bits := p.bits * 64 + (b.toNat - 0x80)
    if p.missing ≤ 1 then ([.char (Char.ofNat bits)], .none)
    else ([], ⟨p.bytes ++ [b], p.missing - 1, 0x80, 0xBF, bits⟩)
  else
    let (pieces, q) := start b
    (.invalid p.bytes :: pieces, q)

/-- Several bytes, after what is held: the pieces that are complete, and what is held now. -/
def decode (p : Partial) : List UInt8 → List Piece × Partial
  | [] => ([], p)
  | b :: bs =>
    let (pieces, q) := push p b
    let (more, r) := decode q bs
    (pieces ++ more, r)

/-- What is held when no more bytes come: one invalid piece. -/
def finish (p : Partial) : List Piece :=
  if p.isEmpty then [] else [.invalid p.bytes]

/-! ### A whole byte string -/

/-- How many of the bytes continue a sequence, at most so many and the first within bounds, with
the bits they add. -/
def continuation : (missing low high bits : Nat) → List UInt8 → Nat × Nat
  | 0, _, _, bits, _ => (0, bits)
  | _ + 1, _, _, bits, [] => (0, bits)
  | n + 1, low, high, bits, b :: bs =>
    if low ≤ b.toNat ∧ b.toNat ≤ high then
      let (k, bits) := continuation n 0x80 0xBF (bits * 64 + (b.toNat - 0x80)) bs
      (k + 1, bits)
    else (0, bits)

/-- The first character of a byte string, none if it starts with bytes that are no character, and
the number of bytes after the first that belong to it. -/
def firstChar? (b : UInt8) (bs : List UInt8) : Option Char × Nat :=
  if b.toNat < 0x80 then (some (Char.ofNat b.toNat), 0)
  else
    match lead? b.toNat with
    | none => (none, 0)
    | some (missing, low, high, bits) =>
      let (k, value) := continuation missing low high bits bs
      (if k = missing then some (Char.ofNat value) else none, k)

/-- The same with a replacement character where there is none. -/
def firstChar (b : UInt8) (bs : List UInt8) : Char × Nat :=
  ((firstChar? b bs).1.getD replacement, (firstChar? b bs).2)

/-- The text of a byte string. The number of bytes to pass over before the next character starts is
counted down. -/
def lossyAfter : Nat → List UInt8 → Text
  | _, [] => []
  | skip + 1, _ :: bs => lossyAfter skip bs
  | 0, b :: bs => (firstChar b bs).1 :: lossyAfter (firstChar b bs).2 bs

/-- The text of a byte string, each longest start of a sequence that goes wrong becoming one
replacement character. -/
def lossy (bytes : List UInt8) : Text := lossyAfter 0 bytes

/-! ### Encoding -/

/-- The bytes of a character. -/
def encodeChar (c : Char) : List UInt8 :=
  let n := c.toNat
  if n < 0x80 then [n.toUInt8]
  else if n < 0x800 then [(0xC0 + n / 64).toUInt8, (0x80 + n % 64).toUInt8]
  else if n < 0x10000 then
    [(0xE0 + n / 4096).toUInt8, (0x80 + n / 64 % 64).toUInt8, (0x80 + n % 64).toUInt8]
  else
    [(0xF0 + n / 262144).toUInt8, (0x80 + n / 4096 % 64).toUInt8, (0x80 + n / 64 % 64).toUInt8,
      (0x80 + n % 64).toUInt8]

/-- The bytes of a text. -/
def encode (t : Text) : List UInt8 := t.flatMap encodeChar

/-- The text of a byte string that is valid, none if some of it is no character. -/
def decode? (bytes : List UInt8) : Option Text :=
  let (pieces, p) := decode .none bytes
  if p.isEmpty then
    pieces.mapM fun
      | .char c => some c
      | .invalid _ => none
  else none

/-! ### Cutting does not matter -/

theorem decode_append (p : Partial) (as bs : List UInt8) :
    decode p (as ++ bs) =
      ((decode p as).1 ++ (decode (decode p as).2 bs).1, (decode (decode p as).2 bs).2) := by
  induction as generalizing p with
  | nil => rfl
  | cons a as ih => simp [decode, ih, List.append_assoc]

end RuleLexer.Utf8
