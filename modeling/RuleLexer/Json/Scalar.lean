import RuleLexer.Text.Basic

/-!
# JSON scalars

Readers for the strings, numbers and words of JSON. A reader takes a text and gives what it has read
and the text that follows, or says what is wrong: the text is malformed, it ends too early, or it is
fine and its value is unsuitable for what was asked.

Strings and numbers can be read for their value or passed over. What is passed over is checked less
strictly: escapes need not form characters, and numbers may be of any size.
-/

namespace RuleLexer.Json

/-- What is wrong with a document. -/
inductive Fault where
  /-- The text is not JSON. -/
  | malformed
  /-- The text ends where more is needed. -/
  | truncated
  /-- A value is of the wrong kind, out of range, missing or given twice. -/
  | unsuitable
  deriving DecidableEq, Repr

/-- The blanks between the parts of a document. -/
def isBlank (c : Char) : Bool := c = ' ' || c = '\n' || c = '\t' || c = '\r'

/-- The text after leading blanks. -/
def skipBlanks (t : Text) : Text := t.dropWhile isBlank

/-- The rest of a word. -/
def word : Text → Text → Except Fault Text
  | [], t => .ok t
  | _ :: _, [] => .error .truncated
  | e :: es, c :: t => if c = e then word es t else .error .malformed

/-! ### Strings -/

/-- The value of a digit in base sixteen. -/
def hexDigit? (c : Char) : Option Nat :=
  if '0' ≤ c ∧ c ≤ '9' then some (c.toNat - '0'.toNat)
  else if 'a' ≤ c ∧ c ≤ 'f' then some (c.toNat - 'a'.toNat + 10)
  else if 'A' ≤ c ∧ c ≤ 'F' then some (c.toNat - 'A'.toNat + 10)
  else none

/-- The four digits of a code unit at the front of a text. If fewer than four bytes are left, the
text ends too early, whatever they are. -/
def codeUnit (t : Text) : Except Fault Nat :=
  if t.byteLength < 4 then .error .truncated
  else
    match (t.take 4).mapM hexDigit? with
    | some [a, b, c, d] => .ok (((a * 16 + b) * 16 + c) * 16 + d)
    | _ => .error .malformed

/-- The second half of a pair of code units, which must follow the first half. -/
def secondHalf (first : Nat) (t : Text) : Except Fault Char :=
  match t with
  | [] => .error .truncated
  | '\\' :: [] => .error .truncated
  | '\\' :: 'u' :: rest => do
    let second ← codeUnit rest
    if 0xDC00 ≤ second ∧ second ≤ 0xDFFF then
      .ok (Char.ofNat (0x10000 + (first - 0xD800) * 0x400 + (second - 0xDC00)))
    else .error .malformed
  | _ => .error .malformed

/-- The characters that an escape of one letter stands for. -/
def letterEscape? : Char → Option Char
  | '"' => some '"'
  | '\\' => some '\\'
  | '/' => some '/'
  | 'b' => some '\x08'
  | 'f' => some '\x0c'
  | 'n' => some '\n'
  | 'r' => some '\r'
  | 't' => some '\t'
  | _ => none

/-- An escape, after its backslash: the character it stands for and the number of characters it is
written with. -/
def escape (t : Text) : Except Fault (Char × Nat) :=
  match t with
  | [] => .error .truncated
  | 'u' :: rest => do
    let unit ← codeUnit rest
    if 0xDC00 ≤ unit ∧ unit ≤ 0xDFFF then .error .malformed
    else if 0xD800 ≤ unit ∧ unit ≤ 0xDBFF then
      let c ← secondHalf unit (rest.drop 4)
      .ok (c, 11)
    else .ok (Char.ofNat unit, 5)
  | c :: _ =>
    match letterEscape? c with
    | some d => .ok (d, 1)
    | none => .error .malformed

/-- The rest of a string, after its opening quote. The number says how many characters of an escape
are still to be passed. -/
def stringBody : Nat → Text → Except Fault (Text × Text)
  | _, [] => .error .truncated
  | skip + 1, _ :: t => stringBody skip t
  | 0, c :: t =>
    if c = '"' then .ok ([], t)
    else if c = '\\' then do
      let (d, length) ← escape t
      let (s, rest) ← stringBody length t
      .ok (d :: s, rest)
    else if c.toNat < 0x20 then .error .malformed
    else do
      let (s, rest) ← stringBody 0 t
      .ok (c :: s, rest)

/-- A string, after its opening quote. -/
def string (t : Text) : Except Fault (Text × Text) := stringBody 0 t

/-- An escape that is passed over: the number of characters it is written with. -/
def ignoreEscape (t : Text) : Except Fault Nat :=
  match t with
  | [] => .error .truncated
  | 'u' :: rest => (codeUnit rest).map fun _ => 5
  | c :: _ => if (letterEscape? c).isSome then .ok 1 else .error .malformed

/-- A string that is passed over, after its opening quote. -/
def ignoreString : Nat → Text → Except Fault Text
  | _, [] => .error .truncated
  | skip + 1, _ :: t => ignoreString skip t
  | 0, c :: t =>
    if c = '"' then .ok t
    else if c = '\\' then do
      let length ← ignoreEscape t
      ignoreString length t
    else if c.toNat < 0x20 then .error .malformed
    else ignoreString 0 t

/-! ### Numbers -/

/-- A number: one that an unsigned or a signed word of 64 bits holds, or any other. Negative zero is
no word. -/
inductive Number where
  | natural (n : Nat)
  | negative (n : Nat)
  | real
  deriving DecidableEq, Repr

def isDigit (c : Char) : Bool := '0' ≤ c && c ≤ '9'

/-- The number that digits stand for. -/
def digitsValue (digits : Text) : Nat :=
  digits.foldl (fun n c => n * 10 + (c.toNat - '0'.toNat)) 0

/-- Too large a real: the digits, moved by so many places, reach beyond the largest real by half a
step. -/
def overflows (digits : Text) (exponent : Int) : Bool :=
  let significant := digits.dropWhile (· = '0')
  let size := exponent + significant.length
  if significant.isEmpty || size < 300 then false
  else if 310 < size then true
  else
    let n := digitsValue significant
    let limit := Nat.pow 2 1024 - Nat.pow 2 970
    match exponent with
    | .ofNat e => limit ≤ n * Nat.pow 10 e
    | .negSucc e => limit * Nat.pow 10 (e + 1) ≤ n

/-- The exponent of a number, after the letter. -/
def exponent (t : Text) : Except Fault (Int × Text) :=
  let (negative, t) := match t with
    | '+' :: r => (false, r)
    | '-' :: r => (true, r)
    | _ => (false, t)
  match t with
  | [] => .error .truncated
  | c :: _ =>
    if isDigit c then
      let value : Int := digitsValue (t.takeWhile isDigit)
      .ok (if negative then -value else value, t.dropWhile isDigit)
    else .error .malformed

/-- A real number with these digits before and after the point. -/
def real (whole fraction : Text) (exponent : Int) (rest : Text) : Except Fault (Number × Text) :=
  if overflows (whole ++ fraction) (exponent - fraction.length) then .error .malformed
  else .ok (.real, rest)

/-- The rest of a real number, after its fraction. -/
def realTail (whole fraction t : Text) : Except Fault (Number × Text) :=
  match t with
  | c :: r =>
    if c = 'e' || c = 'E' then do
      let (e, rest) ← exponent r
      real whole fraction e rest
    else real whole fraction 0 t
  | [] => real whole fraction 0 t

/-- A number with these digits, in view of what follows them. -/
def numberTail (negative : Bool) (whole t : Text) : Except Fault (Number × Text) :=
  match t with
  | '.' :: r =>
    let fraction := r.takeWhile isDigit
    let rest := r.dropWhile isDigit
    if fraction.isEmpty then .error (if rest.isEmpty then .truncated else .malformed)
    else realTail whole fraction rest
  | c :: _ =>
    if c = 'e' || c = 'E' then realTail whole [] t else integer
  | [] => integer
where
  /-- Digits with neither point nor exponent. -/
  integer : Except Fault (Number × Text) :=
    let n := digitsValue whole
    if !negative && n < 0x10000000000000000 then .ok (.natural n, t)
    else if negative && 0 < n && n ≤ 0x8000000000000000 then .ok (.negative n, t)
    else real whole [] 0 t

/-- A number, after its sign. A leading zero stands alone. -/
def number (negative : Bool) (t : Text) : Except Fault (Number × Text) :=
  match t with
  | [] => .error .truncated
  | '0' :: r =>
    match r with
    | c :: _ => if isDigit c then .error .malformed else numberTail negative ['0'] r
    | [] => numberTail negative ['0'] r
  | c :: _ =>
    if isDigit c then numberTail negative (t.takeWhile isDigit) (t.dropWhile isDigit)
    else .error .malformed

/-- An exponent that is passed over. -/
def ignoreExponent (t : Text) : Except Fault Text :=
  let t := match t with
    | '+' :: r => r
    | '-' :: r => r
    | _ => t
  if (t.takeWhile isDigit).isEmpty then .error .malformed else .ok (t.dropWhile isDigit)

/-- What may follow the digits of a number that is passed over. -/
def ignoreNumberTail (t : Text) : Except Fault Text :=
  match t with
  | '.' :: r =>
    if (r.takeWhile isDigit).isEmpty then .error .malformed
    else
      match r.dropWhile isDigit with
      | c :: rest => if c = 'e' || c = 'E' then ignoreExponent rest else .ok (c :: rest)
      | [] => .ok []
  | c :: r => if c = 'e' || c = 'E' then ignoreExponent r else .ok t
  | [] => .ok []

/-- A number that is passed over, after its sign. -/
def ignoreNumber (t : Text) : Except Fault Text :=
  match t with
  | '0' :: r =>
    match r with
    | c :: _ => if isDigit c then .error .malformed else ignoreNumberTail r
    | [] => .ok []
  | c :: _ => if isDigit c then ignoreNumberTail (t.dropWhile isDigit) else .error .malformed
  | [] => .error .malformed

/-! ### Values of the wrong kind -/

/-- What is wrong where another kind of value was asked for. A scalar must at least be well
formed. -/
def wrongKind (t : Text) : Fault :=
  match t with
  | [] => .truncated
  | 'n' :: r => after (word "ull".toList r)
  | 't' :: r => after (word "rue".toList r)
  | 'f' :: r => after (word "alse".toList r)
  | '-' :: r => after (number true r)
  | '"' :: r => after (string r)
  | '[' :: _ => .unsuitable
  | '\x7b' :: _ => .unsuitable
  | c :: _ => if isDigit c then after (number false t) else .malformed
where
  /-- The fault of a scalar that cannot be read, otherwise its being of the wrong kind. -/
  after {α : Type} : Except Fault α → Fault
    | .ok _ => .unsuitable
    | .error f => f

end RuleLexer.Json
