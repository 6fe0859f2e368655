import RuleLexer.Config.Basic
import RuleLexer.Json.Value

/-!
# Reading configurations

Configurations are JSON documents. The readers below go through a document from left to right, and
the first thing that is wrong decides the fault.

Objects may leave out members and hold unknown ones, which are passed over; a known member may not
come twice. Each object may also be written as an array of the values of its members in order, of
which the last ones may be missing. Descriptions of rules are read as a whole, except for their
kind, and only then looked at; neither may anything be missing in them nor may an array hold more
than is needed.
-/

namespace RuleLexer.Config.Reader

open Json

/-! ### Values -/

/-- A size. -/
def size (t : Text) : Except Fault (UInt64 × Text) :=
  match skipBlanks t with
  | [] => .error .truncated
  | '-' :: r => do
    let _ ← number true r
    .error .unsuitable
  | c :: r =>
    if isDigit c then do
      match ← number false (c :: r) with
      | (.natural n, rest) => .ok (n.toUInt64, rest)
      | _ => .error .unsuitable
    else .error (wrongKind (c :: r))

/-- A value that may be null. -/
def nullable {α : Type} (read : Text → Except Fault (α × Text)) (t : Text) :
    Except Fault (Option α × Text) :=
  match skipBlanks t with
  | 'n' :: r => (word "ull".toList r).map (none, ·)
  | _ => (read t).map fun (a, rest) => (some a, rest)

/-! ### Objects with known members -/

/-- A member that may come once. What was found before is a fault, and so is a second occurrence. -/
def once {α : Type} (found : Option α) (read : Text → Except Fault (α × Text)) (t : Text) :
    Except Fault (α × Text) :=
  if found.isSome then .error .unsuitable
  else do
    let t ← colon t
    read t

/-- A member that is passed over. -/
def ignored {α : Type} (acc : α) (t : Text) : Except Fault (α × Text) := do
  let t ← colon t
  let rest ← ignore t
  .ok (acc, rest)

/-- An element of an array that may end before it. -/
def optionalElement {α : Type} (first : Bool) (read : Text → Except Fault (α × Text)) (t : Text) :
    Except Fault (Option α × Text) := do
  match ← nextElement first t with
  | none => .ok (none, t)
  | some t =>
    let (a, rest) ← read t
    .ok (some a, rest)

/-- A member of an object with two known keys, after what was found before it. -/
def pairMember {α β : Type} (keyA keyB : Text) (readA : Text → Except Fault (α × Text))
    (readB : Text → Except Fault (β × Text)) (acc : Option α × Option β) (key t : Text) :
    Except Fault ((Option α × Option β) × Text) :=
  if key = keyA then (once acc.1 readA t).map fun (a, rest) => ((some a, acc.2), rest)
  else if key = keyB then (once acc.2 readB t).map fun (b, rest) => ((acc.1, some b), rest)
  else ignored acc t

/-- Two members that may both be missing, written as an object with these keys or as an array. -/
def pair {α β : Type} (keyA keyB : Text) (readA : Text → Except Fault (α × Text))
    (readB : Text → Except Fault (β × Text)) (t : Text) :
    Except Fault ((Option α × Option β) × Text) :=
  match skipBlanks t with
  | [] => .error .truncated
  | '[' :: r => do
    let (a, rest) ← optionalElement true readA r
    let (b, rest) ← if a.isSome then optionalElement false readB rest else .ok (none, rest)
    let rest ← endArray rest
    .ok ((a, b), rest)
  | '\x7b' :: r => members (pairMember keyA keyB readA readB) (r.length + 1) true (none, none) r
  | t => .error (wrongKind t)

/-- The sizes of the look-ahead. -/
def bufferSizes (t : Text) : Except Fault (BufferSizes × Text) := do
  let ((mark, chunk), rest) ← pair "low_water_mark".toList "chunk_size".toList size size t
  let standard : BufferSizes := {}
  .ok (⟨mark.getD standard.lowWaterMark, chunk.getD standard.chunkSize⟩, rest)

/-! ### Descriptions of rules -/

/-- The kinds of rules. -/
inductive Kind where
  | literals
  | pattern
  deriving DecidableEq, Repr

/-- The kind of a rule, looked at as soon as it is read. -/
def kind (t : Text) : Except Fault (Kind × Text) :=
  match skipBlanks t with
  | [] => .error .truncated
  | '"' :: r => do
    let (name, rest) ← string r
    if name = "pattern".toList then .ok (.literals, rest)
    else if name = "regex".toList then .ok (.pattern, rest)
    else .error .unsuitable
  | t => .error (wrongKind t)

/-- An identifier, if the value is one. -/
def tokenId? : Value → Option TokenId
  | .number (.natural n) => if n < 0x80000000 then some ⟨Int32.ofInt n⟩ else none
  | .number (.negative n) => if n ≤ 0x80000000 then some ⟨Int32.ofInt (-n)⟩ else none
  | _ => none

/-- A text, if the value is one. -/
def text? : Value → Option Text
  | .string s => some s
  | _ => none

/-- A list of texts, if the value is one. -/
def texts? : Value → Option (List Text)
  | .array items => items.mapM text?
  | _ => none

/-- The description that a kind, an identifier and what to look for amount to. -/
def spec? (k : Kind) (id what : Value) : Option RuleSpec := do
  let id ← tokenId? id
  match k with
  | .literals => (texts? what).map (.literals id)
  | .pattern => (text? what).map (.pattern id)

/-- The value of a member that is there exactly once. -/
def single? (members : List (Text × Value)) (key : Text) : Option Value :=
  match members.filter (·.1 = key) with
  | [m] => some m.2
  | _ => none

/-- The key under which a rule of this kind says what to look for. -/
def Kind.key : Kind → Text
  | .literals => "patterns".toList
  | .pattern => "pattern".toList

/-- The description in the members of an object. Members that belong to another kind do not
matter. -/
def specOfMembers? (k : Kind) (members : List (Text × Value)) : Option RuleSpec := do
  let id ← single? members "id".toList
  let what ← single? members k.key
  spec? k id what

/-- A description that was found, or the fault that there is none. -/
def orUnsuitable {α : Type} (found : Option α) (rest : Text) : Except Fault (α × Text) :=
  match found with
  | some a => .ok (a, rest)
  | none => .error .unsuitable

/-- A member of a description, after what was found before it: the kind, or a member that is kept as
a value. -/
def specMember (depth : Nat) (acc : Option Kind × List (Text × Value)) (key t : Text) :
    Except Fault ((Option Kind × List (Text × Value)) × Text) :=
  if key = "kind".toList then (once acc.1 kind t).map fun (k, rest) => ((some k, acc.2), rest)
  else do
    let t ← colon t
    let (v, rest) ← value depth t
    .ok ((acc.1, acc.2 ++ [(key, v)]), rest)

/-- A description of a rule, inside which values may be nested so many levels deep. -/
def spec (depth : Nat) (t : Text) : Except Fault (RuleSpec × Text) :=
  match skipBlanks t with
  | [] => .error .truncated
  | '[' :: r => do
    match ← nextElement true r with
    | none => .error .unsuitable
    | some r =>
      let (k, rest) ← kind r
      let (values, rest) ← elements (value depth) (rest.length + 1) false rest
      match values with
      | [id, what] => orUnsuitable (spec? k id what) rest
      | _ => .error .unsuitable
  | '\x7b' :: r => do
    let ((k, found), rest) ← members (specMember depth) (r.length + 1) true (none, []) r
    orUnsuitable (k.bind (specOfMembers? · found)) rest
  | t => .error (wrongKind t)

/-- The deepest nesting of a document, counted in objects and arrays that are read and not passed
over. -/
def maxNesting : Nat := 127

/-- The descriptions of the rules, which lie in three objects and arrays. -/
def specs (t : Text) : Except Fault (List RuleSpec × Text) :=
  match skipBlanks t with
  | [] => .error .truncated
  | '[' :: r => elements (spec (maxNesting - 4)) (r.length + 1) true r
  | t => .error (wrongKind t)

/-- The description of a rule set. -/
def ruleSetSpec (t : Text) : Except Fault (RuleSetSpec × Text) := do
  let ((whitespace, rules), rest) ←
    pair "whitespace".toList "rules".toList (nullable (spec (maxNesting - 3))) specs t
  .ok (⟨whitespace.join, rules.getD []⟩, rest)

/-- A configuration, and the text after it. -/
def config (t : Text) : Except Fault (Config × Text) := do
  let ((buffer, rules), rest) ←
    pair "buffer".toList "rules".toList bufferSizes (nullable ruleSetSpec) t
  .ok (⟨buffer.getD {}, rules.join⟩, rest)

end RuleLexer.Config.Reader

namespace RuleLexer.Config

/-- Reads a document as a configuration. Nothing but blanks may follow it. -/
def ofJson (t : Text) : Except Json.Fault Config := do
  let (c, rest) ← Reader.config t
  if (Json.skipBlanks rest).isEmpty then .ok c else .error .malformed

end RuleLexer.Config
