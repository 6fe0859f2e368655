import RuleLexer.Json.Scalar

/-!
# JSON values

Readers for objects and arrays. What the members of an object and the elements of an array are is
left to a reader that is passed in. Values can be read as they are (`Value`), down to a limited
nesting, or passed over, however deeply they are nested.

Loops over members and elements are bounded by the length of the text: every round reads at least
one character.
-/

namespace RuleLexer.Json

/-- **A JSON value.** Members of an object are kept in their order. -/
inductive Value where
  | null
  | bool (b : Bool)
  | number (n : Number)
  | string (s : Text)
  | array (items : List Value)
  | object (members : List (Text × Value))

/-! ### Parts of objects and arrays -/

/-- The colon between a key and its value. -/
def colon (t : Text) : Except Fault Text :=
  match skipBlanks t with
  | ':' :: r => .ok r
  | [] => .error .truncated
  | _ => .error .malformed

/-- The next key of an object, none at its end. The key's text starts after its quote. -/
def nextKey (first : Bool) (t : Text) : Except Fault (Option Text × Text) :=
  match skipBlanks t with
  | [] => .error .truncated
  | '\x7d' :: r => .ok (none, r)
  | c :: r =>
    if first then key (c :: r)
    else if c = ',' then key (skipBlanks r)
    else .error .malformed
where
  /-- A key where one must stand. -/
  key : Text → Except Fault (Option Text × Text)
    | [] => .error .truncated
    | '"' :: r => (string r).map fun (k, rest) => (some k, rest)
    | _ => .error .malformed

/-- The next element of an array, none at its end. The bracket that ends the array is left. -/
def nextElement (first : Bool) (t : Text) : Except Fault (Option Text) :=
  match skipBlanks t with
  | [] => .error .truncated
  | ']' :: _ => .ok none
  | c :: r =>
    if first then .ok (some (c :: r))
    else if c = ',' then
      match skipBlanks r with
      | [] => .error .truncated
      | ']' :: _ => .error .malformed
      | r => .ok (some r)
    else .error .malformed

/-- The end of an array of which no more elements are wanted. -/
def endArray (t : Text) : Except Fault Text :=
  match skipBlanks t with
  | ']' :: r => .ok r
  | [] => .error .truncated
  | _ => .error .malformed

/-- The members of an object, after its brace. The reader is given what has been gathered so far, a
key, and the text after the key. -/
def members {α : Type} (member : α → Text → Text → Except Fault (α × Text)) :
    Nat → Bool → α → Text → Except Fault (α × Text)
  | 0, _, _, _ => .error .truncated
  | n + 1, first, acc, t => do
    match ← nextKey first t with
    | (none, rest) => .ok (acc, rest)
    | (some key, rest) =>
      let (acc, rest) ← member acc key rest
      members member n false acc rest

/-- The elements of an array, after its bracket. -/
def elements {α : Type} (element : Text → Except Fault (α × Text)) :
    Nat → Bool → Text → Except Fault (List α × Text)
  | 0, _, _ => .error .truncated
  | n + 1, first, t => do
    match ← nextElement first t with
    | none => (endArray t).map ([], ·)
    | some t =>
      let (a, rest) ← element t
      let (as, rest) ← elements element n false rest
      .ok (a :: as, rest)

/-! ### Any value -/

/-- A value, with so many levels of objects and arrays at most. -/
def value : Nat → Text → Except Fault (Value × Text)
  | depth, t =>
    match skipBlanks t with
    | [] => .error .truncated
    | 'n' :: r => (word "ull".toList r).map (.null, ·)
    | 't' :: r => (word "rue".toList r).map (.bool true, ·)
    | 'f' :: r => (word "alse".toList r).map (.bool false, ·)
    | '-' :: r => (number true r).map fun (n, rest) => (.number n, rest)
    | '"' :: r => (string r).map fun (s, rest) => (.string s, rest)
    | '[' :: r =>
      match depth with
      | 0 => .error .malformed
      | d + 1 => (elements (value d) (r.length + 1) true r).map fun (vs, rest) => (.array vs, rest)
    | '\x7b' :: r =>
      match depth with
      | 0 => .error .malformed
      | d + 1 =>
        (members (fun acc key t => do
          let t ← colon t
          let (v, rest) ← value d t
          .ok ((key, v) :: acc, rest)) (r.length + 1) true [] r).map
          fun (ms, rest) => (.object ms.reverse, rest)
    | c :: r =>
      if isDigit c then (number false (c :: r)).map fun (n, rest) => (.number n, rest)
      else .error .malformed

/-! ### Passing over a value -/

/-- An object or an array that is open. -/
inductive Open where
  | array
  | object
  deriving DecidableEq, Repr

/-- Where passing over stands. -/
inductive Phase where
  /-- A value must come. -/
  | value
  /-- A value has ended. -/
  | ended
  /-- An object or array has just been opened. -/
  | opened
  deriving DecidableEq, Repr

/-- The key of a member that is passed over, and its colon. -/
def ignoreKey : Text → Except Fault Text
  | [] => .error .truncated
  | '"' :: r => do
    let rest ← ignoreString 0 r
    colon rest
  | _ => .error .malformed

/-- What follows when a member or an element must come. -/
def ignoreNext (o : Open) (t : Text) : Except Fault Text :=
  match o with
  | .array => .ok t
  | .object => ignoreKey (skipBlanks t)

/-- The sign that closes. -/
def Open.closing : Open → Char
  | .array => ']'
  | .object => '\x7d'

/-- A scalar, or the start of an object or array. -/
def ignoreStart (stack : List Open) (t : Text) : Except Fault (List Open × Phase × Text) :=
  match skipBlanks t with
  | [] => .error .truncated
  | 'n' :: r => (word "ull".toList r).map (stack, .ended, ·)
  | 't' :: r => (word "rue".toList r).map (stack, .ended, ·)
  | 'f' :: r => (word "alse".toList r).map (stack, .ended, ·)
  | '-' :: r => (ignoreNumber r).map (stack, .ended, ·)
  | '"' :: r => (ignoreString 0 r).map (stack, .ended, ·)
  | '[' :: r => .ok (.array :: stack, .opened, r)
  | '\x7b' :: r => .ok (.object :: stack, .opened, r)
  | c :: r =>
    if isDigit c then (ignoreNumber (c :: r)).map (stack, .ended, ·) else .error .malformed

/-- One step of passing over a value that lies in these objects and arrays. -/
def ignoreStep (o : Open) (stack : List Open) (phase : Phase) (t : Text) :
    Except Fault (List Open × Phase × Text) :=
  match phase with
  | .value => ignoreStart (o :: stack) t
  | .ended =>
    match skipBlanks t with
    | [] => .error .truncated
    | c :: r =>
      if c = ',' then (ignoreNext o r).map (o :: stack, .value, ·)
      else if c = o.closing then .ok (stack, .ended, r)
      else .error .malformed
  | .opened =>
    match skipBlanks t with
    | [] => .error .truncated
    | c :: r =>
      if c = o.closing then .ok (stack, .ended, r)
      else (ignoreNext o (c :: r)).map (o :: stack, .value, ·)

/-- Passes over what is open, in so many steps at most. -/
def ignoreOpen : Nat → List Open → Phase → Text → Except Fault Text
  | _, [], _, t => .ok t
  | 0, _, _, _ => .error .truncated
  | n + 1, o :: stack, phase, t =>
    match ignoreStep o stack phase t with
    | .error f => .error f
    | .ok (stack, phase, t) => ignoreOpen n stack phase t

/-- Passes over a value. Every step but the first of an object or array takes a character. -/
def ignore (t : Text) : Except Fault Text :=
  match ignoreStart [] t with
  | .error f => .error f
  | .ok (stack, phase, rest) => ignoreOpen (2 * rest.length + 2) stack phase rest

end RuleLexer.Json
