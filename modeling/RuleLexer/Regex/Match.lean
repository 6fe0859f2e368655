import RuleLexer.Regex.Basic

/-!
# Matching

A match is looked for by walking through the expression from the left and trying what is preferred
first. Before walking, repetitions are written out (`Plan`): each place where there is a choice gets
a number of its own, and a copy for every counted repetition.

A choice is taken at most once at the same place of the text (`Explored`). If it was taken before
and led nowhere, it leads nowhere again; if it is still being tried, the walk has come back to it
without having read a character, and what it has to offer is tried by the first visit anyway. So a
search ends after as many choices as there are pairs of a choice and a place, and loops whose body
may match the empty text need no rule of their own.
-/

namespace RuleLexer

/-! ### Plans -/

/-- **An expression with numbered choices.** -/
inductive Plan where
  | empty
  | look (l : Look)
  | set (s : CharSet)
  | seq (first second : Plan)
  /-- A choice: first the one, then the other. -/
  | choice (label : Nat) (first second : Plan)
  /-- A choice between another round of the body and going on, in this order if greedy. -/
  | loop (label : Nat) (greedy : Bool) (body : Plan)
  | group (index : Nat) (body : Plan)

namespace Plan

/-- A choice between something and nothing, in this order if greedy. -/
def optional (label : Nat) (greedy : Bool) (p : Plan) : Plan :=
  if greedy then .choice label p .empty else .choice label .empty p

/-- A number of copies, each with labels of its own. The function plans the body from a first free
label and hands back the next free one. -/
def copies (body : Nat → Plan × Nat) : Nat → Nat → Plan × Nat
  | 0, label => (.empty, label)
  | n + 1, label =>
    let (p, label) := body label
    let (rest, label) := copies body n label
    (.seq p rest, label)

/-- Up to a number of copies: each copy is the condition for the next. -/
def upTo (body : Nat → Plan × Nat) (greedy : Bool) : Nat → Nat → Plan × Nat
  | 0, label => (.empty, label)
  | n + 1, label =>
    let (p, next) := body (label + 1)
    let (rest, next) := upTo body greedy n next
    (optional label greedy (.seq p rest), next)

/-- A body and any number of further rounds of it. -/
def oneOrMore (body : Nat → Plan × Nat) (greedy : Bool) (label : Nat) : Plan × Nat :=
  let (p, next) := body (label + 1)
  (.seq p (.loop label greedy p), next)

/-- Any number of rounds. A body that may match the empty text is tried once before the loop is
entered, so that its own first preference comes before leaving the loop. -/
def zeroOrMore (body : Nat → Plan × Nat) (consumes greedy : Bool) (label : Nat) : Plan × Nat :=
  if consumes then
    let (p, next) := body (label + 1)
    (.loop label greedy p, next)
  else
    let (p, next) := oneOrMore body greedy (label + 1)
    (optional label greedy p, next)

/-- The plan of an expression, from a first free label, with the next free label. -/
def ofRegex : Regex → Nat → Plan × Nat
  | .empty, label => (.empty, label)
  | .look l, label => (.look l, label)
  | .set s, label => (.set s, label)
  | .seq a b, label =>
    let (p, label) := ofRegex a label
    let (q, label) := ofRegex b label
    (.seq p q, label)
  | .alt a b, label =>
    let (p, next) := ofRegex a (label + 1)
    let (q, next) := ofRegex b next
    (.choice label p q, next)
  | .repetition 0 none greedy body, label =>
    zeroOrMore (ofRegex body) body.alwaysConsumes greedy label
  | .repetition (n + 1) none greedy body, label =>
    let (p, label) := copies (ofRegex body) n label
    let (q, label) := oneOrMore (ofRegex body) greedy label
    (.seq p q, label)
  | .repetition least (some most) greedy body, label =>
    let (p, label) := copies (ofRegex body) least label
    let (q, label) := upTo (ofRegex body) greedy (most - least) label
    (.seq p q, label)
  | .group i body, label =>
    let (p, label) := ofRegex body label
    (.group i p, label)

end Plan

/-! ### Places -/

/-- A place between two characters of a text: how many characters lie before it, the last of them,
and what follows. -/
structure Place where
  index : Nat
  before : Option Char
  rest : Text

namespace Place

/-- The place before a text. -/
def ofText (t : Text) : Place := ⟨0, none, t⟩

end Place

/-- The characters that make up words. -/
def wordChars (ascii : Bool) : CharSet :=
  if ascii then ⟨[(0x30, 0x39), (0x41, 0x5A), (0x5F, 0x5F), (0x61, 0x7A)]⟩ else Category.wordSet

namespace WordEdge

/-- Whether an edge of this kind lies between a word character or not and a word character or
not. -/
def holds : WordEdge → (before after : Bool) → Bool
  | .any, b, a => b != a
  | .none, b, a => b == a
  | .start, b, a => !b && a
  | .stop, b, a => b && !a
  | .startHalf, b, _ => !b
  | .stopHalf, _, a => !a

end WordEdge

/-- The character is there and in the set. -/
def optionIn (s : CharSet) : Option Char → Bool
  | some c => s.contains c
  | none => false

/-- Whether a condition holds at a place. -/
def Look.holds (l : Look) (p : Place) : Bool :=
  let after := p.rest.head?
  match l with
  | .textStart => p.before = none
  | .textStop => after = none
  | .lineStart false => p.before = none || p.before = some '\n'
  | .lineStop false => after = none || after = some '\n'
  | .lineStart true =>
    p.before = none || p.before = some '\n' || (p.before = some '\r' && after ≠ some '\n')
  | .lineStop true =>
    after = none || after = some '\r' || (after = some '\n' && p.before ≠ some '\r')
  | .word edge ascii =>
    edge.holds (optionIn (wordChars ascii) p.before) (optionIn (wordChars ascii) after)

/-! ### Searching -/

/-- The choices taken so far, each at a place: bit `label * width + index` stands for the choice
`label` at the place `index`. -/
structure Explored where
  width : Nat
  bits : Nat

namespace Explored

def contains (e : Explored) (label index : Nat) : Bool :=
  e.bits.testBit (label * e.width + index)

def insert (e : Explored) (label index : Nat) : Explored :=
  { e with bits := e.bits ||| (1 <<< (label * e.width + index)) }

end Explored

/-- The part of the text that a group took, between two places. -/
structure Capture where
  group : Nat
  start : Nat
  stop : Nat
  deriving DecidableEq, Repr

/-- **A way through an expression**: where it ended and what its groups took, earliest first. -/
structure Trace where
  stop : Nat
  captures : List Capture
  deriving DecidableEq, Repr

/-- A search: from a place and the choices taken so far, a way to the end or the choices taken in
vain. -/
abbrev Search := Place → Explored → Except Explored Trace

namespace Search

/-- The search that has arrived. -/
def done : Search := fun p _ => .ok ⟨p.index, []⟩

/-- A choice: fails where it was taken before, and tries the second only if the first fails. -/
def choose (label : Nat) (first second : Search) : Search := fun p e =>
  if e.contains label p.index then .error e
  else
    match first p (e.insert label p.index) with
    | .ok t => .ok t
    | .error e => second p e

/-- One character of a set. -/
def readChar (s : CharSet) (next : Search) : Search := fun p e =>
  match p.rest with
  | [] => .error e
  | c :: rest => if s.contains c then next ⟨p.index + 1, some c, rest⟩ e else .error e

/-- Rounds of a body. The number bounds how often the loop is come to; it is reached at most once at
each place. -/
def rounds (body : Search → Search) (label : Nat) (greedy : Bool) (next : Search) : Nat → Search
  | 0 => fun _ e => .error e
  | n + 1 =>
    let again := body (rounds body label greedy next n)
    if greedy then choose label again next else choose label next again

end Search

namespace Plan

/-- The search that a plan describes, with what is to be found after it. The number bounds the
rounds of each loop. -/
def search (bound : Nat) : Plan → Search → Search
  | .empty, next => next
  | .look l, next => fun p e => if l.holds p then next p e else .error e
  | .set s, next => Search.readChar s next
  | .seq a b, next => search bound a (search bound b next)
  | .choice label a b, next =>
    Search.choose label (fun p e => search bound a next p e) (fun p e => search bound b next p e)
  | .loop label greedy body, next =>
    fun p e => Search.rounds (search bound body) label greedy next bound p e
  | .group i body, next => fun p e =>
    search bound body
      (fun q e => (next q e).map fun t =>
        { t with captures := ⟨i, p.index, q.index⟩ :: t.captures })
      p e

end Plan

/-- A compiled expression. -/
structure Matcher where
  regex : Regex
  plan : Plan

namespace Matcher

def ofRegex (r : Regex) : Matcher := ⟨r, (Plan.ofRegex r 0).1⟩

/-- The preferred match at a place. The number of characters of the text bounds the loops. -/
def matchAt (m : Matcher) (size : Nat) (p : Place) : Option Trace :=
  match m.plan.search (size + 2) Search.done p ⟨size + 1, 0⟩ with
  | .ok t => some t
  | .error _ => none

/-- The first place with a match, from a place on: where the match starts and the way it goes. -/
def searchFrom (m : Matcher) (size : Nat) (index : Nat) (before : Option Char) :
    Text → Option (Nat × Trace)
  | [] => (m.matchAt size ⟨index, before, []⟩).map (index, ·)
  | c :: rest =>
    match m.matchAt size ⟨index, before, c :: rest⟩ with
    | some t => some (index, t)
    | none => searchFrom m size (index + 1) (some c) rest

/-- The first match in a text. If the expression can match at the start only, no other place is
tried. -/
def find? (m : Matcher) (t : Text) : Option (Nat × Trace) :=
  let size := t.length
  if m.regex.anchored then (m.matchAt size (.ofText t)).map (0, ·)
  else m.searchFrom size 0 none t

/-- The part of a text between two places. -/
def slice (t : Text) (start stop : Nat) : Text := (t.drop start).take (stop - start)

/-- What a group took last, empty if it took no part. -/
def groupText (t : Text) (captures : List Capture) (group : Nat) : Text :=
  match captures.reverse.find? (·.group = group) with
  | some c => slice t c.start c.stop
  | none => []

/-- The texts of all groups, in order. -/
def groupTexts (m : Matcher) (t : Text) (captures : List Capture) : List Text :=
  (List.range m.regex.groupCount).map fun i => groupText t captures (i + 1)

end Matcher

end RuleLexer
