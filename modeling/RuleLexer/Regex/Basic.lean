import RuleLexer.Text.Category

/-!
# Regular expressions

The expressions that patterns stand for, the conditions on a place between two characters that they
may ask for, and the constructors that patterns are built with.

The constructors keep expressions in a simple form: a sequence is flat and holds no empty part, an
alternative of single characters is one set of characters, what all branches of an alternative
start with stands in front of it, and repeating what can only match the empty text means trying it
at most once. Of two ways to match, an expression prefers the one that comes first: the earlier
branch, the longer repetition, or the shorter one if the repetition is reluctant.
-/

namespace RuleLexer

/-- Which side of a word a place is asked to be at. A half edge looks at one side only. -/
inductive WordEdge where
  | any | none | start | stop | startHalf | stopHalf
  deriving DecidableEq, Repr

/-- A condition on a place in the text. -/
inductive Look where
  | textStart
  | textStop
  /-- The start of the text or of a line; `crlf` lets a carriage return end a line as well. -/
  | lineStart (crlf : Bool)
  /-- The end of the text or of a line. -/
  | lineStop (crlf : Bool)
  /-- An edge of a word, words being made of ASCII characters only or of all word characters. -/
  | word (edge : WordEdge) (ascii : Bool)
  deriving DecidableEq, Repr

/-- **A regular expression.** Groups are numbered from one. -/
inductive Regex where
  | empty
  | look (l : Look)
  | set (s : CharSet)
  | seq (first second : Regex)
  | alt (first second : Regex)
  | repetition (least : Nat) (most : Option Nat) (greedy : Bool) (body : Regex)
  | group (index : Nat) (body : Regex)
  deriving DecidableEq, Repr

namespace Regex

/-- The expression that matches nowhere. -/
def fail : Regex := .set .empty

/-! ### Lengths -/

/-- The expression matches the empty text at most. -/
def onlyEmpty : Regex → Bool
  | .empty => true
  | .look _ => true
  | .set _ => false
  | .seq a b => a.onlyEmpty && b.onlyEmpty
  | .alt a b => a.onlyEmpty && b.onlyEmpty
  | .repetition _ most _ body => most.isSome && body.onlyEmpty
  | .group _ body => body.onlyEmpty

/-- A lower bound for the length of a match, none if some needed part matches nowhere. -/
def minLength? : Regex → Option Nat
  | .empty => some 0
  | .look _ => some 0
  | .set s => if s.isEmpty then none else some 1
  | .seq a b => a.minLength?.bind fun m => b.minLength?.map (m + ·)
  | .alt a b => a.minLength?.bind fun m => b.minLength?.map (min m ·)
  | .repetition least _ _ body => body.minLength?.map (least * ·)
  | .group _ body => body.minLength?

/-- Every match is known to take at least one character. -/
def alwaysConsumes (r : Regex) : Bool :=
  match r.minLength? with
  | some n => 0 < n
  | none => false

/-- The highest group number of an expression, zero if there is none. -/
def groupCount : Regex → Nat
  | .empty => 0
  | .look _ => 0
  | .set _ => 0
  | .seq a b => max a.groupCount b.groupCount
  | .alt a b => max a.groupCount b.groupCount
  | .repetition _ _ _ body => body.groupCount
  | .group i body => max i body.groupCount

/-- The expression can match at the very start of the text only: every way through it asks for the
start first. -/
def anchored : Regex → Bool
  | .empty => false
  | .look l => l = .textStart
  | .set _ => false
  | .seq a b => a.anchored || (a.onlyEmpty && b.anchored)
  | .alt a b => a.anchored && b.anchored
  | .repetition least _ _ body => 0 < least && body.anchored
  | .group _ body => body.anchored

/-- How much a set adds to the size of an expression once it is spelled out in bytes: a set of ASCII
characters is a single step, others take several per range. The numbers are estimates. -/
def setWeight (s : CharSet) : Nat :=
  if s.isAscii then 32 + 8 * s.ranges.length else 600 + 80 * s.ranges.length

/-- An estimate of the size of an expression once its repetitions are written out. The `regex`
library limits the bytes that the program takes to which it compiles a pattern. No such program is
built here, so this is not what that library computes: each constructor has a weight that is about
the number of bytes it adds. -/
def weight : Regex → Nat
  | .empty => 0
  | .look _ => 32
  | .set s => setWeight s
  | .seq a b => a.weight + b.weight
  | .alt a b => a.weight + b.weight + 40
  | .repetition least most _ body => (body.weight + 40) * max 1 (max least (most.getD 0))
  | .group _ body => body.weight + 64

/-! ### Sequences -/

/-- The parts of a sequence, none of them empty or itself a sequence. -/
def factors : Regex → List Regex
  | .empty => []
  | .seq a b => a.factors ++ b.factors
  | r => [r]

/-- The sequence of some parts. -/
def ofFactors : List Regex → Regex
  | [] => .empty
  | [r] => r
  | r :: rs => .seq r (ofFactors rs)

/-- One after the other. -/
def concat (rs : List Regex) : Regex := ofFactors (rs.flatMap factors)

/-! ### Alternatives -/

/-- The branches of an alternative, none of them itself an alternative. -/
def branches : Regex → List Regex
  | .alt a b => a.branches ++ b.branches
  | r => [r]

/-- The alternative of some branches. -/
def ofBranches : List Regex → Regex
  | [] => fail
  | [r] => r
  | r :: rs => .alt r (ofBranches rs)

/-- The set of characters that an expression for a single character stands for. -/
def set? : Regex → Option CharSet
  | .set s => some s
  | _ => none

/-- The union of the branches, if each stands for a single character. -/
def unionOfSets? (bs : List Regex) : Option CharSet :=
  (bs.mapM set?).map CharSet.unions

/-- The common first parts of two lists. -/
def commonStart : List Regex → List Regex → List Regex
  | a :: as, b :: bs => if a = b then a :: commonStart as bs else []
  | _, _ => []

/-- The common first parts of several lists. -/
def commonStarts : List (List Regex) → List Regex
  | [] => []
  | [l] => l
  | l :: ls => commonStart l (commonStarts ls)

/-- One of several branches, without a look at what they start with. -/
def anyOf (rs : List Regex) : Regex :=
  let bs := rs.flatMap branches
  match bs with
  | [] => fail
  | [b] => b
  | _ =>
    match unionOfSets? bs with
    | some s => .set s
    | none => ofBranches bs

/-- One of several branches. If every branch is a sequence, what all of them start with is written
once, in front; how much of the text it takes is then decided before a branch is chosen. -/
def alternation (rs : List Regex) : Regex :=
  let parts := (rs.flatMap branches).map factors
  let start := if 2 ≤ parts.length && parts.all (2 ≤ ·.length) then commonStarts parts else []
  if start.isEmpty then anyOf rs
  else concat (start ++ [anyOf (parts.map fun p => ofFactors (p.drop start.length))])

/-! ### Repetition -/

/-- Between `least` and `most` times. What can only match the empty text is tried once at most, no
times is the empty text and once is the body itself. -/
def repeated (least : Nat) (most : Option Nat) (greedy : Bool) (body : Regex) : Regex :=
  let least := if body.onlyEmpty then min least 1 else least
  let most := if body.onlyEmpty then some (min (most.getD 1) 1) else most
  if most = some 0 ∧ least = 0 then .empty
  else if most = some 1 ∧ least = 1 then body
  else .repetition least most greedy body

end Regex

end RuleLexer
