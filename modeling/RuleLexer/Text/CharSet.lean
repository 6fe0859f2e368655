import RuleLexer.Text.Basic

/-!
# Sets of characters

A `CharSet` lists the code points it holds as closed ranges. The operations keep the ranges
ascending with a gap between neighbours, so that two sets built by them from the same characters
have the same ranges and can be compared by their ranges alone.

Complement is taken within the code points up to `CharSet.top`. The ranges may run across the
surrogate code points: no character has one, so membership never sees them.
-/

namespace RuleLexer

/-- **A set of characters**, as closed ranges of code points. -/
structure CharSet where
  ranges : List (Nat × Nat)
  deriving DecidableEq, Repr

namespace CharSet

/-- The last code point. -/
def top : Nat := 0x10FFFF

/-- Membership: some range holds the code point. -/
def contains (s : CharSet) (c : Char) : Bool :=
  s.ranges.any fun r => r.1 ≤ c.toNat && c.toNat ≤ r.2

/-- The set without a member. -/
def empty : CharSet := ⟨[]⟩

/-- All characters. -/
def all : CharSet := ⟨[(0, top)]⟩

/-- The closed range between two code points. -/
def range (lo hi : Nat) : CharSet := ⟨[(lo, hi)]⟩

/-- The set of one character. -/
def single (c : Char) : CharSet := range c.toNat c.toNat

def isEmpty (s : CharSet) : Bool := s.ranges.isEmpty

/-- No member lies outside ASCII. -/
def isAscii (s : CharSet) : Bool := s.ranges.all fun r => r.2 ≤ 0x7F

/-- Insertion of a range into ascending ranges: it is joined with every range that it meets or
touches. -/
def insertRange (lo hi : Nat) : List (Nat × Nat) → List (Nat × Nat)
  | [] => [(lo, hi)]
  | r :: rest =>
    if hi + 1 < r.1 then (lo, hi) :: r :: rest
    else if r.2 + 1 < lo then r :: insertRange lo hi rest
    else insertRange (min lo r.1) (max hi r.2) rest

/-- Adds a closed range of code points. -/
def insert (s : CharSet) (lo hi : Nat) : CharSet := ⟨insertRange lo hi s.ranges⟩

def union (s t : CharSet) : CharSet :=
  ⟨s.ranges.foldr (fun r acc => insertRange r.1 r.2 acc) t.ranges⟩

/-- The gaps between ascending ranges, from a first code point on. -/
def gaps (next : Nat) : List (Nat × Nat) → List (Nat × Nat)
  | [] => if next ≤ top then [(next, top)] else []
  | r :: rest => if next < r.1 then (next, r.1 - 1) :: gaps (r.2 + 1) rest else gaps (r.2 + 1) rest

def compl (s : CharSet) : CharSet := ⟨gaps 0 s.ranges⟩

def inter (s t : CharSet) : CharSet := (s.compl.union t.compl).compl

def diff (s t : CharSet) : CharSet := (s.compl.union t).compl

/-- The characters in exactly one of the two sets. -/
def symmDiff (s t : CharSet) : CharSet := (s.diff t).union (t.diff s)

/-- The union of a list of sets. -/
def unions (sets : List CharSet) : CharSet := sets.foldr union empty

end CharSet

end RuleLexer
