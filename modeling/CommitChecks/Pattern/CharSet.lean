/-!
# Sets of characters

A pattern describes one character by a set of code points, kept as ascending ranges with gaps
between them. Negation is taken among all code points.
-/

namespace CommitChecks.Pattern

/-- A set of code points. -/
structure CharSet where
  ranges : List (Nat × Nat)
  deriving DecidableEq

namespace CharSet

/-- The greatest code point. -/
def maxCode : Nat := 0x10FFFF

/-- Whether one of some ascending ranges holds a code point. -/
def holds : List (Nat × Nat) → Nat → Bool
  | [], _ => false
  | (first, last) :: rest, code =>
    if code < first then false else if code ≤ last then true else holds rest code

/-- Whether the set holds a code point. -/
def containsCode (set : CharSet) (code : Nat) : Bool :=
  holds set.ranges code

/-- Whether the set holds a character. -/
def contains (set : CharSet) (c : Char) : Bool :=
  set.containsCode c.toNat

/-- Puts a range in front of the first range that does not start before it. -/
def insertRange (range : Nat × Nat) : List (Nat × Nat) → List (Nat × Nat)
  | [] => [range]
  | other :: rest =>
    if range.1 ≤ other.1 then range :: other :: rest else other :: insertRange range rest

/-- Joins ranges, in ascending order of their starts, that overlap or touch the range before. -/
def joinRanges (range : Nat × Nat) : List (Nat × Nat) → List (Nat × Nat)
  | [] => [range]
  | other :: rest =>
    if other.1 ≤ range.2 + 1 then joinRanges (range.1, max range.2 other.2) rest
    else range :: joinRanges other rest

/-- The set of the code points in some ranges, given in any order. -/
def ofRanges (ranges : List (Nat × Nat)) : CharSet :=
  match ranges.foldr insertRange [] with
  | [] => ⟨[]⟩
  | first :: rest => ⟨joinRanges first rest⟩

/-- The empty set. -/
def empty : CharSet :=
  ⟨[]⟩

/-- The set of one character. -/
def single (c : Char) : CharSet :=
  ⟨[(c.toNat, c.toNat)]⟩

/-- The set of all characters. -/
def all : CharSet :=
  ⟨[(0, maxCode)]⟩

/-- The gaps between ascending ranges from `next` on. -/
def gaps (next : Nat) : List (Nat × Nat) → List (Nat × Nat)
  | [] => if next ≤ maxCode then [(next, maxCode)] else []
  | (first, last) :: rest =>
    if next < first then (next, first - 1) :: gaps (last + 1) rest else gaps (last + 1) rest

/-- The code points that are not in the set. -/
def negate (set : CharSet) : CharSet :=
  ⟨gaps 0 set.ranges⟩

/-- The code points that are in one of two sets. -/
def union (left right : CharSet) : CharSet :=
  ofRanges (left.ranges ++ right.ranges)

/-- The code points that are in both of two sets. -/
def inter (left right : CharSet) : CharSet :=
  (left.negate.union right.negate).negate

/-- The code points that are in the first set but not in the second. -/
def diff (left right : CharSet) : CharSet :=
  left.inter right.negate

/-- The code points that are in exactly one of two sets. -/
def symmDiff (left right : CharSet) : CharSet :=
  (left.union right).diff (left.inter right)

/-- Whether all code points of the set are ASCII. -/
def isAscii (set : CharSet) : Bool :=
  set.ranges.all fun range => range.2 < 0x80

/-- The set with the whole of every orbit that it meets. -/
def closeUnder (orbits : List (List Nat)) (set : CharSet) : CharSet :=
  let met := orbits.filter fun orbit => orbit.any set.containsCode
  ofRanges (met.flatMap (·.map fun code => (code, code)) ++ set.ranges)

end CharSet
end CommitChecks.Pattern
