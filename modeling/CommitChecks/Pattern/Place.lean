import CommitChecks.Pattern.Node

/-!
# Places in a line

Matching moves through a line character by character. A place knows the character before it, its
distance from the start, and the rest of the line. What a group matched is remembered by the places
where it started and ended, the latest match of a group first.
-/

namespace CommitChecks.Pattern

/-- A place between two characters of a line. -/
structure Place where
  previous : Option Char
  position : Nat
  rest : List Char
  deriving DecidableEq

namespace Place

/-- The place after the next character, which is `c`. -/
def after (place : Place) (c : Char) (rest : List Char) : Place :=
  ⟨some c, place.position + 1, rest⟩

/-- The answer to a question about the place. -/
def answers (place : Place) (question : Look) : Bool :=
  question.holds place.previous place.rest.head?

end Place

/-- What a group matched: the characters from `first` up to, not including, `last`. -/
structure Capture where
  name : String
  first : Nat
  last : Nat
  deriving DecidableEq

/-- What the groups of a pattern matched, the latest match first. -/
abbrev Captures := List Capture

/-- What the group of that name matched last, in a line. -/
def Captures.get? (captures : Captures) (line : List Char) (name : String) :
    Option (List Char) :=
  (captures.find? (·.name = name)).map fun capture =>
    (line.drop capture.first).take (capture.last - capture.first)

end CommitChecks.Pattern
