import CommitChecks.Pattern.NamedSet

/-!
# The structure of a pattern

A pattern matches one character of a set, asks a question about the place it has reached, puts parts
one after the other, prefers one part to another, repeats a part, or remembers under a name what a
part matched. Parts without a name of their own are not remembered.
-/

namespace CommitChecks.Pattern

/-- A question about a place between two characters. Those about words are asked either of all
characters or of ASCII alone. -/
inductive Look where
  | textStart
  | textEnd
  | lineStart
  | lineEnd
  | anyLineStart
  | anyLineEnd
  | wordBoundary (unicode : Bool)
  | noWordBoundary (unicode : Bool)
  | wordStart (unicode : Bool)
  | wordEnd (unicode : Bool)
  | wordStartHalf (unicode : Bool)
  | wordEndHalf (unicode : Bool)
  deriving DecidableEq

/-- Whether a character belongs to a word. -/
def isWordChar (unicode : Bool) (c : Char) : Bool :=
  (NamedSet.ofLetter unicode .word).contains c

/-- Whether there is a character that belongs to a word. -/
def isWordNeighbour (unicode : Bool) (neighbour : Option Char) : Bool :=
  neighbour.any (isWordChar unicode)

/-- Whether the answer is yes between two neighbours, either of which may be missing. -/
def Look.holds (previous next : Option Char) : Look → Bool
  | textStart => previous = none
  | textEnd => next = none
  | lineStart => previous = none || previous = some '\n'
  | lineEnd => next = none || next = some '\n'
  | anyLineStart =>
    previous = none || previous = some '\n' || (previous = some '\r' && next != some '\n')
  | anyLineEnd =>
    next = none || next = some '\r' || (next = some '\n' && previous != some '\r')
  | wordBoundary unicode => isWordNeighbour unicode previous != isWordNeighbour unicode next
  | noWordBoundary unicode => isWordNeighbour unicode previous == isWordNeighbour unicode next
  | wordStart unicode => !isWordNeighbour unicode previous && isWordNeighbour unicode next
  | wordEnd unicode => isWordNeighbour unicode previous && !isWordNeighbour unicode next
  | wordStartHalf unicode => !isWordNeighbour unicode previous
  | wordEndHalf unicode => !isWordNeighbour unicode next

/-- The structure of a pattern. In `alt` the first part is preferred; `repeated` tries more rounds
first if it is greedy and fewer first if it is not. -/
inductive Node where
  | empty
  | set (chars : CharSet)
  | look (question : Look)
  | seq (first second : Node)
  | alt (preferred other : Node)
  | group (name : String) (body : Node)
  | repeated (least : Nat) (most : Option Nat) (greedy : Bool) (body : Node)
  deriving DecidableEq

namespace Node

/-- The parts one after the other. -/
def seqOf : List Node → Node
  | [] => empty
  | [only] => only
  | first :: rest => seq first (seqOf rest)

/-- The parts in order of preference. -/
def altOf : List Node → Node
  | [] => empty
  | [only] => only
  | first :: rest => alt first (altOf rest)

/-- A repetition; one that allows no round is empty, and its groups are gone. -/
def repeatOf (least : Nat) (most : Option Nat) (greedy : Bool) (body : Node) : Node :=
  if most = some 0 then empty else repeated least most greedy body

/-- The names of the groups, from left to right. -/
def groupNames : Node → List String
  | empty => []
  | set _ => []
  | look _ => []
  | seq first second => first.groupNames ++ second.groupNames
  | alt preferred other => preferred.groupNames ++ other.groupNames
  | group name body => name :: body.groupNames
  | repeated _ _ _ body => body.groupNames

/-- Whether a part matches a single character. -/
def isSet : Node → Bool
  | set _ => true
  | _ => false

/-- Whether every repetition of more than one round repeats a single character. -/
def isFlat : Node → Bool
  | empty => true
  | set _ => true
  | look _ => true
  | seq first second => first.isFlat && second.isFlat
  | alt preferred other => preferred.isFlat && other.isFlat
  | group _ body => body.isFlat
  | repeated least most _ body => body.isSet || (least ≤ 1 && most = some 1 && body.isFlat)

/-- Whether a part can match at the start of the text alone. -/
def isAnchored : Node → Bool
  | look question => question = .textStart
  | seq first _ => first.isAnchored
  | group _ body => body.isAnchored
  | _ => false

/-- The room that the pattern takes once its repetitions are written out, in units of one
instruction. -/
def weight : Node → Nat
  | empty => 1
  | set chars => if chars.isAscii then 1 else 2 * chars.ranges.length
  | look _ => 1
  | seq first second => first.weight + second.weight
  | alt preferred other => 1 + preferred.weight + other.weight
  | group _ body => 2 + body.weight
  | repeated least most _ body =>
    match most with
    | none => (max least 1) * body.weight + 2
    | some most => most * (body.weight + 1) + 1

end Node
end CommitChecks.Pattern
