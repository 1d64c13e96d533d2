import CommitChecks.Pattern.Place

/-!
# Matching by backtracking

A part is matched by handing each place it can reach to what comes after it, in order of preference,
until that succeeds. For a flat pattern, whose repetitions repeat single characters, this finds the
preferred match, and the number of attempts is bounded by a power of the length of the line.
-/

namespace CommitChecks.Pattern

/-- What comes after a part: it is given a place and the captures so far. -/
abbrev Continuation := Place → Captures → Option Captures

/-- A way to match a part before what comes after it. -/
abbrev Matcher := Continuation → Continuation

namespace Matcher

/-- The places reached by no, one, two and more characters of a set. -/
def walk (chars : CharSet) (previous : Option Char) (position : Nat) : List Char → List Place
  | [] => [⟨previous, position, []⟩]
  | c :: rest =>
    ⟨previous, position, c :: rest⟩ ::
      if chars.contains c then walk chars (some c) (position + 1) rest else []

/-- The places reached by at least `least` and at most `most` characters of a set, in order of
preference. -/
def reach (chars : CharSet) (least : Nat) (most : Option Nat) (greedy : Bool) (place : Place) :
    List Place :=
  let walked := walk chars place.previous place.position place.rest
  let allowed := match most with
    | none => walked
    | some most => walked.take (most + 1)
  if greedy then (allowed.drop least).reverse else allowed.drop least

/-- Exactly `rounds` rounds of a part. -/
def times (round : Matcher) : Nat → Matcher
  | 0, next => next
  | rounds + 1, next => round (times round rounds next)

/-- At most `rounds` rounds of a part. -/
def upTo (greedy : Bool) (round : Matcher) : Nat → Matcher
  | 0, next, place, captures => next place captures
  | rounds + 1, next, place, captures =>
    if greedy then
      match round (upTo greedy round rounds next) place captures with
      | some found => some found
      | none => next place captures
    else
      match next place captures with
      | some found => some found
      | none => round (upTo greedy round rounds next) place captures

end Matcher

/-- Matches a part of a pattern. A part that is repeated without a bound is repeated at most as
often as there are characters left. -/
def Node.match : Node → Matcher
  | empty, next, place, captures => next place captures
  | set chars, next, place, captures =>
    match place.rest with
    | [] => none
    | c :: rest => if chars.contains c then next (place.after c rest) captures else none
  | look question, next, place, captures =>
    if place.answers question then next place captures else none
  | seq first second, next, place, captures => first.match (second.match next) place captures
  | alt preferred other, next, place, captures =>
    match preferred.match next place captures with
    | some found => some found
    | none => other.match next place captures
  | group name body, next, place, captures =>
    body.match (fun reached captures =>
      next reached (⟨name, place.position, reached.position⟩ :: captures)) place captures
  | repeated least most greedy (set chars), next, place, captures =>
    (Matcher.reach chars least most greedy place).findSome? (next · captures)
  | repeated least most greedy body, next, place, captures =>
    let further := most.getD (least + place.rest.length) - least
    Matcher.times body.match least (Matcher.upTo greedy body.match further next) place captures

/-- Tries every place of a line from the one between `previous` and the rest of the line on. -/
def Node.searchFrom (node : Node) (previous : Option Char) (position : Nat) :
    List Char → Option Captures
  | [] => node.match (fun _ captures => some captures) ⟨previous, position, []⟩ []
  | c :: rest =>
    match node.match (fun _ captures => some captures) ⟨previous, position, c :: rest⟩ [] with
    | some captures => some captures
    | none => node.searchFrom (some c) (position + 1) rest

/-- The first match of a flat pattern in a line. -/
def Node.backtrack (node : Node) (line : List Char) : Option Captures :=
  node.searchFrom none 0 line

end CommitChecks.Pattern
