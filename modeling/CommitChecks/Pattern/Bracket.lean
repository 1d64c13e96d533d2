import CommitChecks.Pattern.Primitive

/-!
# Bracketed sets

A set in brackets lists characters, ranges, named sets and further brackets. Two sets may be
combined by intersection, difference and symmetric difference, from left to right. A caret in front
negates; dashes right after it and a closing bracket in the first place stand for themselves.
-/

namespace CommitChecks.Pattern

/-- How two sets in brackets are combined. -/
inductive SetOperator where
  | inter
  | diff
  | symmDiff
  deriving DecidableEq

/-- The combination of two sets. -/
def SetOperator.apply : SetOperator → CharSet → CharSet → CharSet
  | inter, left, right => left.inter right
  | diff, left, right => left.diff right
  | symmDiff, left, right => left.symmDiff right

/-- A set in brackets, how deep brackets are nested in it, and the text after it. -/
structure BracketResult where
  set : CharSet
  depth : Nat
  rest : List Char

namespace Bracket

/-- Reads a set known by a name between colons, such as `[:alpha:]`. -/
def readAscii (flags : Flags) (text : List Char) : Option (Option CharSet × List Char) := do
  match text with
  | '[' :: ':' :: rest =>
    let (negated, rest) := match rest with
      | '^' :: rest => (true, rest)
      | rest => (false, rest)
    match rest.dropWhile (· ≠ ':') with
    | ':' :: ']' :: after =>
      let set ← NamedSet.ascii? (String.ofList (rest.takeWhile (· ≠ ':')))
      return (flags.foldAndNegate? negated set, after)
    | _ => none
  | _ => none

/-- The operator at the start of a text. -/
def operator? : List Char → Option (SetOperator × List Char)
  | '&' :: '&' :: rest => some (.inter, rest)
  | '-' :: '-' :: rest => some (.diff, rest)
  | '~' :: '~' :: rest => some (.symmDiff, rest)
  | _ => none

/-- Reads one character, escaped or not. -/
def readItem (flags : Flags) : List Char → Option (Primitive × List Char)
  | [] => none
  | '\\' :: rest => Primitive.readEscape flags.ignoreBlanks rest
  | c :: rest => some (.literal c false, rest)

/-- The character that an item means. Without Unicode only ASCII characters may stand in a set. -/
def itemChar? (flags : Flags) : Primitive → Option Char
  | .literal c _ => if flags.unicode || c.toNat < 0x80 then some c else none
  | _ => none

/-- The set that an item means. -/
def itemSet? (flags : Flags) : Primitive → Option CharSet
  | .literal c isByte => (itemChar? flags (.literal c isByte)).map .single
  | .letterSet name negated => flags.negateIf? negated (NamedSet.ofLetter flags.unicode name)
  | .named set negated => if flags.unicode then flags.foldAndNegate? negated set else none
  | _ => none

/-- Reads an item or a range of characters. A dash before a closing bracket or another dash does
not start the second half of a range. -/
def readRange (flags : Flags) (text : List Char) : Option (CharSet × List Char) := do
  let (first, rest) ← readItem flags text
  match skip flags.ignoreBlanks rest with
  | [] => none
  | '-' :: after =>
    let next := (skip flags.ignoreBlanks after).head?
    if next = some ']' ∨ next = some '-' then
      let set ← itemSet? flags first
      return (set, '-' :: after)
    else
      let (last, rest) ← readItem flags (skip flags.ignoreBlanks after)
      let low ← itemChar? flags first
      let high ← itemChar? flags last
      if low ≤ high then return (⟨[(low.toNat, high.toNat)]⟩, rest) else none
  | rest =>
    let set ← itemSet? flags first
    return (set, rest)

/-- The dashes at the start of a set, at most `fuel` of them. -/
def leadingDashes (flags : Flags) : Nat → List Char → List Char × List Char
  | fuel + 1, '-' :: rest =>
    let (dashes, rest) := leadingDashes flags fuel (skip flags.ignoreBlanks rest)
    ('-' :: dashes, rest)
  | _, text => ([], text)

/-- What is known of a set under way: the combination on its left, if any, and the union on its
right. -/
structure Partial where
  pending : Option (CharSet × SetOperator)
  union : CharSet
  depth : Nat

/-- The set with its pending combination carried out, both sides with case ignored if the flags
ask for it. -/
def Partial.close (flags : Flags) (items : Partial) : CharSet :=
  match items.pending with
  | none => items.union
  | some (left, operator) => operator.apply (flags.fold left) (flags.fold items.union)

/-- The set with another one added to its union. -/
def Partial.add (items : Partial) (set : CharSet) (depth : Nat) : Partial :=
  { items with union := items.union.union set, depth := max items.depth depth }

mutual

/-- Reads a set after its opening bracket. -/
def readSet (flags : Flags) : Nat → List Char → Option BracketResult
  | 0, _ => none
  | fuel + 1, text => do
    let text := skip flags.ignoreBlanks text
    let (negated, text) := match text with
      | '^' :: rest => (true, skip flags.ignoreBlanks rest)
      | text => (false, text)
    let (dashes, text) := leadingDashes flags text.length text
    let start := if dashes = [] then CharSet.empty else .single '-'
    let (start, text) := match dashes, text with
      | [], ']' :: rest => (CharSet.single ']', skip flags.ignoreBlanks rest)
      | _, text => (start, text)
    let result ← readItems flags fuel ⟨none, start, 0⟩ text
    let set ← flags.foldAndNegate? negated result.set
    return ⟨set, result.depth + 1, result.rest⟩

/-- Reads the items of a set up to its closing bracket. -/
def readItems (flags : Flags) : Nat → Partial → List Char → Option BracketResult
  | 0, _, _ => none
  | fuel + 1, items, text =>
    match skip flags.ignoreBlanks text with
    | [] => none
    | ']' :: rest => some ⟨items.close flags, items.depth, rest⟩
    | '[' :: rest =>
      match readAscii flags ('[' :: rest) with
      | some (none, _) => none
      | some (some set, rest) => readItems flags fuel (items.add set 0) rest
      | none =>
        match readSet flags fuel rest with
        | some inner => readItems flags fuel (items.add inner.set inner.depth) inner.rest
        | none => none
    | text =>
      match operator? text with
      | some (operator, rest) =>
        readItems flags fuel ⟨some (items.close flags, operator), .empty, items.depth + 1⟩ rest
      | none =>
        match readRange flags text with
        | some (set, rest) => readItems flags fuel (items.add set 0) rest
        | none => none

end

/-- Reads a set after its opening bracket. -/
def read (flags : Flags) (text : List Char) : Option BracketResult :=
  readSet flags (2 * text.length + 2) text

end Bracket
end CommitChecks.Pattern
