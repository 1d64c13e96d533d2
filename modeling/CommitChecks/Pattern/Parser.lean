import CommitChecks.Pattern.Bracket

/-!
# Reading patterns

A pattern is a list of alternatives, each of them a list of parts with repetitions after them. Parts
are characters, sets, questions about a place, and groups. Look-around and references back to a
group are not part of the language, and neither are two groups of one name.
-/

namespace CommitChecks.Pattern

namespace Parser

/-- A part that has been read, and how deep parts are nested in it. A switch of flags is a part too,
one that cannot be repeated. -/
structure Part where
  node : Node
  depth : Nat
  isSwitch : Bool

/-- What follows a group's opening parenthesis. -/
inductive Opening where
  | named (name : String) (rest : List Char)
  | unnamed (rest : List Char)
  | withFlags (flags : Flags) (rest : List Char)
  | switch (flags : Flags) (rest : List Char)

/-- Whether a character may start the name of a group. -/
def startsGroupName (c : Char) : Bool :=
  c = '_' || Unicode.isAlphabetic c

/-- Whether a character may stand in the name of a group. -/
def isGroupNameChar (c : Char) : Bool :=
  c = '_' || c = '.' || c = '[' || c = ']' || Unicode.isAlphabetic c || Unicode.isNumber c

/-- Reads the name of a group up to its closing angle bracket. -/
def readGroupName (text : List Char) : Option (String × List Char) :=
  let name := text.takeWhile (· ≠ '>')
  match name, text.drop name.length with
  | first :: others, _ :: rest =>
    if startsGroupName first && others.all isGroupNameChar then
      some (String.ofList (first :: others), rest)
    else none
  | _, _ => none

/-- Reads what follows an opening parenthesis. -/
def readOpening (flags : Flags) (text : List Char) : Option Opening := do
  match skip flags.ignoreBlanks text with
  | '?' :: 'P' :: '<' :: rest =>
    let (name, rest) ← readGroupName rest
    return .named name rest
  | '?' :: '=' :: _ => none
  | '?' :: '!' :: _ => none
  | '?' :: '<' :: '=' :: _ => none
  | '?' :: '<' :: '!' :: _ => none
  | '?' :: '<' :: rest =>
    let (name, rest) ← readGroupName rest
    return .named name rest
  | '?' :: rest =>
    let (changed, switched, rest) ← flags.read? true [] rest
    match rest with
    | ':' :: rest => return .withFlags changed rest
    | ')' :: rest => if switched then return .switch changed rest else none
    | _ => none
  | rest => return .unnamed rest

/-- The digits at the start of a text, blanks between them skipped, at most `fuel` of them. -/
def takeDigits (ignoreBlanks : Bool) : Nat → List Char → List Char × List Char
  | fuel + 1, c :: rest =>
    if c.isDigit then
      let (digits, rest) := takeDigits ignoreBlanks fuel (skip ignoreBlanks rest)
      (c :: digits, rest)
    else ([], c :: rest)
  | _, text => ([], text)

/-- Drops white space and, where blanks are ignored, comments between pieces of it, at most `fuel`
times. -/
def dropSpace (ignoreBlanks : Bool) : Nat → List Char → List Char
  | fuel + 1, c :: rest =>
    if Unicode.isWhiteSpace c then dropSpace ignoreBlanks fuel (skip ignoreBlanks rest)
    else c :: rest
  | _, text => text

/-- Reads a number of rounds below `2 ^ 32`, white space around it allowed. -/
def readCount (ignoreBlanks : Bool) (text : List Char) : Option (Nat × List Char) :=
  let (digits, rest) := takeDigits ignoreBlanks text.length (text.dropWhile Unicode.isWhiteSpace)
  let count := Nat.ofDigitChars 10 digits 0
  if digits = [] ∨ UInt32.size ≤ count then none
  else some (count, dropSpace ignoreBlanks rest.length rest)

/-- Reads the numbers of rounds after an opening brace, up to the closing one. -/
def readCounts (ignoreBlanks : Bool) (text : List Char) :
    Option (Nat × Option Nat × List Char) := do
  let (least, rest) ← readCount ignoreBlanks (skip ignoreBlanks text)
  match rest with
  | '\x7d' :: rest => return (least, some least, rest)
  | ',' :: rest =>
    match skip ignoreBlanks rest with
    | '\x7d' :: rest => return (least, none, rest)
    | rest =>
      let (most, rest) ← readCount ignoreBlanks rest
      match rest with
      | '\x7d' :: rest => if least ≤ most then return (least, some most, rest) else none
      | _ => none
  | _ => none

/-- The part with a repetition put on it. -/
def Part.repeated? (part : Part) (flags : Flags) (least : Nat) (most : Option Nat) (lazy : Bool) :
    Option Part :=
  if part.isSwitch then none
  else some ⟨.repeatOf least most (lazy == flags.swapGreed) part.node, part.depth + 1, false⟩

/-- Reads the question mark that makes a repetition prefer few rounds. -/
def readLazy : List Char → Bool × List Char
  | '?' :: rest => (true, rest)
  | text => (false, text)

/-- Reads the repetition sign `c`, where `parts` holds the parts read so far, the last one first. -/
def readRepetition (flags : Flags) (c : Char) (parts : List Part) (rest : List Char) :
    Option (List Part × List Char) := do
  match parts with
  | [] => none
  | last :: others =>
    if c = '\x7b' then
      let (least, most, rest) ← readCounts flags.ignoreBlanks rest
      let (lazy, rest) := readLazy (skip flags.ignoreBlanks rest)
      let part ← last.repeated? flags least most lazy
      return (part :: others, rest)
    else
      let (lazy, rest) := readLazy rest
      let least := if c = '+' then 1 else 0
      let most := if c = '?' then some 1 else none
      let part ← last.repeated? flags least most lazy
      return (part :: others, rest)

/-- Whether a character is a repetition sign. -/
def isRepetition (c : Char) : Bool :=
  c = '*' || c = '+' || c = '?' || c = '\x7b'

/-- Several parts as one, made by `join`. -/
def joined (join : List Node → Node) (parts : List Part) : Part :=
  let depth := (parts.map (·.depth)).foldl max 0
  ⟨join (parts.map (·.node)), if 2 ≤ parts.length then depth + 1 else depth, false⟩

/-- The state of the reader inside a group: finished alternatives and the parts of the current one,
last ones first, and the names of the groups read so far. -/
structure Frame where
  alternatives : List Part
  parts : List Part
  names : List String

/-- The group's contents as one part. -/
def Frame.close (frame : Frame) : Part :=
  joined Node.altOf ((joined Node.seqOf frame.parts.reverse :: frame.alternatives).reverse)

/-- The frame with a part added to the current alternative. -/
def Frame.push (frame : Frame) (node : Node) (depth : Nat) (isSwitch : Bool) : Frame :=
  { frame with parts := ⟨node, depth, isSwitch⟩ :: frame.parts }

/-- What was read of a group: its contents, the names of the groups read so far, and the text from
the closing parenthesis on. -/
structure Contents where
  part : Part
  names : List String
  rest : List Char

/-- Reads the contents of a group up to its closing parenthesis or the end of the text. -/
def readContents : Nat → Flags → Frame → List Char → Option Contents
  | 0, _, _, _ => none
  | fuel + 1, flags, frame, text =>
    match skip flags.ignoreBlanks text with
    | [] => some ⟨frame.close, frame.names, []⟩
    | ')' :: rest => some ⟨frame.close, frame.names, ')' :: rest⟩
    | '|' :: rest =>
      readContents fuel flags
        ⟨joined Node.seqOf frame.parts.reverse :: frame.alternatives, [], frame.names⟩ rest
    | '(' :: rest =>
      let inside (flags : Flags) (names : List String) (rest : List Char)
          (wrap : Node → Node) : Option (Frame × List Char) :=
        match readContents fuel flags ⟨[], [], names⟩ rest with
        | some ⟨part, names, ')' :: rest⟩ =>
          some ({ frame with names := names }.push (wrap part.node) (part.depth + 1) false, rest)
        | _ => none
      match readOpening flags rest with
      | none => none
      | some (.switch changed rest) =>
        readContents fuel changed (frame.push .empty 0 true) rest
      | some (.withFlags changed rest) =>
        match inside changed frame.names rest id with
        | some (frame, rest) => readContents fuel flags frame rest
        | none => none
      | some (.unnamed rest) =>
        match inside flags frame.names rest id with
        | some (frame, rest) => readContents fuel flags frame rest
        | none => none
      | some (.named name rest) =>
        if name ∈ frame.names then none
        else
          match inside flags (name :: frame.names) rest (.group name) with
          | some (frame, rest) => readContents fuel flags frame rest
          | none => none
    | '[' :: rest =>
      match Bracket.read flags rest with
      | some result => readContents fuel flags (frame.push (.set result.set) result.depth false)
          result.rest
      | none => none
    | c :: rest =>
      if isRepetition c then
        match readRepetition flags c frame.parts rest with
        | some (parts, rest) => readContents fuel flags { frame with parts } rest
        | none => none
      else
        match Primitive.read flags.ignoreBlanks (c :: rest) with
        | none => none
        | some (primitive, rest) =>
          match primitive.node? flags with
          | some node => readContents fuel flags (frame.push node 0 false) rest
          | none => none

/-- How deep the parts of a pattern may be nested. -/
def depthLimit : Nat := 250

/-- The room that a pattern may take. -/
def weightLimit : Nat := 300000

/-- Reads a whole pattern. -/
def read? (text : List Char) : Option Node :=
  match readContents (text.length + 1) {} ⟨[], [], []⟩ text with
  | some ⟨part, _, []⟩ =>
    if part.depth ≤ depthLimit ∧ part.node.weight ≤ weightLimit then some part.node else none
  | _ => none

end Parser
end CommitChecks.Pattern
