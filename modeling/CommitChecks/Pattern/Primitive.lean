import CommitChecks.Pattern.Flags

/-!
# Single characters and escapes

The smallest parts of a pattern: a character that stands for itself, a dot, the marks for line ends,
and everything that starts with a backslash. When blanks are ignored they may also stand inside an
escape.
-/

namespace CommitChecks.Pattern

/-- The smallest part of a pattern. A character is a byte if it was written by two hexadecimal
digits. -/
inductive Primitive where
  | literal (c : Char) (isByte : Bool)
  | dot
  | lineStart
  | lineEnd
  | look (question : Bool → Look)
  | letterSet (name : LetterSet) (negated : Bool)
  | named (set : CharSet) (negated : Bool)

/-- Drops a comment up to and including its line feed. -/
def dropComment (text : List Char) : List Char :=
  (text.dropWhile (· ≠ '\n')).drop 1

theorem length_dropComment_le (text : List Char) : (dropComment text).length ≤ text.length :=
  Nat.le_trans (List.length_drop ▸ Nat.sub_le ..)
    (List.dropWhile_suffix _).sublist.length_le

/-- Drops leading blanks and comments if they are ignored. -/
def skip (ignoreBlanks : Bool) : List Char → List Char
  | [] => []
  | c :: rest =>
    if !ignoreBlanks then c :: rest
    else if Unicode.isWhiteSpace c then skip ignoreBlanks rest
    else if c = '#' then
      have : (dropComment rest).length < rest.length + 1 :=
        Nat.lt_succ_of_le (length_dropComment_le rest)
      skip ignoreBlanks (dropComment rest)
    else c :: rest
termination_by text => text.length

namespace Primitive

/-- The value of some hexadecimal digits. -/
def hexNumber? (digits : List Char) : Option Nat :=
  digits.foldlM (fun value c => (Unicode.hexValue? c).map (value * 16 + ·)) 0

/-- The character of a code point. -/
def charOfCode? (code : Nat) : Option Char :=
  if code.isValidChar then some (Char.ofNat code) else none

/-- Reads `count` hexadecimal digits, blanks between them skipped. -/
def takeHex (ignoreBlanks : Bool) : Nat → List Char → Option (List Char × List Char)
  | 0, text => some ([], text)
  | count + 1, c :: rest => do
    let (digits, rest) ← takeHex ignoreBlanks count (skip ignoreBlanks rest)
    return (c :: digits, rest)
  | _ + 1, [] => none

/-- Reads characters up to a closing brace, at most `fuel` of them, blanks between them skipped. -/
def takeBraced (ignoreBlanks : Bool) : Nat → List Char → Option (List Char × List Char)
  | 0, _ => none
  | fuel + 1, text =>
    match skip ignoreBlanks text with
    | [] => none
    | '\x7d' :: rest => some ([], rest)
    | c :: rest => (takeBraced ignoreBlanks fuel rest).map fun (chars, rest) => (c :: chars, rest)

/-- Reads a character written in hexadecimal: `count` digits, or any number of them in braces. -/
def readHex (ignoreBlanks : Bool) (count : Nat) (text : List Char) :
    Option (Primitive × List Char) := do
  match skip ignoreBlanks text with
  | '\x7b' :: rest =>
    let (digits, rest) ← takeBraced ignoreBlanks rest.length rest
    let code ← if digits = [] then none else hexNumber? digits
    let c ← charOfCode? code
    return (literal c false, skip ignoreBlanks rest)
  | text =>
    let (digits, rest) ← takeHex ignoreBlanks count text
    let code ← hexNumber? digits
    let c ← charOfCode? code
    return (literal c (count = 2), rest)

/-- The text before and after the first place where a word stands. -/
def splitAtWord (word : List Char) : List Char → Option (List Char × List Char)
  | [] => none
  | c :: rest =>
    if word.isPrefixOf (c :: rest) then some ([], (c :: rest).drop word.length)
    else (splitAtWord word rest).map fun (before, after) => (c :: before, after)

/-- The set of a class name in braces: a name, or a kind and a name with a sign between them. -/
def bracedSet? (negated : Bool) (text : List Char) : Option Primitive :=
  let known (kind name : List Char) (negated : Bool) :=
    (NamedSet.ofKindAndName? (String.ofList kind) (String.ofList name)).map (named · negated)
  match splitAtWord ['!', '='] text with
  | some (kind, name) => known kind name (!negated)
  | none =>
    match splitAtWord [':'] text with
    | some (kind, name) => known kind name negated
    | none =>
      match splitAtWord ['='] text with
      | some (kind, name) => known kind name negated
      | none => (NamedSet.ofName? (String.ofList text)).map (named · negated)

/-- Reads the name of a Unicode class: one letter, or a name in braces. -/
def readNamed (ignoreBlanks negated : Bool) (text : List Char) :
    Option (Primitive × List Char) := do
  match skip ignoreBlanks text with
  | [] => none
  | '\x7b' :: rest =>
    let (name, rest) ← takeBraced ignoreBlanks rest.length rest
    let set ← bracedSet? negated name
    return (set, rest)
  | '\\' :: _ => none
  | c :: rest =>
    let set ← NamedSet.ofName? (String.ofList [c])
    return (named set negated, skip ignoreBlanks rest)

/-- Whether a character may stand in the name of a question about words. -/
def isLookNameChar (c : Char) : Bool :=
  c.isAlpha || c = '-'

/-- Reads the name of a question about words up to its closing brace, at most `fuel` characters. -/
def takeLookName (ignoreBlanks : Bool) : Nat → List Char → Option (List Char × List Char)
  | 0, _ => none
  | _ + 1, [] => none
  | fuel + 1, c :: rest =>
    if c = '\x7d' then some ([], rest)
    else if isLookNameChar c then
      (takeLookName ignoreBlanks fuel (skip ignoreBlanks rest)).map fun (name, rest) =>
        (c :: name, rest)
    else none

/-- The questions about words that have a name. -/
def namedLooks : List (String × (Bool → Look)) :=
  [("start", .wordStart), ("end", .wordEnd), ("start-half", .wordStartHalf),
    ("end-half", .wordEndHalf)]

/-- Reads what follows a `b` after a backslash: the name of a question about words in braces, or
nothing, in which case the question is whether a word starts or ends. -/
def readWordBoundary (ignoreBlanks : Bool) : List Char → Option (Primitive × List Char)
  | '\x7b' :: rest =>
    match skip ignoreBlanks rest with
    | [] => none
    | c :: inner =>
      if isLookNameChar c then do
        let (name, rest) ← takeLookName ignoreBlanks (inner.length + 1) (c :: inner)
        let question ← namedLooks.lookup (String.ofList name)
        return (look question, rest)
      else some (look .wordBoundary, '\x7b' :: rest)
  | text => some (look .wordBoundary, text)

/-- Whether a character stands for itself after a backslash. -/
def isEscapable (c : Char) : Bool :=
  c.toNat < 0x80 && !c.isAlphanum && c != '<' && c != '>'

/-- Reads what follows a backslash. -/
def readEscape (ignoreBlanks : Bool) : List Char → Option (Primitive × List Char)
  | [] => none
  | c :: rest =>
    if c.isDigit then none
    else if isEscapable c then some (literal c false, rest)
    else match c with
      | 'x' => readHex ignoreBlanks 2 rest
      | 'u' => readHex ignoreBlanks 4 rest
      | 'U' => readHex ignoreBlanks 8 rest
      | 'p' => readNamed ignoreBlanks false rest
      | 'P' => readNamed ignoreBlanks true rest
      | 'd' => some (letterSet .digit false, rest)
      | 'D' => some (letterSet .digit true, rest)
      | 's' => some (letterSet .blank false, rest)
      | 'S' => some (letterSet .blank true, rest)
      | 'w' => some (letterSet .word false, rest)
      | 'W' => some (letterSet .word true, rest)
      | 'a' => some (literal '\x07' false, rest)
      | 'f' => some (literal '\x0c' false, rest)
      | 't' => some (literal '\t' false, rest)
      | 'n' => some (literal '\n' false, rest)
      | 'r' => some (literal '\r' false, rest)
      | 'v' => some (literal '\x0b' false, rest)
      | 'A' => some (look fun _ => .textStart, rest)
      | 'z' => some (look fun _ => .textEnd, rest)
      | 'b' => readWordBoundary ignoreBlanks rest
      | 'B' => some (look .noWordBoundary, rest)
      | '<' => some (look .wordStart, rest)
      | '>' => some (look .wordEnd, rest)
      | _ => none

/-- Reads a part outside of brackets. -/
def read (ignoreBlanks : Bool) : List Char → Option (Primitive × List Char)
  | [] => none
  | '\\' :: rest => readEscape ignoreBlanks rest
  | '.' :: rest => some (dot, rest)
  | '^' :: rest => some (lineStart, rest)
  | '$' :: rest => some (lineEnd, rest)
  | c :: rest => some (literal c false, rest)

/-- Whether a character can be meant. Without Unicode a byte above ASCII would be part of a
character, which is refused. -/
def isWhole (flags : Flags) (c : Char) (isByte : Bool) : Bool :=
  flags.unicode || !isByte || c.toNat < 0x80

/-- What a part matches under some flags. -/
def node? (flags : Flags) : Primitive → Option Node
  | literal c isByte =>
    if !isWhole flags c isByte then none
    else if flags.unicode || c.toNat < 0x80 then some (.set (flags.fold (.single c)))
    else some (.set (.single c))
  | dot => flags.dot?.map .set
  | lineStart => some (.look flags.startOfLine)
  | lineEnd => some (.look flags.endOfLine)
  | look question => some (.look (question flags.unicode))
  | letterSet name negated =>
    (flags.negateIf? negated (NamedSet.ofLetter flags.unicode name)).map .set
  | named set negated =>
    if flags.unicode then (flags.foldAndNegate? negated set).map .set else none

end Primitive
end CommitChecks.Pattern
