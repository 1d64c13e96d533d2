import CommitChecks.Document.Value
import CommitChecks.Unicode.RangeTable

/-!
# Reading JSON

A JSON text is read into a document. Numbers without a fraction or an exponent that fit a word of 64
bits are integers, all others are doubles, and so is a negative zero. Records keep their entries as
written. Lists and records may be nested 127 deep.
-/

namespace CommitChecks.Json

/-- The characters that may stand between the parts of a text. -/
def isBlank (c : Char) : Bool :=
  c = ' ' || c = '\t' || c = '\n' || c = '\r'

/-- The text after its leading blanks. -/
def skipBlanks (text : List Char) : List Char :=
  text.dropWhile isBlank

/-- The character that a backslash and a letter stand for. -/
def escaped? : Char → Option Char
  | '"' => some '"'
  | '\\' => some '\\'
  | '/' => some '/'
  | 'b' => some '\x08'
  | 'f' => some '\x0c'
  | 'n' => some '\n'
  | 'r' => some '\r'
  | 't' => some '\t'
  | _ => none

/-- The number that four hexadecimal digits write. -/
def hex4? (a b c d : Char) : Option Nat := do
  let a ← Unicode.hexValue? a
  let b ← Unicode.hexValue? b
  let c ← Unicode.hexValue? c
  let d ← Unicode.hexValue? d
  return ((a * 16 + b) * 16 + c) * 16 + d

/-- Whether a code unit is the first half of a surrogate pair. -/
def isHighSurrogate (unit : Nat) : Bool :=
  0xD800 ≤ unit && unit < 0xDC00

/-- Whether a code unit is the second half of a surrogate pair. -/
def isLowSurrogate (unit : Nat) : Bool :=
  0xDC00 ≤ unit && unit < 0xE000

/-- The character that a surrogate pair stands for. -/
def surrogatePair (high low : Nat) : Char :=
  Char.ofNat (0x10000 + (high - 0xD800) * 0x400 + (low - 0xDC00))

/-- Reads the rest of a quoted text, where `reversed` holds what has been read of it. -/
def readQuoted (reversed : List Char) : List Char → Option (String × List Char)
  | '"' :: rest => some (String.ofList reversed.reverse, rest)
  | '\\' :: 'u' :: a :: b :: c :: d :: '\\' :: 'u' :: e :: f :: g :: h :: rest =>
    match hex4? a b c d with
    | none => none
    | some unit =>
      if isHighSurrogate unit then
        match hex4? e f g h with
        | none => none
        | some low =>
          if isLowSurrogate low then readQuoted (surrogatePair unit low :: reversed) rest
          else none
      else if isLowSurrogate unit then none
      else readQuoted (Char.ofNat unit :: reversed) ('\\' :: 'u' :: e :: f :: g :: h :: rest)
  | '\\' :: 'u' :: a :: b :: c :: d :: rest =>
    match hex4? a b c d with
    | none => none
    | some unit =>
      if isHighSurrogate unit || isLowSurrogate unit then none
      else readQuoted (Char.ofNat unit :: reversed) rest
  | '\\' :: c :: rest =>
    match escaped? c with
    | none => none
    | some plain => readQuoted (plain :: reversed) rest
  | c :: rest => if c.toNat < 0x20 then none else readQuoted (c :: reversed) rest
  | [] => none

/-- The digits at the start of a text, and what follows them. -/
def takeDigits (text : List Char) : List Char × List Char :=
  (text.takeWhile Char.isDigit, text.dropWhile Char.isDigit)

/-- Reads the digits of a fraction, if there is one. -/
def readFraction : List Char → Option (List Char × List Char)
  | '.' :: rest =>
    let (digits, rest) := takeDigits rest
    if digits = [] then none else some (digits, rest)
  | text => some ([], text)

/-- Reads the digits of an exponent, with their sign. -/
def readExponentDigits (negative : Bool) (text : List Char) : Option (Int × List Char) :=
  let (digits, rest) := takeDigits text
  let size : Int := Nat.ofDigitChars 10 digits 0
  if digits = [] then none else some (if negative then -size else size, rest)

/-- Reads an exponent, if there is one. -/
def readExponent : List Char → Option (Option Int × List Char)
  | c :: rest =>
    if c = 'e' ∨ c = 'E' then
      let read := match rest with
        | '-' :: rest => readExponentDigits true rest
        | '+' :: rest => readExponentDigits false rest
        | rest => readExponentDigits false rest
      read.map fun (exponent, rest) => (some exponent, rest)
    else some (none, c :: rest)
  | [] => some (none, [])

/-- The value of a numeral without fraction and exponent. -/
def integerValue (negative : Bool) (size : Nat) : Value :=
  if negative then
    if 0 < size ∧ size ≤ Nat.pow 2 63 then .int (-size) else .float (.ofScientific true size 0)
  else if size < UInt64.size then .int size
  else .float (.ofScientific false size 0)

/-- The double a numeral stands for, if it is in range. -/
def floatValue? (negative : Bool) (digits : Nat) (exponent : Int) : Option Value :=
  match Real64.ofScientific negative digits exponent with
  | .infinite _ => none
  | value => some (.float value)

/-- Reads a number after its sign. -/
def readUnsigned (negative : Bool) (text : List Char) : Option (Value × List Char) := do
  let (whole, rest) := takeDigits text
  if whole = [] ∨ (whole.head? = some '0' ∧ 1 < whole.length) then none
  else
    let (fraction, rest) ← readFraction rest
    let (exponent, rest) ← readExponent rest
    if fraction = [] ∧ exponent = none then
      return (integerValue negative (Nat.ofDigitChars 10 whole 0), rest)
    else
      let digits := Nat.ofDigitChars 10 (whole ++ fraction) 0
      let value ← floatValue? negative digits (exponent.getD 0 - fraction.length)
      return (value, rest)

/-- Reads a number. -/
def readNumber : List Char → Option (Value × List Char)
  | '-' :: rest => readUnsigned true rest
  | text => readUnsigned false text

/-- Reads the items of a list up to its closing bracket, at most `fuel` of them. -/
def readItems (read : List Char → Option (Value × List Char)) :
    Nat → List Char → Option (List Value × List Char)
  | 0, _ => none
  | fuel + 1, text => do
    let (item, rest) ← read text
    match skipBlanks rest with
    | ',' :: rest =>
      let (items, rest) ← readItems read fuel rest
      return (item :: items, rest)
    | ']' :: rest => return ([item], rest)
    | _ => none

/-- Reads the key of an entry and the colon after it. -/
def readKey (text : List Char) : Option (String × List Char) :=
  match skipBlanks text with
  | '"' :: rest => do
    let (key, rest) ← readQuoted [] rest
    match skipBlanks rest with
    | ':' :: rest => return (key, rest)
    | _ => none
  | _ => none

/-- Reads the entries of a record up to its closing brace, at most `fuel` of them. -/
def readEntries (read : List Char → Option (Value × List Char)) :
    Nat → List Char → Option (List (String × Value) × List Char)
  | 0, _ => none
  | fuel + 1, text => do
    let (key, rest) ← readKey text
    let (value, rest) ← read rest
    match skipBlanks rest with
    | ',' :: rest =>
      let (entries, rest) ← readEntries read fuel rest
      return ((key, value) :: entries, rest)
    | '\x7d' :: rest => return ([(key, value)], rest)
    | _ => none

/-- Reads a value whose lists and records are nested at most `depth` deep. -/
def readValue : Nat → List Char → Option (Value × List Char)
  | depth, text =>
    match skipBlanks text with
    | 'n' :: 'u' :: 'l' :: 'l' :: rest => some (.null, rest)
    | 't' :: 'r' :: 'u' :: 'e' :: rest => some (.bool true, rest)
    | 'f' :: 'a' :: 'l' :: 's' :: 'e' :: rest => some (.bool false, rest)
    | '"' :: rest => (readQuoted [] rest).map fun (text, rest) => (.str text, rest)
    | '[' :: rest =>
      match depth with
      | 0 => none
      | depth + 1 =>
        match skipBlanks rest with
        | ']' :: rest => some (.list [], rest)
        | rest =>
          (readItems (readValue depth) rest.length rest).map fun (items, rest) =>
            (.list items, rest)
    | '\x7b' :: rest =>
      match depth with
      | 0 => none
      | depth + 1 =>
        match skipBlanks rest with
        | '\x7d' :: rest => some (.record [], rest)
        | rest =>
          (readEntries (readValue depth) rest.length rest).map fun (entries, rest) =>
            (.record entries, rest)
    | rest => readNumber rest

/-- How deep lists and records may be nested. -/
def depthLimit : Nat := 127

/-- Reads a whole text. -/
def read? (text : String) : Option Value :=
  match readValue depthLimit text.toList with
  | some (value, rest) => if skipBlanks rest = [] then some value else none
  | none => none

end CommitChecks.Json
