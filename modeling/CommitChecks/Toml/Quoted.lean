import CommitChecks.Unicode.RangeTable

/-!
# Quoted texts

Texts between double quotes have escapes, texts between single quotes have none. Three quotes open a
text of several lines: a line end right after them is dropped, a backslash at the end of a line
drops all blanks up to the next character, and one or two quotes may stand next to the closing ones.
-/

namespace CommitChecks.Toml

/-- Whether a character may stand in a text or a comment. -/
def isPlain (c : Char) : Bool :=
  c = '\t' || (0x20 ≤ c.toNat && c.toNat ≠ 0x7F)

/-- The character that a letter after a backslash stands for. -/
def escaped? : Char → Option Char
  | 'b' => some '\x08'
  | 't' => some '\t'
  | 'n' => some '\n'
  | 'f' => some '\x0c'
  | 'r' => some '\r'
  | 'e' => some '\x1b'
  | '"' => some '"'
  | '\\' => some '\\'
  | _ => none

/-- The number of hexadecimal digits after a letter after a backslash. -/
def codeLength? : Char → Option Nat
  | 'x' => some 2
  | 'u' => some 4
  | 'U' => some 8
  | _ => none

/-- Reads a character that is written as `count` hexadecimal digits. -/
def readCode (count : Nat) (text : List Char) : Option Char :=
  let digits := text.take count
  if digits.length = count then
    match digits.foldlM (fun value c => (Unicode.hexValue? c).map (value * 16 + ·)) 0 with
    | some code => if code.isValidChar then some (Char.ofNat code) else none
    | none => none
  else none

/-- The text after a line end, if one stands at its start. -/
def lineEnd? : List Char → Option (List Char)
  | '\n' :: rest => some rest
  | '\r' :: '\n' :: rest => some rest
  | _ => none

/-- Whether a character is a blank within a line. -/
def isBlank (c : Char) : Bool :=
  c = ' ' || c = '\t'

/-- Drops blanks and line ends. -/
def dropBlankLines : List Char → List Char
  | '\r' :: '\n' :: rest => dropBlankLines rest
  | c :: rest => if isBlank c || c = '\n' then dropBlankLines rest else c :: rest
  | [] => []

/-- Reads a text of one line after its opening quote, at most `fuel` characters of it; `reversed`
holds what has been read. -/
def readLine (quote : Char) (reversed : List Char) :
    Nat → List Char → Option (String × List Char)
  | 0, _ => none
  | _ + 1, [] => none
  | fuel + 1, c :: rest =>
    if c = quote then some (String.ofList reversed.reverse, rest)
    else if c = '\\' ∧ quote = '"' then
      match rest with
      | [] => none
      | letter :: rest =>
        match escaped? letter, codeLength? letter with
        | some plain, _ => readLine quote (plain :: reversed) fuel rest
        | none, some count =>
          match readCode count rest with
          | some plain => readLine quote (plain :: reversed) fuel (rest.drop count)
          | none => none
        | none, none => none
    else if isPlain c then readLine quote (c :: reversed) fuel rest
    else none

/-- The quotes at the start of a text, at most five of them. -/
def leadingQuotes (quote : Char) (text : List Char) : Nat :=
  ((text.take 5).takeWhile (· = quote)).length

/-- Reads a text of several lines after its opening quotes, at most `fuel` characters of it. -/
def readLines (quote : Char) (reversed : List Char) :
    Nat → List Char → Option (String × List Char)
  | 0, _ => none
  | _ + 1, [] => none
  | fuel + 1, c :: rest =>
    if c = quote then
      let quotes := leadingQuotes quote (c :: rest)
      if 3 ≤ quotes then
        some (String.ofList (reversed.reverse ++ List.replicate (quotes - 3) quote),
          (c :: rest).drop quotes)
      else readLines quote (c :: reversed) fuel rest
    else if c = '\\' ∧ quote = '"' then
      match lineEnd? (rest.dropWhile isBlank) with
      | some rest => readLines quote reversed fuel (dropBlankLines rest)
      | none =>
        match rest with
        | [] => none
        | letter :: rest =>
          match escaped? letter, codeLength? letter with
          | some plain, _ => readLines quote (plain :: reversed) fuel rest
          | none, some count =>
            match readCode count rest with
            | some plain => readLines quote (plain :: reversed) fuel (rest.drop count)
            | none => none
          | none, none => none
    else
      match lineEnd? (c :: rest) with
      | some rest => readLines quote ('\n' :: reversed) fuel rest
      | none => if isPlain c then readLines quote (c :: reversed) fuel rest else none

/-- Reads a quoted text that starts with the given quote. -/
def readQuoted (quote : Char) (text : List Char) : Option (String × List Char) :=
  if text.take 3 = [quote, quote, quote] then
    let body := text.drop 3
    readLines quote [] text.length ((lineEnd? body).getD body)
  else readLine quote [] text.length (text.drop 1)

/-- Reads a quoted text that may serve as a key, that is, one of a single line. -/
def readQuotedKey (quote : Char) (text : List Char) : Option (String × List Char) :=
  if text.take 3 = [quote, quote, quote] then none
  else readLine quote [] text.length (text.drop 1)

end CommitChecks.Toml
