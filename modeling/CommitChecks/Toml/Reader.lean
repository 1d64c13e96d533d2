import CommitChecks.Toml.Quoted
import CommitChecks.Toml.Scalar
import CommitChecks.Toml.Table

/-!
# Reading TOML

A document is a list of lines, each of which is empty, opens a table, or gives a value to a key.
Lists and inline tables may run over several lines, hold comments, and end in a comma.
-/

namespace CommitChecks.Toml

/-- Drops the blanks at the start of a text. -/
def dropBlanks (text : List Char) : List Char :=
  text.dropWhile isBlank

/-- Whether a character may stand in a key without quotes. -/
def isBareKeyChar (c : Char) : Bool :=
  c.isAlphanum || c = '_' || c = '-'

/-- Reads one part of a key. -/
def readKeyPart (text : List Char) : Option (String × List Char) :=
  match text with
  | '"' :: _ => readQuotedKey '"' text
  | '\'' :: _ => readQuotedKey '\'' text
  | _ =>
    let bare := text.takeWhile isBareKeyChar
    if bare = [] then none else some (String.ofList bare, text.dropWhile isBareKeyChar)

/-- Reads a key of at most `fuel` parts with dots between them, and the blanks around it. -/
def readKey : Nat → List Char → Option (List String × String × List Char)
  | 0, _ => none
  | fuel + 1, text =>
    match readKeyPart (dropBlanks text) with
    | none => none
    | some (part, rest) =>
      match dropBlanks rest with
      | '.' :: rest =>
        (readKey fuel rest).map fun (path, key, rest) => (part :: path, key, rest)
      | rest => some ([], part, rest)

/-- Drops a comment, if there is one; a comment holds no control characters. -/
def dropComment : List Char → Option (List Char)
  | '#' :: rest => dropPlain rest
  | text => some text
where
  /-- Drops characters up to the end of the line. -/
  dropPlain : List Char → Option (List Char)
    | [] => some []
    | '\n' :: rest => some ('\n' :: rest)
    | '\r' :: '\n' :: rest => some ('\r' :: '\n' :: rest)
    | c :: rest => if isPlain c then dropPlain rest else none

/-- Drops blanks, line ends and comments, at most `fuel` times. -/
def dropTrivia : Nat → List Char → Option (List Char)
  | 0, text => some text
  | fuel + 1, text =>
    match dropBlanks text with
    | '#' :: rest =>
      match dropComment ('#' :: rest) with
      | some rest => dropTrivia fuel rest
      | none => none
    | rest =>
      match lineEnd? rest with
      | some rest => dropTrivia fuel rest
      | none => some rest

/-- Whether a character may stand in a value without quotes. -/
def isScalarChar (c : Char) : Bool :=
  c.isAlphanum || c = '_' || c = '-' || c = '+' || c = '.' || c = ':'

/-- The characters of a value without quotes, and what follows them. A blank between a date and a
time belongs to the value. -/
def takeScalar (text : List Char) : List Char × List Char :=
  let word := text.takeWhile isScalarChar
  let rest := text.dropWhile isScalarChar
  match rest with
  | ' ' :: c :: after =>
    if c.isDigit ∧ skipDate word = some [] then
      (word ++ ' ' :: (c :: after).takeWhile isScalarChar, (c :: after).dropWhile isScalarChar)
    else (word, rest)
  | _ => (word, rest)

mutual

/-- Reads a value. -/
def readValue : Nat → List Char → Option (Value × List Char)
  | 0, _ => none
  | fuel + 1, text =>
    match text with
    | '"' :: _ => (readQuoted '"' text).map fun (text, rest) => (.str text, rest)
    | '\'' :: _ => (readQuoted '\'' text).map fun (text, rest) => (.str text, rest)
    | '[' :: rest => (readItems fuel rest).map fun (items, rest) => (.list items, rest)
    | '\x7b' :: rest =>
      (readEntries fuel Table.opened rest).map fun (table, rest) => (table.toValue, rest)
    | _ =>
      let (word, rest) := takeScalar text
      (readScalar word).map fun value => (value, rest)

/-- Reads the items of a list up to its closing bracket. -/
def readItems : Nat → List Char → Option (List Value × List Char)
  | 0, _ => none
  | fuel + 1, text =>
    match dropTrivia text.length text with
    | none => none
    | some (']' :: rest) => some ([], rest)
    | some text =>
      match readValue fuel text with
      | none => none
      | some (item, rest) =>
        match dropTrivia rest.length rest with
        | some (',' :: rest) =>
          (readItems fuel rest).map fun (items, rest) => (item :: items, rest)
        | some (']' :: rest) => some ([item], rest)
        | _ => none

/-- Reads the entries of an inline table up to its closing brace into a table. -/
def readEntries : Nat → Table → List Char → Option (Table × List Char)
  | 0, _, _ => none
  | fuel + 1, table, text =>
    match dropTrivia text.length text with
    | none => none
    | some ('\x7d' :: rest) => some (table, rest)
    | some text =>
      match readKey text.length text with
      | some (path, key, '=' :: rest) =>
        match readValue fuel (dropBlanks rest) with
        | none => none
        | some (value, rest) =>
          match addValue path key value table with
          | none => none
          | some table =>
            match dropTrivia rest.length rest with
            | some (',' :: rest) => readEntries fuel table rest
            | some ('\x7d' :: rest) => some (table, rest)
            | _ => none
      | _ => none

end

/-- A document under way: its tables, and the path to the table of the last header. -/
structure Draft where
  root : Table := Table.opened
  path : List String := []

/-- Reads the header of a table, or of a row of a list of tables. -/
def readHeader (draft : Draft) (text : List Char) : Option (Draft × List Char) :=
  match text with
  | '[' :: rest =>
    match readKey rest.length rest with
    | some (path, key, ']' :: ']' :: rest) =>
      (openRow path key draft.root).map fun root => (⟨root, path ++ [key]⟩, rest)
    | _ => none
  | rest =>
    match readKey rest.length rest with
    | some (path, key, ']' :: rest) =>
      (openTable path key draft.root).map fun root => (⟨root, path ++ [key]⟩, rest)
    | _ => none

/-- Reads a key and its value. -/
def readEntry (draft : Draft) (text : List Char) : Option (Draft × List Char) :=
  match readKey text.length text with
  | some (path, key, '=' :: rest) =>
    match readValue (2 * text.length + 2) (dropBlanks rest) with
    | some (value, rest) =>
      (descend false (addValue path key value) draft.path draft.root).map fun root =>
        ({ draft with root := root }, rest)
    | none => none
  | _ => none

/-- Reads one line, without its end. -/
def readLineContent (draft : Draft) (text : List Char) : Option (Draft × List Char) :=
  match text with
  | [] => some (draft, [])
  | '#' :: _ => some (draft, text)
  | '\n' :: _ => some (draft, text)
  | '\r' :: _ => some (draft, text)
  | '[' :: rest => readHeader draft rest
  | _ => readEntry draft text

/-- Reads lines up to the end of the text, at most `fuel` of them. -/
def readLinesFrom : Nat → Draft → List Char → Option Draft
  | 0, _, _ => none
  | fuel + 1, draft, text =>
    match readLineContent draft (dropBlanks text) with
    | none => none
    | some (draft, rest) =>
      match dropComment (dropBlanks rest) with
      | none => none
      | some [] => some draft
      | some rest =>
        match lineEnd? rest with
        | some rest => readLinesFrom fuel draft rest
        | none => none

/-- A text without the mark of its byte order. -/
def withoutMark : List Char → List Char
  | '\ufeff' :: rest => rest
  | text => text

/-- Reads a whole document. -/
def read? (text : String) : Option Value :=
  let chars := withoutMark text.toList
  (readLinesFrom (chars.length + 1) {} chars).map fun draft => draft.root.toValue

end CommitChecks.Toml
