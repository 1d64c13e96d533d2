import CommitChecks.Document.Value

/-!
# Writing JSON

A document is written without blanks, the entries of a record in their order. Quotes, backslashes
and control characters are escaped, and so are the characters that some readers take for a line end.
-/

namespace CommitChecks.Json

/-- A hexadecimal digit. -/
def hexDigit (n : Nat) : Char :=
  Nat.digitChar (n % 16)

/-- A character as a Unicode escape. -/
def escapeCode (c : Char) : List Char :=
  let n := c.toNat
  ['\\', 'u', hexDigit (n / 4096), hexDigit (n / 256), hexDigit (n / 16), hexDigit n]

/-- Whether a character is written as a Unicode escape. -/
def needsCode (c : Char) : Bool :=
  c.toNat < 0x20 || c.toNat = 0x85 || c.toNat = 0x2028 || c.toNat = 0x2029

/-- A character as it stands in a quoted text. -/
def quoteChar (c : Char) : List Char :=
  if c = '"' then ['\\', '"']
  else if c = '\\' then ['\\', '\\']
  else if c = '\n' then ['\\', 'n']
  else if c = '\r' then ['\\', 'r']
  else if c = '\t' then ['\\', 't']
  else if needsCode c then escapeCode c
  else [c]

/-- A quoted text. -/
def quote (text : String) : List Char :=
  '"' :: text.toList.flatMap quoteChar ++ ['"']

mutual

/-- The characters of a written document. -/
def write : Value → List Char
  | .null => ['n', 'u', 'l', 'l']
  | .bool true => ['t', 'r', 'u', 'e']
  | .bool false => ['f', 'a', 'l', 's', 'e']
  | .int value => value.repr.toList
  | .float value => value.compact.toList
  | .str value => quote value
  | .date text => quote text
  | .list items => '[' :: writeItems items ++ [']']
  | .record entries => '\x7b' :: writeEntries entries ++ ['\x7d']

/-- The items of a list, separated by commas. -/
def writeItems : List Value → List Char
  | [] => []
  | [item] => write item
  | item :: next :: rest => write item ++ ',' :: writeItems (next :: rest)

/-- The entries of a record, separated by commas. -/
def writeEntries : List (String × Value) → List Char
  | [] => []
  | [(key, value)] => quote key ++ ':' :: write value
  | (key, value) :: next :: rest =>
    quote key ++ ':' :: write value ++ ',' :: writeEntries (next :: rest)

end

/-- The text of a document. -/
def render (value : Value) : String :=
  String.ofList (write value)

end CommitChecks.Json
