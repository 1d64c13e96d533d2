import CommitChecks.Document.Value
import CommitChecks.Text.Quoted

/-!
# Complaints of a reader of documents

Every way in which a document can fail to be what a reader expects, and the sentence that says so.
The sentence names what was found, what was expected, and the names that would have been accepted.
-/

namespace CommitChecks

/-- The notation a document was written in. -/
inductive Dialect where
  | json
  | toml
  deriving DecidableEq

/-- What a reader found in place of what it expected. -/
inductive Found where
  | null
  | boolean (value : Bool)
  | integer (value : Int)
  | wideInteger (value : Int)
  | float (text : String)
  | text (value : String)
  | sequence
  | map
  deriving DecidableEq

namespace Found

/-- The integers that fit a signed or an unsigned word of 64 bits. -/
def isWord (n : Int) : Bool :=
  -Int.pow 2 63 ≤ n && n < Int.pow 2 64

/-- The integers that fit a signed or an unsigned word of 128 bits. -/
def isWideWord (n : Int) : Bool :=
  -Int.pow 2 127 ≤ n && n < Int.pow 2 128

/-- What a value counts as when it was not expected. -/
def ofValue (dialect : Dialect) : Value → Found
  | .null => null
  | .bool value => boolean value
  | .int value => if isWord value then integer value else wideInteger value
  | .float value => float (match dialect with | .json => value.compact | .toml => value.plain)
  | .str value => text value
  | .list _ => sequence
  | .record _ => map
  | .date _ => map

/-- The words for what was found. -/
def message : Found → String
  | null => "null"
  | boolean value => s!"boolean `{value}`"
  | integer value => s!"integer `{value}`"
  | wideInteger value => s!"integer `{value}` as " ++ (if value < Int.pow 2 127 then "i128" else "u128")
  | float digits => s!"floating point `{digits}`"
  | text value => "string " ++ Quoted.encode value
  | sequence => "sequence"
  | map => "map"

end Found

/-- Why a document was refused. -/
inductive DecodeError where
  | invalidType (found : Found) (expected : String)
  | invalidValue (found : Found) (expected : String)
  | tooShort (length : Nat) (expected : String) (size : Nat)
  | tooLong (length : Nat)
  | missingField (name : String)
  | duplicateField (name : String)
  | unknownField (name : String) (known : List String)
  | unknownVariant (name : String) (known : List String)
  | malformedVariant
  | noVariantMatches (type : String)
  | integerOverflow
  deriving DecidableEq

namespace DecodeError

/-- A name between grave accents. -/
def ticked (name : String) : String :=
  s!"`{name}`"

/-- The names that would have been accepted. -/
def expectedNames (none : String) : List String → String
  | [] => none
  | [only] => s!"expected {ticked only}"
  | [first, second] => s!"expected {ticked first} or {ticked second}"
  | names => "expected one of " ++ ", ".intercalate (names.map ticked)

/-- The complaint as a sentence. -/
def message : DecodeError → String
  | invalidType found expected => s!"invalid type: {found.message}, expected {expected}"
  | invalidValue found expected => s!"invalid value: {found.message}, expected {expected}"
  | tooShort length expected size =>
    let elements := if size = 1 then "element" else "elements"
    s!"invalid length {length}, expected {expected} with {size} {elements}"
  | tooLong length => s!"invalid length {length}, expected fewer elements in array"
  | missingField name => s!"missing field {ticked name}"
  | duplicateField name => s!"duplicate field {ticked name}"
  | unknownField name known =>
    s!"unknown field {ticked name}, " ++ expectedNames "there are no fields" known
  | unknownVariant name known =>
    s!"unknown variant {ticked name}, " ++ expectedNames "there are no variants" known
  | malformedVariant => "wanted string or table"
  | integerOverflow => "integer number overflowed"
  | noVariantMatches type => s!"data did not match any variant of untagged enum {type}"

end DecodeError
end CommitChecks
