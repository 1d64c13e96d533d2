import CommitChecks.Document.DecodeError

/-!
# Reading typed data out of documents

A decoder turns a document into data or says why it cannot. A record with known fields may be
written as a record, whose entries are visited in their order and whose first fault is reported, or
as a list of its fields in their declared order. Fields that are absent are looked for last.
-/

namespace CommitChecks

/-- Reads data out of a document written in a dialect. -/
abbrev Decoder (α : Type) := Dialect → Value → Except DecodeError α

namespace Decoder

/-- The complaint that a value is of the wrong type. An integer that fits no word is complained
about as such. -/
def wrongType (dialect : Dialect) (value : Value) (expected : String) : DecodeError :=
  match value with
  | .int n =>
    if Found.isWideWord n then .invalidType (Found.ofValue dialect value) expected
    else .integerOverflow
  | _ => .invalidType (Found.ofValue dialect value) expected

/-- Reads a text. -/
def text : Decoder String
  | _, .str value => .ok value
  | dialect, value => .error (wrongType dialect value "a string")

/-- Reads a truth value. -/
def boolean : Decoder Bool
  | _, .bool value => .ok value
  | dialect, value => .error (wrongType dialect value "a boolean")

/-- Reads an integer from `low` up to, not including, `high`. -/
def integer (low high : Int) (expected : String) : Decoder Int
  | dialect, .int value =>
    if Found.isWord value then
      if low ≤ value ∧ value < high then .ok value
      else .error (.invalidValue (.integer value) expected)
    else .error (wrongType dialect (.int value) expected)
  | dialect, value => .error (wrongType dialect value expected)

/-- Reads an unsigned integer of 64 bits; `expected` is the name of its role. -/
def word (expected : String) : Decoder UInt64 := fun dialect value =>
  (integer 0 (Int.pow 2 64) expected dialect value).map fun n => UInt64.ofNat n.toNat

/-- Reads an unsigned integer of 64 bits. -/
def uint64 : Decoder UInt64 :=
  word "u64"

/-- Reads a signed integer of 64 bits. -/
def int64 : Decoder Int64 := fun dialect value =>
  (integer (-Int.pow 2 63) (Int.pow 2 63) "i64" dialect value).map Int64.ofInt

/-- Reads a value that may be null. -/
def optional {α : Type} (decode : Decoder α) : Decoder (Option α)
  | _, .null => .ok none
  | dialect, value => (decode dialect value).map some

/-- Reads every item of a list. -/
def items {α : Type} (decode : Decoder α) (dialect : Dialect) :
    List Value → Except DecodeError (List α)
  | [] => .ok []
  | value :: rest => do
    let first ← decode dialect value
    let others ← items decode dialect rest
    return first :: others

/-- Reads a list. -/
def list {α : Type} (decode : Decoder α) : Decoder (List α)
  | dialect, .list values => items decode dialect values
  | dialect, value => .error (wrongType dialect value "a sequence")

/-- Reads the values of all entries of a record. -/
def entries {α : Type} (decode : Decoder α) (dialect : Dialect) :
    List (String × Value) → Except DecodeError (List (String × α))
  | [] => .ok []
  | (key, value) :: rest => do
    let first ← decode dialect value
    let others ← entries decode dialect rest
    return (key, first) :: others

/-- Reads a record whose keys are free and whose values are alike. -/
def map {α : Type} (decode : Decoder α) : Decoder (List (String × α)) := fun dialect value =>
  match value.entries? with
  | some pairs => entries decode dialect pairs
  | none => .error (wrongType dialect value "a map")

/-- Reads a name that stands for one of several values, checking what comes with it. -/
def variantNamed {α : Type} (variants : List (String × α)) (name : String) :
    Except DecodeError α :=
  match variants.lookup name with
  | some value => .ok value
  | none => .error (.unknownVariant name (variants.map Prod.fst))

/-- Whether a value may come with the name of a variant that carries nothing. -/
def isEmptyPayload : Dialect → Value → Bool
  | .json, .null => true
  | .toml, .record [] => true
  | .toml, .list [] => true
  | _, _ => false

/-- Reads one of several names, written as text or as a record of one entry that carries nothing. -/
def variant {α : Type} (variants : List (String × α)) : Decoder α
  | _, .str name => variantNamed variants name
  | dialect, .record [(name, payload)] => do
    let value ← variantNamed variants name
    if isEmptyPayload dialect payload then return value
    else match dialect with
      | .json => .error (wrongType .json payload "unit")
      | .toml => .error .malformedVariant
  | .json, .record _ => .error (.invalidValue .map "map with a single key")
  | .json, value => .error (wrongType .json value "string or map")
  | .toml, _ => .error .malformedVariant

end Decoder

/-- A field of a record: how it is read into the draft of the record, and whether the list form of
the record may end before it. -/
structure Field (Draft : Type) where
  name : String
  mayBeCutOff : Bool
  read : Dialect → Value → Except DecodeError (Draft → Draft)

/-- A field whose value is put into the draft by `put`. -/
def Field.of {Draft α : Type} (name : String) (mayBeCutOff : Bool) (decode : Decoder α)
    (put : α → Draft → Draft) : Field Draft :=
  ⟨name, mayBeCutOff, fun dialect value => (decode dialect value).map put⟩

/-- A record with known fields. A strict one refuses other fields, a lenient one ignores them. -/
structure RecordShape (Draft α : Type) where
  name : String
  strict : Bool
  fields : List (Field Draft)
  start : Draft
  finish : Draft → Except DecodeError α

namespace RecordShape

variable {Draft α : Type}

/-- The names of the fields in their declared order. -/
def fieldNames (shape : RecordShape Draft α) : List String :=
  shape.fields.map (·.name)

/-- The field of that name. -/
def field? (shape : RecordShape Draft α) (name : String) : Option (Field Draft) :=
  shape.fields.find? (·.name = name)

/-- Reads entries into a draft in their order, where `seen` lists the fields already read. -/
def readEntries (shape : RecordShape Draft α) (dialect : Dialect) (seen : List String)
    (draft : Draft) : List (String × Value) → Except DecodeError Draft
  | [] => .ok draft
  | (key, value) :: rest =>
    match shape.field? key with
    | none =>
      if shape.strict then .error (.unknownField key shape.fieldNames)
      else readEntries shape dialect seen draft rest
    | some field =>
      if key ∈ seen then .error (.duplicateField key)
      else do
        let put ← field.read dialect value
        readEntries shape dialect (key :: seen) (put draft) rest

/-- Reads a list of values into the fields in their declared order, `index` values after the
first. -/
def readItems (shape : RecordShape Draft α) (dialect : Dialect) (index : Nat) (draft : Draft) :
    List (Field Draft) → List Value → Except DecodeError Draft
  | [], _ => .ok draft
  | field :: fields, [] =>
    if field.mayBeCutOff then readItems shape dialect (index + 1) draft fields []
    else .error (.tooShort index s!"struct {shape.name}" shape.fields.length)
  | field :: fields, value :: values => do
    let put ← field.read dialect value
    readItems shape dialect (index + 1) (put draft) fields values

/-- Reads a record. -/
def decode (shape : RecordShape Draft α) : Decoder α := fun dialect value =>
  match value.entries?, value with
  | some entries, _ => do
    let draft ← shape.readEntries dialect [] shape.start entries
    shape.finish draft
  | none, .list values => do
    let draft ← shape.readItems dialect 0 shape.start shape.fields values
    if dialect = .json ∧ shape.fields.length < values.length then .error (.tooLong values.length)
    else shape.finish draft
  | none, other => .error (Decoder.wrongType dialect other s!"struct {shape.name}")

/-- A field that has to be given. -/
def required {β : Type} (name : String) : Option β → Except DecodeError β
  | some value => .ok value
  | none => .error (.missingField name)

end RecordShape
end CommitChecks
