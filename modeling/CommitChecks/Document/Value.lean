import CommitChecks.Document.Entries
import CommitChecks.Number.Shortest

/-!
# Document values

Settings, events, options and the messages exchanged with the hosting service are documents: null,
truth values, numbers, text, lists and records. A record keeps its entries in the order in which
they were written, repeated keys included; `sorted` gives the record that a reader sees who keeps
one value per key.
-/

namespace CommitChecks

/-- A document. -/
inductive Value where
  | null
  | bool (value : Bool)
  | int (value : Int)
  | float (value : Real64)
  | str (value : String)
  | list (items : List Value)
  | record (entries : List (String × Value))
  | date (text : String)

namespace Value

/-- The entry name under which a date shows itself to a reader that expects a record. -/
def dateKey : String := "$__toml_private_datetime"

/-- The entries of a value that can be read as a record. -/
def entries? : Value → Option (List (String × Value))
  | record entries => some entries
  | date text => some [(dateKey, str text)]
  | _ => none

mutual

/-- The value with the entries of every record in ascending order of keys, the last one of each key
kept. -/
def sorted : Value → Value
  | list items => list (sortedItems items)
  | record entries => record (sortedEntries entries [])
  | null => null
  | bool value => bool value
  | int value => int value
  | float value => float value
  | str value => str value
  | date text => date text

/-- Sorts every item of a list. -/
def sortedItems : List Value → List Value
  | [] => []
  | item :: rest => sorted item :: sortedItems rest

/-- Inserts entries into a sorted list, one after the other. -/
def sortedEntries : List (String × Value) → List (String × Value) → List (String × Value)
  | [], done => done
  | (key, value) :: rest, done => sortedEntries rest (insertEntry key (sorted value) done)

end

/-- The value of the first entry with that key. -/
def get? (value : Value) (key : String) : Option Value :=
  value.entries?.bind fun entries => entries.lookup key

/-- The value of an optional text. -/
def ofText? : Option String → Value
  | some text => str text
  | none => null

/-- The value of an optional identifier. -/
def ofId? : Option UInt64 → Value
  | some id => int id.toNat
  | none => null

end Value
end CommitChecks
