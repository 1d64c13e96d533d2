import CommitChecks.Document.Value

/-!
# Tables under construction

While a document is read, its tables grow: headers open them and dotted keys create them on the way.
A table may be defined once. One that so far exists only because of a header below it may still get
its own header; one that dotted keys created may be extended by dotted keys alone.
-/

namespace CommitChecks.Toml

/-- What a key holds while a document is read: a finished value, a table, or a list of tables. A
table is implicit until it has a header of its own, and dotted if dotted keys created it. -/
inductive Item where
  | value (value : Value)
  | table (implicit dotted : Bool) (entries : List (String × Item))
  | tables (rows : List (List (String × Item)))

/-- A table. -/
structure Table where
  implicit : Bool
  dotted : Bool
  entries : List (String × Item)

namespace Table

/-- A table with a header of its own and nothing in it. -/
def opened : Table :=
  ⟨false, false, []⟩

/-- The table as what a key holds. -/
def toItem (table : Table) : Item :=
  .table table.implicit table.dotted table.entries

end Table

/-- Changes what a key holds, or adds the key at the end. -/
def alter (key : String) (change : Option Item → Option Item) :
    List (String × Item) → Option (List (String × Item))
  | [] => (change none).map fun item => [(key, item)]
  | (other, item) :: rest =>
    if other = key then (change (some item)).map fun item => (other, item) :: rest
    else (alter key change rest).map fun rest => (other, item) :: rest

/-- Changes the last one of some rows. -/
def alterLast (change : List (String × Item) → Option (List (String × Item))) :
    List (List (String × Item)) → Option (List (List (String × Item)))
  | [] => none
  | [row] => (change row).map fun row => [row]
  | row :: rest => (alterLast change rest).map fun rest => row :: rest

/-- Follows a path of keys down from a table, creating implicit tables on the way, and changes the
table at its end. A path of dotted keys does not pass through tables that have a header. -/
def descend (dotted : Bool) (change : Table → Option Table) : List String → Table → Option Table
  | [], table => change table
  | key :: path, table =>
    let entries := alter key (fun
      | none => (descend dotted change path ⟨true, dotted, []⟩).map Table.toItem
      | some (.value _) => none
      | some (.tables rows) =>
        (alterLast (fun row =>
          (descend dotted change path ⟨false, false, row⟩).map Table.entries) rows).map .tables
      | some (.table implicit wasDotted entries) =>
        if dotted ∧ !implicit then none
        else (descend dotted change path ⟨implicit, wasDotted, entries⟩).map Table.toItem)
      table.entries
    entries.map fun entries => { table with entries := entries }

/-- Adds a value under a new key. -/
def addEntry (key : String) (value : Value) (isDotted : Bool) (table : Table) : Option Table :=
  if table.dotted ≠ isDotted then none
  else
    (alter key (fun
      | none => some (.value value)
      | some _ => none) table.entries).map fun entries => { table with entries := entries }

/-- Adds a value under a path of keys. -/
def addValue (path : List String) (key : String) (value : Value) (table : Table) : Option Table :=
  descend true (addEntry key value (!path.isEmpty)) path table

/-- Opens the table of a header. -/
def openTable (path : List String) (key : String) (root : Table) : Option Table :=
  descend false (fun table =>
    (alter key (fun
      | none => some Table.opened.toItem
      | some (.table true false entries) => some (.table false false entries)
      | some _ => none) table.entries).map fun entries => { table with entries := entries })
    path root

/-- Opens a further row of a list of tables. -/
def openRow (path : List String) (key : String) (root : Table) : Option Table :=
  descend false (fun table =>
    (alter key (fun
      | none => some (.tables [[]])
      | some (.tables rows) => some (.tables (rows ++ [[]]))
      | some _ => none) table.entries).map fun entries => { table with entries := entries })
    path root

mutual

/-- The finished value of what a key holds. -/
def Item.toValue : Item → Value
  | .value value => value
  | .table _ _ entries => .record (entriesToValues entries)
  | .tables rows => .list (rowsToValues rows)

/-- The finished values of entries. -/
def entriesToValues : List (String × Item) → List (String × Value)
  | [] => []
  | (key, item) :: rest => (key, item.toValue) :: entriesToValues rest

/-- The finished values of rows. -/
def rowsToValues : List (List (String × Item)) → List Value
  | [] => []
  | row :: rest => .record (entriesToValues row) :: rowsToValues rest

end

/-- The finished value of a table. -/
def Table.toValue (table : Table) : Value :=
  .record (entriesToValues table.entries)

end CommitChecks.Toml
