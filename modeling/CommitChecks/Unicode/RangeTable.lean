/-!
# Tables of character ranges

The classes of the Unicode standard are long lists of code point ranges. A table is written down in
lines of text, hexadecimal code points or `first-last` pairs in ascending order separated by blanks,
which keeps it short enough to be checked against the standard; a class that is asked about often is
read into an array once and searched by halving.
-/

namespace CommitChecks.Unicode

/-- Whether a character is ASCII. The tables are not asked about such characters. -/
def isAscii (c : Char) : Bool :=
  c.toNat < 0x80

/-- The value of a hexadecimal digit. -/
def hexValue? (c : Char) : Option Nat :=
  if '0' ≤ c ∧ c ≤ '9' then some (c.toNat - '0'.toNat)
  else if 'A' ≤ c ∧ c ≤ 'F' then some (c.toNat - 'A'.toNat + 10)
  else if 'a' ≤ c ∧ c ≤ 'f' then some (c.toNat - 'a'.toNat + 10)
  else none

/-- What has been read of a line: the finished ranges, last one first, and the range under way. -/
structure TableReader where
  finished : List (Nat × Nat)
  first : Option Nat
  current : Nat

namespace TableReader

/-- Closes the range under way. -/
def close (reader : TableReader) : TableReader :=
  ⟨(reader.first.getD reader.current, reader.current) :: reader.finished, none, 0⟩

/-- Reads one character of a line. -/
def step (reader : TableReader) (c : Char) : TableReader :=
  if c = ' ' then reader.close
  else if c = '-' then { reader with first := some reader.current, current := 0 }
  else { reader with current := reader.current * 16 + (hexValue? c).getD 0 }

end TableReader

/-- The ranges that a line of a table lists. -/
def rangesOfLine (line : String) : List (Nat × Nat) :=
  (line.toList.foldl TableReader.step ⟨[], none, 0⟩).close.finished.reverse

/-- The ranges that the lines of a table list. -/
def rangesOfLines (lines : List String) : List (Nat × Nat) :=
  lines.flatMap rangesOfLine

/-- A class of code points as an array of ascending ranges. -/
structure RangeTable where
  ranges : Array (Nat × Nat)

namespace RangeTable

/-- The table that some lines list. -/
def ofLines (lines : List String) : RangeTable :=
  ⟨(rangesOfLines lines).toArray⟩

/-- Whether a range between the positions `low` and `high` holds the code point. -/
def containsBetween (ranges : Array (Nat × Nat)) (code low high : Nat) : Bool :=
  if low < high then
    let middle := (low + high) / 2
    match ranges[middle]? with
    | none => false
    | some (first, last) =>
      if code < first then containsBetween ranges code low middle
      else if last < code then containsBetween ranges code (middle + 1) high
      else true
  else false
termination_by high - low

/-- Whether the table holds the character. -/
def contains (table : RangeTable) (c : Char) : Bool :=
  containsBetween table.ranges c.toNat 0 table.ranges.size

end RangeTable

/-- A class of characters with the names it goes by, in lower case and without separators. -/
structure NamedClass where
  names : List String
  lines : List String

/-- The class of that name in a list of classes. -/
def NamedClass.find? (classes : List NamedClass) (name : String) : Option NamedClass :=
  classes.find? (·.names.contains name)

/-- The ranges of a class. -/
def NamedClass.ranges (named : NamedClass) : List (Nat × Nat) :=
  rangesOfLines named.lines

end CommitChecks.Unicode
