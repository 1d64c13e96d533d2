import CommitChecks.Pattern.CharSet
import CommitChecks.Unicode.CaseFold
import CommitChecks.Unicode.Category
import CommitChecks.Unicode.Property
import CommitChecks.Unicode.Script

/-!
# Sets with a name

The sets that patterns know by name: digits, blanks and word characters, the bracketed ASCII names,
and every class of the Unicode standard by property, general category or script. Names of Unicode
classes are compared without case, blanks, dashes and underscores.
-/

namespace CommitChecks.Pattern

/-- The sets that a backslash and a letter name. -/
inductive LetterSet where
  | digit
  | blank
  | word
  deriving DecidableEq

namespace NamedSet

/-- The decimal digits of all scripts. -/
def unicodeDigits : CharSet :=
  .ofRanges Unicode.decimalDigits.ranges

/-- The white space characters. -/
def unicodeBlanks : CharSet :=
  .ofRanges Unicode.whiteSpace.ranges

/-- The characters of words: letters, marks, digits, connectors and joiners. -/
def unicodeWord : CharSet :=
  .ofRanges (Unicode.alphabetic.ranges ++ Unicode.nonSpacingMarks.ranges ++
    Unicode.spacingMarks.ranges ++ Unicode.enclosingMarks.ranges ++ Unicode.decimalDigits.ranges ++
    Unicode.connectorPunctuation.ranges ++ Unicode.joinControl.ranges)

/-- The ASCII sets of the bracketed names. -/
def asciiRanges : List (String × List (Nat × Nat)) :=
  [("alnum", [(0x30, 0x39), (0x41, 0x5A), (0x61, 0x7A)]),
    ("alpha", [(0x41, 0x5A), (0x61, 0x7A)]),
    ("ascii", [(0x00, 0x7F)]),
    ("blank", [(0x09, 0x09), (0x20, 0x20)]),
    ("cntrl", [(0x00, 0x1F), (0x7F, 0x7F)]),
    ("digit", [(0x30, 0x39)]),
    ("graph", [(0x21, 0x7E)]),
    ("lower", [(0x61, 0x7A)]),
    ("print", [(0x20, 0x7E)]),
    ("punct", [(0x21, 0x2F), (0x3A, 0x40), (0x5B, 0x60), (0x7B, 0x7E)]),
    ("space", [(0x09, 0x0D), (0x20, 0x20)]),
    ("upper", [(0x41, 0x5A)]),
    ("word", [(0x30, 0x39), (0x41, 0x5A), (0x5F, 0x5F), (0x61, 0x7A)]),
    ("xdigit", [(0x30, 0x39), (0x41, 0x46), (0x61, 0x66)])]

/-- The ASCII set of a bracketed name. -/
def ascii? (name : String) : Option CharSet :=
  (asciiRanges.lookup name).map CharSet.mk

/-- The ASCII digits. -/
def asciiDigits : CharSet :=
  ⟨[(0x30, 0x39)]⟩

/-- The ASCII blanks. -/
def asciiBlanks : CharSet :=
  ⟨[(0x09, 0x0D), (0x20, 0x20)]⟩

/-- The ASCII characters of words. -/
def asciiWord : CharSet :=
  ⟨[(0x30, 0x39), (0x41, 0x5A), (0x5F, 0x5F), (0x61, 0x7A)]⟩

/-- The set that a letter names, among all characters or among ASCII. -/
def ofLetter (unicode : Bool) : LetterSet → CharSet
  | .digit => if unicode then unicodeDigits else asciiDigits
  | .blank => if unicode then unicodeBlanks else asciiBlanks
  | .word => if unicode then unicodeWord else asciiWord

/-- The letters of a name in lower case, without blanks, dashes and underscores. -/
def looseLetters (name : List Char) : List Char :=
  (name.filter fun c => c.toNat < 0x80 && !(c = ' ' || c = '_' || c = '-')).map Char.toLower

/-- A name without case, blanks, dashes and underscores, and without an `is` in front. -/
def looseName (name : String) : String :=
  match name.toList with
  | first :: second :: rest =>
    if first.toLower = 'i' ∧ second.toLower = 's' then
      let letters := looseLetters rest
      if letters = ['c'] then "isc" else String.ofList letters
    else String.ofList (looseLetters (first :: second :: rest))
  | letters => String.ofList (looseLetters letters)

/-- The set of a general category, or of a group of categories. -/
def category? (name : String) : Option CharSet :=
  if name = "any" then some .all
  else if name = "assigned" then some (.ofRanges Unicode.assignedRanges)
  else if name = "ascii" then some ⟨[(0x00, 0x7F)]⟩
  else if name = "cn" ∨ name = "unassigned" then
    some (CharSet.ofRanges Unicode.assignedRanges).negate
  else if name = "c" ∨ name = "other" then
    let without := ["cc", "cf", "cs", "co"]
    let kept := Unicode.categories.filter fun category =>
      !without.any fun member => category.names.contains member
    some (CharSet.ofRanges (kept.flatMap (·.ranges))).negate
  else match Unicode.categoryGroups.find? fun group => group.1.contains name with
    | some (_, members) =>
      some (.ofRanges (members.flatMap fun member =>
        ((Unicode.NamedClass.find? Unicode.categories member).map (·.ranges)).getD []))
    | none => (Unicode.NamedClass.find? Unicode.categories name).map fun category =>
        .ofRanges category.ranges

/-- The set of a binary property. The short names of two categories are not taken for properties of
the same name. -/
def property? (name : String) : Option CharSet :=
  if ["cf", "sc", "lc"].contains name then none
  else (Unicode.NamedClass.find? Unicode.properties name).map fun property =>
    .ofRanges property.ranges

/-- The set of a script. -/
def script? (name : String) : Option CharSet :=
  (Unicode.script? name).map fun script => .ofRanges script.own

/-- The set of a Unicode class that is known by one name. -/
def ofName? (name : String) : Option CharSet :=
  let name := looseName name
  (property? name).or ((category? name).or (script? name))

/-- The set of a Unicode class that is known by a kind and a name. -/
def ofKindAndName? (kind name : String) : Option CharSet :=
  let kind := looseName kind
  let name := looseName name
  if ["gc", "generalcategory"].contains kind then category? name
  else if ["sc", "script"].contains kind then script? name
  else if ["scx", "scriptextensions"].contains kind then
    (Unicode.script? name).map fun script => .ofRanges script.extended
  else none

/-- The set with every character that differs from one of its characters in case alone. -/
def ignoreCase (set : CharSet) : CharSet :=
  set.closeUnder Unicode.foldOrbits

/-- The ASCII letters in their two cases. -/
def asciiOrbits : List (List Nat) :=
  (List.range 26).map fun index => [0x41 + index, 0x61 + index]

/-- The set with the other case of each of its ASCII letters. -/
def ignoreAsciiCase (set : CharSet) : CharSet :=
  set.closeUnder asciiOrbits

end NamedSet
end CommitChecks.Pattern
