import CommitChecks.Diagnostic.Extractor

/-!
# Lines that name an error

An error line names a file, the number of a line in it, and goes on after a second colon. A reader that
cuts the line at its first two colons finds exactly these lines, and what it finds gives an annotation
if the number is one that a line can have.
-/

namespace CommitChecks

/-- Cuts a text where a run of characters is ended by another one. -/
def cutAt (inside : Char → Bool) (stop : Char) (text : List Char) : Option (List Char × List Char) :=
  match text.dropWhile inside with
  | [] => none
  | c :: rest => if c = stop then some (text.takeWhile inside, rest) else none

/-- A run that its end does not belong to is found wherever it stands. -/
theorem cutAt_eq_some_iff {inside : Char → Bool} {stop : Char} (outside : inside stop = false)
    {text run rest : List Char} :
    cutAt inside stop text = some (run, rest) ↔
      text = run ++ stop :: rest ∧ ∀ c ∈ run, inside c = true := by
  constructor
  · intro found
    unfold cutAt at found
    split at found
    · contradiction
    · rename_i c after behind
      split at found
      · rename_i ended
        cases found
        refine ⟨?_, List.all_eq_true.1 List.all_takeWhile⟩
        rw [← ended, ← behind, List.takeWhile_append_dropWhile]
      · contradiction
  · rintro ⟨rfl, members⟩
    have behind : (run ++ stop :: rest).dropWhile inside = stop :: rest := by
      rw [List.dropWhile_append_of_pos members, List.dropWhile_cons_of_neg (by simp [outside])]
    have before : (run ++ stop :: rest).takeWhile inside = run := by
      rw [List.takeWhile_append_of_pos members, List.takeWhile_cons_of_neg (by simp [outside]),
        List.append_nil]
    rw [cutAt, behind]
    simp [before]

/-- The parts of a line that names an error. -/
structure ErrorLine where
  file : List Char
  number : List Char
  rest : List Char
  deriving DecidableEq

namespace ErrorLine

/-- The line that the parts make up. -/
def text (parts : ErrorLine) : List Char :=
  parts.file ++ ':' :: (parts.number ++ ':' :: parts.rest)

/-- Whether the parts are cut at the first two colons of their line, digits between them. -/
structure Cut (parts : ErrorLine) : Prop where
  file : ':' ∉ parts.file
  numbered : parts.number ≠ []
  digits : ∀ c ∈ parts.number, c.isDigit = true

/-- The value of the number. -/
def value (parts : ErrorLine) : Nat :=
  Nat.ofDigitChars 10 parts.number 0

/-- Whether the parts name a line by a positive number of 32 bits. -/
structure Valid (parts : ErrorLine) : Prop extends parts.Cut where
  positive : 1 ≤ parts.value
  bounded : parts.value < UInt32.size

/-- The message: the rest of the line without the digits that it starts with and the spaces that follow
them. -/
def message (parts : ErrorLine) : List Char :=
  (parts.rest.dropWhile Char.isDigit).dropWhile (· = ' ')

/-- What is taken for the number of a column: the digits that the rest starts with. -/
def column (parts : ErrorLine) : List Char :=
  parts.rest.takeWhile Char.isDigit

/-- The annotation for the parts. -/
def diagnostic (parts : ErrorLine) : Diagnostic where
  path := String.ofList (Extractor.repositoryPath parts.file)
  startLine := UInt32.ofNat parts.value
  endLine := UInt32.ofNat parts.value
  level := .failure
  message := String.ofList parts.message

/-- Whether a character can stand in front of a colon that ends a run. -/
def isNoColon (c : Char) : Bool :=
  c ≠ ':'

/-- Cuts what follows the colon after a file at its next colon, if there are digits in front of that and
nothing else. -/
def readNumbered? (file text : List Char) : Option ErrorLine :=
  (cutAt Char.isDigit ':' text).bind fun (number, rest) =>
    if number = [] then none else some ⟨file, number, rest⟩

/-- Cuts a line at its first two colons, if there are digits between them and nothing else. -/
def read? (line : List Char) : Option ErrorLine :=
  (cutAt isNoColon ':' line).bind fun (file, text) => readNumbered? file text

theorem isNoColon_colon : isNoColon ':' = false := rfl

theorem isDigit_colon : Char.isDigit ':' = false := rfl

/-- The annotation that a line gives. -/
def diagnose? (line : List Char) : Option Diagnostic :=
  (read? line).bind fun parts =>
    if 1 ≤ parts.value ∧ parts.value < UInt32.size then some parts.diagnostic else none

variable {parts : ErrorLine} {line : List Char}

theorem read?_eq_some_iff : read? line = some parts ↔ parts.Cut ∧ parts.text = line := by
  simp only [read?, readNumbered?, Option.bind_eq_some_iff, Prod.exists, cutAt_eq_some_iff isNoColon_colon,
    cutAt_eq_some_iff isDigit_colon, Option.ite_none_left_eq_some, Option.some.injEq]
  constructor
  · rintro ⟨file, _, ⟨rfl, inside⟩, number, rest, ⟨rfl, digits⟩, numbered, rfl⟩
    exact ⟨⟨fun member => absurd (inside _ member) (by decide), numbered, digits⟩, rfl⟩
  · rintro ⟨cut, rfl⟩
    have inside : ∀ c ∈ parts.file, isNoColon c = true :=
      fun c member => decide_eq_true fun same : c = ':' => cut.file (same ▸ member)
    exact ⟨parts.file, _, ⟨rfl, inside⟩, parts.number, parts.rest, ⟨rfl, cut.digits⟩, cut.numbered, rfl⟩

/-- A line gives the annotation for its parts if it has any that are valid, and otherwise none. -/
theorem diagnose?_eq_some_iff {found : Diagnostic} :
    diagnose? line = some found ↔
      ∃ parts : ErrorLine, parts.Valid ∧ parts.text = line ∧ parts.diagnostic = found := by
  simp only [diagnose?, Option.bind_eq_some_iff, read?_eq_some_iff, Option.ite_none_right_eq_some,
    Option.some.injEq]
  constructor
  · rintro ⟨parts, ⟨cut, whole⟩, ⟨positive, bounded⟩, rfl⟩
    exact ⟨parts, ⟨cut, positive, bounded⟩, whole, rfl⟩
  · rintro ⟨parts, valid, whole, rfl⟩
    exact ⟨parts, ⟨valid.toCut, whole⟩, ⟨valid.positive, valid.bounded⟩, rfl⟩

theorem diagnose?_text (valid : parts.Valid) : diagnose? parts.text = some parts.diagnostic :=
  diagnose?_eq_some_iff.2 ⟨parts, valid, rfl, rfl⟩

example : diagnose? "./main.go:3:9  undefined: x".toList =
    some ⟨"main.go", 3, 3, .failure, "undefined: x"⟩ := by decide +kernel

theorem diagnose?_eq_none_iff :
    diagnose? line = none ↔ ∀ parts : ErrorLine, parts.Valid → parts.text ≠ line := by
  rw [Option.eq_none_iff_forall_ne_some]
  simp only [ne_eq, diagnose?_eq_some_iff]
  constructor
  · exact fun none parts valid whole => none _ ⟨parts, valid, whole, rfl⟩
  · rintro none found ⟨parts, valid, whole, -⟩
    exact none parts valid whole

/-! ## What groups give -/

theorem readUInt32_number (cut : parts.Cut) :
    Decimal.readUInt32 parts.number =
      if parts.value < UInt32.size then some (UInt32.ofNat parts.value) else none := by
  have digits : parts.number.all Char.isDigit = true := List.all_eq_true.2 cut.digits
  simp only [Decimal.readUInt32, Decimal.readBelow, Decimal.unsigned_of_all_isDigit digits, digits,
    true_and, ne_eq, cut.numbered, not_false_eq_true]
  change Option.map _ (if parts.value < UInt32.size then some parts.value else none) = _
  split <;> rfl

/-- Groups that match the parts of a line give their annotation, unless the number is none that a line
can have. -/
theorem diagnostic?_ofGroups (cut : parts.Cut) :
    (Extractor.ofGroups parts.file parts.number parts.message).diagnostic? =
      if 1 ≤ parts.value ∧ parts.value < UInt32.size then some parts.diagnostic else none := by
  rw [Extractor.ofGroups, readUInt32_number cut]
  by_cases below : parts.value < UInt32.size
  · have zero : UInt32.ofNat parts.value = 0 ↔ parts.value = 0 := by
      rw [← UInt32.toNat_inj, UInt32.toNat_ofNat_of_lt' below]
      rfl
    simp only [below, if_true, zero, and_true, Nat.one_le_iff_ne_zero, ite_not]
    split <;> rfl
  · simp only [below, if_false, and_false]
    rfl

end ErrorLine
end CommitChecks
