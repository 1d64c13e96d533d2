/-!
# Decimal numerals in text

Check ids are stored on run objects as text and line numbers are read out of logs, so the library
needs one rule for numerals: an optional single plus sign, then ASCII digits and nothing else, with
a value below a bound. Leading zeros are allowed. `readBelow_eq_some_iff` says that numerals below the
bound are read and nothing else is, `readBelow_repr` that the numeral the library writes is read back.
-/

namespace CommitChecks.Decimal

/-- The digits of a numeral after its optional plus sign. -/
def unsigned : List Char → List Char
  | '+' :: digits => digits
  | digits => digits

/-- Reads a numeral whose value is below `bound`. -/
def readBelow (bound : Nat) (text : List Char) : Option Nat :=
  let digits := unsigned text
  if digits ≠ [] ∧ digits.all Char.isDigit ∧ Nat.ofDigitChars 10 digits 0 < bound then
    some (Nat.ofDigitChars 10 digits 0)
  else none

theorem unsigned_of_all_isDigit {text : List Char} (digits : text.all Char.isDigit) :
    unsigned text = text := by
  match text with
  | [] => rfl
  | first :: rest =>
    by_cases sign : first = '+'
    · subst sign; simp [Char.isDigit] at digits
    · unfold unsigned; split
      · simp_all
      · rfl

theorem all_isDigit_toDigits (n : Nat) : (Nat.toDigits 10 n).all Char.isDigit := by
  rw [List.all_eq_true]
  exact fun _ member => Nat.isDigit_of_mem_toDigits (by decide) (by decide) member

/-- The numeral of a number below the bound is read back as that number. -/
theorem readBelow_toDigits {bound n : Nat} (below : n < bound) :
    readBelow bound (Nat.toDigits 10 n) = some n := by
  simp only [readBelow, unsigned_of_all_isDigit (all_isDigit_toDigits n),
    Nat.ofDigitChars_ten_toDigits]
  exact if_pos ⟨Nat.toDigits_ne_nil, all_isDigit_toDigits n, below⟩

theorem readBelow_repr {bound n : Nat} (below : n < bound) :
    readBelow bound n.repr.toList = some n := by
  rw [Nat.toList_repr, readBelow_toDigits below]

/-- The texts that are numerals of a number: ASCII digits, with one plus sign in front at most. -/
inductive Numeral : List Char → Nat → Prop
  | unsigned {digits : List Char} (written : digits ≠ [])
      (decimal : ∀ c ∈ digits, c.isDigit = true) : Numeral digits (Nat.ofDigitChars 10 digits 0)
  | signed {digits : List Char} (written : digits ≠ [])
      (decimal : ∀ c ∈ digits, c.isDigit = true) :
      Numeral ('+' :: digits) (Nat.ofDigitChars 10 digits 0)

theorem numeral_iff {text : List Char} {n : Nat} :
    Numeral text n ↔ unsigned text ≠ [] ∧ (∀ c ∈ unsigned text, c.isDigit = true) ∧
      Nat.ofDigitChars 10 (unsigned text) 0 = n := by
  constructor
  · intro numeral
    cases numeral with
    | unsigned written decimal =>
      rw [unsigned_of_all_isDigit (List.all_eq_true.2 decimal)]
      exact ⟨written, decimal, rfl⟩
    | signed written decimal => exact ⟨written, decimal, rfl⟩
  · rintro ⟨written, decimal, rfl⟩
    revert written decimal
    unfold unsigned
    split
    · exact .signed
    · exact .unsigned

/-- A numeral is read exactly if its value is below the bound. -/
theorem readBelow_eq_some_iff {bound n : Nat} {text : List Char} :
    readBelow bound text = some n ↔ Numeral text n ∧ n < bound := by
  rw [numeral_iff]
  constructor
  · intro read
    simp only [readBelow, List.all_eq_true, Option.ite_none_right_eq_some, Option.some.injEq] at read
    obtain ⟨⟨written, decimal, below⟩, rfl⟩ := read
    exact ⟨⟨written, decimal, rfl⟩, below⟩
  · rintro ⟨⟨written, decimal, rfl⟩, below⟩
    rw [readBelow]
    exact if_pos ⟨written, List.all_eq_true.2 decimal, below⟩

/-- Reads an unsigned number of 64 bits. -/
def readUInt64 (text : List Char) : Option UInt64 :=
  (readBelow UInt64.size text).map UInt64.ofNat

/-- Reads an unsigned number of 32 bits. -/
def readUInt32 (text : List Char) : Option UInt32 :=
  (readBelow UInt32.size text).map UInt32.ofNat

theorem readUInt64_repr (n : UInt64) : readUInt64 n.toNat.repr.toList = some n := by
  rw [readUInt64, readBelow_repr n.toNat_lt_size, Option.map_some, UInt64.ofNat_toNat]

theorem readUInt32_eq_some_iff {n : UInt32} {text : List Char} :
    readUInt32 text = some n ↔ Numeral text n.toNat := by
  constructor
  · intro read
    obtain ⟨value, inBounds, rfl⟩ := Option.map_eq_some_iff.1 read
    obtain ⟨numeral, below⟩ := readBelow_eq_some_iff.1 inBounds
    rw [UInt32.toNat_ofNat_of_lt' below]
    exact numeral
  · intro numeral
    have inBounds : readBelow UInt32.size text = some n.toNat :=
      readBelow_eq_some_iff.2 ⟨numeral, n.toNat_lt_size⟩
    rw [readUInt32, inBounds, Option.map_some, UInt32.ofNat_toNat]

end CommitChecks.Decimal
