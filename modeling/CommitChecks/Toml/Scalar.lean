import CommitChecks.Document.Value
import CommitChecks.Unicode.RangeTable

/-!
# Numbers, dates and truth values

The values that are written without quotes or brackets. Digits may be grouped by single underscores;
integers may also be written in base 16, 8 or 2; a date, a time, or both are kept as they stand.
-/

namespace CommitChecks.Toml

/-- The value of a digit in a base up to 16. -/
def digit? (base : Nat) (c : Char) : Option Nat :=
  (Unicode.hexValue? c).filter (· < base)

/-- Reads digits of which a first one has been read, grouped by single underscores; `value` is the
value of the digits so far and `count` their number. -/
def readDigitsAfter (base value count : Nat) : List Char → Option (Nat × Nat × List Char)
  | '_' :: c :: rest =>
    match digit? base c with
    | some digit => readDigitsAfter base (value * base + digit) (count + 1) rest
    | none => none
  | c :: rest =>
    match digit? base c with
    | some digit => readDigitsAfter base (value * base + digit) (count + 1) rest
    | none => if c = '_' then none else some (value, count, c :: rest)
  | [] => some (value, count, [])

/-- Reads digits grouped by single underscores: their value, their number, and what follows. -/
def readDigits (base : Nat) : List Char → Option (Nat × Nat × List Char)
  | c :: rest =>
    match digit? base c with
    | some digit => readDigitsAfter base digit 1 rest
    | none => none
  | [] => none

/-- Reads an integer of another base than ten. -/
def readBased (base : Nat) (text : List Char) : Option Value :=
  match readDigits base text with
  | some (value, _, []) => some (.int value)
  | _ => none

/-- Reads a sign. -/
def readSign : List Char → Bool × List Char
  | '-' :: rest => (true, rest)
  | '+' :: rest => (false, rest)
  | text => (false, text)

/-- Reads the exponent of a float, up to the end of the text. -/
def readExponent (text : List Char) : Option Int :=
  let (negative, digits) := readSign text
  match readDigits 10 digits with
  | some (value, _, []) => some (if negative then -value else value)
  | _ => none

/-- The float of a numeral. One that is beyond the greatest double is refused. -/
def float? (negative : Bool) (digits : Nat) (exponent : Int) : Option Value :=
  match Real64.ofScientific negative digits exponent with
  | .infinite _ => none
  | value => some (.float value)

/-- Reads what follows the whole part of a decimal number. -/
def readAfterWhole (negative : Bool) (whole : Nat) : List Char → Option Value
  | [] => some (.int (if negative then -whole else whole))
  | '.' :: rest =>
    if ((rest.head?).bind (digit? 10)).isNone then none
    else
      match readDigitsAfter 10 whole 0 rest with
      | some (digits, count, []) => float? negative digits (-count)
      | some (digits, count, c :: exponent) =>
        if c = 'e' ∨ c = 'E' then
          (readExponent exponent).bind fun exponent => float? negative digits (exponent - count)
        else none
      | none => none
  | c :: exponent =>
    if c = 'e' ∨ c = 'E' then
      (readExponent exponent).bind fun exponent => float? negative whole exponent
    else none

/-- Reads a decimal number: no zero may stand in front of other digits. -/
def readDecimal (text : List Char) : Option Value :=
  let (negative, unsigned) := readSign text
  if unsigned = ['i', 'n', 'f'] then some (.float (.infinite negative))
  else if unsigned = ['n', 'a', 'n'] then some (.float .nan)
  else
    match readDigits 10 unsigned with
    | some (whole, count, rest) =>
      if unsigned.head? = some '0' ∧ 1 < count then none else readAfterWhole negative whole rest
    | none => none

/-- Reads a number. -/
def readNumber : List Char → Option Value
  | '0' :: 'x' :: digits => readBased 16 digits
  | '0' :: 'o' :: digits => readBased 8 digits
  | '0' :: 'b' :: digits => readBased 2 digits
  | text => readDecimal text

/-- Reads exactly `count` decimal digits. -/
def takeNumber : Nat → Nat → List Char → Option (Nat × List Char)
  | 0, value, text => some (value, text)
  | count + 1, value, c :: rest =>
    match digit? 10 c with
    | some digit => takeNumber count (value * 10 + digit) rest
    | none => none
  | _ + 1, _, [] => none

/-- The number of days of a month. -/
def daysOfMonth (year month : Nat) : Nat :=
  if month = 2 then
    if year % 4 = 0 ∧ (year % 100 ≠ 0 ∨ year % 400 = 0) then 29 else 28
  else if [4, 6, 9, 11].contains month then 30
  else 31

/-- Skips a date. -/
def skipDate (text : List Char) : Option (List Char) :=
  match takeNumber 4 0 text with
  | some (year, '-' :: rest) =>
    match takeNumber 2 0 rest with
    | some (month, '-' :: rest) =>
      match takeNumber 2 0 rest with
      | some (day, rest) =>
        if 1 ≤ month ∧ month ≤ 12 ∧ 1 ≤ day ∧ day ≤ daysOfMonth year month then some rest else none
      | none => none
    | _ => none
  | _ => none

/-- Skips a fraction of a second. -/
def skipFraction : List Char → Option (List Char)
  | '.' :: rest =>
    if (rest.takeWhile Char.isDigit) = [] then none else some (rest.dropWhile Char.isDigit)
  | text => some text

/-- Skips a time, the seconds of which may be left out. -/
def skipTime (text : List Char) : Option (List Char) :=
  match takeNumber 2 0 text with
  | some (hour, ':' :: rest) =>
    match takeNumber 2 0 rest with
    | some (minute, rest) =>
      if hour ≤ 23 ∧ minute ≤ 59 then
        match rest with
        | ':' :: rest =>
          match takeNumber 2 0 rest with
          | some (second, rest) => if second ≤ 60 then skipFraction rest else none
          | none => none
        | rest => some rest
      else none
    | none => none
  | _ => none

/-- Whether a text is empty or the distance of a time zone. -/
def isOffset : List Char → Bool
  | [] => true
  | ['Z'] => true
  | ['z'] => true
  | c :: rest =>
    if c = '+' ∨ c = '-' then
      match takeNumber 2 0 rest with
      | some (hour, ':' :: rest) =>
        match takeNumber 2 0 rest with
        | some (minute, []) => hour ≤ 23 && minute ≤ 59
        | _ => false
      | _ => false
    else false

/-- Whether a text is a date, a time, or both. -/
def isDate (text : List Char) : Bool :=
  match skipDate text with
  | some [] => true
  | some (c :: time) =>
    if c = 'T' ∨ c = 't' ∨ c = ' ' then
      match skipTime time with
      | some offset => isOffset offset
      | none => false
    else false
  | none => skipTime text = some []

/-- Reads a value that is written without quotes or brackets. -/
def readScalar (text : List Char) : Option Value :=
  if text = ['t', 'r', 'u', 'e'] then some (.bool true)
  else if text = ['f', 'a', 'l', 's', 'e'] then some (.bool false)
  else if isDate text then some (.date (String.ofList text))
  else readNumber text

end CommitChecks.Toml
