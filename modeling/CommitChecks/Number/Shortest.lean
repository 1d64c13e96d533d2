import CommitChecks.Number.Binary64

/-!
# Shortest decimals

The text of a double uses the fewest digits that read back as it, and of several such decimals the
one nearest to it. The reals that read back as a double form an interval around it, whose ends
belong to it when its significand is even. For one digit, two digits and so on, the two neighbours
of the double on that decimal grid are tested against the interval; the first grid with a hit wins.
-/

namespace CommitChecks

/-- A number of a document: not a number, an infinity, or the shortest decimal of a double,
`digits * 10 ^ exponent` with a sign. -/
inductive Real64 where
  | nan
  | infinite (negative : Bool)
  | finite (negative : Bool) (digits : Nat) (exponent : Int)
  deriving DecidableEq

namespace Binary64

/-- Four times the double and the ends of its interval, over a common denominator: the lower end,
the double and the upper end as numerators, and the denominator. -/
def interval (x : Binary64) : Nat × Nat × Nat × Nat :=
  let (unit, denominator) := scaled 1 2 x.exponent
  let below := if x.significand = Nat.pow 2 52 ∧ leastExponent < x.exponent then 1 else 2
  ((4 * x.significand - below) * unit, 4 * x.significand * unit, (4 * x.significand + 2) * unit,
    4 * denominator)

/-- Whether the decimal `digits * 10 ^ exponent` reads back as the double. -/
def readsBack (x : Binary64) (digits : Nat) (exponent : Int) : Bool :=
  let (lower, _, upper, denominator) := x.interval
  let (numerator, tenths) := scaled digits 10 exponent
  let left := numerator * denominator
  if x.significand % 2 = 0 then lower * tenths ≤ left && left ≤ upper * tenths
  else lower * tenths < left && left < upper * tenths

/-- The neighbours of the double on the grid of multiples of `10 ^ exponent`, nearer one first. -/
def neighbours (x : Binary64) (exponent : Int) : List Nat :=
  let (_, value, _, denominator) := x.interval
  let (step, tenths) := scaled 1 10 exponent
  let numerator := value * tenths
  let grid := denominator * step
  let low := numerator / grid
  let twice := 2 * (numerator % grid)
  if twice < grid ∨ (twice = grid ∧ low % 2 = 0) then [low, low + 1] else [low + 1, low]

/-- The exponent of the first digit of the double: the greatest power of ten that is not above
it. -/
def firstDigitExponent (x : Binary64) : Int :=
  let (_, value, _, denominator) := x.interval
  if denominator ≤ value then (Nat.toDigits 10 (value / denominator)).length - 1
  else
    let up := (denominator + value - 1) / value
    let guess : Int := -((Nat.toDigits 10 up).length : Int)
    let (numerator, tenths) := scaled 1 10 (guess + 1)
    if numerator * denominator ≤ value * tenths then guess + 1 else guess

/-- The first decimal of at most `digits` digits more that reads back. -/
def shortestFrom (x : Binary64) (exponent : Int) : Nat → Nat × Int
  | 0 => ((x.neighbours exponent).headD 0, exponent)
  | more + 1 =>
    match (x.neighbours exponent).find? (x.readsBack · exponent) with
    | some digits => (digits, exponent)
    | none => shortestFrom x (exponent - 1) more

/-- Drops the trailing zeros of a decimal, at most `fuel` of them. -/
def dropZeros (digits : Nat) (exponent : Int) : Nat → Nat × Int
  | 0 => (digits, exponent)
  | fuel + 1 =>
    if digits ≠ 0 ∧ digits % 10 = 0 then dropZeros (digits / 10) (exponent + 1) fuel
    else (digits, exponent)

/-- The shortest decimal of a double. -/
def shortest (x : Binary64) : Nat × Int :=
  let (digits, exponent) := x.shortestFrom x.firstDigitExponent 16
  dropZeros digits exponent 17

end Binary64

namespace Real64

/-- Exponents beyond this size put a numeral out of the range of doubles, or at zero, whatever its
digits. -/
def exponentLimit (digits : Nat) : Int :=
  (Nat.toDigits 10 digits).length + 400

/-- The double nearest to the numeral `digits * 10 ^ exponent`. -/
def ofScientific (negative : Bool) (digits : Nat) (exponent : Int) : Real64 :=
  if digits = 0 ∨ exponent < -exponentLimit digits then finite negative 0 0
  else if exponentLimit digits < exponent then infinite negative
  else
    let (numerator, denominator) := Binary64.scaled digits 10 exponent
    match Binary64.nearest numerator denominator with
    | none => infinite negative
    | some x =>
      if x.significand = 0 then finite negative 0 0
      else finite negative x.shortest.1 x.shortest.2

/-- The sign in front of a number's text. -/
def sign (negative : Bool) : String :=
  if negative then "-" else ""

/-- Zeros. -/
def zeros (n : Nat) : String :=
  String.ofList (List.replicate n '0')

/-- The decimal written out without an exponent, always with a point. -/
def positional (digits : Nat) (exponent : Int) : String :=
  let text := (Nat.toDigits 10 digits)
  if 0 ≤ exponent then String.ofList text ++ zeros exponent.toNat ++ ".0"
  else
    let places := (-exponent).toNat
    if places < text.length then
      String.ofList (text.take (text.length - places)) ++ "." ++
        String.ofList (text.drop (text.length - places))
    else "0." ++ zeros (places - text.length) ++ String.ofList text

/-- The text with an exponent wherever the point would stand more than sixteen digits to the right
of the first digit or more than four zeros to its left. -/
def compact : Real64 → String
  | nan => "NaN"
  | infinite negative => sign negative ++ "inf"
  | finite negative 0 _ => sign negative ++ "0.0"
  | finite negative digits exponent =>
    let text := Nat.toDigits 10 digits
    let point : Int := text.length + exponent
    if -5 < point ∧ point ≤ 16 then sign negative ++ positional digits exponent
    else
      let fraction := if text.length = 1 then "" else "." ++ String.ofList (text.drop 1)
      sign negative ++ String.ofList (text.take 1) ++ fraction ++ "e" ++ toString (point - 1)

/-- The text without an exponent. -/
def plain : Real64 → String
  | nan => "NaN"
  | infinite negative => sign negative ++ "inf"
  | finite negative 0 _ => sign negative ++ "0.0"
  | finite negative digits exponent => sign negative ++ positional digits exponent

end Real64
end CommitChecks
