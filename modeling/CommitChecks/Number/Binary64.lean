/-!
# Doubles as exact fractions

A number in a document is kept to the precision of a 64-bit float. A positive double is a
significand below `2 ^ 53` times a power of two; the one nearest to a decimal numeral is found in
exact arithmetic, a tie going to the even significand.
-/

namespace CommitChecks

/-- A positive finite double, `significand * 2 ^ exponent`. -/
structure Binary64 where
  significand : Nat
  exponent : Int
  deriving DecidableEq

namespace Binary64

/-- The least exponent, that of the subnormal doubles. -/
def leastExponent : Int := -1074

/-- The greatest exponent. -/
def greatestExponent : Int := 971

/-- The numerator and denominator of `n * base ^ e`. -/
def scaled (n base : Nat) (e : Int) : Nat × Nat :=
  if 0 ≤ e then (n * Nat.pow base e.toNat, 1) else (n, Nat.pow base (-e).toNat)

/-- The quotient rounded to the nearest whole number, a tie to the even one. -/
def roundDiv (numerator denominator : Nat) : Nat :=
  let quotient := numerator / denominator
  let twice := 2 * (numerator % denominator)
  if denominator < twice ∨ (twice = denominator ∧ quotient % 2 = 1) then quotient + 1 else quotient

/-- The significand for an exponent, before it is brought into range. -/
def significandAt (numerator denominator : Nat) (exponent : Int) : Nat :=
  if 0 ≤ exponent then roundDiv numerator (denominator * Nat.pow 2 exponent.toNat)
  else roundDiv (numerator * Nat.pow 2 (-exponent).toNat) denominator

/-- The exponent at which a fraction has a significand of at most 53 binary digits. -/
def exponentOf (numerator denominator : Nat) : Int :=
  let guess : Int := Nat.log2 numerator - Nat.log2 denominator - 53
  let truncated :=
    if 0 ≤ guess then numerator / (denominator * Nat.pow 2 guess.toNat)
    else numerator * Nat.pow 2 (-guess).toNat / denominator
  max leastExponent (if Nat.pow 2 53 ≤ truncated then guess + 1 else guess)

/-- The double nearest to a positive fraction; `none` when it is beyond the greatest double, and a
significand of zero when it is nearer to zero than to the least double. -/
def nearest (numerator denominator : Nat) : Option Binary64 :=
  let exponent := exponentOf numerator denominator
  let significand := significandAt numerator denominator exponent
  let (significand, exponent) :=
    if significand = Nat.pow 2 53 then (Nat.pow 2 52, exponent + 1) else (significand, exponent)
  if greatestExponent < exponent then none else some ⟨significand, exponent⟩

end Binary64
end CommitChecks
