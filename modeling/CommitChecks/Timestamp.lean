/-!
# Timestamps

A moment is given by whole seconds since the start of 1970 in universal time and a fraction in
nanoseconds. During a leap second, which follows the last second of a minute, the fraction runs
beyond one second. Moments lie in the years from -262143 to 262142 of the Gregorian calendar.
-/

namespace CommitChecks

/-- A moment in universal time. -/
structure Timestamp where
  seconds : Int
  nanoseconds : Nat
  seconds_bounds : -8334601228800 ≤ seconds ∧ seconds ≤ 8210266876799
  nanoseconds_lt : nanoseconds < 1000000000 ∨ (nanoseconds < 2000000000 ∧ seconds % 60 = 59)
  deriving DecidableEq

namespace Timestamp

/-- The start of 1970. -/
def epoch : Timestamp :=
  ⟨0, 0, by decide, by decide⟩

/-- The moment of that many seconds and nanoseconds, if it exists. -/
def of? (seconds : Int) (nanoseconds : Nat) : Option Timestamp :=
  if bounds : -8334601228800 ≤ seconds ∧ seconds ≤ 8210266876799 then
    if fraction : nanoseconds < 1000000000 ∨ (nanoseconds < 2000000000 ∧ seconds % 60 = 59) then
      some ⟨seconds, nanoseconds, bounds, fraction⟩
    else none
  else none

/-- The number of seconds in a day. -/
def secondsPerDay : Int := 86400

/-- The second of the day. -/
def secondOfDay (moment : Timestamp) : Int :=
  moment.seconds % secondsPerDay

/-- The number of days since the start of 1970. -/
def day (moment : Timestamp) : Int :=
  moment.seconds / secondsPerDay

/-- Whether the moment falls into a leap second. -/
def isLeap (moment : Timestamp) : Bool :=
  1000000000 ≤ moment.nanoseconds

/-- The nanoseconds from one moment to another. A leap second that lies between the two times of day
is counted. -/
def nanosecondsUntil (start finish : Timestamp) : Int :=
  let leap : Int :=
    if start.secondOfDay < finish.secondOfDay ∧ start.isLeap then 1
    else if finish.secondOfDay < start.secondOfDay ∧ finish.isLeap then -1
    else 0
  (finish.seconds - start.seconds + leap) * 1000000000 + (finish.nanoseconds - start.nanoseconds)

/-- The whole seconds from one moment to another, none if the other one comes first. -/
def secondsUntil (start finish : Timestamp) : Nat :=
  (Int.tdiv (start.nanosecondsUntil finish) 1000000000).toNat

/-- A numeral with leading zeros up to a width. -/
def padded (width n : Nat) : String :=
  let digits := Nat.toDigits 10 n
  String.ofList (List.replicate (width - digits.length) '0' ++ digits)

/-- Year, month and day of a day that is given by its distance from the start of 1970. The years are
counted from March, so that the leap day comes last. -/
def civil (day : Int) : Int × Nat × Nat :=
  let shifted := day + 719468
  let era := shifted / 146097
  let dayOfEra := (shifted % 146097).toNat
  let yearOfEra := (dayOfEra - dayOfEra / 1460 + dayOfEra / 36524 - dayOfEra / 146096) / 365
  let dayOfYear := dayOfEra - (365 * yearOfEra + yearOfEra / 4 - yearOfEra / 100)
  let monthIndex := (5 * dayOfYear + 2) / 153
  let dayOfMonth := dayOfYear - (153 * monthIndex + 2) / 5 + 1
  let month := if monthIndex < 10 then monthIndex + 3 else monthIndex - 9
  let year : Int := era * 400 + yearOfEra
  (if month ≤ 2 then year + 1 else year, month, dayOfMonth)

/-- A year with four digits at least, and with a sign outside the years 0 to 9999. -/
def yearText (year : Int) : String :=
  if year < 0 then "-" ++ padded 4 year.natAbs
  else if year ≤ 9999 then padded 4 year.natAbs
  else "+" ++ padded 4 year.natAbs

/-- The digits of a fraction of a second: none, three, six or nine. -/
def fractionText (nanoseconds : Nat) : String :=
  if nanoseconds = 0 then ""
  else if nanoseconds % 1000000 = 0 then "." ++ padded 3 (nanoseconds / 1000000)
  else if nanoseconds % 1000 = 0 then "." ++ padded 6 (nanoseconds / 1000)
  else "." ++ padded 9 nanoseconds

/-- The moment as messages to the hosting service write it. -/
def text (moment : Timestamp) : String :=
  let (year, month, day) := civil moment.day
  let time := moment.secondOfDay.toNat
  let second := time % 60 + (if moment.isLeap then 1 else 0)
  let nanoseconds :=
    if moment.isLeap then moment.nanoseconds - 1000000000 else moment.nanoseconds
  yearText year ++ "-" ++ padded 2 month ++ "-" ++ padded 2 day ++ "T" ++
    padded 2 (time / 3600) ++ ":" ++ padded 2 (time / 60 % 60) ++ ":" ++ padded 2 second ++
    fractionText nanoseconds ++ "Z"

end Timestamp
end CommitChecks
