namespace Refbook
namespace Temporal

/-!
# Dates and timestamps

A date of the proleptic Gregorian calendar, years from -262143 to 262142,
and a timestamp: a date with a wall-clock time to the nanosecond.  A
nanosecond count from one to two billion marks a leap second: the time then
reads second 60.

Dates are written `YYYY-MM-DD`; a year outside 0 to 9999 carries its sign
(`-0001`, `+12345`).  Timestamps are written `YYYY-MM-DDTHH:MM:SS` with a
fixed number of fraction digits, cut, not rounded.
-/

/-- A calendar date. -/
structure Date where
  year : Int
  month : Nat
  day : Nat
  deriving DecidableEq, Repr, Inhabited

/-- A date and a time of day. -/
structure Timestamp where
  date : Date
  hour : Nat
  minute : Nat
  second : Nat
  nano : Nat
  deriving DecidableEq, Repr, Inhabited

/-- Leap years of the Gregorian calendar. -/
def isLeapYear (year : Int) : Bool :=
  year % 4 = 0 ∧ (year % 100 ≠ 0 ∨ year % 400 = 0)

/-- Days in a month of a year. -/
def daysInMonth (year : Int) (month : Nat) : Nat :=
  match month with
  | 1 | 3 | 5 | 7 | 8 | 10 | 12 => 31
  | 4 | 6 | 9 | 11 => 30
  | 2 => if isLeapYear year then 29 else 28
  | _ => 0

/-- The earliest and latest years a date may have. -/
def minYear : Int := -262143
def maxYear : Int := 262142

/-- A date from its parts, if they name a day of the calendar. -/
def Date.ofParts? (year : Int) (month day : Nat) : Option Date :=
  if minYear ≤ year ∧ year ≤ maxYear ∧ 1 ≤ month ∧ month ≤ 12 ∧ 1 ≤ day ∧
      day ≤ daysInMonth year month then
    some { year, month, day }
  else none

/-- Midnight of a date. -/
def Date.atMidnight (d : Date) : Timestamp :=
  { date := d, hour := 0, minute := 0, second := 0, nano := 0 }

/-- `n` as at least `width` digits, padded with zeros. -/
def padded (width : Nat) (n : Nat) : String :=
  let digits := toString n
  String.ofList (List.replicate (width - digits.length) '0') ++ digits

/-- The year as four digits, with a sign outside 0 to 9999. -/
def yearText (year : Int) : String :=
  if 0 ≤ year ∧ year < 10000 then padded 4 year.toNat
  else if year < 0 then "-" ++ padded 4 year.natAbs
  else "+" ++ padded 4 year.toNat

/-- `YYYY-MM-DD`. -/
def Date.text (d : Date) : String :=
  yearText d.year ++ "-" ++ padded 2 d.month ++ "-" ++ padded 2 d.day

/-- `YYYY-MM-DDTHH:MM:SS`. -/
def Timestamp.secondsText (t : Timestamp) : String :=
  t.date.text ++ "T" ++ padded 2 t.hour ++ ":" ++ padded 2 t.minute ++ ":" ++
    padded 2 (t.second + t.nano / 1000000000)

/-- The fraction of the second to `places` digits, cut. -/
def Timestamp.fractionText (t : Timestamp) (places : Nat) : String :=
  padded places (t.nano % 1000000000 / Nat.pow 10 (9 - places))

/-- `YYYY-MM-DDTHH:MM:SS.fffffffff`: nine fraction digits. -/
def Timestamp.text (t : Timestamp) : String :=
  t.secondsText ++ "." ++ t.fractionText 9

/-- `YYYY-MM-DDTHH:MM:SS.fff`: milliseconds. -/
def Timestamp.millisText (t : Timestamp) : String :=
  t.secondsText ++ "." ++ t.fractionText 3

/-- The order of timestamps: by date, then time. -/
def Timestamp.key (t : Timestamp) : Int × Nat × Nat × Nat × Nat × Nat :=
  (t.date.year, t.date.month, t.date.day, t.hour, t.minute, t.second * 2000000000 + t.nano)

end Temporal
end Refbook

namespace Refbook
namespace Temporal

/-- `YYYY-MM-DDTHH:MM:SS` with the fraction only when it is not zero, in
groups of three digits: milliseconds, microseconds or nanoseconds. -/
def Timestamp.isoText (t : Timestamp) : String :=
  let nano := t.nano % 1000000000
  let fraction :=
    if nano = 0 then ""
    else if nano % 1000000 = 0 then "." ++ padded 3 (nano / 1000000)
    else if nano % 1000 = 0 then "." ++ padded 6 (nano / 1000)
    else "." ++ padded 9 nano
  t.secondsText ++ fraction

end Temporal
end Refbook
