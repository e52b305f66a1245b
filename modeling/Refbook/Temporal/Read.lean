import Refbook.Temporal.Basic
import Refbook.Text.Blank
import Refbook.Text.Digit

namespace Refbook
namespace Temporal

/-!
# Reading dates and timestamps

A literal, with blanks around it removed, is read by the first of these that
takes all of it:

1. an RFC 3339 date-time: four-digit year, `T`, `t` or a space before the
   time, seconds with any fraction, and a zone `Z` or `±hh:mm` (within a
   day); the zone is dropped and the wall-clock time kept;
2. `year-month-dayThour:minute:second`, with an optional fraction;
3. `year-month-dayThour:minute`;
4. `year-month-day`, alone or followed by a zone `Z`, `z` or `±dd:dd`,
   read as midnight.

In layouts 2 to 4 each number may follow blanks; a year has up to four
digits, or any number after a sign; the other fields have one or two
digits.  Fraction digits past the ninth are ignored.  Second 60 is a leap
second.
-/

/-- Why a text does not read as a layout: it ends before the layout does,
has a character the layout does not allow where it stands, gives a field a
value outside its range, or goes on after the layout. -/
inductive Fault where
  | tooShort
  | invalid
  | outOfRange
  | tooLong
  deriving DecidableEq, Repr

/-- The words a fault is reported with. -/
def Fault.message : Fault -> String
  | .tooShort => "premature end of input"
  | .invalid => "input contains invalid characters"
  | .outOfRange => "input is out of range"
  | .tooLong => "trailing input"

/-- Between `min` and `max` ASCII digits: fewer than `min` fails, as too
short when the text has fewer than `min` characters left; a value past the
signed 64-bit range is out of range. -/
def scanNumber (chars : List Char) (min max : Nat) : Except Fault (Nat × List Char) :=
  let digits := (chars.take max).takeWhile Char.isDigit
  if digits.length < min then
    if chars.length < min then .error .tooShort else .error .invalid
  else
    let value := digits.foldl (fun acc c => acc * 10 + (c.toNat - 48)) 0
    if value < Nat.pow 2 63 then .ok (value, chars.drop digits.length) else .error .outOfRange

/-- Between `min` and `max` ASCII digits; fewer than `min` fails. -/
def readNumber (chars : List Char) (min max : Nat) : Option (Nat × List Char) :=
  (scanNumber chars min max).toOption

/-- One given character: missing when the text has ended. -/
def scanChar (chars : List Char) (c : Char) : Except Fault (List Char) :=
  match chars with
  | d :: rest => if d = c then .ok rest else .error .invalid
  | [] => .error .tooShort

/-- One given character. -/
def readChar (chars : List Char) (c : Char) : Option (List Char) :=
  (scanChar chars c).toOption

/-- Fraction digits after the point, as nanoseconds: the first nine count,
the rest are passed over. -/
def scanFraction (chars : List Char) : Except Fault (Nat × List Char) := do
  let (value, rest) ← scanNumber chars 1 9
  let used := chars.length - rest.length
  pure (value * Nat.pow 10 (9 - used), rest.dropWhile Char.isDigit)

/-- Fraction digits after the point, as nanoseconds. -/
def readFraction (chars : List Char) : Option (Nat × List Char) :=
  (scanFraction chars).toOption

/-- A time of day from its fields; second 60 is a leap second. -/
def timeOf (date : Date) (hour minute second nano : Nat) : Option Timestamp :=
  if hour ≤ 23 ∧ minute ≤ 59 ∧ second ≤ 60 ∧ nano < 1000000000 then
    if second = 60 then some { date, hour, minute, second := 59, nano := nano + 1000000000 }
    else some { date, hour, minute, second, nano }
  else none

/-- A zone offset `Z`, `z` or `±hh:mm` (also with the minus sign U+2212),
within a day. -/
def readZone (chars : List Char) : Option (List Char) :=
  match chars with
  | 'Z' :: rest | 'z' :: rest => some rest
  | sign :: rest =>
    if sign = '+' ∨ sign = '-' ∨ sign.toNat = 0x2212 then
      match rest with
      | h1 :: h2 :: ':' :: m1 :: m2 :: tail =>
        if h1.isDigit ∧ h2.isDigit ∧ '0' ≤ m1 ∧ m1 ≤ '5' ∧ m2.isDigit then
          let hours := (h1.toNat - 48) * 10 + (h2.toNat - 48)
          if hours ≤ 23 then some tail else none
        else none
      | _ => none
    else none
  | [] => none

/-- An RFC 3339 date-time, with nothing after it. -/
def readRfc3339 (chars : List Char) : Option Timestamp := do
  let (year, chars) ← readNumber chars 4 4
  let chars ← readChar chars '-'
  let (month, chars) ← readNumber chars 2 2
  let chars ← readChar chars '-'
  let (day, chars) ← readNumber chars 2 2
  let chars ←
    match chars with
    | c :: rest => if c = 'T' ∨ c = 't' ∨ c = ' ' then some rest else none
    | [] => none
  let (hour, chars) ← readNumber chars 2 2
  let chars ← readChar chars ':'
  let (minute, chars) ← readNumber chars 2 2
  let chars ← readChar chars ':'
  let (second, chars) ← readNumber chars 2 2
  let (nano, chars) ←
    match chars with
    | '.' :: rest => readFraction rest
    | _ => some (0, chars)
  let chars ← readZone chars
  if chars.isEmpty then
    let date ← Date.ofParts? year month day
    timeOf date hour minute second nano
  else none

/-- The fields of a layout; `blanks` passes over any blanks. -/
inductive Piece where
  | year
  | month
  | day
  | hour
  | minute
  | second
  | fraction
  | blanks
  | literal (c : Char)
  deriving DecidableEq, Repr

/-- The fields a layout has read so far. -/
structure Fields where
  year : Option Int := none
  month : Option Nat := none
  day : Option Nat := none
  hour : Option Nat := none
  minute : Option Nat := none
  second : Option Nat := none
  nano : Option Nat := none
  deriving Repr

/-- A number in a field, after blanks, within the field's range. -/
def scanField (chars : List Char) (width lo hi : Nat) : Except Fault (Nat × List Char) := do
  let (value, rest) ← scanNumber (chars.dropWhile Text.isBlank) 1 width
  if lo ≤ value ∧ value ≤ hi then pure (value, rest) else throw .outOfRange

/-- A year, after blanks: up to four digits, or any number of digits after a
sign, within the signed 32-bit range. -/
def scanYear (chars : List Char) : Except Fault (Int × List Char) := do
  let chars := chars.dropWhile Text.isBlank
  let (value, rest) ←
    match chars with
    | '-' :: rest => (scanNumber rest 1 rest.length).map fun (n, r) => (-(n : Int), r)
    | '+' :: rest => (scanNumber rest 1 rest.length).map fun (n, r) => ((n : Int), r)
    | _ => (scanNumber chars 1 4).map fun (n, r) => ((n : Int), r)
  if -(Int.pow 2 31) ≤ value ∧ value < Int.pow 2 31 then pure (value, rest) else throw .outOfRange

/-- Read the pieces of a layout, stopping at the first fault; what is left
is returned. -/
def scanPieces : List Piece -> Fields -> List Char -> Except Fault (Fields × List Char)
  | [], fields, chars => .ok (fields, chars)
  | piece :: pieces, fields, chars => do
    let (fields, chars) ←
      match piece with
      | .year => (scanYear chars).map fun (v, r) => ({ fields with year := some v }, r)
      | .month => (scanField chars 2 1 12).map fun (v, r) => ({ fields with month := some v }, r)
      | .day => (scanField chars 2 1 31).map fun (v, r) => ({ fields with day := some v }, r)
      | .hour => (scanField chars 2 0 23).map fun (v, r) => ({ fields with hour := some v }, r)
      | .minute => (scanField chars 2 0 59).map fun (v, r) => ({ fields with minute := some v }, r)
      | .second => (scanField chars 2 0 60).map fun (v, r) => ({ fields with second := some v }, r)
      | .fraction =>
        match chars with
        | '.' :: rest => (scanFraction rest).map fun (v, r) => ({ fields with nano := some v }, r)
        | _ => .ok (fields, chars)
      | .blanks => .ok (fields, chars.dropWhile Text.isBlank)
      | .literal c => (scanChar chars c).map fun r => (fields, r)
    scanPieces pieces fields chars

/-- Read the pieces of a layout; what is left is returned. -/
def readPieces (pieces : List Piece) (fields : Fields) (chars : List Char) :
    Option (Fields × List Char) :=
  (scanPieces pieces fields chars).toOption

/-- The date the fields name. -/
def Fields.date? (f : Fields) : Option Date := do
  Date.ofParts? (← f.year) (← f.month) (← f.day)

/-- The timestamp the fields name; seconds may be missing. -/
def Fields.timestamp? (f : Fields) : Option Timestamp := do
  timeOf (← f.date?) (← f.hour) (← f.minute) (f.second.getD 0) (f.nano.getD 0)

def dateLayout : List Piece :=
  [.year, .literal '-', .month, .literal '-', .day]

def minuteLayout : List Piece :=
  dateLayout ++ [.literal 'T', .hour, .literal ':', .minute]

def secondLayout : List Piece :=
  minuteLayout ++ [.literal ':', .second, .fraction]

/-- The layout a stored timestamp is read with: blanks may stand before
each separator and at the end, `T` joins the date and the time, and the
seconds may have a fraction. -/
def storedLayout : List Piece :=
  [.year, .blanks, .literal '-', .month, .blanks, .literal '-', .day, .blanks, .literal 'T',
   .hour, .blanks, .literal ':', .minute, .blanks, .literal ':', .second, .fraction, .blanks]

/-- A stored timestamp, or the first fault in its text; a day or time that
does not exist is out of range. -/
def readStored (raw : String) : Except Fault Timestamp := do
  let (fields, rest) ← scanPieces storedLayout {} raw.toList
  if !rest.isEmpty then throw .tooLong
  match fields.timestamp? with
  | some t => pure t
  | none => throw .outOfRange

/-- A layout that takes all of the text. -/
def readWhole (layout : List Piece) (chars : List Char) : Option Timestamp := do
  let (fields, rest) ← readPieces layout {} chars
  if rest.isEmpty then fields.timestamp? else none

/-- What may follow a plain date: nothing, or a zone. -/
def isDateSuffix (chars : List Char) : Bool :=
  match chars with
  | [] => true
  | ['Z'] | ['z'] => true
  | [sign, h1, h2, ':', m1, m2] =>
    (sign = '+' ∨ sign = '-') ∧ Text.isDecimalDigit h1 ∧ Text.isDecimalDigit h2 ∧
      Text.isDecimalDigit m1 ∧ Text.isDecimalDigit m2
  | _ => false

/-- A date, alone or with a zone, at midnight. -/
def readDateOnly (chars : List Char) : Option Timestamp := do
  let (fields, rest) ← readPieces dateLayout {} chars
  let date ← fields.date?
  if isDateSuffix rest then pure date.atMidnight else none

/-- The timestamp a literal names, by the first layout that reads it. -/
def readTimestamp (raw : String) : Option Timestamp :=
  let chars := (Text.trim raw).toList
  (readRfc3339 chars).orElse fun _ =>
    (readWhole secondLayout chars).orElse fun _ =>
      (readWhole minuteLayout chars).orElse fun _ => readDateOnly chars

/-- The date a literal names: the day of its timestamp. -/
def readDate (raw : String) : Option Date :=
  (readTimestamp raw).map (·.date)

end Temporal
end Refbook
