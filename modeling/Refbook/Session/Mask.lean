import Refbook.Json.Write
import Refbook.Temporal.Basic

namespace Refbook
namespace Session

/-!
# Stable answers

A session's answers do not depend on when it ran or on the ids it made up:
every date-time in a string (keys included) that lies within two seconds
of the session's clock reads `<now>`, and every lower-case version 4 UUID
reads `<uuid>`.  A date-time is written `YYYY-MM-DDTHH:MM:SS`, with an
optional fraction and an optional `Z`.

Lists of records are put in the order of their ids after masking; records
whose ids read alike are ordered by their compact JSON text.
-/

/-- A character class of a fixed-width pattern. -/
def isHexDigit (c : Char) : Bool :=
  c.isDigit || ('a' ≤ c && c ≤ 'f')

/-- The shape of a lower-case version 4 UUID, one class per character. -/
def uuidShape : List (Char -> Bool) :=
  List.replicate 8 isHexDigit ++ [(· == '-')] ++ List.replicate 4 isHexDigit ++ [(· == '-'), (· == '4')] ++
    List.replicate 3 isHexDigit ++ [(· == '-'), fun c => c == '8' || c == '9' || c == 'a' || c == 'b'] ++
    List.replicate 3 isHexDigit ++ [(· == '-')] ++ List.replicate 12 isHexDigit

/-- Whether a text starts with characters of the given classes. -/
def startsWithShape : List (Char -> Bool) -> List Char -> Bool
  | [], _ => true
  | _ :: _, [] => false
  | p :: ps, c :: cs => p c && startsWithShape ps cs

/-- The number of decimal digits a text starts with. -/
def digitRun (cs : List Char) : Nat :=
  (cs.takeWhile Char.isDigit).length

/-- The value of some decimal digits. -/
def digitsValue (cs : List Char) : Nat :=
  cs.foldl (fun n c => 10 * n + (c.toNat - '0'.toNat)) 0

/-- A date-time at the start of a text: its length, and its time as the
date's fields with the milliseconds of the day. -/
def dateTimeAt? (cs : List Char) : Option (Nat × (Nat × Nat × Nat) × Nat) :=
  let d := Char.isDigit
  let shape : List (Char -> Bool) :=
    [d, d, d, d, (· == '-'), d, d, (· == '-'), d, d, (· == 'T'), d, d, (· == ':'), d, d, (· == ':'), d, d]
  if !startsWithShape shape cs then none
  else
    let field (start width : Nat) : Nat := digitsValue ((cs.drop start).take width)
    let rest := cs.drop 19
    let (fractionLength, millis) :=
      match rest with
      | '.' :: after =>
        let n := digitRun after
        if n = 0 then (0, 0)
        else (n + 1, digitsValue ((after.take 3) ++ List.replicate (3 - min n 3) '0'))
      | _ => (0, 0)
    let zone := if (rest.drop fractionLength).head? = some 'Z' then 1 else 0
    let ofDay := ((field 11 2 * 60 + field 14 2) * 60 + field 17 2) * 1000 + millis
    some (19 + fractionLength + zone, (field 0 4, field 5 2, field 8 2), ofDay)

/-- Whether a date-time lies within two seconds of the clock on its day. -/
def nearClock (clock : Temporal.Timestamp) (date : Nat × Nat × Nat) (ofDay : Nat) : Bool :=
  let clockDate := (clock.date.year.toNat, clock.date.month, clock.date.day)
  let clockOfDay := ((clock.hour * 60 + clock.minute) * 60 + clock.second) * 1000 + clock.nano / 1000000
  date == clockDate && (if ofDay ≤ clockOfDay then clockOfDay - ofDay else ofDay - clockOfDay) ≤ 2000

/-- A text with the clock's date-times and the UUIDs masked. -/
def maskChars (clock : Temporal.Timestamp) : Nat -> List Char -> List Char
  | 0, cs => cs
  | _ + 1, [] => []
  | fuel + 1, c :: cs =>
    if startsWithShape uuidShape (c :: cs) then "<uuid>".toList ++ maskChars clock fuel ((c :: cs).drop 36)
    else
      match dateTimeAt? (c :: cs) with
      | some (length, date, ofDay) =>
        if nearClock clock date ofDay then "<now>".toList ++ maskChars clock fuel ((c :: cs).drop length)
        else c :: maskChars clock fuel cs
      | none => c :: maskChars clock fuel cs

def maskText (clock : Temporal.Timestamp) (text : String) : String :=
  String.ofList (maskChars clock (text.length + 1) text.toList)

mutual

/-- A JSON value with every string and key masked. -/
def maskJson (clock : Temporal.Timestamp) : Json -> Json
  | .string s => .string (maskText clock s)
  | .array items => .array (maskItems clock items)
  | .object fields => .object (maskFields clock fields)
  | other => other

def maskItems (clock : Temporal.Timestamp) : List Json -> List Json
  | [] => []
  | item :: rest => maskJson clock item :: maskItems clock rest

def maskFields (clock : Temporal.Timestamp) : List (String × Json) -> List (String × Json)
  | [] => []
  | (key, value) :: rest => (maskText clock key, maskJson clock value) :: maskFields clock rest

end

/-- Records in the order of their ids, then of their compact text. -/
def orderRecords (records : List Json) : List Json :=
  let key (record : Json) : String × String :=
    (((record.get? "id").bind Json.str?).getD "", Json.compact record)
  records.mergeSort fun a b =>
    let (ia, ta) := key a
    let (ib, tb) := key b
    ia < ib || (ia == ib && decide (ta ≤ tb))

end Session
end Refbook
