import Refbook.Error
import Refbook.Decimal.Canonical
import Refbook.Temporal.Read

namespace Refbook
namespace Query

/-!
# Constants and casts

A constant is a literal of a filter with its type: the text as written, or
nothing for `null`.  Its value is read from the text when it is needed:
whole numbers within 64 bits, decimals in canonical form, strings as they
are, booleans from `true` and `false` only, dates and timestamps by the
layouts of `Temporal.readTimestamp`.

A cast (`'2024-01-31'::date`) reads its literal as a date or a timestamp at
once, so a bad literal fails when the filter is read.
-/

/-- The type of a constant. -/
inductive ConstantType where
  | integer
  | decimal
  | string
  | boolean
  | date
  | timestamp
  | null
  deriving DecidableEq, Repr, Inhabited

namespace ConstantType

/-- The name of a type, in capitals. -/
def name : ConstantType -> String
  | integer => "INTEGER"
  | decimal => "DECIMAL"
  | string => "STRING"
  | boolean => "BOOLEAN"
  | date => "DATE"
  | timestamp => "TIMESTAMP"
  | null => "NULL"

/-- The type a name in capitals names. -/
def ofName? : String -> Option ConstantType
  | "INTEGER" => some integer
  | "DECIMAL" => some decimal
  | "STRING" => some string
  | "BOOLEAN" => some boolean
  | "DATE" => some date
  | "TIMESTAMP" => some timestamp
  | "NULL" => some null
  | _ => none

end ConstantType

/-- The value of a constant. -/
inductive Value where
  | null
  | integer (n : Int)
  | decimal (text : String)
  | string (s : String)
  | boolean (b : Bool)
  | date (d : Temporal.Date)
  | timestamp (t : Temporal.Timestamp)
  deriving DecidableEq, Repr, Inhabited

/-- A literal of a filter. -/
structure Constant where
  kind : ConstantType
  raw : Option String
  deriving DecidableEq, Repr, Inhabited

namespace Constant

/-- A constant of a type; `null` keeps no text. -/
def make (raw : String) (kind : ConstantType) : Constant :=
  if kind = .null then { kind := .null, raw := none } else { kind, raw := some raw }

def null : Constant :=
  { kind := .null, raw := none }

end Constant

/-- The signed 64-bit whole number a text names: an optional sign and ASCII
digits. -/
def readInt64 (text : String) : Option Int :=
  let chars := text.toList
  let (negative, digits) :=
    match chars with
    | '-' :: rest => (true, rest)
    | '+' :: rest => (false, rest)
    | _ => (false, chars)
  if digits.isEmpty ∨ ¬ digits.all Char.isDigit then none
  else
    let n : Nat := digits.foldl (fun acc c => acc * 10 + (c.toNat - 48)) 0
    let value : Int := if negative then -(n : Int) else n
    if -(Int.pow 2 63) ≤ value ∧ value < Int.pow 2 63 then some value else none

/-- The canonical text of a decimal literal. -/
def canonicalDecimal (raw : String) : Except Error String :=
  match Decimal.canonical raw with
  | .ok text => .ok text
  | .error .unreadable => .error (.invalidConstant "DECIMAL" raw)
  | .error .outOfRange =>
    .error (.validation ("Decimal '" ++ raw ++ "' is out of range, exponents are limited to " ++
      toString Decimal.maxExponent))

/-- The date a literal names. -/
def parseDate (raw : String) : Except Error Temporal.Date :=
  match Temporal.readDate raw with
  | some d => .ok d
  | none => .error (.cast raw "date")

/-- The timestamp a literal names. -/
def parseTimestamp (raw : String) : Except Error Temporal.Timestamp :=
  match Temporal.readTimestamp raw with
  | some t => .ok t
  | none => .error (.cast raw "timestamp")

/-- The value of a constant. -/
def Constant.value (c : Constant) : Except Error Value :=
  match c.raw with
  | none => .ok .null
  | some raw =>
    match c.kind with
    | .integer =>
      match readInt64 raw with
      | some n => .ok (.integer n)
      | none => .error (.invalidConstant "INTEGER" raw)
    | .decimal => (canonicalDecimal raw).map .decimal
    | .string => .ok (.string raw)
    | .boolean =>
      if raw = "true" then .ok (.boolean true)
      else if raw = "false" then .ok (.boolean false)
      else .error (.invalidConstant "BOOLEAN" raw)
    | .date => (parseDate raw).map .date
    | .timestamp => (parseTimestamp raw).map .timestamp
    | .null => .ok .null

/-- The temporal type a cast converts to. -/
inductive CastTarget where
  | date
  | timestamp
  deriving DecidableEq, Repr, Inhabited

/-- Lower-case ASCII letters. -/
def asciiLower (s : String) : String :=
  String.ofList (s.toList.map Char.toLower)

namespace CastTarget

def name : CastTarget -> String
  | date => "date"
  | timestamp => "timestamp"

/-- The target a name gives, in any ASCII case. -/
def ofName (target : String) : Except Error CastTarget :=
  match asciiLower target with
  | "date" => .ok date
  | "timestamp" => .ok timestamp
  | _ => .error (.unsupportedCast target)

end CastTarget

/-- A literal read as a date or timestamp. -/
structure Cast where
  source : Constant
  target : CastTarget
  value : Value
  deriving DecidableEq, Repr, Inhabited

/-- Cast a constant: read its text (empty for `null`) as the target. -/
def Cast.make (source : Constant) (target : String) : Except Error Cast := do
  let target ← CastTarget.ofName target
  let raw := source.raw.getD ""
  let value ←
    match target with
    | .date => (parseDate raw).map Value.date
    | .timestamp => (parseTimestamp raw).map Value.timestamp
  pure { source, target, value }

end Query
end Refbook
