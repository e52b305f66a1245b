import Refbook.Json.Write
import Refbook.Decimal.Order
import Refbook.Regex.Compile
import Refbook.Error

namespace Refbook
namespace Document

/-!
# Evaluating document filters

`satisfies` decides whether a document satisfies a filter.  A filter is an
object whose entries must all hold: `$and`, `$or` and `$nor` take arrays of
filters; any other key is a dot path into the document, with a condition.

A path finds values through objects, and through the objects in arrays on
the way; the condition is tested on each value found, on the elements of
each array found, and on null when nothing is found.  A condition is a
value to equal, or an object of operators (all keys starting with `$`):
`$eq`, `$ne`, `$gt`, `$gte`, `$lt`, `$lte`, `$in`, `$nin`, `$all`,
`$elemMatch`, `$regex` with `$options`.  An object of the single key
`$numberDecimal` or `$date` is a value, not an operator.

Values compare as numbers (whole, double or `$numberDecimal`, as
`Decimal.Number.equal` and `Decimal.Number.order` compare them), strings, `$date` texts, booleans or null; only numbers,
strings, dates and booleans are ordered, each among its own kind.
-/

/-- The comparable form of a document value. -/
inductive Scalar where
  | null
  | bool (b : Bool)
  | number (d : Decimal.Number)
  | string (s : String)
  | date (text : String)
  | other (json : Json)

/-- Read a decimal's text. -/
def decimalOf (text : String) : Option Decimal.Number :=
  Decimal.Number.read text

/-- The comparable form of a value. -/
def Scalar.of (value : Json) : Scalar :=
  match value with
  | .null => .null
  | .bool b => .bool b
  | .number n =>
    match decimalOf (Json.numberText n) with
    | some d => .number d
    | none => .other value
  | .string s => .string s
  | .object [("$numberDecimal", .string d)] =>
    match decimalOf d with
    | some d => .number d
    | none => .other value
  | .object [("$date", .string d)] => .date d
  | _ => .other value

/-- Equality of comparable forms. -/
def Scalar.equal : Scalar -> Scalar -> Bool
  | .null, .null => true
  | .bool a, .bool b => a == b
  | .number a, .number b => a.equal b
  | .string a, .string b => a == b
  | .date a, .date b => a == b
  | .other a, .other b => a == b
  | _, _ => false

/-- The order of comparable forms of one kind. -/
def Scalar.order : Scalar -> Scalar -> Option Ordering
  | .number a, .number b => some (a.order b)
  | .string a, .string b => some (compare a b)
  | .date a, .date b => some (compare a b)
  | .bool a, .bool b => some (compare a b)
  | _, _ => none

/-- A value in extended form (`$numberDecimal` or `$date`). -/
def isExtendedLiteral (value : Json) : Bool :=
  match value with
  | .object [(key, _)] => key = "$numberDecimal" || key = "$date"
  | _ => false

/-- An object of operators. -/
def isOperatorObject (value : Json) : Bool :=
  !isExtendedLiteral value &&
    (match value with
      | .object fields => !fields.isEmpty && fields.all fun (key, _) => key.startsWith "$"
      | _ => false)

/-- The keys of a dot path, in order. -/
def pathKeys (path : String) : List String :=
  (path.toList.splitOn '.').map String.ofList

/-- The values found at a dot path. -/
def lookup (document : Json) (path : String) : List Json :=
  (pathKeys path).foldl (fun current key =>
    current.flatMap fun value =>
      match value with
      | .object fields => (fields.lookup key).toList
      | .array items => items.filterMap fun item => item.get? key
      | _ => []) [document]

/-- The values a condition is tested on. -/
def candidates (document : Json) (path : String) : List Json :=
  match lookup document path with
  | [] => [.null]
  | found => found.flatMap fun value =>
    match value with
    | .array items => items ++ [value]
    | _ => [value]

/-- Some candidate equals the value. -/
def equals (cands : List Json) (expected : Json) : Bool :=
  let e := Scalar.of expected
  cands.any fun c => (Scalar.of c).equal e

/-- Some candidate stands in an accepted order to the bound. -/
def ordered (cands : List Json) (bound : Json) (accept : Ordering -> Bool) : Bool :=
  let b := Scalar.of bound
  cands.any fun c => ((Scalar.of c).order b).any accept

/-- The array an operator takes. -/
def arrayOperand (operator : String) (value : Json) : Except Error (List Json) :=
  match value with
  | .array items => .ok items
  | other => .error (.validation (operator ++ " expects an array, got " ++ Json.compact other))

/-- The regular expression of a `$regex` condition. -/
def regexCondition (cands : List Json) (operand : Json) (operators : List (String × Json)) :
    Except Error Bool :=
  match operand with
  | .string pattern =>
    let noCase :=
      match operators.lookup "$options" with
      | some (.string o) => o.toList.contains 'i'
      | _ => false
    match Regex.compile pattern noCase true with
    | .ok program => .ok (cands.any fun c =>
        match c with
        | .string s => program.isMatch s
        | _ => false)
    | .error message => .error (.validation message)
  | other => .error (.validation ("$regex expects a string, got " ++ Json.compact other))

/-- Whether one operator of a condition holds of the candidates; `sub`
judges a single candidate against a condition of its own. -/
def operatorHolds (sub : Json -> Json -> Except Error Bool) (cands : List Json)
    (all : List (String × Json)) (operator : String) (operand : Json) : Except Error Bool :=
  match operator with
  | "$eq" => pure (equals cands operand)
  | "$ne" => pure (!equals cands operand)
  | "$gt" => pure (ordered cands operand (· == .gt))
  | "$gte" => pure (ordered cands operand (· != .lt))
  | "$lt" => pure (ordered cands operand (· == .lt))
  | "$lte" => pure (ordered cands operand (· != .gt))
  | "$in" => do
    let values ← arrayOperand operator operand
    pure (values.any (equals cands))
  | "$nin" => do
    let values ← arrayOperand operator operand
    pure (!values.any (equals cands))
  | "$all" => do
    let values ← arrayOperand operator operand
    pure (values.all (equals cands))
  | "$elemMatch" => cands.anyM fun c => sub c operand
  | "$regex" => regexCondition cands operand all
  | "$options" => pure true
  | other => throw (.validation ("unsupported filter operator " ++ other))

/-- Whether the candidates satisfy a condition: every operator holds, in
order, the first that fails or refuses ending the test. -/
def fieldMatches : Nat -> List Json -> Json -> Except Error Bool
  | 0, _, _ => .ok false
  | fuel + 1, cands, condition =>
    if !isOperatorObject condition then .ok (equals cands condition)
    else
      match condition with
      | .object operators =>
        operators.allM fun (operator, operand) =>
          operatorHolds (fun c sub => fieldMatches fuel [c] sub) cands operators operator operand
      | _ => .ok false

/-- Whether one entry of a filter holds of a document; `sub` judges the
document against a filter of its own. -/
def entryHolds (sub : Json -> Except Error Bool) (document : Json) (key : String)
    (condition : Json) : Except Error Bool :=
  match key with
  | "$and" => do
    let parts ← arrayOperand key condition
    parts.allM sub
  | "$or" => do
    let parts ← arrayOperand key condition
    parts.anyM sub
  | "$nor" => do
    let parts ← arrayOperand key condition
    pure (!(← parts.anyM sub))
  | path => fieldMatches (Json.depth condition + 1) (candidates document path) condition

/-- Whether a document satisfies a filter: every entry holds, in order, the
first that fails or refuses ending the test. -/
def matchesWith : Nat -> Json -> Json -> Except Error Bool
  | 0, _, _ => .ok false
  | fuel + 1, document, filter =>
    match filter with
    | .object conditions =>
      conditions.allM fun (key, condition) =>
        entryHolds (matchesWith fuel document) document key condition
    | other => .error (.validation ("filter must be a document, got " ++ Json.compact other))

/-- Whether a document satisfies a filter. -/
def satisfies (document : Json) (filter : Json) : Except Error Bool :=
  matchesWith (Json.depth filter + 1) document filter

end Document
end Refbook
