import Refbook.Dict.Basic
import Refbook.Json.Write
import Refbook.Decimal.Double
import Refbook.Query.Constant

namespace Refbook

/-!
# Checking schemas and records

`Dict.validate` checks a schema: identifiers, reserved and repeated field
ids, the enum of each enum field and the target of each reference, bounds,
and that indexes and constraints name fields.  It stops at the first
problem, in that order.

`Dict.normalize` checks a record's data against its dict and gives it in
canonical form: declared field ids, nulls dropped, whole numbers as
numbers, decimals as canonical text, dates and timestamps in the record
formats.  A number is checked against a field's bounds, a text's length
(in characters) likewise.
-/

/-- `^[A-Za-z_][A-Za-z0-9_]*$`. -/
def isIdentifier (s : String) : Bool :=
  match s.toList with
  | [] => false
  | c :: cs =>
    (c.isAlpha || c = '_') && cs.all fun c => c.isAlphanum || c = '_'

/-- The first of some items whose key was already seen. -/
def firstRepeat {α : Type} (key : α -> String) (items : List α) : Option α :=
  (items.foldl (fun (acc : List String × Option α) item =>
    match acc with
    | (_, some found) => (acc.1, some found)
    | (seen, none) => if seen.contains (key item) then (seen, some item) else (key item :: seen, none))
    ([], none)).2

namespace Dict

/-- A validation error. -/
def invalid (message : String) : Error :=
  .validation message

/-- Check one field's enum, reference and bounds. -/
def validateField (d : Dict) (known : String -> Bool) (f : Field) : Except Error Unit := do
  match f.fieldType with
  | .enumeration =>
    match f.enumId with
    | none =>
      throw (invalid ("Enum field " ++ Error.quoted f.id ++ " of dict " ++ Error.quoted d.id ++
        " has no enum"))
    | some enumId =>
      if (d.enum? enumId).isNone then throw (.enumNotFound d.id enumId)
  | .reference =>
    match f.reference with
    | none =>
      throw (invalid ("Reference field " ++ Error.quoted f.id ++ " of dict " ++
        Error.quoted d.id ++ " has no target"))
    | some r =>
      if r.dictId ≠ d.id && !known r.dictId then throw (.dictNotFound r.dictId)
  | _ => pure ()
  match f.minSize, f.maxSize with
  | some lo, some hi =>
    if lo > hi then
      throw (invalid ("Field " ++ Error.quoted f.id ++ " of dict " ++ Error.quoted d.id ++
        " has minSize above maxSize"))
  | _, _ => pure ()

/-- Check that an index or constraint names fields, each declared or a
service field. -/
def checkFieldsExist (d : Dict) (owner : String) (names : List String) : Except Error Unit := do
  if names.isEmpty then
    throw (invalid (Error.quoted owner ++ " of dict " ++ Error.quoted d.id ++ " names no fields"))
  for name in names do
    if (d.field? name).isNone && (serviceFieldType? name).isNone then
      throw (.unknownField d.id name)

/-- Check the fields in order: identifier, not reserved, not repeated (up to
ASCII case), then its own checks. -/
def validateFields (d : Dict) (known : String -> Bool) :
    List String -> List Field -> Except Error Unit
  | _, [] => pure ()
  | seen, f :: fs => do
    if !isIdentifier f.id then
      throw (invalid ("Field id " ++ Error.quoted f.id ++ " of dict " ++ Error.quoted d.id ++
        " is not a valid identifier"))
    if isServiceField f.id then
      throw (invalid ("Field id " ++ Error.quoted f.id ++ " of dict " ++ Error.quoted d.id ++
        " is reserved"))
    let lower := String.ofList (f.id.toList.map Char.toLower)
    if seen.contains lower then
      throw (invalid ("Field id " ++ Error.quoted f.id ++ " is declared twice in dict " ++
        Error.quoted d.id))
    validateField d known f
    validateFields d known (lower :: seen) fs

/-- Check a schema; `known` tells whether a referenced dict exists (a dict
may reference itself). -/
def validate (d : Dict) (known : String -> Bool) : Except Error Unit := do
  if !isIdentifier d.id then
    throw (invalid ("Dict id " ++ Error.quoted d.id ++ " is not a valid identifier"))
  validateFields d known [] d.fields
  let _ ← d.enums.foldlM (fun (seen : List String) (e : Enumeration) => do
    if seen.contains e.id then
      throw (invalid ("Enum " ++ Error.quoted e.id ++ " is declared twice in dict " ++
        Error.quoted d.id))
    if (firstRepeat (fun (v : String) => v) e.values).isSome then
      throw (invalid ("Enum " ++ Error.quoted e.id ++ " of dict " ++ Error.quoted d.id ++
        " has repeated values"))
    pure (e.id :: seen)) []
  let _ ← d.indexes.foldlM (fun (seen : List String) (i : Index) => do
    if seen.contains i.id then
      throw (invalid ("Index " ++ Error.quoted i.id ++ " is declared twice in dict " ++
        Error.quoted d.id))
    checkFieldsExist d i.id i.fields
    pure (i.id :: seen)) []
  let _ ← d.constraints.foldlM (fun (seen : List String) (c : Constraint) => do
    if seen.contains c.id then
      throw (invalid ("Constraint " ++ Error.quoted c.id ++ " is declared twice in dict " ++
        Error.quoted d.id))
    checkFieldsExist d c.id c.fields
    pure (c.id :: seen)) []

/-- Whether a double is a whole number, and which (a finite double only). -/
def wholeOf (f : Float) : Option Int :=
  let b := Decimal.Binary.ofBits f.toBits
  if f.isNaN || f.isInf then none
  else
    let magnitude : Option Nat :=
      if 0 ≤ b.exponent then some (b.mantissa * Nat.pow 2 b.exponent.toNat)
      else if b.mantissa % Nat.pow 2 b.exponent.natAbs = 0 then some (b.mantissa / Nat.pow 2 b.exponent.natAbs)
      else none
    magnitude.map fun m => if b.negative then -(m : Int) else m

/-- A whole number cut to the signed 64-bit range. -/
def saturate (n : Int) : Int :=
  max (-(Int.pow 2 63)) (min (Int.pow 2 63 - 1) n)

/-- The signed 64-bit whole number a value stands for, if any. -/
def integerOf : Json -> Option Int
  | .number (.nat n) => some (saturate n)
  | .number (.neg n) => some n
  | .number (.float f) => (wholeOf f).map saturate
  | .string s => Query.readInt64 (Text.trim s)
  | _ => none

/-- Check a measure against a field's bounds. -/
def checkBounds (d : Dict) (f : Field) (measure : Float) : Except Error Unit :=
  if (f.minSize.any fun lo => measure < lo) || (f.maxSize.any fun hi => measure > hi) then
    .error (invalid ("Field " ++ Error.quoted f.id ++ " of dict " ++ Error.quoted d.id ++
      " is out of bounds [" ++ ((f.minSize.map Decimal.plainText).getD "") ++ ", " ++
      ((f.maxSize.map Decimal.plainText).getD "") ++ "]"))
  else .ok ()

/-- The text of a decimal value: a number as it is written, or a text. -/
def decimalText? : Json -> Option String
  | .number n => some (Json.numberText n)
  | .string s => some s
  | _ => none

/-- Check a decimal, by its canonical text read as the nearest double, against
a field's bounds. -/
def checkDecimalBounds (d : Dict) (f : Field) (canonical : String) : Except Error Unit :=
  match Decimal.Number.read canonical with
  | some number => checkBounds d f number.toDouble
  | none => pure ()

/-- The canonical form of one value of a field. -/
def normalizeValue (d : Dict) (f : Field) (value : Json) : Except Error Json := do
  let mismatch := invalid ("Value " ++ Json.compact value ++ " does not fit field " ++
    Error.quoted f.id ++ " of type " ++ f.fieldType.name ++ " in dict " ++ Error.quoted d.id)
  match f.fieldType with
  | .integer =>
    match integerOf value with
    | none => throw mismatch
    | some n =>
      checkBounds d f (Float.ofInt n)
      pure (Json.ofInt n)
  | .decimal =>
    match decimalText? value with
    | none => throw mismatch
    | some text =>
      match Decimal.canonical text with
      | .error _ => throw mismatch
      | .ok canonical =>
        checkDecimalBounds d f canonical
        pure (.string canonical)
  | .string =>
    match value with
    | .string s =>
      checkBounds d f (Float.ofNat s.length)
      pure value
    | _ => throw mismatch
  | .boolean =>
    match value with
    | .bool _ => pure value
    | .string "true" => pure (.bool true)
    | .string "false" => pure (.bool false)
    | _ => throw mismatch
  | .date =>
    match value with
    | .string s => do
      let date ← Query.parseDate s
      pure (.string date.text)
    | _ => throw mismatch
  | .timestamp =>
    match value with
    | .string s => do
      let t ← Query.parseTimestamp s
      pure (.string t.millisText)
    | _ => throw mismatch
  | .enumeration =>
    match value with
    | .string s =>
      let enumId := f.enumId.getD ""
      match d.enum? enumId with
      | none => throw (.enumNotFound d.id enumId)
      | some e =>
        if e.values.contains s then pure value
        else
          throw (invalid (Error.quoted s ++ " is not a value of enum " ++ Error.quoted enumId ++
            " in dict " ++ Error.quoted d.id))
    | _ => throw mismatch
  | .attachment | .reference =>
    match value with
    | .string s => if s.isEmpty then throw mismatch else pure value
    | _ => throw mismatch
  | .json => pure value
  | .geoJson =>
    match value with
    | .object entries =>
      match entries.lookup "type" with
      | some (.string _) => pure value
      | _ => throw mismatch
    | _ => throw mismatch

/-- A field's value in canonical form: every item of a multivalued field,
which must hold a list. -/
def normalizeFieldValue (d : Dict) (f : Field) (value : Json) : Except Error Json :=
  if f.multivalued then
    match value with
    | .array items => do
      let items ← items.mapM (normalizeValue d f)
      pure (Json.array items)
    | _ =>
      throw (invalid ("Field " ++ Error.quoted f.id ++ " of dict " ++ Error.quoted d.id ++
        " expects a list"))
  else normalizeValue d f value

/-- Add one entry of a record's data to what is normalized so far: its key
must name a field, up to case; a null is dropped; otherwise the value is
set under the field's own id, a later key of the same field overwriting an
earlier one. -/
def normalizeEntry (d : Dict) (normalized : List (String × Json)) (entry : String × Json) :
    Except Error (List (String × Json)) :=
  match d.field? entry.1 with
  | none => throw (.unknownField d.id entry.1)
  | some f =>
    match entry.2 with
    | .null => pure normalized
    | value => do pure (Fields.set normalized f.id (← normalizeFieldValue d f value))

/-- Fail on the first required field, in declaration order, that the data
lacks. -/
def checkRequired (d : Dict) (normalized : List (String × Json)) : Except Error Unit :=
  d.fields.forM fun f =>
    if f.required && (normalized.lookup f.id).isNone then
      throw (invalid ("Required field " ++ Error.quoted f.id ++ " of dict " ++ Error.quoted d.id ++
        " is missing"))
    else pure ()

/-- Check a record's data and give it in canonical form. -/
def normalize (d : Dict) (data : List (String × Json)) : Except Error (List (String × Json)) := do
  let normalized ← data.foldlM (normalizeEntry d) []
  checkRequired d normalized
  pure normalized

end Dict

end Refbook
