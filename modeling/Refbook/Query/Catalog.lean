import Refbook.Query.Expression
import Refbook.Dict.Basic

namespace Refbook
namespace Query

/-!
# Resolving fields

A filter is compiled for one dict, against a catalog of dicts.  A field
named alone belongs to the queried dict; a qualified field belongs to the
dict that qualifies it and is *joined*.  Declared fields are found up to
ASCII case and answer with their declared id; service fields (`id`, `_id`,
`version`, `created`, `updated`, `deleted`) only with their exact spelling.

An operand is read for the field it meets: a string meeting a date or
timestamp field is read as one, a timestamp meeting a date field keeps its
day, a date meeting a timestamp field is midnight, and a whole number
meeting a decimal field becomes a decimal.  A cast may only meet a date or
timestamp field.
-/

/-- A field as the catalog knows it. -/
structure CatalogField where
  id : String
  fieldType : FieldType
  multivalued : Bool
  deriving DecidableEq, Repr

/-- The field a dict of the catalog declares, or a service field. -/
def catalogField? (catalog : List Dict) (dictId fieldId : String) : Option CatalogField := do
  let dict ← catalog.find? (·.id = dictId)
  match serviceFieldType? fieldId with
  | some fieldType =>
    let id := if fieldId = "_id" then "id" else fieldId
    pure { id, fieldType, multivalued := false }
  | none =>
    let f ← dict.field? fieldId
    pure { id := f.id, fieldType := f.fieldType, multivalued := f.multivalued }

/-- A field checked against the catalog. -/
structure ResolvedField where
  dictId : String
  id : String
  fieldType : FieldType
  multivalued : Bool
  joined : Bool
  deriving DecidableEq, Repr

/-- The dict being queried and the catalog its fields resolve against. -/
structure Context where
  dictId : String
  catalog : List Dict

namespace Context

/-- Resolve a field named in a filter. -/
def resolve (ctx : Context) (field : FieldRef) : Except Error ResolvedField :=
  let dictId := field.dict.getD ctx.dictId
  match catalogField? ctx.catalog dictId field.name with
  | some found =>
    .ok { dictId, id := found.id, fieldType := found.fieldType, multivalued := found.multivalued,
          joined := dictId ≠ ctx.dictId }
  | none => .error (.unknownField dictId field.name)

/-- The value of an operand as it meets a field. -/
def operandValue (_ctx : Context) (field : ResolvedField) (operand : Operand) :
    Except Error Value := do
  if let some target := operand.castTarget? then
    if ¬ field.fieldType.isTemporal then
      throw (.incompatibleCast field.id field.fieldType.name target.name)
  let value ← operand.value
  match field.fieldType, value with
  | .date, .string raw => (parseDate raw).map Value.date
  | .timestamp, .string raw => (parseTimestamp raw).map Value.timestamp
  | .date, .timestamp t => pure (.date t.date)
  | .timestamp, .date d => pure (.timestamp d.atMidnight)
  | .decimal, .integer n => pure (.decimal (toString n))
  | _, value => pure value

/-- The values of an `all` or `any` list without repeats, and whether the
list named null. -/
def elementValues (ctx : Context) (field : ResolvedField) (operands : List Operand) :
    Except Error (List Value × Bool) :=
  operands.foldlM (fun (acc : List Value × Bool) operand => do
    let value ← ctx.operandValue field operand
    if value = .null then pure (acc.1, true)
    else if acc.1.contains value then pure acc
    else pure (acc.1 ++ [value], acc.2)) ([], false)

end Context

end Query
end Refbook
