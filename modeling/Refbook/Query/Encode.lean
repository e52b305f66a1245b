import Refbook.Query.Expression
import Refbook.Json.Value

namespace Refbook

/-!
# Filters as JSON

Values are `{"type": T, "value": v}` with `T` one of `Null`, `Integer`,
`Decimal`, `String`, `Boolean`, `Date`, `Timestamp` (a null has no value);
dates and timestamps are their texts, with nine fraction digits for
timestamps.  Constants are `{"type": NAME, "raw": text}`.  An expression is
an object with its `kind` and its parts.
-/

namespace Error

/-- An error as `{"error": kind, "message": text}`; a failed migration also
names the kind of its cause. -/
def toJson (e : Error) : Json :=
  let base := [("error", Json.string e.kind), ("message", Json.string e.message)]
  match e with
  | .migrationApplied _ cause => .object (base ++ [("cause", .string cause.kind)])
  | _ => .object base

end Error

namespace Query

def Value.toJson : Value -> Json
  | .null => .object [("type", .string "Null")]
  | .integer n => .object [("type", .string "Integer"), ("value", .ofInt n)]
  | .decimal text => .object [("type", .string "Decimal"), ("value", .string text)]
  | .string s => .object [("type", .string "String"), ("value", .string s)]
  | .boolean b => .object [("type", .string "Boolean"), ("value", .bool b)]
  | .date d => .object [("type", .string "Date"), ("value", .string d.text)]
  | .timestamp t => .object [("type", .string "Timestamp"), ("value", .string t.text)]

def Constant.toJson (c : Constant) : Json :=
  .object [("type", .string c.kind.name), ("raw", .ofOption c.raw)]

def FieldRef.toJson (f : FieldRef) : Json :=
  .object [("dict", .ofOption f.dict), ("name", .string f.name)]

def Operand.toJson : Operand -> Json
  | .constant c => .object [("constant", c.toJson)]
  | .cast c =>
    .object [("cast", .object [("source", c.source.toJson), ("target", .string c.target.name),
      ("value", c.value.toJson)])]

def CompareOp.name : CompareOp -> String
  | .eq => "Eq"
  | .ne => "Ne"
  | .lt => "Lt"
  | .le => "Le"
  | .gt => "Gt"
  | .ge => "Ge"

def Quantifier.name : Quantifier -> String
  | .all => "All"
  | .any => "Any"

def Expression.toJson : Expression -> Json
  | .empty => .object [("kind", .string "empty")]
  | .compare field op value =>
    .object [("kind", .string "compare"), ("field", field.toJson), ("op", .string op.name),
      ("value", value.toJson)]
  | .inList field values negated =>
    .object [("kind", .string "in"), ("field", field.toJson), ("negated", .bool negated),
      ("values", .array (values.map Operand.toJson))]
  | .quantified field q values =>
    .object [("kind", .string "quantified"), ("field", field.toJson),
      ("quantifier", .string q.name), ("values", .array (values.map Operand.toJson))]
  | .like field pattern caseInsensitive =>
    .object [("kind", .string "like"), ("field", field.toJson), ("pattern", .string pattern),
      ("caseInsensitive", .bool caseInsensitive)]
  | .between field low high =>
    .object [("kind", .string "between"), ("field", field.toJson), ("low", low.toJson),
      ("high", high.toJson)]
  | .not inner => .object [("kind", .string "not"), ("inner", inner.toJson)]
  | .and left right =>
    .object [("kind", .string "and"), ("left", left.toJson), ("right", right.toJson)]
  | .or left right =>
    .object [("kind", .string "or"), ("left", left.toJson), ("right", right.toJson)]

end Query
end Refbook
