import Refbook.Query.Constant

namespace Refbook
namespace Query

/-!
# Filter expressions

A filter is empty (it matches every record), a predicate on one field, or a
negation, conjunction or disjunction of filters.  A field is named alone or
qualified by the dict it belongs to (`country.code`).
-/

/-- A field named in a filter. -/
structure FieldRef where
  dict : Option String
  name : String
  deriving DecidableEq, Repr, Inhabited

/-- A comparison operator. -/
inductive CompareOp where
  | eq
  | ne
  | lt
  | le
  | gt
  | ge
  deriving DecidableEq, Repr, Inhabited

namespace CompareOp

/-- The operator a symbol writes. -/
def ofSymbol? : String -> Option CompareOp
  | "=" => some eq
  | "!=" | "<>" => some ne
  | "<" => some lt
  | "<=" => some le
  | ">" => some gt
  | ">=" => some ge
  | _ => none

end CompareOp

/-- How listed values meet the elements of a multivalued field: every value
is an element, or some value is. -/
inductive Quantifier where
  | all
  | any
  deriving DecidableEq, Repr, Inhabited

/-- The right-hand side of a predicate. -/
inductive Operand where
  | constant (c : Constant)
  | cast (c : Cast)
  deriving DecidableEq, Repr, Inhabited

namespace Operand

/-- The value an operand stands for. -/
def value : Operand -> Except Error Value
  | constant c => c.value
  | cast c => .ok c.value

/-- The cast target, for a cast. -/
def castTarget? : Operand -> Option CastTarget
  | constant _ => none
  | cast c => some c.target

/-- A `null` literal. -/
def isNull : Operand -> Bool
  | constant c => c.raw.isNone
  | cast _ => false

end Operand

/-- A filter. -/
inductive Expression where
  | empty
  | compare (field : FieldRef) (op : CompareOp) (value : Operand)
  | inList (field : FieldRef) (values : List Operand) (negated : Bool)
  | quantified (field : FieldRef) (quantifier : Quantifier) (values : List Operand)
  | like (field : FieldRef) (pattern : String) (caseInsensitive : Bool)
  | between (field : FieldRef) (low high : Operand)
  | not (inner : Expression)
  | and (left right : Expression)
  | or (left right : Expression)
  deriving DecidableEq, Repr, Inhabited

namespace Expression

/-- Every field a filter names, left to right. -/
def fields : Expression -> List FieldRef
  | empty => []
  | compare field .. | inList field .. | quantified field .. | like field .. | between field .. =>
    [field]
  | not inner => inner.fields
  | and left right | or left right => left.fields ++ right.fields

end Expression

end Query
end Refbook
