import Refbook.Sql.Identifier
import Refbook.Query.Expression

namespace Refbook
namespace Sql

/-!
# SQL predicates

The predicates a filter compiles to, as a tree, and their text.  Columns
are qualified by their table (`person.age`), constants never appear in the
text: they are named parameters (`:person__age_1`) bound beside it.  A
multivalued column holds a JSON array whose elements are tested one by one
through `json_each`.
-/

/-- A scalar of a predicate. -/
inductive Term where
  /-- A column of a dict's table. -/
  | column (dict field : String)
  /-- A named parameter. -/
  | param (name : String)
  /-- The element of a JSON array being tested, read as a real number when
  the elements are decimals. -/
  | element (numeric : Bool)
  deriving DecidableEq, Repr, Inhabited

/-- A boolean condition. -/
inductive Pred where
  | const (b : Bool)
  | isNull (t : Term)
  | isNotNull (t : Term)
  | compare (op : Query.CompareOp) (left right : Term)
  | member (t : Term) (items : List Term) (negated : Bool)
  | like (subject pattern : Term) (noCase : Bool)
  | between (subject low high : Term)
  /-- Some element of the array in a column satisfies the condition. -/
  | anyElement (column : Term) (condition : Pred)
  /-- The array in a column has `count` distinct elements among `items`. -/
  | coversAll (column : Term) (element : Term) (items : List Term) (count : Nat)
  | not (p : Pred)
  /-- True when `p` is false or unknown. -/
  | notCoalesce (p : Pred)
  | and (left right : Pred)
  | or (left right : Pred)
  | andAll (ps : List Pred)
  deriving Repr, Inhabited

namespace Term

def render : Term -> String
  | column dict field => quoteIdentifier dict ++ "." ++ quoteIdentifier field
  | param name => ":" ++ name
  | element false => "value"
  | element true => "cast(value as real)"

end Term

/-- The symbol of a comparison. -/
def symbol : Query.CompareOp -> String
  | .eq => "="
  | .ne => "!="
  | .lt => "<"
  | .le => "<="
  | .gt => ">"
  | .ge => ">="

/-- Terms separated by commas. -/
def renderList (items : List Term) : String :=
  String.intercalate ", " (items.map Term.render)

namespace Pred

def render : Pred -> String
  | const true => "true"
  | const false => "false"
  | isNull t => t.render ++ " is null"
  | isNotNull t => t.render ++ " is not null"
  | compare op l r => l.render ++ " " ++ symbol op ++ " " ++ r.render
  | member t items false => t.render ++ " in (" ++ renderList items ++ ")"
  | member t items true => t.render ++ " not in (" ++ renderList items ++ ")"
  | like s p true => "lower(" ++ s.render ++ ") like lower(" ++ p.render ++ ") escape '\\'"
  | like s p false => s.render ++ " like " ++ p.render ++ " escape '\\'"
  | between s lo hi => s.render ++ " between " ++ lo.render ++ " and " ++ hi.render
  | anyElement column condition =>
    "exists (select 1 from json_each(" ++ column.render ++ ") where " ++ condition.render ++ ")"
  | coversAll column element items count =>
    "(select count(distinct " ++ element.render ++ ") from json_each(" ++ column.render ++
      ") where " ++ element.render ++ " in (" ++ renderList items ++ ")) = " ++ toString count
  | not p => "not " ++ p.render
  | notCoalesce p => "not coalesce(" ++ p.render ++ ", false)"
  | and l r => "(" ++ l.render ++ " and " ++ r.render ++ ")"
  | or l r => "(" ++ l.render ++ " or " ++ r.render ++ ")"
  | andAll ps => "(" ++ renderAll ps ++ ")"
where
  renderAll : List Pred -> String
    | [] => ""
    | [p] => p.render
    | p :: ps => p.render ++ " and " ++ renderAll ps

end Pred

end Sql
end Refbook
