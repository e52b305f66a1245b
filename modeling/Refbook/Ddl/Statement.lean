import Refbook.Query.Expression

namespace Refbook
namespace Ddl

/-!
# Statements of schema scripts

What a script says, once read: statements on tables (which are dicts),
their columns (fields), indexes, unique constraints and enums, and
statements on rows (items).  Names are kept as written; a column's type is
the token as written, since a token that names no type names an enum.
-/

/-- A column definition: `id ['Name'] type [[]] [not null] [references dict]`. -/
structure Column where
  id : String
  name : Option String
  typeToken : String
  multivalued : Bool
  required : Bool
  reference : Option String
  deriving Repr, Inhabited, BEq

/-- A parameter of a table that `set` changes. -/
inductive TableParameter where
  | readPermission
  | writePermission
  deriving DecidableEq, Repr, Inhabited

namespace TableParameter

/-- The parameter a name stands for, in any case. -/
def ofName? (name : String) : Option TableParameter :=
  match name.toList.map Char.toLower |> String.ofList with
  | "readpermission" => some readPermission
  | "writepermission" => some writePermission
  | _ => none

/-- The parameter's own name. -/
def name : TableParameter -> String
  | readPermission => "ReadPermission"
  | writePermission => "WritePermission"

end TableParameter

/-- A literal in a data statement. -/
inductive Literal where
  | null
  | number (text : String)
  | string (text : String)
  | boolean (b : Bool)
  | json (text : String)
  | array (items : List Literal)
  deriving Repr, Inhabited, BEq

/-- What an assignment stores: a literal, or another column of the same row. -/
inductive Assigned where
  | value (literal : Literal)
  | column (name : String)
  deriving Repr, Inhabited, BEq

/-- `column = value` in an update. -/
structure Assignment where
  column : String
  value : Assigned
  deriving Repr, Inhabited, BEq

/-- `where column op value`. -/
structure Condition where
  column : String
  op : Query.CompareOp
  value : Literal
  deriving Repr, Inhabited

/-- A change to a table. -/
inductive Alteration where
  | addColumn (column : Column)
  | dropColumn (id : String)
  | renameColumn (source target : String) (name : Option String)
  | setParameter (parameter : TableParameter) (value : Option String)
  | addConstraint (id : String) (columns : List String)
  | dropConstraint (id : String)
  | addEnumValue (enumId value : String)
  | dropEnum (id : String)
  deriving Repr, Inhabited

/-- A statement of a script. -/
inductive Statement where
  | createTable (id : String) (name : Option String) (columns : List Column)
      (engine : Option String)
  | createIndex (id table : String) (descending : Bool) (fields : List String)
  | dropIndex (id table : String)
  | createEnum (id : String) (name : Option String) (table : String) (values : List String)
  | alterTable (table : String) (alteration : Alteration)
  | dropTable (table : String)
  | insert (table : String) (columns : List String) (rows : List (List Literal))
  | update (table : String) (assignments : List Assignment) (filter : Option Condition)
  | delete (table : String) (filter : Option Condition)
  deriving Repr, Inhabited

/-- The engine a `create table` names, if any. -/
def Statement.engine : Statement -> Option String
  | createTable _ _ _ engine => engine
  | _ => none

end Ddl
end Refbook
