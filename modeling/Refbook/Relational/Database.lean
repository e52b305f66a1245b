import Refbook.Relational.Value

namespace Refbook
namespace Relational

/-!
# Tables, indexes and their rules

A database is a list of tables and a list of indexes.  A table has named
columns, each with a declared type, and rows of values in column order,
kept in the order they were inserted.  An index names columns of one
table; a unique index forbids two of its rows from holding the same values
in all of them (a null is never the same as anything), and a partial one
looks only at the rows whose `deleted` column is null.

Names of tables, columns and indexes are compared without regard to ASCII
case.  Every operation fails with the database's own message when a name is
missing or taken, a row is missing a required value, or a unique index would
be broken; the message names the table and columns as they were created.
-/

/-- Equal up to ASCII case. -/
def sameName (a b : String) : Bool :=
  a.toList.map Char.toLower == b.toList.map Char.toLower

/-- A column and its declared type. -/
structure Column where
  name : String
  declared : String
  notNull : Bool := false
  primaryKey : Bool := false
  deriving Repr, Inhabited

def Column.affinity (c : Column) : Affinity :=
  Affinity.ofDeclared c.declared

/-- Values in column order. -/
abbrev Row := List Value

/-- A table and its rows, in insertion order. -/
structure Table where
  name : String
  columns : List Column
  rows : List Row := []
  deriving Repr, Inhabited

/-- An index over columns of a table. -/
structure Index where
  name : String
  table : String
  columns : List String
  unique : Bool
  /-- Only rows whose `deleted` column is null take part. -/
  liveOnly : Bool
  deriving Repr, Inhabited

/-- Tables and indexes. -/
structure Database where
  tables : List Table := []
  indexes : List Index := []
  deriving Repr, Inhabited

namespace Table

/-- The place of a column. -/
def columnIndex? (t : Table) (name : String) : Option Nat :=
  t.columns.findIdx? fun c => sameName c.name name

def column? (t : Table) (name : String) : Option Column :=
  t.columns.find? fun c => sameName c.name name

/-- The value of a column in a row. -/
def valueIn (t : Table) (row : Row) (name : String) : Value :=
  match t.columnIndex? name with
  | some i => row.getD i .null
  | none => .null

/-- A row with its values named by the columns. -/
def named (t : Table) (row : Row) : List (String × Value) :=
  t.columns.zip row |>.map fun (c, v) => (c.name, v)

/-- The rows as named values, in insertion order. -/
def records (t : Table) : List (List (String × Value)) :=
  t.rows.map t.named

/-- `table.column` for each column, joined by commas, as a broken unique
rule is reported. -/
def constraintText (t : Table) (columns : List String) : String :=
  String.intercalate ", " (columns.map fun name =>
    t.name ++ "." ++ ((t.column? name).map Column.name).getD name)

end Table

/-- Whether two rows clash on the given columns: all their values there are
present and the same. -/
def clash (t : Table) (columns : List String) (a b : Row) : Bool :=
  columns.all fun name =>
    let x := t.valueIn a name
    let y := t.valueIn b name
    match x, y with
    | .null, _ | _, .null => false
    | _, _ => x.same y

/-- Whether a row takes part in an index. -/
def Index.covers (ix : Index) (t : Table) (row : Row) : Bool :=
  !ix.liveOnly || (match t.valueIn row "deleted" with
    | .null => true
    | _ => false)

namespace Database

/-- A table with exactly this name, as the catalog of the database lists
it. -/
def tableExists (db : Database) (name : String) : Bool :=
  db.tables.any fun t => t.name == name

def table? (db : Database) (name : String) : Option Table :=
  db.tables.find? fun t => sameName t.name name

def index? (db : Database) (name : String) : Option Index :=
  db.indexes.find? fun ix => sameName ix.name name

/-- The table named so, or the error of a statement naming a missing one. -/
def needTable (db : Database) (name : String) : Except String Table :=
  match db.table? name with
  | some t => .ok t
  | none => .error ("no such table: " ++ name)

/-- Put back a changed table in its place. -/
def replaceTable (db : Database) (t : Table) : Database :=
  { db with tables := db.tables.map fun u => if sameName u.name t.name then t else u }

/-- The unique rules of a table, checked in this order: its indexes from
the newest, then its primary key. -/
def uniqueRules (db : Database) (t : Table) : List (Index) :=
  let indexes := (db.indexes.filter fun ix => ix.unique ∧ sameName ix.table t.name).reverse
  let key := t.columns.filter (·.primaryKey) |>.map Column.name
  if key.isEmpty then indexes
  else indexes ++ [{ name := "", table := t.name, columns := key, unique := true, liveOnly := false }]

/-- Check that `row` clashes with none of `others` under the table's unique
rules. -/
def checkUnique (db : Database) (t : Table) (row : Row) (others : List Row) : Except String Unit :=
  match (db.uniqueRules t).find? fun ix =>
      ix.covers t row && others.any fun o => ix.covers t o && clash t ix.columns row o with
  | some ix => .error ("UNIQUE constraint failed: " ++ t.constraintText ix.columns)
  | none => .ok ()

/-- Check that the required columns of a row hold values. -/
def checkRequired (t : Table) (row : Row) : Except String Unit :=
  match (t.columns.zip row).find? fun (c, v) => c.notNull && (match v with
      | .null => true
      | _ => false) with
  | some (c, _) => .error ("NOT NULL constraint failed: " ++ t.name ++ "." ++ c.name)
  | none => .ok ()

/-- Create a table; `written` is its name as the statement writes it. -/
def createTable (db : Database) (written name : String) (columns : List Column) :
    Except String Database := do
  if (db.table? name).isSome then throw ("table " ++ written ++ " already exists")
  if (db.index? name).isSome then throw ("there is already an index named " ++ name)
  let rec firstRepeat : List Column -> Option Column
    | [] => none
    | c :: cs => if cs.any (fun d => sameName c.name d.name) then some c else firstRepeat cs
  match firstRepeat columns with
  | some c => throw ("duplicate column name: " ++ c.name)
  | none => pure { db with tables := db.tables ++ [{ name, columns }] }

/-- Drop a table and its indexes, if it exists. -/
def dropTable (db : Database) (name : String) : Database :=
  { tables := db.tables.filter fun t => !sameName t.name name,
    indexes := db.indexes.filter fun ix => !sameName ix.table name }

/-- Add a column, null in every row. -/
def addColumn (db : Database) (table : String) (column : Column) : Except String Database := do
  let t ← db.needTable table
  if (t.column? column.name).isSome then throw ("duplicate column name: " ++ column.name)
  pure (db.replaceTable { t with columns := t.columns ++ [column],
                                 rows := t.rows.map (· ++ [.null]) })

/-- Drop a column; `written` is its name as the statement writes it.  A
column that an index names cannot go. -/
def dropColumn (db : Database) (table written name : String) : Except String Database := do
  let t ← db.needTable table
  match t.columnIndex? name with
  | none => throw ("no such column: \"" ++ written ++ "\"")
  | some i =>
    let c := t.columns.getD i default
    if c.primaryKey then throw ("cannot drop PRIMARY KEY column: \"" ++ c.name ++ "\"")
    match db.indexes.find? fun ix => sameName ix.table t.name && ix.columns.any (sameName name) with
    | some ix =>
      throw ("error in index " ++ ix.name ++ " after drop column: no such column: " ++ c.name)
    | none =>
      pure (db.replaceTable { t with columns := t.columns.eraseIdx i,
                                     rows := t.rows.map (·.eraseIdx i) })

/-- Rename a column, also in the indexes that name it; `written` is the old
name as the statement writes it. -/
def renameColumn (db : Database) (table written source target : String) :
    Except String Database := do
  let t ← db.needTable table
  match t.columnIndex? source with
  | none => throw ("no such column: \"" ++ written ++ "\"")
  | some i =>
    if t.columns.any (fun c => sameName c.name target) && !sameName source target then
      throw ("error in table " ++ t.name ++ " after rename: duplicate column name: " ++ target)
    let columns := t.columns.modify i fun c => { c with name := target }
    let indexes := db.indexes.map fun ix =>
      if sameName ix.table t.name then
        { ix with columns := ix.columns.map fun n => if sameName n source then target else n }
      else ix
    pure { (db.replaceTable { t with columns }) with indexes }

/-- Create an index; a unique one fails when rows already clash. -/
def createIndex (db : Database) (ix : Index) : Except String Database := do
  let t ←
    match db.table? ix.table with
    | some t => pure t
    | none => throw ("no such table: main." ++ ix.table)
  if (db.table? ix.name).isSome then throw ("there is already a table named " ++ ix.name)
  if (db.index? ix.name).isSome then throw ("index " ++ ix.name ++ " already exists")
  match ix.columns.find? fun n => (t.column? n).isNone with
  | some n => throw ("no such column: " ++ n)
  | none => pure ()
  if ix.unique then
    let live := t.rows.filter (ix.covers t)
    let rec scan : List Row -> Except String Unit
      | [] => .ok ()
      | row :: rest =>
        if rest.any (clash t ix.columns row) then
          .error ("UNIQUE constraint failed: " ++ t.constraintText ix.columns)
        else scan rest
    scan live
  pure { db with indexes := db.indexes ++ [ix] }

/-- Drop an index, if it exists. -/
def dropIndex (db : Database) (name : String) : Database :=
  { db with indexes := db.indexes.filter fun ix => !sameName ix.name name }

/-- A row built from named values: each converted by its column's affinity,
null where no value is given. -/
def rowOf (t : Table) (values : List (String × Value)) : Except String Row := do
  match values.find? fun (name, _) => (t.column? name).isNone with
  | some (name, _) => throw ("table " ++ t.name ++ " has no column named " ++ name)
  | none =>
    pure (t.columns.map fun c =>
      match values.find? fun (name, _) => sameName name c.name with
      | some (_, v) => v.store c.affinity
      | none => .null)

/-- Insert a row given by named values. -/
def insert (db : Database) (table : String) (values : List (String × Value)) :
    Except String Database := do
  let t ← db.needTable table
  let row ← rowOf t values
  checkRequired t row
  db.checkUnique t row t.rows
  pure (db.replaceTable { t with rows := t.rows ++ [row] })

/-- Set named values in the rows that `chosen` picks; how many changed.  A
column named twice takes the rightmost of its values. -/
def update (db : Database) (table : String) (values : List (String × Value))
    (chosen : List (String × Value) -> Bool) : Except String (Database × Nat) := do
  let t ← db.needTable table
  match values.find? fun (name, _) => (t.column? name).isNone with
  | some (name, _) => throw ("no such column: " ++ name)
  | none => pure ()
  let change (row : Row) : Row :=
    t.columns.zip row |>.map fun (c, v) =>
      match values.reverse.find? fun (name, _) => sameName name c.name with
      | some (_, w) => w.store c.affinity
      | none => v
  let rec go (before : List Row) (count : Nat) : List Row -> Except String (List Row × Nat)
    | [] => .ok (before, count)
    | row :: rest =>
      if chosen (t.named row) then do
        let row' := change row
        checkRequired t row'
        db.checkUnique t row' (before ++ rest)
        go (before ++ [row']) (count + 1) rest
      else go (before ++ [row]) count rest
  let (rows, count) ← go [] 0 t.rows
  pure (db.replaceTable { t with rows }, count)

/-- Remove the rows that `chosen` picks. -/
def delete (db : Database) (table : String) (chosen : List (String × Value) -> Bool) :
    Except String Database := do
  let t ← db.needTable table
  pure (db.replaceTable { t with rows := t.rows.filter fun row => !chosen (t.named row) })

end Database

end Relational
end Refbook
