import Refbook.Store.Records
import Refbook.Ddl.Statement
import Refbook.Ddl.ColumnType
import Refbook.Text.Quote

namespace Refbook
namespace Ddl

/-!
# Running scripts

A script's statements are applied in order, each through the dict and
record operations, and the first failure stops the script, keeping what the
statements before it did.

A script may name one engine at most.  An enum declared for a table that the
same script creates is attached when the table is created; declaring it
again for an existing table is refused unless it is that very declaration.
Literals become JSON values: a number that reads as a 64-bit integer is a
number, any other number stays as its text, and a JSON literal is read.
-/

/-- The number a text reads as, when it is a whole number of the 64-bit
range: an optional sign and decimal digits. -/
def wholeOf? (text : String) : Option Int :=
  let (negative, digits) := match text.toList with
    | '-' :: rest => (true, rest)
    | '+' :: rest => (false, rest)
    | cs => (false, cs)
  if digits.isEmpty || !digits.all Char.isDigit then none
  else
    let magnitude : Int := digits.foldl (fun n c => 10 * n + (c.toNat - '0'.toNat)) 0
    let value := if negative then -magnitude else magnitude
    if -(Int.pow 2 63) ≤ value ∧ value < Int.pow 2 63 then some value else none

mutual

/-- A literal as a JSON value. -/
def Literal.toValue : Literal -> Except Error Json
  | .null => .ok .null
  | .number text => .ok ((wholeOf? text).elim (.string text) Json.ofInt)
  | .string text => .ok (.string text)
  | .boolean b => .ok (.bool b)
  | .json text =>
    match Json.read text with
    | .ok value => .ok value
    | .error e => .error (.serialization e.message)
  | .array items => (Literal.toValues items).map Json.array

def Literal.toValues : List Literal -> Except Error (List Json)
  | [] => .ok []
  | item :: rest => do pure ((← item.toValue) :: (← Literal.toValues rest))

end

mutual

/-- A literal as a constructor term, as refusals show it. -/
def Literal.show : Literal -> String
  | .null => "Null"
  | .number text => "Number(" ++ Text.debugQuote text ++ ")"
  | .string text => "String(" ++ Text.debugQuote text ++ ")"
  | .boolean b => "Boolean(" ++ toString b ++ ")"
  | .json text => "Json(" ++ Text.debugQuote text ++ ")"
  | .array items => "Array([" ++ Literal.showAll items ++ "])"

def Literal.showAll : List Literal -> String
  | [] => ""
  | [item] => item.show
  | item :: rest => item.show ++ ", " ++ Literal.showAll rest

end

/-- The filter a `where` condition stands for. -/
def Condition.toExpression (c : Condition) : Except Error Query.Expression := do
  let constant ← match c.value with
    | .null => pure Query.Constant.null
    | .number text =>
      pure (Query.Constant.make text (if (wholeOf? text).isSome then .integer else .decimal))
    | .string text => pure (Query.Constant.make text .string)
    | .boolean b => pure (Query.Constant.make (toString b) .boolean)
    | other =>
      throw (.validation ("Condition on '" ++ c.column ++ "' cannot compare with " ++ other.show))
  pure (.compare { dict := none, name := c.column } c.op (.constant constant))

/-- The filter of an optional condition; no condition selects everything. -/
def filterOf : Option Condition -> Except Error Query.Expression
  | none => .ok .empty
  | some c => c.toExpression

/-- The field a column definition declares.  A type token that names no
type names the enum of that id. -/
def Column.toField (c : Column) : Field :=
  let base : Field :=
    match c.reference with
    | some dictId => { id := c.id, fieldType := .reference, reference := some { dictId, fieldId := "id" } }
    | none =>
      match ColumnType.ofToken c.typeToken with
      | .enumeration => { id := c.id, fieldType := .enumeration, enumId := some c.typeToken }
      | other => { id := c.id, fieldType := other.fieldType }
  { base with name := c.name, multivalued := c.multivalued, required := c.required }

/-- Refuse a script that names more than one engine. -/
def checkSingleEngine (statements : List Statement) : Except Error Unit :=
  let engines := (statements.filterMap Statement.engine).foldl
    (fun acc e => if acc.contains e then acc else acc ++ [e]) []
  if engines.length > 1 then
    .error (.validation ("A script may use one engine, found " ++
      String.intercalate ", " (engines.mergeSort fun a b => decide (a ≤ b))))
  else .ok ()

/-- The enums a script declares for a table. -/
def declaredEnums (statements : List Statement) (table : String) : List Enumeration :=
  statements.filterMap fun
    | .createEnum id name t values => if t = table then some { id, name, values } else none
    | _ => none

/-- The tables a script creates. -/
def createdTables (statements : List Statement) : List String :=
  statements.filterMap fun
    | .createTable id .. => some id
    | _ => none

/-- Apply a change to a table. -/
def alter (table : String) : Alteration -> WorldM Unit
  | .addColumn column => discard (Dicts.addField table column.toField)
  | .dropColumn id => discard (Dicts.dropField table id)
  | .renameColumn source target name => discard (Dicts.renameField table source target name)
  | .setParameter parameter value => discard (Dicts.setParameter table parameter value)
  | .addConstraint id columns => discard (Dicts.createConstraint table { id, fields := columns })
  | .dropConstraint id => discard (Dicts.deleteConstraint table id)
  | .addEnumValue enumId value => discard (Dicts.addEnumValue table enumId value)
  | .dropEnum id => discard (Dicts.deleteEnum table id)

/-- Insert rows; without columns they are the table's fields in order. -/
def insertRows (table : String) (columns : List String) (rows : List (List Literal)) :
    WorldM Unit := do
  let columns ← if columns.isEmpty then do pure ((← Dicts.get table).fields.map Field.id)
    else pure columns
  let items ← rows.mapM fun row => do
    if row.length ≠ columns.length then
      throw (.validation ("Insert into '" ++ table ++ "' gives " ++ toString row.length ++
        " values for " ++ toString columns.length ++ " columns"))
    (columns.zip row).foldlM (fun (data : Data) (column, literal) => do
      pure (Fields.set data column (← liftExcept literal.toValue))) []
  discard (Records.createMany table items)

/-- Assign values to the live records a condition selects, each at the
version it was read at. -/
def updateRows (table : String) (assignments : List Assignment) (filter : Option Condition) :
    WorldM Unit := do
  let expression ← liftExcept (filterOf filter)
  for item in ← Records.select table expression false do
    let data ← assignments.foldlM (fun (data : Data) a => do
      let value ← match a.value with
        | .value literal => liftExcept literal.toValue
        | .column name => pure ((item.data.lookup name).getD .null)
      pure (Fields.set data a.column value)) item.data
    discard (Records.update table item.id item.version data)

/-- Apply one statement of a script. -/
def Statement.run (script : List Statement) : Statement -> WorldM Unit
  | .createTable id name columns engine =>
    discard (Dicts.create { id, name, engine, fields := columns.map Column.toField,
                            enums := declaredEnums script id })
  | .createEnum id name table values => do
    match ← Dicts.find? table with
    | none =>
      if !(createdTables script).contains table then throw (.dictNotFound table)
    | some d =>
      match d.enum? id with
      | some existing =>
        if !(declaredEnums script table).contains existing then
          throw (.validation ("Enum '" ++ id ++ "' already exists in dict '" ++ table ++ "'"))
      | none => discard (Dicts.createEnum table { id, name, values })
  | .createIndex id table descending fields =>
    discard (Dicts.createIndex table { id, direction := if descending then .desc else .asc, fields })
  | .dropIndex id table => discard (Dicts.deleteIndex table id)
  | .alterTable table alteration => alter table alteration
  | .dropTable table => discard (Dicts.delete table)
  | .insert table columns rows => insertRows table columns rows
  | .update table assignments filter => updateRows table assignments filter
  | .delete table filter => do
    discard (Records.deleteWhere table (← liftExcept (filterOf filter)) none)

/-- Apply a script's statements in order, stopping at the first failure. -/
def execute (statements : List Statement) : WorldM Unit := do
  liftExcept (checkSingleEngine statements)
  for statement in statements do
    statement.run statements

end Ddl
end Refbook
