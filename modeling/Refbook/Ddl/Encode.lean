import Refbook.Ddl.Statement
import Refbook.Query.Encode

namespace Refbook
namespace Ddl

/-!
# Statements as JSON

Each statement is an object with a `kind`; table changes carry their
`operation`, with a `kind` of its own.  A literal is an object of one key
naming its kind.
-/

/-- A list of names. -/
def namesJson (names : List String) : Json :=
  .array (names.map .string)

/-- A column definition. -/
def Column.toJson (c : Column) : Json :=
  .object [("id", .string c.id), ("name", Json.ofOption c.name), ("type", .string c.typeToken),
    ("multivalued", .bool c.multivalued), ("required", .bool c.required),
    ("reference", Json.ofOption c.reference)]

/-- A literal. -/
def Literal.toJson : Literal -> Json
  | .null => .object [("null", .bool true)]
  | .number text => .object [("number", .string text)]
  | .string text => .object [("string", .string text)]
  | .boolean b => .object [("boolean", .bool b)]
  | .json text => .object [("json", .string text)]
  | .array items => .object [("array", .array (items.attach.map fun ⟨item, _⟩ => item.toJson))]

/-- An assignment. -/
def Assignment.toJson (a : Assignment) : Json :=
  .object [("column", .string a.column),
    ("value", match a.value with
      | .value literal => .object [("value", literal.toJson)]
      | .column name => .object [("column", .string name)])]

/-- A `where` clause, or null. -/
def conditionJson : Option Condition -> Json
  | none => .null
  | some c => .object [("column", .string c.column), ("op", .string c.op.name),
      ("value", c.value.toJson)]

/-- A change to a table. -/
def Alteration.toJson : Alteration -> Json
  | .addColumn column => .object [("kind", .string "add_column"), ("column", column.toJson)]
  | .dropColumn id => .object [("kind", .string "drop_column"), ("column", .string id)]
  | .renameColumn source target name =>
    .object [("kind", .string "rename_column"), ("from", .string source), ("to", .string target),
      ("name", Json.ofOption name)]
  | .setParameter parameter value =>
    .object [("kind", .string "set_parameter"), ("parameter", .string parameter.name),
      ("value", Json.ofOption value)]
  | .addConstraint id columns =>
    .object [("kind", .string "add_constraint"), ("id", .string id), ("columns", namesJson columns)]
  | .dropConstraint id => .object [("kind", .string "drop_constraint"), ("id", .string id)]
  | .addEnumValue enumId value =>
    .object [("kind", .string "add_enum_value"), ("enum", .string enumId),
      ("value", .string value)]
  | .dropEnum id => .object [("kind", .string "drop_enum"), ("id", .string id)]

/-- A statement. -/
def Statement.toJson : Statement -> Json
  | .createTable id name columns engine =>
    .object [("kind", .string "create_table"), ("id", .string id), ("name", Json.ofOption name),
      ("engine", Json.ofOption engine), ("columns", .array (columns.map Column.toJson))]
  | .createIndex id table descending fields =>
    .object [("kind", .string "create_index"), ("id", .string id), ("table", .string table),
      ("descending", .bool descending), ("fields", namesJson fields)]
  | .dropIndex id table =>
    .object [("kind", .string "drop_index"), ("id", .string id), ("table", .string table)]
  | .createEnum id name table values =>
    .object [("kind", .string "create_enum"), ("id", .string id), ("name", Json.ofOption name),
      ("table", .string table), ("values", namesJson values)]
  | .alterTable table alteration =>
    .object [("kind", .string "alter_table"), ("table", .string table),
      ("operation", alteration.toJson)]
  | .dropTable table => .object [("kind", .string "drop_table"), ("table", .string table)]
  | .insert table columns rows =>
    .object [("kind", .string "insert"), ("table", .string table), ("columns", namesJson columns),
      ("rows", .array (rows.map fun row => .array (row.map Literal.toJson)))]
  | .update table assignments filter =>
    .object [("kind", .string "update"), ("table", .string table),
      ("assignments", .array (assignments.map Assignment.toJson)), ("where", conditionJson filter)]
  | .delete table filter =>
    .object [("kind", .string "delete"), ("table", .string table), ("where", conditionJson filter)]

end Ddl
end Refbook
