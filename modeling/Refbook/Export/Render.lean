import Refbook.Export.Format
import Refbook.Store.Item
import Refbook.Dict.Json
import Refbook.Sql.Identifier

namespace Refbook
namespace Export

/-!
# Exported text

The three formats an export writes the records of a dict in:

* CSV: a header of the record columns `id`, `created`, `updated`, `deleted`
  (whether the record is deleted) and `version`, then the dict's fields; one
  line per record.  A string is its own text, an absent value is empty, any
  other value its compact JSON.  A cell holding a comma, a double quote or a
  line break is quoted, its quotes doubled; every line ends with a line feed.
* SQL: one `insert` per record, naming the fields the record has values
  for, in the script language that reads them back.  Lists are `array[…]`,
  JSON values are cast with `::json`, and decimals are bare numbers.
* JSON: a pretty document of the format version, the dict's scheme, and the
  records, each flattened to its id, its field values and its record fields.
-/

/-- A CSV cell, quoted when it holds a comma, a quote or a line break. -/
def csvCell (text : String) : String :=
  if text.any fun c => c = ',' || c = '"' || c = '\r' || c = '\n' then
    "\"" ++ String.join (text.toList.map fun c => if c = '"' then "\"\"" else c.toString) ++ "\""
  else text

/-- A CSV line of cells. -/
def csvLine (cells : List String) : String :=
  String.intercalate "," (cells.map csvCell) ++ "\n"

/-- The text of a value in a cell: a string as it is, nothing for an absent
value, compact JSON for the rest. -/
def cellText : Option Json -> String
  | none | some .null => ""
  | some (.string s) => s
  | some other => Json.compact other

/-- The columns every CSV export starts with. -/
def recordColumns : List String :=
  ["id", "created", "updated", "deleted", "version"]

def csv (d : Dict) (items : List Item) : String :=
  let header := csvLine (recordColumns ++ d.fields.map Field.id)
  let line (item : Item) : String :=
    csvLine ([item.id, item.created.millisText, item.updated.millisText,
      toString item.isDeleted, toString item.version] ++
      d.fields.map fun f => cellText (item.data.lookup f.id))
  header ++ String.join (items.map line)

/-- A quoted SQL string, its quotes doubled. -/
def sqlString (text : String) : String :=
  "'" ++ String.join (text.toList.map fun c => if c = '\'' then "''" else c.toString) ++ "'"

/-- Whether a text reads as a double: an optional sign, then `inf`,
`infinity` or `nan` in any case, or digits with at most one point, at least
one digit, and an optional exponent. -/
def readsAsDouble (text : String) : Bool :=
  let unsigned := match text.toList with
    | '+' :: rest | '-' :: rest => rest
    | cs => cs
  let word := String.ofList (unsigned.map Char.toLower)
  if word = "inf" || word = "infinity" || word = "nan" then true
  else
    let whole := unsigned.takeWhile Char.isDigit
    let rest := unsigned.dropWhile Char.isDigit
    let (fraction, rest) := match rest with
      | '.' :: after => (after.takeWhile Char.isDigit, after.dropWhile Char.isDigit)
      | _ => ([], rest)
    let exponentOk := match rest with
      | [] => true
      | e :: after =>
        let digits := match after with
          | '+' :: ds | '-' :: ds => ds
          | ds => ds
        (e = 'e' || e = 'E') && !digits.isEmpty && digits.all Char.isDigit
    (!whole.isEmpty || !fraction.isEmpty) && exponentOk

/-- One value of a field as an SQL literal. -/
def sqlScalar (f : Field) (value : Json) : String :=
  match f.fieldType, value with
  | _, .null => "null"
  | .json, other | .geoJson, other => sqlString (Json.compact other) ++ "::json"
  | .decimal, .string d => if readsAsDouble d then d else sqlString d
  | _, .string s => sqlString s
  | _, .number n => Json.numberText n
  | _, .bool b => toString b
  | _, other => sqlString (Json.compact other)

/-- A field value as an SQL literal; a list of a multivalued field is an
array. -/
def sqlValue (f : Field) (value : Json) : String :=
  match value with
  | .array values =>
    if f.multivalued then "array[" ++ String.intercalate ", " (values.map (sqlScalar f)) ++ "]"
    else sqlScalar f value
  | other => sqlScalar f other

def sql (d : Dict) (items : List Item) : String :=
  let table := Sql.quoteIdentifier d.id
  let statement (item : Item) : String :=
    let present := d.fields.filterMap fun f => (item.data.lookup f.id).map fun v => (f, v)
    let columns := "id" :: present.map fun (f, _) => Sql.quoteIdentifier f.id
    let values := sqlString item.id :: present.map fun (f, v) => sqlValue f v
    "insert into " ++ table ++ " (" ++ String.intercalate ", " columns ++ ") values (" ++
      String.intercalate ", " values ++ ");"
  String.intercalate "\n" (items.map statement)

/-- A record as one flat document: id, field values, then the record's own
fields. -/
def itemDocument (item : Item) : Json :=
  let fields := item.data.foldl (fun acc (key, value) => Fields.set acc key value)
    [("id", .string item.id)]
  let record : List (String × Json) :=
    [("version", .ofInt item.version), ("created", .string item.created.millisText),
     ("updated", .string item.updated.millisText),
     ("deleted", .ofOption (item.deleted.map Temporal.Timestamp.millisText)),
     ("history", .array (item.history.map Json.object))]
  .object (record.foldl (fun acc (key, value) => Fields.set acc key value) fields)

/-- The version of the JSON export document. -/
def documentVersion : Nat := 1

def json (d : Dict) (items : List Item) : String :=
  Json.pretty (.object [("version", .number (.nat documentVersion)), ("dict", d.toJson),
    ("items", .array (items.map itemDocument))])

/-- The records of a dict in a format. -/
def render (format : Format) (d : Dict) (items : List Item) : String :=
  match format with
  | .csv => csv d items
  | .sql => sql d items
  | .json => json d items

end Export
end Refbook
