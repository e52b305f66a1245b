import Refbook.Dict.Basic

namespace Refbook
namespace Ddl

/-!
# Column types

The types a script writes for columns, each with the words that name it.
Any other word names an enum, so reading a type never fails.  Each column
type is a field type of a dict; a reference to another dict is the one field
type without a column type of its own.
-/

/-- The column types of the script language. -/
inductive ColumnType where
  | int
  | decimal
  | text
  | bool
  | date
  | timestamp
  | enumeration
  | json
  | attachment
  | geoJson
  deriving DecidableEq, Repr, Inhabited

namespace ColumnType

/-- Every column type, in declaration order. -/
def all : List ColumnType :=
  [int, decimal, text, bool, date, timestamp, enumeration, json, attachment, geoJson]

/-- The type's own name. -/
def name : ColumnType -> String
  | int => "Int"
  | decimal => "Decimal"
  | text => "Text"
  | bool => "Bool"
  | date => "Date"
  | timestamp => "Timestamp"
  | enumeration => "Enum"
  | json => "Json"
  | attachment => "Attachment"
  | geoJson => "GeoJson"

/-- The words that name a type, in lower case. -/
def aliases : ColumnType -> List String
  | int => ["int"]
  | decimal => ["decimal"]
  | text => ["text"]
  | bool => ["bool", "boolean"]
  | date => ["date"]
  | timestamp => ["timestamp"]
  | enumeration => ["anything"]
  | json => ["json"]
  | attachment => ["attachment"]
  | geoJson => ["geo_json"]

/-- The type a word names, in any ASCII case; any other word names an enum. -/
def ofToken (token : String) : ColumnType :=
  let word := String.ofList (token.toList.map Char.toLower)
  (all.find? fun t => t.aliases.contains word).getD enumeration

/-- The field type of a column type. -/
def fieldType : ColumnType -> FieldType
  | int => .integer
  | decimal => .decimal
  | text => .string
  | bool => .boolean
  | date => .date
  | timestamp => .timestamp
  | enumeration => .enumeration
  | json => .json
  | attachment => .attachment
  | geoJson => .geoJson

/-- The column type of a field type; a reference has none. -/
def ofFieldType : FieldType -> Option ColumnType
  | .integer => some int
  | .decimal => some decimal
  | .string => some text
  | .boolean => some bool
  | .date => some date
  | .timestamp => some timestamp
  | .enumeration => some enumeration
  | .json => some json
  | .attachment => some attachment
  | .geoJson => some geoJson
  | .reference => none

end ColumnType

end Ddl
end Refbook
