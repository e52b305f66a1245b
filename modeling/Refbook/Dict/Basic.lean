import Refbook.Temporal.Basic

namespace Refbook

/-!
# Dicts

A dict is a record schema defined by its users: typed fields, enumerations
of allowed values, indexes and unique constraints.  Its records are kept by
one storage engine, named in the dict once it is known.

Every record also has service fields that no dict declares: `id` (stored
as `_id` in documents), `history`, `created`, `updated`, `deleted`,
`version` and `deletionReason`.
-/

/-- The type of a field. -/
inductive FieldType where
  | integer
  | decimal
  | string
  | boolean
  | date
  | timestamp
  | json
  | enumeration
  | attachment
  | geoJson
  | reference
  deriving DecidableEq, Repr, Inhabited

namespace FieldType

/-- Every field type, in declaration order. -/
def all : List FieldType :=
  [integer, decimal, string, boolean, date, timestamp, json, enumeration, attachment, geoJson,
   reference]

/-- The name of a type, in capitals. -/
def name : FieldType -> String
  | integer => "INTEGER"
  | decimal => "DECIMAL"
  | string => "STRING"
  | boolean => "BOOLEAN"
  | date => "DATE"
  | timestamp => "TIMESTAMP"
  | json => "JSON"
  | enumeration => "ENUM"
  | attachment => "ATTACHMENT"
  | geoJson => "GEO_JSON"
  | reference => "DICT"

/-- The type a name in capitals names. -/
def ofName? (text : String) : Option FieldType :=
  all.find? fun t => t.name = text

def isTemporal : FieldType -> Bool
  | date | timestamp => true
  | _ => false

def isNumeric : FieldType -> Bool
  | integer | decimal => true
  | _ => false

end FieldType

/-- The field a reference points to: the `id` of a record of some dict. -/
structure Reference where
  dictId : String
  fieldId : String
  deriving DecidableEq, Repr, Inhabited

/-- A declared field.  Bounds are numeric bounds for numbers and length
bounds for strings. -/
structure Field where
  id : String
  name : Option String := none
  fieldType : FieldType
  multivalued : Bool := false
  required : Bool := false
  minSize : Option Float := none
  maxSize : Option Float := none
  enumId : Option String := none
  reference : Option Reference := none
  deriving Repr, Inhabited

/-- The order of an index. -/
inductive Direction where
  | asc
  | desc
  deriving DecidableEq, Repr, Inhabited

/-- An index over fields, in declared order. -/
structure Index where
  id : String
  direction : Direction
  fields : List String
  deriving DecidableEq, Repr, Inhabited

/-- A unique constraint over one or more fields. -/
structure Constraint where
  id : String
  fields : List String
  deriving DecidableEq, Repr, Inhabited

/-- The allowed values of an enumerated field. -/
structure Enumeration where
  id : String
  name : Option String := none
  values : List String
  deriving DecidableEq, Repr, Inhabited

/-- A record schema. -/
structure Dict where
  id : String
  name : Option String := none
  fields : List Field := []
  indexes : List Index := []
  constraints : List Constraint := []
  enums : List Enumeration := []
  viewPermission : Option String := none
  editPermission : Option String := none
  deleted : Option Temporal.Timestamp := none
  engine : Option String := none
  deriving Repr, Inhabited

/-- Equal up to ASCII case. -/
def sameNoCase (a b : String) : Bool :=
  a.toList.map Char.toLower == b.toList.map Char.toLower

namespace Dict

/-- The field with an id, up to ASCII case. -/
def field? (d : Dict) (fieldId : String) : Option Field :=
  d.fields.find? fun f => sameNoCase f.id fieldId

/-- The enumeration with an id. -/
def enum? (d : Dict) (enumId : String) : Option Enumeration :=
  d.enums.find? fun e => e.id = enumId

/-- The first field that references a dict. -/
def referenceTo? (d : Dict) (dictId : String) : Option Field :=
  d.fields.find? fun f => (f.reference.map (·.dictId)) = some dictId

/-- The dicts this dict references, each once, in field order. -/
def referencedDictIds (d : Dict) : List String :=
  (d.fields.filterMap fun f => f.reference.map (·.dictId)).foldl
    (fun acc id => if acc.contains id then acc else acc ++ [id]) []

def isDeleted (d : Dict) : Bool :=
  d.deleted.isSome

end Dict

/-- The service fields of every record. -/
def serviceFields : List String :=
  ["id", "_id", "history", "created", "updated", "deleted", "version", "deletionReason"]

/-- A service field's id, up to ASCII case. -/
def isServiceField (fieldId : String) : Bool :=
  serviceFields.any (sameNoCase fieldId)

/-- The type of a service field when a filter names it (exact spelling). -/
def serviceFieldType? : String -> Option FieldType
  | "id" | "_id" => some .string
  | "version" => some .integer
  | "created" | "updated" | "deleted" => some .timestamp
  | _ => none

end Refbook
