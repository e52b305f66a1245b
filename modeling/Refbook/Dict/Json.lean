import Refbook.Dict.Basic
import Refbook.Json.Write
import Refbook.Temporal.Read
import Refbook.Text.Quote

namespace Refbook

/-!
# Dicts as JSON

A dict is written with camelCase keys, every key present (absent values are
null or empty), field types in capitals and index directions `ASC` or
`DESC`.  Reading accepts missing optional keys, and refuses a value of the
wrong kind with a message saying what was expected.
-/

namespace Decode

/-- A reader of one JSON value, or the reason it refuses. -/
abbrev Reader (α : Type) := Json -> Except String α

/-- A value, as a reading error names it. -/
def describe : Json -> String
  | .null => "null"
  | .bool b => "boolean " ++ tick (toString b)
  | .number (.nat n) => "integer " ++ tick (toString n)
  | .number (.neg n) => "integer " ++ tick (toString n)
  | .number (.float f) => "floating point " ++ tick (Json.floatText f)
  | .string s => "string " ++ Text.debugQuote s
  | .array _ => "sequence"
  | .object _ => "map"
where
  tick (text : String) : String := "\x60" ++ text ++ "\x60"

/-- A name between backticks. -/
def ticked (name : String) : String :=
  "\x60" ++ name ++ "\x60"

/-- A value of the wrong kind. -/
def mismatch (json : Json) (expected : String) : String :=
  "invalid type: " ++ describe json ++ ", expected " ++ expected

/-- A name that is none of the variants. -/
def unknownVariant (name : String) (variants : List String) : String :=
  let expected :=
    match variants with
    | [] => "there are no variants"
    | [one] => "expected " ++ ticked one
    | [one, two] => "expected " ++ ticked one ++ " or " ++ ticked two
    | _ => "expected one of " ++ String.intercalate ", " (variants.map ticked)
  "unknown variant " ++ ticked name ++ ", " ++ expected

/-- A missing required key. -/
def missing (key : String) : String :=
  "missing field " ++ ticked key

/-- The entries of an object. -/
def object (what : String) : Reader (List (String × Json))
  | .object fields => .ok fields
  | other => .error (mismatch other what)

/-- A string. -/
def string : Reader String
  | .string s => .ok s
  | other => .error (mismatch other "a string")

/-- A boolean. -/
def boolean : Reader Bool
  | .bool b => .ok b
  | other => .error (mismatch other "a boolean")

/-- A double. -/
def double : Reader Float
  | .number (.nat n) => .ok (Float.ofNat n)
  | .number (.neg n) => .ok (-(Float.ofNat n.natAbs))
  | .number (.float f) => .ok f
  | other => .error (mismatch other "f64")

/-- A value or null. -/
def optional {α : Type} (read : Reader α) : Reader (Option α)
  | .null => .ok none
  | other => (read other).map some

/-- A sequence. -/
def sequence {α : Type} (read : Reader α) : Reader (List α)
  | .array items => items.mapM read
  | other => .error (mismatch other "a sequence")

/-- One of the unit variants of an enumeration, written as its name (or as
an object of one key, its name, with null). -/
def variant {α : Type} (variants : List (String × α)) : Reader α
  | .string name =>
    match variants.lookup name with
    | some v => .ok v
    | none => .error (unknownVariant name (variants.map Prod.fst))
  | .object [(name, value)] =>
    match variants.lookup name with
    | none => .error (unknownVariant name (variants.map Prod.fst))
    | some v =>
      match value with
      | .null => .ok v
      | other => .error (mismatch other "unit variant")
  | .object _ => .error "invalid value: map, expected map with a single key"
  | other => .error (mismatch other "string or map")

/-- The first refusal among the entries of an object, in their order, then the
first required key that is missing. -/
def checkEntries (fields : List (String × Json)) (checks : List (String × Reader Unit))
    (required : List String) : Except String Unit := do
  for (key, value) in fields do
    match checks.lookup key with
    | some check => check value
    | none => pure ()
  for key in required do
    if (fields.lookup key).isNone then throw (missing key)

/-- A reader that only checks. -/
def check {α : Type} (read : Reader α) : Reader Unit :=
  fun json => (read json).map fun _ => ()

/-- A required entry. -/
def field {α : Type} (fields : List (String × Json)) (key : String) (read : Reader α) :
    Except String α :=
  match fields.lookup key with
  | some value => read value
  | none => .error (missing key)

/-- An entry with a default when missing. -/
def fieldOr {α : Type} (fields : List (String × Json)) (key : String) (read : Reader α)
    (default : α) : Except String α :=
  match fields.lookup key with
  | some value => read value
  | none => .ok default

end Decode

namespace FieldType

/-- A field type, by its name in capitals. -/
def ofJson : Decode.Reader FieldType :=
  Decode.variant (all.map fun t => (t.name, t))

end FieldType

/-- A double as JSON. -/
def floatJson (f : Float) : Json :=
  .number (.float f)

namespace Field

def toJson (f : Field) : Json :=
  .object [("id", .string f.id), ("name", .ofOption f.name), ("type", .string f.fieldType.name),
    ("multivalued", .bool f.multivalued), ("required", .bool f.required),
    ("minSize", (f.minSize.map floatJson).getD .null), ("maxSize", (f.maxSize.map floatJson).getD .null),
    ("enumId", .ofOption f.enumId),
    ("dictRef", match f.reference with
      | some r => .object [("dictId", .string r.dictId), ("fieldId", .string r.fieldId)]
      | none => .null)]

/-- The reader of a field reference. -/
def referenceOfJson : Decode.Reader Reference := fun json => do
  let entries ← Decode.object "struct DictFieldRef" json
  Decode.checkEntries entries
    [("dictId", Decode.check Decode.string), ("fieldId", Decode.check Decode.string)]
    ["dictId", "fieldId"]
  let dictId ← Decode.field entries "dictId" Decode.string
  let fieldId ← Decode.field entries "fieldId" Decode.string
  pure { dictId, fieldId }

/-- Read a field: the first refusal in the order of its entries, then the
first missing required key. -/
def ofJson : Decode.Reader Field := fun json => do
  let entries ← Decode.object "struct DictField" json
  let optString := Decode.optional Decode.string
  let optDouble := Decode.optional Decode.double
  Decode.checkEntries entries
    [("id", Decode.check Decode.string), ("name", Decode.check optString),
     ("type", Decode.check FieldType.ofJson), ("multivalued", Decode.check Decode.boolean),
     ("required", Decode.check Decode.boolean), ("minSize", Decode.check optDouble),
     ("maxSize", Decode.check optDouble), ("enumId", Decode.check optString),
     ("dictRef", Decode.check (Decode.optional referenceOfJson))]
    ["id", "type"]
  let id ← Decode.field entries "id" Decode.string
  let name ← Decode.fieldOr entries "name" optString none
  let fieldType ← Decode.field entries "type" FieldType.ofJson
  let multivalued ← Decode.fieldOr entries "multivalued" Decode.boolean false
  let required ← Decode.fieldOr entries "required" Decode.boolean false
  let minSize ← Decode.fieldOr entries "minSize" optDouble none
  let maxSize ← Decode.fieldOr entries "maxSize" optDouble none
  let enumId ← Decode.fieldOr entries "enumId" optString none
  let reference ← Decode.fieldOr entries "dictRef" (Decode.optional referenceOfJson) none
  pure { id, name, fieldType, multivalued, required, minSize, maxSize, enumId, reference }

end Field

namespace Direction

def name : Direction -> String
  | asc => "ASC"
  | desc => "DESC"

end Direction

namespace Index

def toJson (i : Index) : Json :=
  .object [("id", .string i.id), ("direction", .string i.direction.name),
    ("fields", .array (i.fields.map .string))]

/-- An index direction. -/
def directionOfJson : Decode.Reader Direction :=
  Decode.variant [("ASC", .asc), ("DESC", .desc)]

/-- Read an index. -/
def ofJson : Decode.Reader Index := fun json => do
  let entries ← Decode.object "struct DictIndex" json
  let names := Decode.sequence Decode.string
  Decode.checkEntries entries
    [("id", Decode.check Decode.string), ("direction", Decode.check directionOfJson),
     ("fields", Decode.check names)]
    ["id", "direction", "fields"]
  let id ← Decode.field entries "id" Decode.string
  let direction ← Decode.field entries "direction" directionOfJson
  let fields ← Decode.field entries "fields" names
  pure { id, direction, fields }

end Index

namespace Constraint

def toJson (c : Constraint) : Json :=
  .object [("id", .string c.id), ("fields", .array (c.fields.map .string))]

/-- Read a unique constraint. -/
def ofJson : Decode.Reader Constraint := fun json => do
  let entries ← Decode.object "struct DictConstraint" json
  let names := Decode.sequence Decode.string
  Decode.checkEntries entries
    [("id", Decode.check Decode.string), ("fields", Decode.check names)] ["id", "fields"]
  let id ← Decode.field entries "id" Decode.string
  let fields ← Decode.field entries "fields" names
  pure { id, fields }

end Constraint

namespace Enumeration

def toJson (e : Enumeration) : Json :=
  .object [("id", .string e.id), ("name", .ofOption e.name), ("values", .array (e.values.map .string))]

/-- Read an enum. -/
def ofJson : Decode.Reader Enumeration := fun json => do
  let entries ← Decode.object "struct DictEnum" json
  let optString := Decode.optional Decode.string
  let names := Decode.sequence Decode.string
  Decode.checkEntries entries
    [("id", Decode.check Decode.string), ("name", Decode.check optString),
     ("values", Decode.check names)]
    ["id", "values"]
  let id ← Decode.field entries "id" Decode.string
  let name ← Decode.fieldOr entries "name" optString none
  let values ← Decode.field entries "values" names
  pure { id, name, values }

end Enumeration

namespace Dict

def toJson (d : Dict) : Json :=
  .object [("id", .string d.id), ("name", .ofOption d.name),
    ("fields", .array (d.fields.map Field.toJson)),
    ("indexes", .array (d.indexes.map Index.toJson)),
    ("constraints", .array (d.constraints.map Constraint.toJson)),
    ("enums", .array (d.enums.map Enumeration.toJson)),
    ("viewPermission", .ofOption d.viewPermission), ("editPermission", .ofOption d.editPermission),
    ("deleted", .ofOption (d.deleted.map (·.isoText))), ("engine", .ofOption d.engine)]

/-- A timestamp written `2024-01-31T10:15:30.250`, blanks allowed before
its separators and around it. -/
def timestampOfJson : Decode.Reader Temporal.Timestamp
  | .string s =>
    match Temporal.readStored s with
    | .ok t => .ok t
    | .error fault => .error fault.message
  | other => .error (Decode.mismatch other "a formatted date and time string")

/-- Read a dict: the first refusal in the order of its entries, then a missing
`id`. -/
def ofJson : Decode.Reader Dict := fun json => do
  let entries ← Decode.object "struct Dict" json
  let optString := Decode.optional Decode.string
  let optTimestamp := Decode.optional timestampOfJson
  Decode.checkEntries entries
    [("id", Decode.check Decode.string), ("name", Decode.check optString),
     ("fields", Decode.check (Decode.sequence Field.ofJson)),
     ("indexes", Decode.check (Decode.sequence Index.ofJson)),
     ("constraints", Decode.check (Decode.sequence Constraint.ofJson)),
     ("enums", Decode.check (Decode.sequence Enumeration.ofJson)),
     ("viewPermission", Decode.check optString), ("editPermission", Decode.check optString),
     ("deleted", Decode.check optTimestamp), ("engine", Decode.check optString)]
    ["id"]
  let id ← Decode.field entries "id" Decode.string
  let name ← Decode.fieldOr entries "name" optString none
  let fields ← Decode.fieldOr entries "fields" (Decode.sequence Field.ofJson) []
  let indexes ← Decode.fieldOr entries "indexes" (Decode.sequence Index.ofJson) []
  let constraints ← Decode.fieldOr entries "constraints" (Decode.sequence Constraint.ofJson) []
  let enums ← Decode.fieldOr entries "enums" (Decode.sequence Enumeration.ofJson) []
  let viewPermission ← Decode.fieldOr entries "viewPermission" optString none
  let editPermission ← Decode.fieldOr entries "editPermission" optString none
  let deleted ← Decode.fieldOr entries "deleted" optTimestamp none
  let engine ← Decode.fieldOr entries "engine" optString none
  pure { id, name, fields, indexes, constraints, enums, viewPermission, editPermission,
         deleted, engine }

end Dict

end Refbook
