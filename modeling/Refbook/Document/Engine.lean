import Refbook.Document.Store
import Refbook.Document.Compile
import Refbook.Store.Item
import Refbook.Migration.Applied

namespace Refbook
namespace Document

/-!
# The document engine

Each dict is a collection named after it, one document per record: `_id`,
the field values, then `history`, `version`, `created`, `updated`,
`deleted` and `deletionReason`.  Values take their extended form: a decimal
is `{"$numberDecimal": text}`, a date or time `{"$date": "…Z"}` (a date at
midnight), so that filters compare them by kind.

Dict schemes are documents of the collection `dict`, applied migrations of
`version_scheme`, each with its id as `_id`.

A unique constraint is checked by looking for another live document with
the same values; records are found by compiling the filter to a filter
document, with a lookup for each referenced dict it names.
-/

/-- A time in extended form. -/
def dateJson (t : Temporal.Timestamp) : Json :=
  .object [("$date", .string (t.millisText ++ "Z"))]

/-- The time an extended date holds. -/
def dateOfJson? (v : Json) : Option Temporal.Timestamp := do
  let text ← v.get? "$date" >>= Json.str?
  let chars := text.toList
  if chars.getLast? = some 'Z' then Temporal.readWhole Temporal.secondLayout chars.dropLast
  else none

/-- A scalar field value in extended form. -/
def encodeScalar (f : Field) (v : Json) : Except Error Json :=
  let invalid : Error :=
    .validation ("Value " ++ Json.compact v ++ " does not fit field '" ++ f.id ++ "'")
  match f.fieldType, v with
  | .decimal, .string d => .ok (.object [("$numberDecimal", .string d)])
  | .date, .string d =>
    match Query.parseDate d with
    | .ok date => .ok (dateJson date.atMidnight)
    | .error _ => .error invalid
  | .timestamp, .string ts =>
    match Temporal.readWhole Temporal.secondLayout ts.toList with
    | some t => .ok (dateJson t)
    | none => .error invalid
  | _, other => .ok other

/-- A field value in extended form, element by element for a list. -/
def encodeField (f : Field) (v : Json) : Except Error Json :=
  match v with
  | .array items => if f.multivalued then (items.mapM (encodeScalar f)).map Json.array
    else encodeScalar f v
  | _ => encodeScalar f v

/-- A scalar field value back from its extended form. -/
def decodeScalar (f : Field) (v : Json) : Except Error Json :=
  match f.fieldType with
  | .decimal =>
    match v.get? "$numberDecimal" >>= Json.str? with
    | some d => (Query.canonicalDecimal d).map Json.string
    | none => .ok v
  | .date =>
    match dateOfJson? v with
    | some t => .ok (.string t.date.text)
    | none => .ok v
  | .timestamp =>
    match dateOfJson? v with
    | some t => .ok (.string t.millisText)
    | none => .ok v
  | _ => .ok v

def decodeField (f : Field) (v : Json) : Except Error Json :=
  match v with
  | .array items => if f.multivalued then (items.mapM (decodeScalar f)).map Json.array
    else decodeScalar f v
  | _ => decodeScalar f v

/-- A record as its document. -/
def toDocument (d : Dict) (item : Item) : Except Error Json := do
  let fields ← d.fields.foldlM (fun (acc : List (String × Json)) f =>
    match item.data.lookup f.id with
    | some v => (encodeField f v).map fun e => Fields.set acc f.id e
    | none => .ok acc) [("_id", .string item.id)]
  pure (.object (fields ++
    [("history", .array (item.history.map Json.object)), ("version", .ofInt item.version),
     ("created", dateJson item.created), ("updated", dateJson item.updated),
     ("deleted", (item.deleted.map dateJson).getD .null),
     ("deletionReason", .ofOption item.deletionReason)]))

/-- A record read back from its document. -/
def ofDocument (d : Dict) (document : Json) : Except Error Item := do
  let fields ←
    match document with
    | .object fields => pure fields
    | _ => throw (.persistence ("stored item of '" ++ d.id ++ "' is not a document"))
  let missing (key : String) : Error :=
    .persistence ("document of '" ++ d.id ++ "' has no " ++ key)
  let data ← d.fields.foldlM (fun (data : Data) f =>
    match fields.lookup f.id with
    | none | some .null => .ok data
    | some v => (decodeField f v).map fun value => Fields.set data f.id value) []
  let id ← (fields.lookup "_id" >>= Json.str?).elim (throw (missing "_id")) pure
  let history ←
    match fields.lookup "history" with
    | some (.array entries) =>
      entries.mapM fun
        | .object snapshot => pure snapshot
        | other => throw (.serialization (Decode.mismatch other "a map"))
    | some other => throw (.serialization (Decode.mismatch other "a sequence"))
    | none => pure []
  let version ← (fields.lookup "version" >>= Json.int?).elim (throw (missing "version")) pure
  let created ← (fields.lookup "created" >>= dateOfJson?).elim (throw (missing "created")) pure
  let updated ← (fields.lookup "updated" >>= dateOfJson?).elim (throw (missing "updated")) pure
  pure { id, data, history, version, created, updated,
         deleted := fields.lookup "deleted" >>= dateOfJson?,
         deletionReason := fields.lookup "deletionReason" >>= Json.str? }

/-- A document with an `_id`. -/
def withId (id : String) (json : Json) : Json :=
  match json with
  | .object fields => .object (Fields.set fields "_id" (.string id))
  | other => other

/-- A document without its `_id`. -/
def withoutId (json : Json) : Json :=
  match json with
  | .object fields => .object (Fields.swapRemove fields "_id")
  | other => other

/-- Reject a record when another live record holds the same values for one
of the dict's unique constraints; constraints on a field the record leaves
empty do not apply. -/
def checkUnique (d : Dict) (item : Item) : StoreM Unit := do
  if item.isDeleted then return
  for c in d.constraints do
    let conditions ← liftExcept (c.fields.foldlM (fun (acc : Option (List Json)) fieldId =>
      match acc with
      | none => .ok none
      | some conds =>
        match d.field? fieldId, item.data.lookup fieldId with
        | some f, some v => (encodeField f v).map fun e => some (conds ++ [.object [(f.id, e)]])
        | _, _ => .ok none) (some []))
    match conditions with
    | none => pure ()
    | some conds =>
      let filter : Json := .object [("$and", .array
        ([.object [("_id", .object [("$ne", .string item.id)])], .object [("deleted", .null)]] ++
          conds))]
      if !(← find d.id filter).isEmpty then
        throw (.validation ("Unique constraint '" ++ c.id ++ "' of dict '" ++ d.id ++
          "' is violated"))

/-! ## Dict schemes -/

def dictStoreExists (s : Store) : Bool :=
  s.contains "dict"

def createDictStore : StoreM Unit :=
  modify fun s => s.create "dict"

/-- A dict scheme read back from its document. -/
def dictOfDocument (document : Json) : Except Error Dict :=
  match Dict.ofJson (withoutId document) with
  | .ok d => .ok d
  | .error message => .error (.serialization message)

def getDict (id : String) : StoreM (Option Dict) := do
  match (← find "dict" (byId id)).head? with
  | some doc => liftExcept ((dictOfDocument doc).map some)
  | none => pure none

/-- Every dict scheme, in the order they were first saved. -/
def allDicts : StoreM (List Dict) := do
  liftExcept ((← find "dict" (.object [])).mapM dictOfDocument)

/-- Insert or replace a dict scheme. -/
def saveDict (d : Dict) : StoreM Unit := do
  let doc := withId d.id d.toJson
  if (← replaceOne "dict" (byId d.id) doc) = 0 then insertOne "dict" doc

def removeDict (id : String) : StoreM Unit := do
  let _ ← deleteOne "dict" (byId id)

/-! ## Collections of dicts -/

def schemeExists (s : Store) (id : String) : Bool :=
  s.contains id

def createScheme (d : Dict) : StoreM Unit := do
  if (← get).contains d.id then throw (.alreadyExists d.id)
  modify fun s => s.create d.id

/-- Remove the values of fields that went; a kept field must keep its type
and whether it is a list. -/
def updateScheme (previous current : Dict) : StoreM Unit := do
  for f in previous.fields do
    match current.field? f.id with
    | none => unsetKey current.id f.id
    | some kept =>
      if kept.fieldType ≠ f.fieldType ∨ kept.multivalued ≠ f.multivalued then
        throw (.validation ("Field '" ++ f.id ++ "' of dict '" ++ current.id ++
          "' cannot change its type from " ++ f.fieldType.name ++ " to " ++ kept.fieldType.name))

def renameField (d : Dict) (source target : String) : StoreM Unit :=
  renameKey d.id source target

def dropScheme (d : Dict) : StoreM Unit :=
  modify fun s => s.drop d.id

/-! ## Records -/

def insertItem (d : Dict) (item : Item) : StoreM Unit :=
  atomically do
    checkUnique d item
    insertOne d.id (← liftExcept (toDocument d item))

def getItem (d : Dict) (id : String) : StoreM (Option Item) := do
  match (← find d.id (byId id)).head? with
  | some doc => liftExcept ((ofDocument d doc).map some)
  | none => pure none

/-- Every record of a dict, in insertion order. -/
def allItems (d : Dict) : StoreM (List Item) := do
  liftExcept ((← find d.id (.object [])).mapM (ofDocument d))

/-- The records of `d` a filter selects, deleted ones only when asked. -/
def findItems (d : Dict) (catalog : List Dict) (filter : Query.Expression)
    (includeDeleted : Bool) : StoreM (List Item) := do
  let compiled ← liftExcept (compile { dictId := d.id, catalog } filter)
  let lookups ← liftExcept ((compiled.participants.filter (· ≠ d.id)).mapM fun joined =>
    match d.referenceTo? joined with
    | some f => .ok { source := joined, key := f.id, name := joined }
    | none => .error (.validation ("Dict '" ++ d.id ++ "' has no reference to '" ++ joined ++ "'")))
  let document :=
    if includeDeleted then compiled.document
    else .object [("$and", .array [compiled.document, .object [("deleted", .null)]])]
  liftExcept ((← find d.id document lookups).mapM (ofDocument d))

/-- Apply `change` to a stored record in one step: the record must exist,
and, when `expected` is given, still be at that version. -/
def modifyItem {α : Type} (d : Dict) (id : String) (expected : Option Int)
    (change : Item -> Except Error (Item × α)) : StoreM (Item × α) :=
  atomically do
    let stored ← match ← getItem d id with
      | some item => pure item
      | none => throw (.itemNotFound d.id id)
    if let some e := expected then
      if e ≠ stored.version then throw (.concurrentUpdate d.id id e stored.version)
    let (modified, extra) ← liftExcept (change stored)
    checkUnique d modified
    let filter : Json := .object [("_id", .string id), ("version", .ofInt stored.version)]
    let replaced ← replaceOne d.id filter (← liftExcept (toDocument d modified))
    if replaced = 0 then
      let actual := ((← getItem d id).map Item.version).getD stored.version
      throw (.concurrentUpdate d.id id stored.version actual)
    pure (modified, extra)

/-! ## Applied migrations -/

def versionStoreExists (s : Store) : Bool :=
  s.contains "version_scheme"

def createVersionStore : StoreM Unit :=
  modify fun s => s.create "version_scheme"

def versions (target : String) : StoreM (List Migration.Applied) := do
  let docs ← find "version_scheme" (.object [("target", .string target)])
  liftExcept (docs.mapM fun doc =>
    match Migration.Applied.ofJson (withoutId doc) with
    | .ok a => .ok a
    | .error message => .error (.serialization message))

def recordVersion (a : Migration.Applied) : StoreM Unit :=
  insertOne "version_scheme" (withId a.id a.toJson)

end Document
end Refbook
