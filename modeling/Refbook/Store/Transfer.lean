import Refbook.Store.Records
import Refbook.Export.Render

namespace Refbook
namespace Transfer

/-!
# Export and import

An export writes the live records of a dict, or the ones named, in a
format.  An import reads a JSON document whose key of the dict's id lists
records to create, all in one transaction: the record fields other than
`id` (or `_id`) are dropped, and a reference field may hold the referenced
record itself, an object with an id, which is created in its dict first
unless that dict holds it already; the field keeps only the id.
-/

/-- The exported text of a dict's live records, or of the ones named. -/
def exportText (dictId : String) (format : Export.Format) (itemIds : List String) :
    WorldM String := do
  let d ← Dicts.get dictId
  let items ←
    if itemIds.isEmpty then Records.search dictId "" false
    else itemIds.mapM fun id => Records.get dictId id false
  pure (Export.render format d items)

/-- A JSON document that must be an object: anything else is refused with
the kind of value found and where it ends. -/
def readDocument (text : String) : Except Error (List (String × Json)) :=
  let s := Json.Source.ofString text
  let start := s.skipBlanks { index := 0, offset := 0 }
  let refuse (e : Json.ReadError) : Except Error (List (String × Json)) :=
    .error (.serialization e.message)
  let mismatch (what : String) : String := "invalid type: " ++ what ++ ", expected a map"
  match s.peek start with
  | none => refuse (s.peekErrorAt start "EOF while parsing a value")
  | some '{' =>
    match Json.read text with
    | .ok (.object fields) => .ok fields
    | .ok other => .error (.serialization (mismatch (Decode.describe other)))
    | .error e => refuse e
  | some '[' => refuse (s.errorAt start (mismatch "sequence"))
  | some _ =>
    match Json.readValue s (2 * s.chars.size + 4) 128 start with
    | .ok (value, stop) => refuse (s.errorAt stop (mismatch (Decode.describe value)))
    | .error e => refuse e

/-- The values of an imported record that are stored: its field values and
its id, `_id` read as `id`. -/
def insertable (record : Data) : Data :=
  record.foldl (fun acc (key, value) =>
    if key = "id" || key = "_id" then Fields.set acc "id" value
    else if isServiceField key then acc
    else Fields.set acc key value) []

/-- Create an embedded record in `dictId` unless it is there, deleted or
not; its id. -/
def embedRecord (dictId : String) (record : Data) : WorldM Json := do
  let record := insertable record
  let id ← match record.lookup "id" >>= Json.str? with
    | some id => pure id
    | none => throw (.validation ("Embedded record of '" ++ dictId ++ "' has no string id"))
  tryCatch (discard (Records.get dictId id true)) fun
    | .itemNotFound .. => discard (Records.create dictId record)
    | e => throw e
  pure (.string id)

mutual

/-- A reference value with each embedded record replaced by its id. -/
def embedded (dictId : String) : Json -> WorldM Json
  | .object record =>
    if record.any (fun entry => entry.1 = "id" || entry.1 = "_id") then embedRecord dictId record
    else pure (.object record)
  | .array values => do pure (.array (← embeddedAll dictId values))
  | other => pure other

def embeddedAll (dictId : String) : List Json -> WorldM (List Json)
  | [] => pure []
  | value :: rest => do
    let value ← embedded dictId value
    pure (value :: (← embeddedAll dictId rest))

end

/-- Create the records a document lists under the dict's id, all or none. -/
def importRecords (dictId text : String) : WorldM (List Item) := do
  let d ← Dicts.get dictId
  let document ← liftExcept (readDocument text)
  let records ← match document.lookup dictId with
    | none | some .null => return []
    | some (.array records) => pure records
    | some other =>
      throw (.validation ("Records of '" ++ dictId ++ "' must be an array, got " ++ Json.compact other))
  transact Engine.all do
    records.mapM fun record => do
      let fields ← match record with
        | .object fields => pure fields
        | _ => throw (.validation ("Record of '" ++ dictId ++ "' is not an object"))
      let fields ← (d.fields.filter (·.fieldType = .reference)).foldlM (fun fields f =>
        match f.reference, fields.lookup f.id with
        | some r, some value => do pure (Fields.set fields f.id (← embedded r.dictId value))
        | _, _ => pure fields) (insertable fields)
      Records.create dictId fields

end Transfer
end Refbook
