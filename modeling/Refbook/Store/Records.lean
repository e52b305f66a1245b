import Refbook.Store.Dicts
import Refbook.Query.Parse

namespace Refbook
namespace Records

/-!
# Records of dicts

Records are created at version 1 and changed only at the version they were
read at: a change names the version it expects, and a record that moved on
since is left alone.  Every change first appends the record's state to its
history, under the retention in force; snapshots that fall out go to the
archive.  Deleting only marks a record, and deleting it again changes
nothing.

Before a record is written its values are normalized by the dict's fields,
every record it references must be live, and no other live record may hold
the same values for one of the dict's unique constraints.  The checks and
the write run in one transaction of the dict's engine.
-/

/-- The engine that keeps a dict's records. -/
def engine (d : Dict) : WorldM Engine := do
  liftExcept (Capability.data.lookup (← engineOf d))

/-- Run `act` in a transaction of the engine that keeps a dict's records. -/
def transactional {α : Type} (d : Dict) (act : WorldM α) : WorldM α := do
  let e ← liftExcept (Capability.transactions.lookup (← engineOf d))
  transact [e] act

/-- The filter constant that a stored scalar is compared as: integers of the
64-bit range as integers, other numbers as decimals. -/
def scalarConstant : Json -> Option Query.Constant
  | .string s => some (Query.Constant.make s .string)
  | .bool b => some (Query.Constant.make (if b then "true" else "false") .boolean)
  | .number n =>
    let text := Json.numberText n
    some (if n.toInt?.isSome then Query.Constant.make text .integer
      else Query.Constant.make text .decimal)
  | _ => none

/-- Refuse values that another live record holds for all fields of one
unique constraint; a constraint with an empty or non-scalar value does not
apply. -/
def checkUnique (d : Dict) (itemId : String) (data : Data) : WorldM Unit := do
  let e ← engine d
  for c in d.constraints do
    let conditions := c.fields.mapM fun fieldId => do
      let constant ← data.lookup fieldId >>= scalarConstant
      pure (Query.Expression.compare { dict := none, name := fieldId } .eq (.constant constant))
    match conditions with
    | some (first :: rest) =>
      let found ← e.findItems d [d] (rest.foldl .and first) false
      if found.any (·.id ≠ itemId) then
        throw (.validation ("Unique constraint '" ++ c.id ++ "' of dict '" ++ d.id ++ "' is violated"))
    | _ => pure ()

/-- Every record a reference field names must exist and be live. -/
def checkReferences (d : Dict) (data : Data) : WorldM Unit := do
  for f in d.fields.filter (·.fieldType = .reference) do
    match data.lookup f.id, f.reference with
    | some value, some r =>
      let ids := match value with
        | .array values => values.filterMap Json.str?
        | other => (Json.str? other).toList
      let target ← if r.dictId = d.id then pure d else Dicts.get r.dictId
      let e ← engine target
      for id in ids do
        match ← e.getItem target id with
        | some item => if item.isDeleted then throw (.itemNotFound target.id id)
        | none => throw (.itemNotFound target.id id)
    | _, _ => pure ()

/-- Create a record at version 1; a non-empty string under `id` chooses its
id, an absent or null one leaves the choice to a fresh id. -/
def create (dictId : String) (data : Data) : WorldM Item := do
  let d ← Dicts.get dictId
  let id ← match data.lookup "id" with
    | some (.string s) =>
      if s.isEmpty then throw (.validation ("Item id \"\" is not a string")) else pure s
    | some .null | none => freshId
    | some other => throw (.validation ("Item id " ++ Json.compact other ++ " is not a string"))
  let data ← liftExcept (d.normalize (Fields.swapRemove data "id"))
  checkReferences d data
  let e ← engine d
  let item := Item.fresh id data (← now)
  transactional d do
    if (← e.getItem d item.id).isSome then
      throw (.validation ("Item '" ++ item.id ++ "' already exists in dict '" ++ d.id ++ "'"))
    checkUnique d item.id item.data
    e.insertItem d item
  pure item

/-- Create all records or none. -/
def createMany (dictId : String) (items : List Data) : WorldM (List Item) := do
  let d ← Dicts.get dictId
  transactional d (items.mapM (create dictId))

/-- A record by id; a deleted one only when asked for. -/
def get (dictId itemId : String) (includeDeleted : Bool) : WorldM Item := do
  let d ← Dicts.get dictId
  match ← (← engine d).getItem d itemId with
  | some item =>
    if includeDeleted || !item.isDeleted then pure item else throw (.itemNotFound dictId itemId)
  | none => throw (.itemNotFound dictId itemId)

/-- The records a filter expression selects. -/
def select (dictId : String) (filter : Query.Expression) (includeDeleted : Bool) :
    WorldM (List Item) := do
  let d ← Dicts.get dictId
  let catalog ← Dicts.catalog d
  (← engine d).findItems d catalog filter includeDeleted

/-- The records a filter text selects. -/
def search (dictId query : String) (includeDeleted : Bool) : WorldM (List Item) := do
  select dictId (← liftExcept (Query.Expression.parse query)) includeDeleted

/-- Give a live record new values, when it is still at version `expected`. -/
def update (dictId itemId : String) (expected : Int) (data : Data) : WorldM Item := do
  let d ← Dicts.get dictId
  let data ← liftExcept (d.normalize data)
  checkReferences d data
  let e ← engine d
  let w ← getThe World
  let stamp := w.clock
  transactional d do
    checkUnique d itemId data
    let (item, evicted) ← e.modifyItem d itemId (some expected) fun item =>
      if item.isDeleted then
        .error (.validation ("Item '" ++ item.id ++ "' of dict '" ++ d.id ++ "' is deleted"))
      else
        let (item, evicted) := w.retention.record item
        .ok ({ item with data, version := item.version + 1, updated := stamp }, evicted)
    archiveSnapshots d.id itemId evicted
    pure item

/-- Mark a record deleted, with the time and a reason. -/
def delete (dictId itemId : String) (reason : Option String) : WorldM Item := do
  let d ← Dicts.get dictId
  let e ← engine d
  let w ← getThe World
  let stamp := w.clock
  transactional d do
    let (item, evicted) ← e.modifyItem d itemId none fun item =>
      if item.isDeleted then .ok (item, ([] : List Data))
      else
        let (item, evicted) := w.retention.record item
        let deleted := { item with version := item.version + 1, updated := stamp,
                                   deleted := some stamp, deletionReason := reason }
        .ok (deleted, evicted)
    archiveSnapshots d.id itemId evicted
    pure item

/-- Mark deleted every live record a filter selects; how many there were. -/
def deleteWhere (dictId : String) (filter : Query.Expression) (reason : Option String) :
    WorldM Nat := do
  let items ← select dictId filter false
  let d ← Dicts.get dictId
  transactional d do
    for item in items do
      let _ ← delete dictId item.id reason
    pure items.length

end Records
end Refbook
