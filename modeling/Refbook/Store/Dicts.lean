import Refbook.Store.World
import Refbook.Dict.Validate
import Refbook.Ddl.Statement

namespace Refbook
namespace Dicts

/-!
# Dict schemes

The schemes of all dicts are kept by the default engine; the storage of
each dict (its table or collection) by the engine the dict names.  Every
change of a scheme is validated against the other live dicts first, then
made to the storage and to the kept scheme in one transaction over all
engines, so that a refused storage change leaves the scheme as it was.

A deleted dict is only marked so: its id stays taken and its records stay
in place, but it is no longer found.
-/

/-- The live dict of an id. -/
def find? (dictId : String) : WorldM (Option Dict) := do
  let found ← (← defaultEngine).getDict dictId
  pure (found.filter fun d => !d.isDeleted)

/-- The live dict of an id, or the refusal to name a missing one. -/
def get (dictId : String) : WorldM Dict := do
  match ← find? dictId with
  | some d => pure d
  | none => throw (.dictNotFound dictId)

/-- Every live dict, in the order the default engine keeps them. -/
def all : WorldM (List Dict) := do
  pure ((← (← defaultEngine).allDicts).filter fun d => !d.isDeleted)

/-- A dict followed by the live dicts its reference fields point to. -/
def catalog (d : Dict) : WorldM (List Dict) := do
  let others ← (d.referencedDictIds.filter (· ≠ d.id)).mapM get
  pure (d :: others)

/-- Check a scheme against the ids of the live dicts it may reference. -/
def validate (d : Dict) : WorldM Unit := do
  let known := ((← (← defaultEngine).allDicts).filter fun x => !x.isDeleted).map Dict.id
  liftExcept (d.validate fun id => known.contains id)

/-- Create a dict in its engine, the default one when it names none; its id
must be new, also among deleted dicts and stray storage. -/
def create (d : Dict) : WorldM Dict := do
  let store ← defaultEngine
  let d := if d.engine.isNone then { d with engine := some store.name } else d
  validate d
  let engine ← liftExcept (Capability.schemes.lookup (← engineOf d))
  if (← store.getDict d.id).isSome || (← engine.schemeExists d.id) then
    throw (.alreadyExists d.id)
  transact Engine.all do
    engine.createScheme d
    store.saveDict d
  pure d

/-- Put `updated` in the place of `previous`, storage first. -/
def replace (previous updated : Dict) : WorldM Dict := do
  validate updated
  let engine ← liftExcept (Capability.schemes.lookup (← engineOf previous))
  let store ← defaultEngine
  transact Engine.all do
    engine.updateScheme previous updated
    store.saveDict updated
  pure updated

/-- A new definition of a dict; its id and engine are kept, and it is live. -/
def update (dictId : String) (updated : Dict) : WorldM Dict := do
  let previous ← get dictId
  replace previous { updated with id := previous.id, engine := previous.engine, deleted := none }

/-- Mark a dict deleted, unless another live dict references it. -/
def delete (dictId : String) : WorldM Dict := do
  let d ← get dictId
  let referencing := ((← all).filter fun x => x.id ≠ d.id && x.referencedDictIds.contains d.id).map
    Dict.id
  if !referencing.isEmpty then
    throw (.validation ("Dict '" ++ d.id ++ "' is referenced by " ++ String.intercalate ", " referencing))
  let d := { d with deleted := some (← now) }
  (← defaultEngine).saveDict d
  pure d

/-- Record another owning engine, leaving every storage as it is. -/
def setEngine (dictId engine : String) : WorldM Dict := do
  let d := { (← get dictId) with engine := some engine }
  (← defaultEngine).saveDict d
  pure d

def addField (dictId : String) (f : Field) : WorldM Dict := do
  let previous ← get dictId
  replace previous { previous with fields := previous.fields ++ [f] }

/-- Drop a field that no index or constraint uses. -/
def dropField (dictId fieldId : String) : WorldM Dict := do
  let previous ← get dictId
  if (previous.field? fieldId).isNone then throw (.unknownField dictId fieldId)
  let used := (previous.indexes.map Index.fields ++ previous.constraints.map Constraint.fields).flatten
  if used.any (sameNoCase fieldId) then
    throw (.validation ("Field '" ++ fieldId ++ "' of dict '" ++ dictId ++
      "' is used by an index or constraint"))
  replace previous { previous with fields := previous.fields.filter fun f => !sameNoCase f.id fieldId }

/-- Give a field another id, and a name when one is given; indexes and
constraints follow it, and the stored values move with it. -/
def renameField (dictId source target : String) (name : Option String) : WorldM Dict := do
  let previous ← get dictId
  let currentId ← match previous.field? source with
    | some f => pure f.id
    | none => throw (.unknownField dictId source)
  let rename (ids : List String) := ids.map fun id => if id = currentId then target else id
  let updated := { previous with
    fields := previous.fields.map fun f =>
      if f.id = currentId then { f with id := target, name := if name.isSome then name else f.name }
      else f
    indexes := previous.indexes.map fun i => { i with fields := rename i.fields }
    constraints := previous.constraints.map fun c => { c with fields := rename c.fields } }
  validate updated
  let engine ← liftExcept (Capability.schemes.lookup (← engineOf previous))
  let store ← defaultEngine
  transact Engine.all do
    engine.renameField previous currentId target
    store.saveDict updated
  pure updated

def createIndex (dictId : String) (i : Index) : WorldM Dict := do
  let previous ← get dictId
  replace previous { previous with indexes := previous.indexes ++ [i] }

def deleteIndex (dictId indexId : String) : WorldM Dict := do
  let previous ← get dictId
  if !previous.indexes.any (·.id = indexId) then
    throw (.validation ("Index '" ++ indexId ++ "' not found in dict '" ++ dictId ++ "'"))
  replace previous { previous with indexes := previous.indexes.filter (·.id ≠ indexId) }

def createConstraint (dictId : String) (c : Constraint) : WorldM Dict := do
  let previous ← get dictId
  replace previous { previous with constraints := previous.constraints ++ [c] }

def deleteConstraint (dictId constraintId : String) : WorldM Dict := do
  let previous ← get dictId
  if !previous.constraints.any (·.id = constraintId) then
    throw (.validation ("Constraint '" ++ constraintId ++ "' not found in dict '" ++ dictId ++ "'"))
  replace previous { previous with constraints := previous.constraints.filter (·.id ≠ constraintId) }

def createEnum (dictId : String) (e : Enumeration) : WorldM Dict := do
  let previous ← get dictId
  replace previous { previous with enums := previous.enums ++ [e] }

/-- Add a value to an enumeration; it must be new to it. -/
def addEnumValue (dictId enumId value : String) : WorldM Dict := do
  let previous ← get dictId
  match previous.enum? enumId with
  | none => throw (.enumNotFound dictId enumId)
  | some e =>
    if e.values.contains value then
      throw (.validation ("Value '" ++ value ++ "' already exists in enum '" ++ enumId ++ "'"))
    let place := previous.enums.findIdx (·.id = enumId)
    replace previous
      { previous with enums := previous.enums.set place { e with values := e.values ++ [value] } }

def deleteEnum (dictId enumId : String) : WorldM Dict := do
  let previous ← get dictId
  if (previous.enum? enumId).isNone then throw (.enumNotFound dictId enumId)
  replace previous { previous with enums := previous.enums.filter (·.id ≠ enumId) }

/-- Set or clear a permission; the storage is not touched. -/
def setParameter (dictId : String) (parameter : Ddl.TableParameter) (value : Option String) :
    WorldM Dict := do
  let previous ← get dictId
  let updated := match parameter with
    | .readPermission => { previous with viewPermission := value }
    | .writePermission => { previous with editPermission := value }
  (← defaultEngine).saveDict updated
  pure updated

end Dicts
end Refbook
