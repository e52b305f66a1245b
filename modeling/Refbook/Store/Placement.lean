import Refbook.Store.Dicts

namespace Refbook
namespace Placement

/-!
# Where a dict's records are stored

A dict's records live in the engine its scheme names.  Moving them to
another engine creates the dict's storage there, copies every record with
its version and history in one transaction of that engine, records the new
engine and drops the old storage.  When a step fails, the new storage is
dropped again and the refusal names the dict and the cause; a failure to
drop the old storage first puts the old engine back.

A dict saved without an engine gets the first engine, in the order of
their names, that holds its storage.
-/

/-- A failure of a move, naming the dict and the cause. -/
def failed (dictId : String) (cause : Error) : Error :=
  .storageMigration dictId cause.message

/-- Drop the new storage again after a failed move. -/
def rollBack (target : Engine) (moved : Dict) (cause : Error) : WorldM Error := do
  let dropped ← tryCatch (do
      if ← target.schemeExists moved.id then target.dropScheme moved
      pure none) fun e => pure (some e)
  match dropped with
  | none => pure (.storageMigration moved.id cause.message)
  | some e => pure (.rollback moved.id (cause.message ++ "; rollback failed: " ++ e.message))

/-- Create the storage of `moved` and copy the records of `source` into it. -/
def copy (source moved : Dict) (target : Engine) : WorldM Unit := do
  let targetName ← engineOf moved
  let items ← (← liftExcept (Capability.data.lookup (← engineOf source))).allItems source
  let targetData ← liftExcept (Capability.data.lookup targetName)
  let transaction ← liftExcept (Capability.transactions.lookup targetName)
  target.createScheme moved
  transact [transaction] do
    for item in items do
      targetData.insertItem moved item

/-- Record the new engine and drop the old storage; when the drop fails the
old engine is put back. -/
def finish (d : Dict) (sourceName targetName : String) : WorldM Dict := do
  let updated ← Dicts.setEngine d.id targetName
  tryCatch (do
      let source ← liftExcept (Capability.schemes.lookup sourceName)
      source.dropScheme d) fun e => do
    discard (Dicts.setEngine d.id sourceName)
    throw e
  pure updated

/-- Move a dict's records to another engine. -/
def move (dictId targetName : String) : WorldM Dict := do
  let d ← Dicts.get dictId
  let sourceName ← engineOf d
  if sourceName = targetName then
    throw (.storageMigration dictId ("dict is already stored in '" ++ targetName ++ "'"))
  let target ←
    match Capability.schemes.lookup targetName with
    | .ok e => pure e
    | .error e => throw (failed dictId e)
  if ← target.schemeExists dictId then
    throw (failed dictId (.engine ("scheme already exists in '" ++ targetName ++ "'")))
  let moved := { d with engine := some targetName }
  tryCatch (copy d moved target) fun e => do throw (← rollBack target moved e)
  tryCatch (finish d sourceName targetName) fun e => do throw (← rollBack target moved e)

/-- The first engine, the default one first, whose stores of dict schemes
and migration history both exist. -/
def initializedEngine : WorldM (Option Engine) := do
  let first ← defaultEngine
  let engines := first :: Engine.all.filter (· ≠ first)
  engines.findM? fun e => do pure ((← e.dictStoreExists) && (← e.versionStoreExists))

/-- The first engine, in the order of their names, that holds a dict's
storage. -/
def locate (d : Dict) : WorldM Engine := do
  match ← Engine.all.findM? fun e => e.schemeExists d.id with
  | some e => pure e
  | none => throw (.engine ("The dict '" ++ d.id ++ "' doesn't exist in any engine"))

/-- Give every dict saved without an engine the engine that holds its
storage; the dicts that changed. -/
def resolveEngines : WorldM (List Dict) := do
  match ← initializedEngine with
  | none => pure []
  | some store =>
    let unset := (← store.allDicts).filter fun d => d.engine.isNone
    unset.mapM fun d => do
      let found ← locate d
      let d := { d with engine := some found.name }
      store.saveDict d
      pure d

end Placement
end Refbook
