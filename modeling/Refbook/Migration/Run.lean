import Refbook.Ddl.Interpret
import Refbook.Ddl.Parse
import Refbook.Digest.Blake3

namespace Refbook
namespace Migration

/-!
# Applying migrations

Migration scripts belong to a target, each with its own history of applied
versions, kept by the default engine.  Targets are migrated in the order of
their names.  A target's scripts are taken in version order and checked as a
batch before any runs: no two may share a version, a script already applied
must be unchanged, and a new script may not be older than the installed
version.  Then each pending script runs in a transaction of its own over
all engines, together with the record of its version; a failing script
stops the batch, and the scripts before it stay applied.

What a target stands at is remembered as it goes: migrating while a script
runs, then up to date with the newest installed version, or without a
schema while none is.
-/

/-- A migration script of a target, with the version its file name gives
and the checksum of its text. -/
structure Script where
  target : String
  file : String
  version : Version
  text : String
  checksum : String
  deriving Repr, Inhabited

/-- A script of a target from its file name and text. -/
def Script.make (target file text : String) : Except Error Script := do
  let version ← Version.ofFileName file
  pure { target, file, version, text, checksum := Digest.checksum text }

/-- What a target is known to stand at; no schema until it is migrated. -/
def state (target : String) : WorldM MigrationState := do
  pure (((← getThe World).states.lookup target).getD .noSchema)

def setState (target : String) (s : MigrationState) : WorldM Unit :=
  modify fun w =>
    { w with states :=
      if w.states.any (·.1 = target) then w.states.map fun (t, old) => if t = target then (t, s) else (t, old)
      else w.states ++ [(target, s)] }

/-- The newest of some versions; of equal ones the last. -/
def newest (versions : List Version) : Option Version :=
  versions.foldl (fun best v =>
    match best with
    | some b => if v.order b = .lt then some b else some v
    | none => some v) none

/-- The newest version recorded for a target. -/
def installedVersion (target : String) : WorldM (Option Version) := do
  let rows ← (← defaultEngine).versions target
  pure (newest (← liftExcept (rows.mapM fun row => Version.parse row.version)))

/-- Refuse a batch, in version order, in which two scripts share a version. -/
def checkDistinct (target : String) (ordered : List Script) : Except Error Unit :=
  match (ordered.zip ordered.tail).find? fun (a, b) => a.version.same b.version with
  | some (a, _) =>
    .error (.migrationsShareVersion target a.version.text
      ((ordered.filter fun s => s.version.same a.version).map Script.file))
  | none => .ok ()

/-- The first row of a history whose version, read back, is the same as a
script's. -/
def recordOf (history : List Applied) (script : Script) : Option Applied :=
  history.find? fun row =>
    match Version.parse row.version with
    | .ok v => v.same script.version
    | .error _ => false

/-- The scripts of a batch, in version order, that are not applied yet;
an applied script must be unchanged, and a new one newer than `installed`. -/
def pendingScripts (target : String) (history : List Applied) (installed : Option Version)
    (ordered : List Script) : Except Error (List Script) :=
  ordered.foldlM (fun pending script =>
    match recordOf history script, installed with
    | some row, _ =>
      if row.checksum ≠ script.checksum then
        .error (.checksumMismatch script.file row.checksum script.checksum)
      else .ok pending
    | none, some current =>
      if script.version.order current ≠ .gt then
        .error (.migrationOutOfOrder target script.file script.version.text current.text)
      else .ok (pending ++ [script])
    | none, none => .ok (pending ++ [script])) []

/-- The state of a target that has `installed` as its newest version. -/
def settled (installed : Option Version) : MigrationState :=
  match installed with
  | some v => .upToDate v
  | none => .noSchema

/-- Run one script and record its version, in one transaction. -/
def applyScript (target : String) (script : Script) : WorldM Applied := do
  let row : Applied := { id := ← freshId, target, version := script.version.text,
                         script := script.file, checksum := script.checksum, installed := ← now }
  let store ← defaultEngine
  transact Engine.all do
    Ddl.execute (← liftExcept (Ddl.parseScript script.text))
    store.recordVersion row
  pure row

/-- Apply the pending scripts of one target; the versions applied. -/
def applyPending (target : String) (scripts : List Script) : WorldM (List Applied) := do
  let ordered := orderByVersion Script.version scripts
  liftExcept (checkDistinct target ordered)
  let history ← (← defaultEngine).versions target
  let installed ← installedVersion target
  let pending ← liftExcept (pendingScripts target history installed ordered)
  let (applied, installed) ← pending.foldlM (fun (applied, installed) script => do
    setState target .migrating
    let row ← tryCatch (applyScript target script) fun e => do
      setState target (settled installed)
      throw (.migrationApplied script.file e)
    pure (applied ++ [row], some script.version)) (([] : List Applied), installed)
  setState target (settled installed)
  pure applied

/-- The targets of some scripts, each once, in the order of their names. -/
def targets (scripts : List Script) : List String :=
  ((scripts.map Script.target).foldl (fun acc t => if acc.contains t then acc else acc ++ [t]) []).mergeSort
    fun a b => decide (a ≤ b)

/-- Apply the pending scripts of every target, target by target. -/
def migrate (scripts : List Script) : WorldM (List Applied) := do
  let applied ← (targets scripts).mapM fun target =>
    applyPending target (scripts.filter (·.target = target))
  pure applied.flatten

end Migration
end Refbook
