import Refbook.Relational.Engine
import Refbook.Document.Engine
import Refbook.Migration.Version
import Refbook.Text.Quote

namespace Refbook

/-!
# Engines and the world they run in

Two engines keep dicts: the relational one, named `postgres`, and the
document one, named `mongo`.  The *world* holds both stores, which engine
keeps the dict schemes and the migration history (the default one), how
much history records keep and the archive that receives the rest, the
clock, the ids handed out so far, and what each migration target is known
to stand at.

Work on the world is `WorldM`: it may fail, and a failure keeps every
change made before it, except inside `transact`, which puts back the stores
of the engines it spans.

Engines are looked up by name for one capability at a time; an unknown
name is refused with the capability and the names that are known.
-/

/-- A storage engine. -/
inductive Engine where
  | relational
  | document
  deriving DecidableEq, Repr, Inhabited

namespace Engine

def name : Engine -> String
  | relational => "postgres"
  | document => "mongo"

/-- Every engine, in the order of their names. -/
def all : List Engine :=
  [document, relational]

def named? (n : String) : Option Engine :=
  all.find? fun e => e.name = n

end Engine

/-- A kind of work an engine does, as named in refusals. -/
inductive Capability where
  | engine
  | dicts
  | schemes
  | data
  | versions
  | transactions
  deriving DecidableEq, Repr

def Capability.name : Capability -> String
  | .engine => "engine"
  | .dicts => "dict"
  | .schemes => "dict scheme"
  | .data => "dict data"
  | .versions => "version scheme"
  | .transactions => "transaction"

/-- The engine of a name, for a capability. -/
def Capability.lookup (c : Capability) (name : String) : Except Error Engine :=
  match Engine.named? name with
  | some e => .ok e
  | none =>
    .error (.engine ("Engine '" ++ name ++ "' has no " ++ c.name ++
      " implementation, known engines: " ++ String.intercalate ", " (Engine.all.map Engine.name)))

/-- What a migration target is known to stand at. -/
inductive MigrationState where
  | noSchema
  | migrating
  | upToDate (version : Migration.Version)
  deriving Repr, Inhabited

/-- Snapshots evicted from histories, per dict and record. -/
abbrev Archive := List ((String × String) × List Data)

/-- The archive after it receives a record's evicted snapshots: they follow
the ones it holds for the record.  Nothing changes when none are evicted or
no archive is attached. -/
def addSnapshots (archive : Option Archive) (key : String × String) (evicted : List Data) :
    Option Archive :=
  if evicted.isEmpty then archive
  else archive.map fun entries =>
    if entries.any (·.1 == key) then
      entries.map fun entry => if entry.1 == key then (entry.1, entry.2 ++ evicted) else entry
    else entries ++ [(key, evicted)]

/-- The snapshots an archive holds for a record, oldest first. -/
def snapshotsOf (archive : Option Archive) (key : String × String) : List Data :=
  match archive with
  | none => []
  | some entries => (entries.lookup key).getD []

/-- Everything a session works on. -/
structure World where
  database : Relational.Database := {}
  documents : Document.Store := {}
  defaultEngine : Engine
  retention : Retention := .keepAll
  /-- Snapshots evicted from histories, per dict and record, when an
  archive is attached. -/
  archive : Option Archive := none
  clock : Temporal.Timestamp
  issued : Nat := 0
  states : List (String × MigrationState) := []
  deriving Inhabited

/-- Work on the world. -/
abbrev WorldM := ExceptT Error (StateM World)

/-- Run database work on the world's database, keeping what it did. -/
def onDatabase {α : Type} (act : Relational.DbM α) : WorldM α := do
  let w ← get
  let (result, db) := act.run.run w.database
  set { w with database := db }
  liftExcept result

/-- Run document work on the world's documents, keeping what it did. -/
def onDocuments {α : Type} (act : Document.StoreM α) : WorldM α := do
  let w ← get
  let (result, docs) := act.run.run w.documents
  set { w with documents := docs }
  liftExcept result

/-- The present time. -/
def now : WorldM Temporal.Timestamp := do
  pure (← get).clock

/-- `n` as `width` lower-case hexadecimal digits. -/
def hexDigits (width n : Nat) : String :=
  let digits := Nat.toDigits 16 n
  String.ofList (List.replicate (width - digits.length) '0' ++ digits)

/-- A new random-form id: a version 4 UUID in lower case. -/
def freshId : WorldM String := do
  let w ← get
  set { w with issued := w.issued + 1 }
  pure ("5f0e3c2a-91d4-4b7e-8a6c-" ++ hexDigits 12 (w.issued + 1))

/-- Run `act` as one transaction over the stores of `engines`: when it
fails, their stores are put back as they were before it. -/
def transact {α : Type} (engines : List Engine) (act : WorldM α) : WorldM α := do
  let before ← get
  tryCatch act fun e => do
    modify fun w =>
      { w with
        database := if engines.contains .relational then before.database else w.database
        documents := if engines.contains .document then before.documents else w.documents }
    throw e

/-- The engine that owns a dict's data, by name. -/
def engineOf (d : Dict) : WorldM String :=
  match d.engine with
  | some e => pure e
  | none => throw (.engine ("Engine of dict '" ++ d.id ++ "' is not resolved"))

/-- The engine that keeps dict schemes and migration history. -/
def defaultEngine : WorldM Engine := do
  pure (← get).defaultEngine

/-- Hand evicted snapshots to the archive, when one is attached. -/
def archiveSnapshots (dictId itemId : String) (evicted : List Data) : WorldM Unit :=
  modify fun w => { w with archive := addSnapshots w.archive (dictId, itemId) evicted }

/-- The archived snapshots of a record, oldest first. -/
def archivedSnapshots (dictId itemId : String) : WorldM (List Data) := do
  pure (snapshotsOf (← get).archive (dictId, itemId))

namespace Engine

def dictStoreExists : Engine -> WorldM Bool
  | relational => do pure (Relational.dictStoreExists (← get).database)
  | document => do pure (Document.dictStoreExists (← get).documents)

def versionStoreExists : Engine -> WorldM Bool
  | relational => do pure (Relational.versionStoreExists (← get).database)
  | document => do pure (Document.versionStoreExists (← get).documents)

def createDictStore : Engine -> WorldM Unit
  | relational => onDatabase Relational.createDictStore
  | document => onDocuments Document.createDictStore

def createVersionStore : Engine -> WorldM Unit
  | relational => onDatabase Relational.createVersionStore
  | document => onDocuments Document.createVersionStore

def getDict (e : Engine) (id : String) : WorldM (Option Dict) :=
  match e with
  | relational => onDatabase (Relational.getDict id)
  | document => onDocuments (Document.getDict id)

def allDicts : Engine -> WorldM (List Dict)
  | relational => onDatabase Relational.allDicts
  | document => onDocuments Document.allDicts

def saveDict (e : Engine) (d : Dict) : WorldM Unit :=
  match e with
  | relational => onDatabase (Relational.saveDict d)
  | document => onDocuments (Document.saveDict d)

def schemeExists (e : Engine) (id : String) : WorldM Bool := do
  match e with
  | relational => pure (Relational.schemeExists (← get).database id)
  | document => pure (Document.schemeExists (← get).documents id)

def createScheme (e : Engine) (d : Dict) : WorldM Unit :=
  match e with
  | relational => onDatabase (Relational.createScheme d)
  | document => onDocuments (Document.createScheme d)

def updateScheme (e : Engine) (previous current : Dict) : WorldM Unit :=
  match e with
  | relational => onDatabase (Relational.updateScheme previous current)
  | document => onDocuments (Document.updateScheme previous current)

def renameField (e : Engine) (d : Dict) (source target : String) : WorldM Unit :=
  match e with
  | relational => onDatabase (Relational.renameField d source target)
  | document => onDocuments (Document.renameField d source target)

def dropScheme (e : Engine) (d : Dict) : WorldM Unit :=
  match e with
  | relational => onDatabase (Relational.dropScheme d)
  | document => onDocuments (Document.dropScheme d)

def insertItem (e : Engine) (d : Dict) (item : Item) : WorldM Unit :=
  match e with
  | relational => onDatabase (Relational.insertItem d item)
  | document => onDocuments (Document.insertItem d item)

def getItem (e : Engine) (d : Dict) (id : String) : WorldM (Option Item) :=
  match e with
  | relational => onDatabase (Relational.getItem d id)
  | document => onDocuments (Document.getItem d id)

def allItems (e : Engine) (d : Dict) : WorldM (List Item) :=
  match e with
  | relational => onDatabase (Relational.allItems d)
  | document => onDocuments (Document.allItems d)

def findItems (e : Engine) (d : Dict) (catalog : List Dict) (filter : Query.Expression)
    (includeDeleted : Bool) : WorldM (List Item) :=
  match e with
  | relational => onDatabase (Relational.findItems d catalog filter includeDeleted)
  | document => onDocuments (Document.findItems d catalog filter includeDeleted)

def modifyItem {α : Type} (e : Engine) (d : Dict) (id : String) (expected : Option Int)
    (change : Item -> Except Error (Item × α)) : WorldM (Item × α) :=
  match e with
  | relational => onDatabase (Relational.modifyItem d id expected change)
  | document => onDocuments (Document.modifyItem d id expected change)

def versions (e : Engine) (target : String) : WorldM (List Migration.Applied) :=
  match e with
  | relational => onDatabase (Relational.versions target)
  | document => onDocuments (Document.versions target)

def recordVersion (e : Engine) (a : Migration.Applied) : WorldM Unit :=
  match e with
  | relational => onDatabase (Relational.recordVersion a)
  | document => onDocuments (Document.recordVersion a)

end Engine

/-- The world a session starts from: the available engines must include the
default one and name only known engines; the default engine's stores of
dict schemes and migration history are created. -/
def World.start (available : List String) (defaultName : String) (retention : Retention)
    (archive : Bool) (clock : Temporal.Timestamp) : Except Error World := do
  let names := available.foldl (fun acc n => if acc.contains n then acc else acc ++ [n]) []
  let names := names.mergeSort fun a b => decide (a ≤ b)
  if !names.contains defaultName then
    throw (.engine ("Default engine '" ++ defaultName ++ "' is not available"))
  let missing := names.filter fun n => (Engine.named? n).isNone
  if !missing.isEmpty then
    throw (.engine ("No engine implementation for engines [" ++
      String.intercalate ", " (missing.map Text.debugQuote) ++ "]"))
  let defaultEngine ← Capability.engine.lookup defaultName
  let w : World := { defaultEngine, retention, clock,
                     archive := if archive then some [] else none }
  let setup : WorldM Unit := do
    if !(← defaultEngine.dictStoreExists) then defaultEngine.createDictStore
    if !(← defaultEngine.versionStoreExists) then defaultEngine.createVersionStore
  match setup.run.run w with
  | (.ok (), w) => pure w
  | (.error e, _) => throw e

end Refbook
