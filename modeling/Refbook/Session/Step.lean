import Refbook.Session.Mask
import Refbook.Store.Transfer
import Refbook.Store.Placement
import Refbook.Migration.Run
import Refbook.Sql.Compile
import Refbook.Document.Compile
import Refbook.Query.Encode

namespace Refbook

/-!
# Sessions

A session starts a fresh world on the engines it is given and then runs
steps on it, one after another: schema operations, record operations,
scripts, migrations, exports and imports, moves between engines, and the
compiled forms of a filter for a stored dict.  Each step answers with its
result or with the error it raised; a failing step keeps whatever it
changed before it failed, as the operation it runs defines, and the steps
after it still run.

The session's clock stands still, so every time a step records is the same
instant; the answers mask it, and the ids made up, as `Mask` says.
-/

/-- A migration state as an answer shows it. -/
def MigrationState.toJson : MigrationState -> Json
  | .noSchema => .string "NoSchema"
  | .migrating => .string "Migrating"
  | .upToDate v => .object [("UpToDate", .string v.text)]

namespace Session

/-- A migration script as a session passes it: its target, file name and
text. -/
structure ScriptFile where
  target : String
  file : String
  text : String
  deriving Repr, Inhabited

/-- A step of a session. -/
inductive Step where
  | createDict (d : Dict)
  | updateDict (dictId : String) (d : Dict)
  | deleteDict (dictId : String)
  | getDict (dictId : String)
  | findDict (dictId : String)
  | allDicts
  | catalog (dictId : String)
  | setEngine (dictId engine : String)
  | addField (dictId : String) (f : Field)
  | dropField (dictId fieldId : String)
  | renameField (dictId source target : String) (name : Option String)
  | createIndex (dictId : String) (i : Index)
  | deleteIndex (dictId indexId : String)
  | createConstraint (dictId : String) (c : Constraint)
  | deleteConstraint (dictId constraintId : String)
  | createEnum (dictId : String) (e : Enumeration)
  | deleteEnum (dictId enumId : String)
  | addEnumValue (dictId enumId value : String)
  | setParameter (dictId : String) (parameter : Ddl.TableParameter) (value : Option String)
  | createItem (dictId : String) (data : Data)
  | createMany (dictId : String) (items : List Data)
  | getItem (dictId itemId : String) (includeDeleted : Bool)
  | findItems (dictId query : String) (includeDeleted : Bool)
  | updateItem (dictId itemId : String) (version : Int) (data : Data)
  | deleteItem (dictId itemId : String) (reason : Option String)
  | deleteWhere (dictId query : String) (reason : Option String)
  | rawItems (dictId : String)
  | archived (dictId itemId : String)
  | runScript (script : String)
  | migrate (scripts : List ScriptFile)
  | migrationState (target : String)
  | installedVersion (target : String)
  | exportRecords (dictId format : String) (itemIds : List String)
  | importRecords (dictId text : String)
  | moveStorage (dictId engine : String)
  | saveDictUnchecked (d : Dict)
  | resolveEngines
  | compileFilter (dictId query : String)
  deriving Inhabited

def itemsJson (items : List Item) : Json :=
  .array (items.map Item.toJson)

def dictsJson (dicts : List Dict) : Json :=
  .array (dicts.map Dict.toJson)

/-- Both compiled forms of a filter for a stored dict, each its result or its
error. -/
def compileStored (dictId query : String) : WorldM Json := do
  let d ← Dicts.get dictId
  let catalog ← Dicts.catalog d
  let ctx : Query.Context := { dictId := d.id, catalog }
  let parsed := Query.Expression.parse query
  let side {α : Type} (result : Except Error α) (encode : α -> Json) : Json :=
    match result with
    | .ok a => encode a
    | .error e => e.toJson
  pure (.object [("postgres", side (parsed.bind (Sql.compile ctx)) Sql.Compiled.toJson),
    ("mongo", side (parsed.bind (Document.compile ctx)) Document.Compiled.toJson)])

/-- Run a step on the world; its result. -/
def Step.perform : Step -> WorldM Json
  | .createDict d => do pure (← Dicts.create d).toJson
  | .updateDict dictId d => do pure (← Dicts.update dictId d).toJson
  | .deleteDict dictId => do pure (← Dicts.delete dictId).toJson
  | .getDict dictId => do pure (← Dicts.get dictId).toJson
  | .findDict dictId => do pure (((← Dicts.find? dictId).map Dict.toJson).getD .null)
  | .allDicts => do pure (dictsJson (← Dicts.all))
  | .catalog dictId => do
    pure (.array ((← Dicts.catalog (← Dicts.get dictId)).map fun d => .string d.id))
  | .setEngine dictId engine => do pure (← Dicts.setEngine dictId engine).toJson
  | .addField dictId f => do pure (← Dicts.addField dictId f).toJson
  | .dropField dictId fieldId => do pure (← Dicts.dropField dictId fieldId).toJson
  | .renameField dictId source target name => do
    pure (← Dicts.renameField dictId source target name).toJson
  | .createIndex dictId i => do pure (← Dicts.createIndex dictId i).toJson
  | .deleteIndex dictId indexId => do pure (← Dicts.deleteIndex dictId indexId).toJson
  | .createConstraint dictId c => do pure (← Dicts.createConstraint dictId c).toJson
  | .deleteConstraint dictId constraintId => do
    pure (← Dicts.deleteConstraint dictId constraintId).toJson
  | .createEnum dictId e => do pure (← Dicts.createEnum dictId e).toJson
  | .deleteEnum dictId enumId => do pure (← Dicts.deleteEnum dictId enumId).toJson
  | .addEnumValue dictId enumId value => do pure (← Dicts.addEnumValue dictId enumId value).toJson
  | .setParameter dictId parameter value => do
    pure (← Dicts.setParameter dictId parameter value).toJson
  | .createItem dictId data => do pure (← Records.create dictId data).toJson
  | .createMany dictId items => do pure (itemsJson (← Records.createMany dictId items))
  | .getItem dictId itemId includeDeleted => do
    pure (← Records.get dictId itemId includeDeleted).toJson
  | .findItems dictId query includeDeleted => do
    pure (itemsJson (← Records.search dictId query includeDeleted))
  | .updateItem dictId itemId version data => do
    pure (← Records.update dictId itemId version data).toJson
  | .deleteItem dictId itemId reason => do pure (← Records.delete dictId itemId reason).toJson
  | .deleteWhere dictId query reason => do
    let filter ← liftExcept (Query.Expression.parse query)
    pure (Json.ofNat (← Records.deleteWhere dictId filter reason))
  | .rawItems dictId => do
    let d ← Dicts.get dictId
    pure (itemsJson (← (← Records.engine d).allItems d))
  | .archived dictId itemId => do
    pure (.array ((← archivedSnapshots dictId itemId).map Json.object))
  | .runScript script => do
    let statements ← liftExcept (Ddl.parseScript script)
    Ddl.execute statements
    pure (Json.ofNat statements.length)
  | .migrate files => do
    let scripts ← liftExcept (files.mapM fun f => Migration.Script.make f.target f.file f.text)
    pure (.array ((← Migration.migrate scripts).map Migration.Applied.summary))
  | .migrationState target => do pure (← Migration.state target).toJson
  | .installedVersion target => do
    pure (((← Migration.installedVersion target).map fun v => Json.string v.text).getD .null)
  | .exportRecords dictId format itemIds => do
    let format ← liftExcept (Export.Format.ofName format)
    pure (.string (← Transfer.exportText dictId format itemIds))
  | .importRecords dictId text => do pure (itemsJson (← Transfer.importRecords dictId text))
  | .moveStorage dictId engine => do pure (← Placement.move dictId engine).toJson
  | .saveDictUnchecked d => do
    (← defaultEngine).saveDict d
    pure .null
  | .resolveEngines => do pure (dictsJson (← Placement.resolveEngines))
  | .compileFilter dictId query => compileStored dictId query

/-- Whether a step answers with a list of records. -/
def Step.listsRecords : Step -> Bool
  | .createMany .. | .findItems .. | .rawItems .. | .importRecords .. => true
  | _ => false

/-- The instant a session's clock stands at. -/
def clock : Temporal.Timestamp :=
  { date := { year := 2026, month := 3, day := 17 }, hour := 8, minute := 19, second := 43,
    nano := 512000000 }

/-- How a session is set up: the engines available, the default one, how
much history records keep, and whether evicted history is archived. -/
structure Setup where
  available : List String := ["mongo", "postgres"]
  defaultEngine : String := "postgres"
  retention : Retention := .keepAll
  archive : Bool := false
  deriving Inhabited

/-- The world a session starts from. -/
def Setup.start (s : Setup) : Except Error World :=
  World.start s.available s.defaultEngine s.retention s.archive clock

/-- Run a step: its masked answer, `{"result": …}` or the error, and the
world after it. -/
def Step.answer (step : Step) (w : World) : Json × World :=
  let (result, w) := step.perform.run.run w
  let answer : Json :=
    match result with
    | .ok value =>
      let value := maskJson clock value
      .object [("result", if step.listsRecords then
        (match value with
         | .array records => .array (orderRecords records)
         | other => other)
        else value)]
    | .error e => maskJson clock e.toJson
  (answer, w)

end Session
end Refbook
