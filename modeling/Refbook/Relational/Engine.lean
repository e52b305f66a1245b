import Refbook.Relational.Eval
import Refbook.Store.Item
import Refbook.Sql.Compile
import Refbook.Migration.Applied
import Refbook.Decimal.Double

namespace Refbook
namespace Relational

/-!
# The relational engine

Each dict is a table named after it: an `id` primary key, a column per field
and the service columns `history`, `version`, `created`, `updated`,
`deleted` and `deletionReason`.  A multivalued field is a text column
holding a JSON array; whole numbers are `bigint`, decimals `numeric`,
truth values, dates and timestamps have columns of those names, the rest
is text.  An index of the dict is an index named `<dict>_<index>` in lower
case; a unique constraint is a unique index over the live rows.

Dict schemes themselves live in the table `dict` (the id and the scheme as
JSON text) and applied migrations in `version_scheme`.

Records are found by compiling the filter to a predicate and evaluating
it over the dict's table, left-joined to the tables of referenced dicts,
and come back ordered by creation time, then id.
-/

/-- Operations on the database; a failure keeps what was done before it. -/
abbrev DbM := ExceptT Error (StateM Database)

/-- A database operation, its refusal reported in the database's words. -/
def run (f : Database -> Except String Database) : DbM Unit := do
  match f (← get) with
  | .ok db => set db
  | .error message => throw (.persistence message)

/-- A database answer, its refusal reported in the database's words. -/
def need {α : Type} (e : Except String α) : DbM α :=
  match e with
  | .ok a => pure a
  | .error message => throw (.persistence message)

/-- Undo everything an operation did when it fails. -/
def atomically {α : Type} (act : DbM α) : DbM α := do
  let saved ← get
  tryCatch act fun e => do
    set saved
    throw e

/-- Read JSON text kept in a column. -/
def readJson (text : String) : Except Error Json :=
  match Json.read text with
  | .ok json => .ok json
  | .error e => .error (.serialization e.message)

/-- A whole double cut toward zero and held to the 64-bit range; NaN is 0. -/
def saturatingWhole (f : Float) : Int :=
  if f.isNaN then 0
  else if f.isInf then (if f < 0 then -(Int.pow 2 63) else Int.pow 2 63 - 1)
  else max (-(Int.pow 2 63)) (min (Int.pow 2 63 - 1) (truncate f))

/-- The declared type of a field's column. -/
def columnType (f : Field) : String :=
  if f.multivalued then "text"
  else
    match f.fieldType with
    | .integer => "bigint"
    | .decimal => "numeric"
    | .boolean => "boolean"
    | .date => "date"
    | .timestamp => "timestamp"
    | _ => "text"

/-- The columns of a dict's table. -/
def itemColumns (d : Dict) : List Column :=
  [{ name := "id", declared := "text", notNull := true, primaryKey := true }] ++
    d.fields.map (fun f => { name := f.id, declared := columnType f }) ++
    [{ name := "history", declared := "text", notNull := true },
     { name := "version", declared := "bigint", notNull := true },
     { name := "created", declared := "timestamp", notNull := true },
     { name := "updated", declared := "timestamp", notNull := true },
     { name := "deleted", declared := "timestamp" },
     { name := "deletionReason", declared := "text" }]

/-- The name of a dict's index or constraint. -/
def indexName (d : Dict) (id : String) : String :=
  String.ofList ((d.id ++ "_" ++ id).toList.map Char.toLower)

/-- The indexes standing for a dict's indexes and constraints. -/
def indexesOf (d : Dict) (indexes : List Refbook.Index) (constraints : List Constraint) :
    List Index :=
  indexes.map (fun i =>
      { name := indexName d i.id, table := d.id, columns := i.fields, unique := false,
        liveOnly := false }) ++
    constraints.map fun c =>
      { name := indexName d c.id, table := d.id, columns := c.fields, unique := true,
        liveOnly := true }

/-- The stored form of a field value. -/
def encodeValue (f : Field) (v : Json) : Value :=
  if f.multivalued then .text (Json.compact v)
  else
    match f.fieldType, v with
    | _, .null => .null
    | .integer, .number n => .integer (n.toInt?.getD 0)
    | .boolean, .bool b => .integer (if b then 1 else 0)
    | .json, _ | .geoJson, _ => .text (Json.compact v)
    | _, .string s => .text s
    | _, other => .text (Json.compact other)

/-- A field value read back from its column. -/
def decodeValue (f : Field) (v : Value) : Except Error Json :=
  if f.multivalued then
    match v with
    | .text s => readJson s
    | _ => .ok .null
  else
    match f.fieldType, v with
    | _, .null => .ok .null
    | .integer, .integer i => .ok (.ofInt i)
    | .integer, .real r => .ok (.ofInt (saturatingWhole r))
    | .decimal, .integer i => .ok (.string (toString i))
    | .decimal, .real r => (Query.canonicalDecimal (Decimal.plainText r)).map .string
    | .decimal, .text s => (Query.canonicalDecimal s).map .string
    | .boolean, .integer i => .ok (.bool (i != 0))
    | .json, .text s | .geoJson, .text s => readJson s
    | _, .text s => .ok (.string s)
    | _, .integer i => .ok (.string (toString i))
    | _, .real r => .ok (.string (Decimal.plainText r))

/-- Text of a column: text as it is, a whole number in digits. -/
def rowText (row : List (String × Value)) (column : String) : Option String :=
  match row.lookup column with
  | some (.text s) => some s
  | some (.integer i) => some (toString i)
  | _ => none

/-- A timestamp kept in a column. -/
def rowTimestamp (row : List (String × Value)) (column : String) :
    Except Error (Option Temporal.Timestamp) :=
  match rowText row column with
  | none => .ok none
  | some text =>
    match Temporal.readTimestamp text with
    | some t => .ok (some t)
    | none =>
      .error (.persistence ("column " ++ column ++ " holds '" ++ text ++ "', not a timestamp"))

/-- A history read back from its JSON text. -/
def historyOfJson : Json -> Except Error (List Data)
  | .array entries =>
    entries.mapM fun
      | .object fields => .ok fields
      | _ => .error (.serialization "invalid type: expected a map")
  | _ => .error (.serialization "invalid type: expected a sequence")

/-- A record read from a row of its dict's table. -/
def itemOfRow (d : Dict) (row : List (String × Value)) : Except Error Item := do
  let missing (column : String) : Error :=
    .persistence ("row of '" ++ d.id ++ "' has no " ++ column)
  let data ← d.fields.foldlM (fun (data : Data) f => do
    match row.lookup f.id with
    | none => pure data
    | some v =>
      let value ← decodeValue f v
      match value with
      | .null => pure data
      | _ => pure (Fields.set data f.id value)) []
  let history ←
    match rowText row "history" with
    | some text => readJson text >>= historyOfJson
    | none => pure []
  let version ←
    match row.lookup "version" with
    | some (.integer v) => pure v
    | _ => throw (missing "version")
  let id ← (rowText row "id").elim (throw (missing "id")) pure
  let created ← (← rowTimestamp row "created").elim (throw (missing "created")) pure
  let updated ← (← rowTimestamp row "updated").elim (throw (missing "updated")) pure
  let deleted ← rowTimestamp row "deleted"
  pure { id, data, history, version, created, updated, deleted,
         deletionReason := rowText row "deletionReason" }

/-- The columns and values of a record, fields first, in table order. -/
def rowOfItem (d : Dict) (item : Item) : List (String × Value) :=
  let optional (t : Option String) : Value := (t.map Value.text).getD .null
  [("id", .text item.id)] ++
    d.fields.map (fun f => (f.id, ((item.data.lookup f.id).map (encodeValue f)).getD .null)) ++
    [("history", .text (Json.compact (.array (item.history.map Json.object)))),
     ("version", .integer item.version),
     ("created", .text item.created.millisText), ("updated", .text item.updated.millisText),
     ("deleted", optional (item.deleted.map Temporal.Timestamp.millisText)),
     ("deletionReason", optional item.deletionReason)]

/-- Sort rows by creation time, then id. -/
def byCreation (rows : List (List (String × Value))) : List (List (String × Value)) :=
  let key (row : List (String × Value)) (column : String) : Value := (row.lookup column).getD .null
  rows.mergeSort fun a b =>
    match (key a "created").order (key b "created") with
    | .lt => true
    | .gt => false
    | .eq => (key a "id").order (key b "id") != .gt

/-- Rows whose column holds a text. -/
def whereText (t : Table) (column : String) (value : String) : List (List (String × Value)) :=
  t.records.filter fun row => ((row.lookup column).getD .null).same (.text value)

/-! ## Dict schemes -/

def dictStoreExists (db : Database) : Bool :=
  db.tableExists "dict"

/-- Create the table of dict schemes unless it exists. -/
def createDictStore : DbM Unit := do
  if ((← get).table? "dict").isNone then
    run fun db => db.createTable "dict" "dict"
      [{ name := "id", declared := "text", notNull := true, primaryKey := true },
       { name := "body", declared := "text", notNull := true }]

/-- A dict scheme read back from its JSON text. -/
def dictOfText (body : String) : Except Error Dict := do
  let json ← readJson body
  match Dict.ofJson json with
  | .ok d => pure d
  | .error message => throw (.serialization message)

def getDict (id : String) : DbM (Option Dict) := do
  let t ← need ((← get).needTable "dict")
  match (whereText t "id" id).head? >>= fun row => rowText row "body" with
  | some body => dictOfText body
  | none => pure none

/-- Every dict scheme, in id order. -/
def allDicts : DbM (List Dict) := do
  let t ← need ((← get).needTable "dict")
  let rows := t.records.mergeSort fun a b =>
    ((a.lookup "id").getD .null).order ((b.lookup "id").getD .null) != .gt
  (rows.filterMap fun row => rowText row "body").mapM fun body => dictOfText body

/-- Insert or replace a dict scheme. -/
def saveDict (d : Dict) : DbM Unit := do
  let t ← need ((← get).needTable "dict")
  let body := Value.text (Json.compact d.toJson)
  if (whereText t "id" d.id).isEmpty then
    run fun db => db.insert "dict" [("id", .text d.id), ("body", body)]
  else
    run fun db => (db.update "dict" [("body", body)] fun row =>
      ((row.lookup "id").getD .null).same (.text d.id)).map (·.1)

def removeDict (id : String) : DbM Unit :=
  run fun db => db.delete "dict" fun row => ((row.lookup "id").getD .null).same (.text id)

/-! ## Tables of dicts -/

def schemeExists (db : Database) (id : String) : Bool :=
  db.tableExists id

/-- Create a dict's table with its indexes. -/
def createScheme (d : Dict) : DbM Unit := do
  if schemeExists (← get) d.id then throw (.alreadyExists d.id)
  run fun db => db.createTable (Sql.quoteIdentifier d.id) d.id (itemColumns d)
  for ix in indexesOf d d.indexes d.constraints do
    run fun db => db.createIndex ix

/-- Bring a dict's table from one scheme to the next: indexes and
constraints that went are dropped first, then columns of fields that went,
then columns of new fields are added and new indexes created.  A kept field
must keep its kind of column. -/
def updateScheme (previous current : Dict) : DbM Unit := do
  for f in previous.fields do
    match current.field? f.id with
    | some kept =>
      if columnType kept ≠ columnType f then
        throw (.validation ("Field '" ++ f.id ++ "' of dict '" ++ current.id ++
          "' cannot change its type from " ++ f.fieldType.name ++ " to " ++ kept.fieldType.name))
    | none => pure ()
  for i in previous.indexes do
    if !current.indexes.contains i then
      modify fun db => db.dropIndex (indexName previous i.id)
  for c in previous.constraints do
    if !current.constraints.contains c then
      modify fun db => db.dropIndex (indexName previous c.id)
  for f in previous.fields do
    if (current.field? f.id).isNone then
      run fun db => db.dropColumn current.id (Sql.quoteIdentifier f.id) f.id
  for f in current.fields do
    if (previous.field? f.id).isNone then
      run fun db => db.addColumn current.id { name := f.id, declared := columnType f }
  let added := indexesOf current (current.indexes.filter fun i => !previous.indexes.contains i)
    (current.constraints.filter fun c => !previous.constraints.contains c)
  for ix in added do
    run fun db => db.createIndex ix

def renameField (d : Dict) (source target : String) : DbM Unit :=
  run fun db => db.renameColumn d.id (Sql.quoteIdentifier source) source target

def dropScheme (d : Dict) : DbM Unit :=
  modify fun db => db.dropTable d.id

/-! ## Records -/

def insertItem (d : Dict) (item : Item) : DbM Unit :=
  run fun db => db.insert d.id (rowOfItem d item)

def getItem (d : Dict) (id : String) : DbM (Option Item) := do
  let t ← need ((← get).needTable d.id)
  match (whereText t "id" id).head? with
  | some row => match itemOfRow d row with
    | .ok item => pure (some item)
    | .error e => throw e
  | none => pure none

/-- Every record of a dict, by creation time, then id. -/
def allItems (d : Dict) : DbM (List Item) := do
  let t ← need ((← get).needTable d.id)
  match (byCreation t.records).mapM (itemOfRow d) with
  | .ok items => pure items
  | .error e => throw e

/-- The tables a query on `d` joins, each through the reference field of `d`
that points to it. -/
def joinsOf (d : Dict) (participants : List String) : Except Error (List (String × String)) :=
  (participants.filter (· ≠ d.id)).mapM fun joined =>
    match d.referenceTo? joined with
    | none => .error (.validation ("Dict '" ++ d.id ++ "' has no reference to '" ++ joined ++ "'"))
    | some f =>
      if f.multivalued then
        .error (.validation ("Dict '" ++ joined ++
          "' cannot be joined through the multivalued field '" ++ f.id ++ "'"))
      else .ok (joined, f.id)

/-- The parameter form of a filter constant. -/
def bindValue : Query.Value -> Value
  | .null => .null
  | .integer n => .integer n
  | .decimal text =>
    match Decimal.Number.read text with
    | some n => .real n.toDouble
    | none => .text text
  | .string s => .text s
  | .boolean b => .integer (if b then 1 else 0)
  | .date d => .text d.text
  | .timestamp t => .text t.millisText

/-- The combinations of a row of the main table with the rows its joins
match (none where a join matches nothing). -/
def joinedRows (main : Table) (joins : List (Table × String)) (row : Row) :
    List (List (Table × Option Row)) :=
  joins.foldl (fun (acc : List (List (Table × Option Row))) (other, field) =>
    let reference := main.valueIn row field
    let found := other.rows.filter fun o => (other.valueIn o "id").same reference &&
      (match reference with
        | .null => false
        | _ => true)
    acc.flatMap fun combo =>
      if found.isEmpty then [combo ++ [(other, none)]]
      else found.map fun o => combo ++ [(other, some o)]) [[(main, some row)]]

/-- The records of `d` a filter selects, deleted ones only when asked. -/
def findItems (d : Dict) (catalog : List Dict) (filter : Query.Expression)
    (includeDeleted : Bool) : DbM (List Item) := do
  let compiled ←
    match Sql.compile { dictId := d.id, catalog } filter with
    | .ok t => pure t
    | .error e => throw e
  let joins ←
    match joinsOf d compiled.participants with
    | .ok j => pure j
    | .error e => throw e
  let db ← get
  let main ← need (db.needTable d.id)
  let others ← joins.mapM fun (joined, field) => do
    let t ← need (db.needTable joined)
    pure (t, field)
  let params := compiled.params.map fun (name, v) => (name, bindValue v)
  let tables : List (Table × Option Row) := (main, none) :: others.map fun (t, _) => (t, none)
  let scope : Scope := { tables, params }
  need (scope.check compiled.pred)
  let live : Sql.Pred := .isNull (.column d.id "deleted")
  if !includeDeleted then need (scope.check live)
  for (t, field) in others do
    need (scope.check (.compare .eq (.column t.name "id") (.column d.id field)))
  need (scope.check (.compare .eq (.column d.id "created") (.column d.id "id")))
  let selected ← main.rows.foldlM (fun (acc : List Row) row => do
    let combos := joinedRows main others row
    let kept ← combos.filterM fun combo => do
      let s : Scope := { tables := combo, params }
      let answer ← need (s.eval .null compiled.pred)
      let alive ← need (s.eval .null live)
      pure (answer == some true && (includeDeleted || alive == some true))
    pure (acc ++ kept.map fun _ => row)) []
  match (byCreation (selected.map main.named)).mapM (itemOfRow d) with
  | .ok items => pure items
  | .error e => throw e

/-- Apply `change` to a stored record in one step: the record must exist,
and, when `expected` is given, still be at that version. -/
def modifyItem {α : Type} (d : Dict) (id : String) (expected : Option Int)
    (change : Item -> Except Error (Item × α)) : DbM (Item × α) :=
  atomically do
    let stored ← match ← getItem d id with
      | some item => pure item
      | none => throw (.itemNotFound d.id id)
    let stale (actual : Int) : Error := .concurrentUpdate d.id id (expected.getD actual) actual
    if let some e := expected then
      if e ≠ stored.version then throw (stale stored.version)
    let (modified, extra) ←
      match change stored with
      | .ok r => pure r
      | .error e => throw e
    let values := (rowOfItem d modified).drop 1
    let (db, count) ← need ((← get).update d.id values fun row =>
      ((row.lookup "id").getD .null).same (.text id) &&
        ((row.lookup "version").getD .null).same (.integer stored.version))
    set db
    if count = 0 then
      let actual := ((← getItem d id).map Item.version).getD stored.version
      throw (stale actual)
    pure (modified, extra)

/-! ## Applied migrations -/

def versionStoreExists (db : Database) : Bool :=
  db.tableExists "version_scheme"

def createVersionStore : DbM Unit := do
  if ((← get).table? "version_scheme").isNone then
    run fun db => db.createTable "version_scheme" "version_scheme"
      [{ name := "id", declared := "text", notNull := true, primaryKey := true },
       { name := "target", declared := "text", notNull := true },
       { name := "version", declared := "text", notNull := true },
       { name := "script", declared := "text", notNull := true },
       { name := "checksum", declared := "text", notNull := true },
       { name := "installed", declared := "timestamp", notNull := true }]

/-- The migrations applied to a target, by installation time. -/
def versions (target : String) : DbM (List Migration.Applied) := do
  let t ← need ((← get).needTable "version_scheme")
  let rows := (whereText t "target" target).mergeSort fun a b =>
    ((a.lookup "installed").getD .null).order ((b.lookup "installed").getD .null) != .gt
  rows.mapM fun row => do
    let column (name : String) : DbM String :=
      match rowText row name with
      | some s => pure s
      | none => throw (.persistence ("version_scheme row has no " ++ name))
    let installed ←
      match rowTimestamp row "installed" with
      | .ok (some t) => pure t
      | .ok none => throw (.persistence "version_scheme row has no installed")
      | .error e => throw e
    pure { id := ← column "id", target := ← column "target", version := ← column "version",
           script := ← column "script", checksum := ← column "checksum", installed }

def recordVersion (a : Migration.Applied) : DbM Unit :=
  run fun db => db.insert "version_scheme"
    [("id", .text a.id), ("target", .text a.target), ("version", .text a.version),
     ("script", .text a.script), ("checksum", .text a.checksum),
     ("installed", .text a.installed.millisText)]

end Relational
end Refbook
