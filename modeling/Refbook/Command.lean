import Refbook.Store.Placement
import Refbook.Migration.Run
import Refbook.Sql.Compile
import Refbook.Document.Compile
import Refbook.Settings

namespace Refbook
namespace Command

/-!
# The command line

`dictengine [CONFIG] [translate <dict> <query>]` opens the store, gives every
dict saved without an engine the engine that holds its storage, applies the
pending migration scripts and reports each one, and then runs its request:
nothing more, or a filter for a stored dict compiled for each engine and
shown.  A first argument other than `translate` names a configuration
file.  Any other request is refused, but only after the migrations ran.

The command prints as it goes, so a failure keeps the lines printed before
it: a filter that compiles for the relational engine but not for the
document engine has its relational form shown before the refusal.
-/

/-- What a command line asks for once the migrations ran. -/
inductive Request where
  | migrate
  | compileFilter (dictId query : String)
  | unknown
  deriving Repr, DecidableEq

/-- A command line: the configuration file it names, and its request. -/
structure Line where
  config : Option String
  request : Request
  deriving Repr, DecidableEq

/-- Read a command line. -/
def Line.parse (args : List String) : Line :=
  let (config, rest) : Option String × List String :=
    match args with
    | first :: others => if first = "translate" then (none, args) else (some first, others)
    | [] => (none, [])
  let request :=
    match rest with
    | [] => Request.migrate
    | [verb, dictId, query] => if verb = "translate" then .compileFilter dictId query else .unknown
    | _ => .unknown
  { config, request }

/-- The refusal of a request the command does not know. -/
def usage : Error :=
  .config "usage: dictengine [CONFIG] [translate <dict> <query>]"

/-- The refusal of a configuration file that is not there. -/
def configMissing (file : String) : Error :=
  .config ("configuration file \"" ++ file ++ "\" not found")

/-- A parameter value as the report shows it: its kind and its value. -/
def showValue : Query.Value -> String
  | .null => "Null"
  | .integer n => "Integer(" ++ toString n ++ ")"
  | .decimal text => "Decimal(" ++ Text.debugQuote text ++ ")"
  | .string s => "String(" ++ Text.debugQuote s ++ ")"
  | .boolean b => "Boolean(" ++ toString b ++ ")"
  | .date d => "Date(" ++ d.text ++ ")"
  | .timestamp t => "Timestamp(" ++ t.isoText ++ ")"

/-- The line reporting an applied script. -/
def appliedLine (a : Migration.Applied) : String :=
  "applied " ++ a.target ++ " " ++ a.version ++ " (" ++ a.script ++ ")"

/-- The lines reporting a filter compiled to SQL: the predicate,
then each bound parameter. -/
def sqlLines (t : Sql.Compiled) : List String :=
  ("postgres: " ++ t.sql) :: t.params.map fun (name, value) => "  :" ++ name ++ " = " ++ showValue value

/-- What a run printed, and the failure that ended it, if one did. -/
structure Outcome where
  lines : List String := []
  failure : Option Error := none
  deriving Inhabited

/-- Compile a filter for a stored dict for both engines: the lines
printed, and the failure that stopped the compilation, if one did. -/
def compileLines (dictId query : String) : WorldM Outcome := do
  let d ← Dicts.get dictId
  let catalog ← Dicts.catalog d
  let ctx : Query.Context := { dictId := d.id, catalog }
  let sql ← liftExcept ((Query.Expression.parse query).bind (Sql.compile ctx))
  match (Query.Expression.parse query).bind (Document.compile ctx) with
  | .ok filter => pure { lines := sqlLines sql ++ ["mongo: " ++ Json.compact filter.document] }
  | .error e => pure { lines := sqlLines sql, failure := some e }

/-- Run a request on an opened store with the scripts found for it. -/
def run (request : Request) (scripts : List Migration.Script) : WorldM Outcome :=
  tryCatch (do
      discard Placement.resolveEngines
      let report := (← Migration.migrate scripts).map appliedLine
      match request with
      | .migrate => pure { lines := report }
      | .unknown => pure { lines := report, failure := some usage }
      | .compileFilter dictId query =>
        let outcome ← tryCatch (compileLines dictId query) fun e => pure { failure := some e }
        pure { outcome with lines := report ++ outcome.lines })
    fun e => pure { failure := some e }

/-- Open the store the settings describe, with the clock it records times
by, and run a request on it. -/
def start (settings : Settings) (clock : Temporal.Timestamp) (request : Request)
    (scripts : List Migration.Script) : Outcome :=
  let opened := do
    settings.validate
    World.start settings.available settings.defaultEngine .keepAll false clock
  match opened with
  | .error e => { failure := some e }
  | .ok w => ((run request scripts).run.run w).1.toOption.getD default

end Command
end Refbook
