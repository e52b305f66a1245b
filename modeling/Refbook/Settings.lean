import Refbook.Error
import Refbook.Text.Blank
import Refbook.Text.Quote
import Refbook.Text.SortedSet

namespace Refbook

/-!
# Settings

Which storage engines are available and which is the default (it holds the
dicts themselves and the migration history), where the store lives, and the
target of migration scripts found at the top of the scripts directory.
-/

/-- The relational engine. -/
def relationalEngine : String := "postgres"

/-- The document engine. -/
def documentEngine : String := "mongo"

/-- Run-time settings. -/
structure Settings where
  available : List String
  defaultEngine : String
  database : String
  migrationsPath : String
  migrationsTarget : String
  logFilter : String
  deriving Repr, Inhabited

namespace Settings

/-- Both engines available, the relational one the default, an in-memory
store. -/
def standard : Settings :=
  { available := sortedSet [relationalEngine, documentEngine], defaultEngine := relationalEngine,
    database := ":memory:", migrationsPath := "migrations", migrationsTarget := "dicts",
    logFilter := "info" }

/-- A set of names as messages show it: `{"a", "b"}`. -/
def setText (names : List String) : String :=
  "\x7b" ++ String.intercalate ", " (names.map Text.debugQuote) ++ "\x7d"

/-- The default engine must be available and the migration target named. -/
def validate (s : Settings) : Except Error Unit :=
  if !s.available.contains s.defaultEngine then
    .error (.config ("Default engine " ++ Error.quoted s.defaultEngine ++
      " is not among the available engines " ++ setText s.available))
  else if (Text.trim s.migrationsTarget).isEmpty then
    .error (.config "Migration target must not be empty")
  else .ok ()

end Settings

end Refbook
