namespace Refbook

/-!
# Errors

Every failure of the library is one constructor of `Error`, carrying what
caused it.  `Error.message` words each one, and `Error.kind` names its
kind.
-/

/-- Why an operation failed. -/
inductive Error where
  /-- A filter does not follow the grammar. -/
  | querySyntax (position : Nat) (fragment : String) (message : String)
  /-- A literal is no date or timestamp. -/
  | cast (literal : String) (target : String)
  /-- A cast names no temporal type. -/
  | unsupportedCast (target : String)
  /-- A literal does not read as its type. -/
  | invalidConstant (kind : String) (value : String)
  /-- A cast compares with a field that is not temporal. -/
  | incompatibleCast (field : String) (fieldType : String) (target : String)
  /-- A field is not declared. -/
  | unknownField (dict : String) (field : String)
  /-- A script does not follow the statement grammar. -/
  | ddlSyntax (position : Nat) (fragment : String) (message : String)
  /-- A migration file name carries no version. -/
  | migrationFileRead (file : String) (reason : String)
  /-- Two migrations of one target have equal versions. -/
  | migrationsShareVersion (target : String) (version : String) (scripts : List String)
  /-- A migration failed while it ran. -/
  | migrationApplied (script : String) (cause : Error)
  /-- An applied migration was edited afterwards. -/
  | checksumMismatch (script : String) (recorded : String) (actual : String)
  /-- A new migration is older than the installed version. -/
  | migrationOutOfOrder (target : String) (script : String) (version : String)
      (installed : String)
  /-- An engine is missing or misused. -/
  | engine (message : String)
  | dictNotFound (dict : String)
  | alreadyExists (dict : String)
  | itemNotFound (dict : String) (item : String)
  | enumNotFound (dict : String) (enumId : String)
  /-- An update carried a version other than the stored one. -/
  | concurrentUpdate (dict : String) (item : String) (expected : Int) (actual : Int)
  | storageMigration (dict : String) (message : String)
  | rollback (dict : String) (message : String)
  | validation (message : String)
  | persistence (message : String)
  | serialization (message : String)
  | config (message : String)
  | lock (message : String)
  deriving Repr, Inhabited

namespace Error

/-- The name of an error's kind. -/
def kind : Error -> String
  | querySyntax .. => "QuerySyntax"
  | cast .. => "Cast"
  | unsupportedCast .. => "UnsupportedCast"
  | invalidConstant .. => "InvalidConstant"
  | incompatibleCast .. => "IncompatibleCast"
  | unknownField .. => "UnknownField"
  | ddlSyntax .. => "DdlSyntax"
  | migrationFileRead .. => "MigrationFileRead"
  | migrationsShareVersion .. => "MigrationsHasSameVersion"
  | migrationApplied .. => "MigrationApplied"
  | checksumMismatch .. => "MigrationChecksumMismatch"
  | migrationOutOfOrder .. => "MigrationOutOfOrder"
  | engine .. => "Engine"
  | dictNotFound .. => "DictNotFound"
  | alreadyExists .. => "AlreadyExists"
  | itemNotFound .. => "ItemNotFound"
  | enumNotFound .. => "EnumNotFound"
  | concurrentUpdate .. => "DictConcurrentUpdate"
  | storageMigration .. => "DictStorageMigration"
  | rollback .. => "DictRollback"
  | validation .. => "Validation"
  | persistence .. => "Persistence"
  | serialization .. => "Serialization"
  | config .. => "Config"
  | lock .. => "Lock"

/-- The date and time layouts that casts accept, as users know them. -/
def datePatterns : String :=
  "yyyy-MM-dd, yyyy-MM-ddXXX, yyyy-MM-dd'T'HH:mm:ss, yyyy-MM-dd'T'HH:mm:ssXXX, " ++
    "yyyy-MM-dd'T'HH:mm:ss.SSS, yyyy-MM-dd'T'HH:mm:ss.SSSXXX"

/-- Quote a name with single quotes. -/
def quoted (text : String) : String :=
  "'" ++ text ++ "'"

/-- The error in words. -/
def message : Error -> String
  | querySyntax position fragment text =>
    "Query syntax error at position " ++ toString position ++ " near " ++ quoted fragment ++
      ": " ++ text
  | cast literal target =>
    "Cannot cast " ++ quoted literal ++ " to " ++ target ++ ", supported date patterns: " ++
      datePatterns
  | unsupportedCast target =>
    "Unsupported cast target " ++ quoted target ++ ", supported types for cast: date, timestamp"
  | invalidConstant kind value => "Invalid " ++ kind ++ " constant " ++ quoted value
  | incompatibleCast field fieldType target =>
    "Cast to " ++ target ++ " is not applicable to field " ++ quoted field ++ " of type " ++
      fieldType
  | unknownField dict field => "Field " ++ quoted field ++ " not found in dict " ++ quoted dict
  | ddlSyntax position fragment text =>
    "DDL syntax error at position " ++ toString position ++ " near " ++ quoted fragment ++
      ": " ++ text
  | migrationFileRead file reason => "Cannot read migration " ++ quoted file ++ ": " ++ reason
  | migrationsShareVersion target version scripts =>
    "Migrations of " ++ quoted target ++ " share version " ++ version ++ ": " ++
      String.intercalate ", " scripts
  | migrationApplied script cause => "Migration " ++ quoted script ++ " failed: " ++ cause.message
  | checksumMismatch script recorded actual =>
    "Checksum of applied migration " ++ quoted script ++ " changed (recorded " ++ recorded ++
      ", found " ++ actual ++ ")"
  | migrationOutOfOrder target script version installed =>
    "Migration " ++ quoted script ++ " has version " ++ version ++ " but " ++ quoted target ++
      " is already at " ++ installed
  | engine text => "Engine error: " ++ text
  | dictNotFound dict => "Dict " ++ quoted dict ++ " not found"
  | alreadyExists dict => "Dict " ++ quoted dict ++ " already exists"
  | itemNotFound dict item => "Item " ++ quoted item ++ " not found in dict " ++ quoted dict
  | enumNotFound dict enumId => "Enum " ++ quoted enumId ++ " not found in dict " ++ quoted dict
  | concurrentUpdate dict item expected actual =>
    "Item " ++ quoted item ++ " of dict " ++ quoted dict ++
      " was concurrently updated (expected version " ++ toString expected ++
      ", stored version " ++ toString actual ++ ")"
  | storageMigration dict text => "Storage migration of dict " ++ quoted dict ++ " failed: " ++ text
  | rollback dict text => "Rollback of dict " ++ quoted dict ++ " failed: " ++ text
  | validation text => "Validation error: " ++ text
  | persistence text => "Persistence error: " ++ text
  | serialization text => "Serialization error: " ++ text
  | config text => "Config error: " ++ text
  | lock text => "Lock poisoned: " ++ text

end Error

/-- A computation that may fail, as work on any state: it leaves the state
alone. -/
def liftExcept {σ α : Type} (e : Except Error α) : ExceptT Error (StateM σ) α :=
  match e with
  | .ok a => pure a
  | .error err => throw err

end Refbook
