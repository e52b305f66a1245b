import Refbook.Error

namespace Refbook
namespace Export

/-!
# Export formats

The live records of a dict can be exported as CSV, as SQL inserts the script
language reads back, or as a JSON document.  A format is named in any ASCII
case; its name is also the file extension.
-/

/-- The export formats. -/
inductive Format where
  | csv
  | sql
  | json
  deriving DecidableEq, Repr, Inhabited

namespace Format

/-- The file extension, which is also the format's name. -/
def extension : Format -> String
  | csv => "csv"
  | sql => "sql"
  | json => "json"

/-- The format a name stands for, in any ASCII case. -/
def ofName (name : String) : Except Error Format :=
  match String.ofList (name.toList.map Char.toLower) with
  | "csv" => .ok csv
  | "sql" => .ok sql
  | "json" => .ok json
  | _ => .error (.validation ("Unsupported export format " ++ Error.quoted name))

end Format

/-- `dict.ext`, or `dict_n_items.ext` for a selection of `n` records. -/
def fileName (dictId : String) (format : Format) (itemIds : List String) : String :=
  match itemIds.length with
  | 0 => dictId ++ "." ++ format.extension
  | n => dictId ++ "_" ++ toString n ++ "_items." ++ format.extension

end Export
end Refbook
