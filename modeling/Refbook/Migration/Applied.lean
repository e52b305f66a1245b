import Refbook.Dict.Json

namespace Refbook
namespace Migration

/-!
# Applied migrations

Every migration script that ran is recorded with the target it belongs to,
its version and file name, the checksum of its text and when it ran.  The
record is kept as a document with these keys, the time written
`2024-01-31T10:15:30.250`.
-/

/-- A migration that was applied. -/
structure Applied where
  id : String
  target : String
  version : String
  script : String
  checksum : String
  installed : Temporal.Timestamp
  deriving DecidableEq, Repr, Inhabited

namespace Applied

/-- The record as a document. -/
def toJson (a : Applied) : Json :=
  .object [("id", .string a.id), ("target", .string a.target), ("version", .string a.version),
    ("script", .string a.script), ("checksum", .string a.checksum),
    ("installed", .string a.installed.isoText)]

/-- Read a record back from its document: the first refusal in the order of
its entries, then the first missing key. -/
def ofJson : Decode.Reader Applied := fun json => do
  let entries ← Decode.object "struct VersionScheme" json
  let text := Decode.check Decode.string
  Decode.checkEntries entries
    [("id", text), ("target", text), ("version", text), ("script", text), ("checksum", text),
     ("installed", Decode.check Dict.timestampOfJson)]
    ["id", "target", "version", "script", "checksum", "installed"]
  let id ← Decode.field entries "id" Decode.string
  let target ← Decode.field entries "target" Decode.string
  let version ← Decode.field entries "version" Decode.string
  let script ← Decode.field entries "script" Decode.string
  let checksum ← Decode.field entries "checksum" Decode.string
  let installed ← Decode.field entries "installed" Dict.timestampOfJson
  pure { id, target, version, script, checksum, installed }

/-- What a run of migrations reports for each script it applied. -/
def summary (a : Applied) : Json :=
  .object [("target", .string a.target), ("version", .string a.version),
    ("script", .string a.script), ("checksum", .string a.checksum)]

end Applied

end Migration
end Refbook
