import Refbook.Json.Value
import Refbook.Temporal.Basic

namespace Refbook

/-!
# Records

A record (an *item*) of a dict holds the values of the dict's fields, a
version that every change raises by one, the times it was created and last
changed, and, once soft-deleted, the time and reason of its deletion.  Its
history lists its prior states, oldest first: each a *snapshot*, the field
values with the version and change time they had.

How much history a record keeps inline is a `Retention`: all of it, or the
newest `n` snapshots; what falls out is handed to an archive.
-/

/-- Field values of a record, in the order they were written. -/
abbrev Data := List (String × Json)

/-- A versioned record. -/
structure Item where
  id : String
  data : Data
  history : List Data := []
  version : Int := 1
  created : Temporal.Timestamp
  updated : Temporal.Timestamp
  deleted : Option Temporal.Timestamp := none
  deletionReason : Option String := none
  deriving Repr, Inhabited

namespace Item

/-- A new record at version 1, created and changed at `now`. -/
def fresh (id : String) (data : Data) (now : Temporal.Timestamp) : Item :=
  { id, data, created := now, updated := now }

def isDeleted (item : Item) : Bool :=
  item.deleted.isSome

/-- The state a record is in now, as a history entry: its field values with
its version and change time. -/
def snapshot (item : Item) : Data :=
  Fields.set (Fields.set item.data "version" (.ofInt item.version)) "updated"
    (.string item.updated.millisText)

/-- A record as JSON, with times to the millisecond. -/
def toJson (item : Item) : Json :=
  .object [("id", .string item.id), ("data", .object item.data),
    ("version", .ofInt item.version), ("history", .array (item.history.map Json.object)),
    ("created", .string item.created.millisText), ("updated", .string item.updated.millisText),
    ("deleted", .ofOption (item.deleted.map Temporal.Timestamp.millisText)),
    ("deletionReason", .ofOption item.deletionReason)]

end Item

/-- How many prior states of a record are kept inline. -/
inductive Retention where
  | keepAll
  | keepLast (n : Nat)
  deriving DecidableEq, Repr, Inhabited

namespace Retention

/-- Append the record's current state to its history; the snapshots that no
longer fit, oldest first, come back beside the record. -/
def record (r : Retention) (item : Item) : Item × List Data :=
  let history := item.history ++ [item.snapshot]
  match r with
  | keepAll => ({ item with history }, [])
  | keepLast n =>
    let overflow := history.length - n
    ({ item with history := history.drop overflow }, history.take overflow)

end Retention

end Refbook
