import Refbook.Proofs.HistoryStore
import Refbook.Proofs.Versions

namespace Refbook

/-!
# Where the engines keep a record

Each engine keeps the records of a dict in one place of its own, the table
or the collection named after the dict, and finds a record there as the
first row or document that carries its id.  That row or document is the
record's *slot*.  What it stores is read by the dict's scheme, but two marks
of it are read the same way under every scheme: the version, a whole number,
and whether the record is deleted.

A change of a record reads its slot, checks the version, and writes the
changed record back in place of every row or document that still carries
the id and the version read.  The lemmas here say what that leaves: the slot
of the record holds the changed record's version and, for a deleted record,
still the mark; every other slot, and every other table or collection, is as
it was.  They need the dict's fields to be named apart from the columns and
keys the engines keep for themselves, which the checks of a scheme demand
(`Dict.ServiceFree`).
-/

/-- A dict none of whose fields is named, up to ASCII case, like a field the
engines keep for every record. -/
def Dict.ServiceFree (d : Dict) : Prop :=
  ∀ f ∈ d.fields, isServiceField f.id = false

/-- A field of such a dict is named apart from every service field. -/
theorem Dict.ServiceFree.apart {d : Dict} (free : d.ServiceFree) {f : Field} (mem : f ∈ d.fields)
    {s : String} (service : s ∈ serviceFields) : Relational.sameName f.id s = false := by
  have none := free f mem
  unfold isServiceField at none
  rw [List.any_eq_false] at none
  have differ := none s service
  simpa [sameNoCase, Relational.sameName] using differ

/-! ## The marks of a record -/

/-- What every engine keeps of a record's state the same way, whatever the
scheme: the version, when it can be read as a whole number, and whether the
record is marked deleted. -/
structure Marks where
  version : Option Int
  deleted : Bool

namespace Marks

/-- The place of a record's state in the order its changes go: the version
counts twice and the deletion mark once.  A state whose version cannot be read
stands above every other, as no change can start from it. -/
def rank (k : Marks) : WithTop ℤ :=
  match k.version with
  | some v => ((2 * v + if k.deleted then 1 else 0 : ℤ) : WithTop ℤ)
  | none => ⊤

/-- What a change may do to the marks it read: a live record goes up at least
to the next version, a deleted one keeps at least its place. -/
def Steps (k k' : Marks) : Prop :=
  ∃ v, k.version = some v ∧ (((2 * v + if k.deleted then 1 else 2 : ℤ)) : WithTop ℤ) ≤ k'.rank

theorem rank_of_version {k : Marks} {v : Int} (read : k.version = some v) :
    k.rank = ((2 * v + if k.deleted then 1 else 0 : ℤ) : WithTop ℤ) := by
  rw [rank, read]

/-- A change never lowers the place of the marks. -/
theorem Steps.rank_le {k k' : Marks} (steps : k.Steps k') : k.rank ≤ k'.rank := by
  obtain ⟨v, read, above⟩ := steps
  rw [rank_of_version read]
  refine le_trans ?_ above
  rw [WithTop.coe_le_coe]
  split <;> omega

/-- A change of a live record lifts its marks above the version read. -/
theorem Steps.live {k k' : Marks} {v : Int} (steps : k.Steps k') (read : k.version = some v)
    (live : k.deleted = false) : (((2 * v + 2 : ℤ)) : WithTop ℤ) ≤ k'.rank := by
  obtain ⟨v', read', above⟩ := steps
  rw [read] at read'
  cases read'
  simpa [live] using above

/-- Marks written at a version above the one read step up from it, whatever
becomes of the mark; a version that cannot be read back stands above all. -/
theorem steps_of_raised {k k' : Marks} {v v' : Int} (read : k.version = some v) (raised : v < v')
    (written : k'.version = some v' ∨ k'.version = none) : k.Steps k' := by
  refine ⟨v, read, ?_⟩
  rcases written with back | lost
  · rw [rank_of_version back, WithTop.coe_le_coe]
    split <;> split <;> omega
  · simp [rank, lost]

/-- A deleted record written back at its version with its mark keeps its
place. -/
theorem steps_of_kept {k k' : Marks} {v : Int} (read : k.version = some v)
    (deleted : k.deleted = true) (written : k'.version = some v ∨ k'.version = none)
    (marked : k'.deleted = true) : k.Steps k' := by
  refine ⟨v, read, ?_⟩
  rcases written with back | lost
  · simp [rank_of_version back, deleted, marked]
  · simp [rank, lost]

end Marks

/-- What a change of a record may leave: a version above the one read, or,
for a deleted record, the version and the deletion mark it had. -/
def Item.Advances (stored m : Item) : Prop :=
  stored.version < m.version ∨
    (m.version = stored.version ∧ m.deleted = stored.deleted ∧ stored.isDeleted = true)

namespace Relational

/-- The row that keeps the record `id` in the table named `table`: the first
whose id column holds that text. -/
def slot (db : Database) (table id : String) : Option (List (String × Value)) :=
  (db.table? table).bind fun t => (whereText t "id" id).head?

/-- What a version cell reads as: its whole number, or the number its text
spells within 64 bits. -/
def versionOf : Value → Option Int
  | .integer v => some v
  | .text s => Query.readInt64 s
  | _ => none

/-- Whether a row marks its record deleted: its deleted column holds a text
or a number. -/
def rowDeleted (row : List (String × Value)) : Bool :=
  (rowText row "deleted").isSome

/-- The marks a row keeps. -/
def rowMarks (row : List (String × Value)) : Marks :=
  ⟨(row.lookup "version").bind versionOf, rowDeleted row⟩

/-- The deletion mark a row keeps is the one its time of deletion reads
as. -/
theorem rowDeleted_of_rowTimestamp {row : List (String × Value)}
    {deleted : Option Temporal.Timestamp} (marked : rowTimestamp row "deleted" = .ok deleted) :
    rowDeleted row = deleted.isSome := by
  unfold rowTimestamp at marked
  unfold rowDeleted
  split at marked
  · rename_i none
    cases marked
    rw [none]
    rfl
  · rename_i text some
    split at marked
    · cases marked
      rw [some]
      rfl
    · cases marked

theorem rowText_of_elim {row : List (String × Value)} {err : Error} {id : String}
    (named : (rowText row "id").elim (throw err : Except Error String) pure = .ok id) : rowText row "id" = some id := by
  cases found : rowText row "id" with
  | none =>
    rw [found] at named
    cases named
  | some text =>
    rw [found] at named
    cases named
    rfl

/-- A row read as a record, under any scheme, gives the record the version
and the deletion mark the row keeps, and the id in its id column. -/
theorem itemOfRow_marks {d : Dict} {row : List (String × Value)} {item : Item}
    (read : itemOfRow d row = .ok item) :
    row.lookup "version" = some (.integer item.version) ∧ rowDeleted row = item.isDeleted ∧
      rowText row "id" = some item.id := by
  unfold itemOfRow at read
  obtain ⟨data, -, read⟩ := Sql.except_bind_ok read
  dsimp only at read
  split at read <;>
  · obtain ⟨history, -, read⟩ := Sql.except_bind_ok read
    split at read
    · rename_i v versioned
      obtain ⟨version, given, read⟩ := Sql.except_bind_ok read
      cases given
      obtain ⟨id, named, read⟩ := Sql.except_bind_ok read
      obtain ⟨created, -, read⟩ := Sql.except_bind_ok read
      obtain ⟨created', -, read⟩ := Sql.except_bind_ok read
      obtain ⟨updated, -, read⟩ := Sql.except_bind_ok read
      obtain ⟨updated', -, read⟩ := Sql.except_bind_ok read
      obtain ⟨deleted, marked, read⟩ := Sql.except_bind_ok read
      cases read
      exact ⟨versioned, rowDeleted_of_rowTimestamp marked, rowText_of_elim named⟩
    · obtain ⟨_, thrown, -⟩ := Sql.except_bind_ok read
      cases thrown

/-- A table lookup by one name or another that is the same up to case. -/
theorem table?_congr {db : Database} {a b : String} (same : sameName a b = true) :
    db.table? a = db.table? b := by
  unfold Database.table?
  congr 1
  funext t
  cases ta : sameName t.name a
  · cases tb : sameName t.name b
    · rfl
    · rw [sameName_trans tb (sameName_symm same)] at ta
      cases ta
  · rw [sameName_trans ta same]

/-- A record found in its slot is what reading it there gives. -/
theorem getItem_of_slot {d : Dict} {id : String} {db : Database} {row : List (String × Value)}
    {item : Item} (found : slot db d.id id = some row) (read : itemOfRow d row = .ok item) :
    (getItem d id).run.run db = (.ok (some item), db) := by
  unfold slot at found
  obtain ⟨t, table, first⟩ := Option.bind_eq_some_iff.mp found
  unfold getItem
  rw [runState_bind_ok (runState_get db),
    runState_bind_ok (show (need (db.needTable d.id)).run.run db = (.ok t, db) by
      unfold Database.needTable need
      rw [table]
      rfl)]
  simp only [first, read]
  rfl

/-- What reading a record answers, it read from the record's slot. -/
theorem getItem_some {d : Dict} {id : String} {db db' : Database} {item : Item}
    (ran : (getItem d id).run.run db = (.ok (some item), db')) :
    db' = db ∧ ∃ row, slot db d.id id = some row ∧ itemOfRow d row = .ok item := by
  have same : db' = db := by
    have kept := (Stateless.runState_eq (getItem_stateless d id) db)
    rw [ran] at kept
    exact (congrArg Prod.snd kept)
  subst same
  refine ⟨rfl, ?_⟩
  unfold getItem at ran
  rw [runState_bind_ok (runState_get db')] at ran
  unfold Database.needTable need at ran
  cases table : db'.table? d.id with
  | none =>
    rw [table] at ran
    cases ran
  | some t =>
    rw [table] at ran
    dsimp only at ran
    rw [runState_bind_ok (runState_pure t db')] at ran
    split at ran
    · rename_i row first
      split at ran
      · rename_i found read
        cases ran
        exact ⟨row, by rw [slot, table]; exact first, read⟩
      · cases ran
    · cases ran

/-- A change that ended read the record from its slot, found the version
expected, and wrote the changed record over the rows that still carry the
id and the version read. -/
theorem modifyItem_ok {α : Type} {d : Dict} {id : String} {expected : Option Int}
    {change : Item → Except Error (Item × α)} {db db' : Database} {m : Item} {a : α}
    (ran : (modifyItem d id expected change).run.run db = (.ok (m, a), db')) :
    ∃ row stored n, slot db d.id id = some row ∧ itemOfRow d row = .ok stored ∧
      (∀ e, expected = some e → e = stored.version) ∧ change stored = .ok (m, a) ∧
      db.update d.id ((rowOfItem d m).drop 1) (fun r =>
        ((r.lookup "id").getD .null).same (.text id) &&
          ((r.lookup "version").getD .null).same (.integer stored.version)) = .ok (db', n) := by
  unfold modifyItem at ran
  have worked := runState_saved_ok ran
  obtain ⟨found, read, worked⟩ := Stateless.bind_ok (getItem_stateless d id) worked
  cases found with
  | none => cases worked
  | some stored =>
  obtain ⟨-, row, first, decoded⟩ := getItem_some read
  dsimp only at worked
  rw [runState_bind_ok (runState_pure _ _)] at worked
  have check : ∀ e, expected = some e → e = stored.version := by
    rintro e rfl
    dsimp only at worked
    split at worked
    · rw [runState_bind_error (runState_throw _ _)] at worked
      cases worked
    · exact not_not.mp ‹_›
  refine ⟨row, stored, ?_⟩
  rcases expected with _ | e
  all_goals dsimp only at worked
  on_goal 2 => rw [if_neg (not_not.mpr (check e rfl))] at worked
  all_goals
    split at worked
    · rename_i r changed
      rw [runState_bind_ok (runState_pure _ _), runState_bind_ok (runState_get _)] at worked
      unfold need at worked
      split at worked
      · rename_i p updated
        rw [runState_bind_ok (runState_pure _ _), runState_bind_ok (runState_set _ _)] at worked
        split at worked
        · obtain ⟨_, _, worked⟩ := Stateless.bind_ok (getItem_stateless d id) worked
          rw [runState_bind_error (runState_throw _ _)] at worked
          cases worked
        · rw [runState_pure] at worked
          obtain ⟨db₁, n⟩ := p
          obtain ⟨m', a'⟩ := r
          cases worked
          exact ⟨n, first, decoded, check, changed, updated⟩
      · rw [runState_bind_error (runState_throw _ _)] at worked
        cases worked
    · rw [runState_bind_error (runState_throw _ _)] at worked
      cases worked

/-! ## What an update writes -/

theorem same_text_iff {v : Value} {s : String} : v.same (.text s) = true ↔ v = .text s := by
  constructor
  · intro same
    cases v with
    | text a =>
      rw [Value.same, order_text_beq, decide_eq_true_eq] at same
      rw [same]
    | _ => simp [Value.same, Value.order] at same
  · rintro rfl
    rw [Value.same, order_text_beq, decide_eq_true_eq]

theorem same_integer_self (v : Int) : (Value.integer v).same (.integer v) = true := by
  simp [Value.same, Value.order]

theorem zip_map_zip {α β γ : Type} (f : α × β → γ) :
    ∀ (as : List α) (bs : List β), as.zip ((as.zip bs).map f) = (as.zip bs).map fun ab => (ab.1, f ab)
  | [], _ => rfl
  | _ :: _, [] => rfl
  | a :: as, b :: bs => by simp [zip_map_zip f as bs]

/-- A column of a row, looked up by its name, among pairs of a column and
a value. -/
theorem lookup_map_name {β : Type} (g : Column × Value → β) (k : String) :
    ∀ l : List (Column × Value), (l.map fun cv => (cv.1.name, g cv)).lookup k =
      (l.find? fun cv => k == cv.1.name).map g
  | [] => rfl
  | cv :: l => by
    simp only [List.map_cons, List.lookup_cons, List.find?_cons]
    split <;> simp [*, lookup_map_name g k l]

theorem lookup_named (t : Table) (row : Row) (k : String) :
    (t.named row).lookup k = ((t.columns.zip row).find? fun cv => k == cv.1.name).map (·.2) :=
  lookup_map_name (·.2) k _

theorem lookup_named_changed (t : Table) (values : List (String × Value)) (row : Row) (k : String) :
    (t.named (t.changed values row)).lookup k =
      ((t.columns.zip row).find? fun cv => k == cv.1.name).map fun cv => setCell values cv.1 cv.2 := by
  unfold Table.named Table.changed
  rw [zip_map_zip]
  simp only [List.map_map]
  exact lookup_map_name (fun cv => setCell values cv.1 cv.2) k _

/-- A column that no value is named like keeps its value. -/
theorem lookup_changed_of_unset {t : Table} {values : List (String × Value)} {row : Row}
    {k : String} (unset : values.reverse.find? (fun nv => sameName nv.1 k) = none) :
    (t.named (t.changed values row)).lookup k = (t.named row).lookup k := by
  rw [lookup_named_changed, lookup_named]
  cases found : (t.columns.zip row).find? fun cv => k == cv.1.name with
  | none => rfl
  | some cv =>
    have named : k = cv.1.name := by simpa using List.find?_some found
    simp [setCell, ← named, unset]

/-- A column that a value is named like takes that value, stored by its
affinity. -/
theorem lookup_changed_of_set {t : Table} {values : List (String × Value)} {row : Row}
    {k : String} {nv : String × Value} (set : values.reverse.find? (fun nv => sameName nv.1 k) = some nv) :
    ∃ aff, (t.named (t.changed values row)).lookup k = ((t.named row).lookup k).map fun _ => nv.2.store aff := by
  rw [lookup_named_changed, lookup_named]
  cases found : (t.columns.zip row).find? fun cv => k == cv.1.name with
  | none => exact ⟨.none, rfl⟩
  | some cv =>
    have named : k = cv.1.name := by simpa using List.find?_some found
    exact ⟨cv.1.affinity, by simp [setCell, ← named, set]⟩

/-! ## Slots after an update -/

/-- Whether a row holds the record `id` in its id column. -/
def holdsId (id : String) (row : List (String × Value)) : Bool :=
  ((row.lookup "id").getD .null).same (.text id)

/-- The slot of a record is the first row of the table that holds it. -/
theorem slot_eq (db : Database) (table id : String) :
    slot db table id = (db.table? table).bind fun t =>
      (t.rows.find? fun r => holdsId id (t.named r)).map t.named := by
  unfold slot whereText Table.records
  congr 1
  funext t
  rw [List.head?_filter, List.find?_map]
  rfl

theorem sameName_comm (a b : String) : sameName a b = sameName b a := by
  cases ab : sameName a b
  · cases ba : sameName b a
    · rfl
    · rw [sameName_symm ba] at ab
      cases ab
  · rw [sameName_symm ab]

/-- An update leaves the slots of every other table as they were. -/
theorem slot_update_apart {db db' : Database} {table : String} {values : List (String × Value)}
    {chosen : List (String × Value) → Bool} {count : Nat}
    (made : db.update table values chosen = .ok (db', count)) {T : String}
    (apart : sameName T table = false) (y : String) : slot db' T y = slot db T y := by
  obtain ⟨t, found, rfl⟩ := Database.update_eq made
  have named : sameName t.name table = true := by simpa using List.find?_some found
  have other : sameName t.name T = false :=
    sameName_apart (by rw [sameName_comm]; exact apart) named
  unfold slot
  rw [Database.replaceTable_table? db (t.updated values chosen) other]

/-- In the table it changes, an update leaves in each slot the first row
that held the record, changed if the update picked it. -/
theorem slot_update_same {db db' : Database} {table : String} {values : List (String × Value)}
    {chosen : List (String × Value) → Bool} {count : Nat}
    (made : db.update table values chosen = .ok (db', count))
    (idKept : values.reverse.find? (fun nv => sameName nv.1 "id") = none) {T : String}
    (same : sameName T table = true) (y : String) :
    ∃ t, db.table? T = some t ∧
      slot db T y = (t.rows.find? fun r => holdsId y (t.named r)).map t.named ∧
      slot db' T y = (t.rows.find? fun r => holdsId y (t.named r)).map fun r =>
        t.named (if chosen (t.named r) then t.changed values r else r) := by
  obtain ⟨t, found, rfl⟩ := Database.update_eq made
  have named : sameName t.name table = true := by simpa using List.find?_some found
  have atT : db.table? T = some t := by rw [table?_congr same, found]
  refine ⟨t, atT, by rw [slot_eq, atT]; rfl, ?_⟩
  rw [slot_eq, Database.replaceTable_table?_self atT (t.updated values chosen) rfl]
  have kept : ∀ r, holdsId y (t.named (if chosen (t.named r) then t.changed values r else r)) =
      holdsId y (t.named r) := by
    intro r
    split
    · unfold holdsId
      rw [lookup_changed_of_unset idKept]
    · rfl
  have named_same : (t.updated values chosen).named = t.named := rfl
  have rows_changed : (t.updated values chosen).rows =
      t.rows.map fun r => if chosen (t.named r) then t.changed values r else r := rfl
  have found_same : ((fun r => holdsId y (t.named r)) ∘
      fun r => if chosen (t.named r) then t.changed values r else r) =
      fun r => holdsId y (t.named r) := funext kept
  simp only [Option.bind_some, named_same, rows_changed]
  rw [List.find?_map, found_same, Option.map_map]
  rfl

end Relational

end Refbook

namespace Refbook
namespace Relational

theorem fields_find?_service {d : Dict} (free : d.ServiceFree) {s : String}
    (service : s ∈ serviceFields) (g : Field → Value) :
    (d.fields.map fun f => (f.id, g f)).reverse.find? (fun nv => sameName nv.1 s) = none := by
  rw [List.find?_eq_none]
  intro nv mem
  obtain ⟨f, mem_f, rfl⟩ := List.mem_map.mp (List.mem_reverse.mp mem)
  simp [free.apart mem_f service]

/-- The values a change writes, all but the id: the dict's fields, which a
service column is named apart from, then the service columns. -/
theorem written_find? {d : Dict} (free : d.ServiceFree) (m : Item) {s : String}
    (service : s ∈ serviceFields) :
    ((rowOfItem d m).drop 1).reverse.find? (fun nv => sameName nv.1 s) =
      [("history", Value.text (Json.compact (.array (m.history.map Json.object)))),
        ("version", .integer m.version), ("created", .text m.created.millisText),
        ("updated", .text m.updated.millisText),
        ("deleted", ((m.deleted.map Temporal.Timestamp.millisText).map Value.text).getD .null),
        ("deletionReason", (m.deletionReason.map Value.text).getD .null)].reverse.find?
        (fun nv => sameName nv.1 s) := by
  simp only [rowOfItem, List.cons_append, List.drop_succ_cons, List.drop_zero, List.reverse_append,
    List.find?_append, fields_find?_service free service, List.reverse_nil, List.find?_nil,
    Option.or_none]

/-- A change leaves the id column alone. -/
theorem written_id {d : Dict} (free : d.ServiceFree) (m : Item) :
    ((rowOfItem d m).drop 1).reverse.find? (fun nv => sameName nv.1 "id") = none := by
  rw [written_find? free m (by decide : "id" ∈ serviceFields)]
  simp [sameName]

theorem written_version {d : Dict} (free : d.ServiceFree) (m : Item) :
    ((rowOfItem d m).drop 1).reverse.find? (fun nv => sameName nv.1 "version") =
      some ("version", .integer m.version) := by
  rw [written_find? free m (by decide : "version" ∈ serviceFields)]
  simp [sameName]

theorem written_deleted {d : Dict} (free : d.ServiceFree) (m : Item) :
    ((rowOfItem d m).drop 1).reverse.find? (fun nv => sameName nv.1 "deleted") =
      some ("deleted", ((m.deleted.map Temporal.Timestamp.millisText).map Value.text).getD .null) := by
  rw [written_find? free m (by decide : "deleted" ∈ serviceFields)]
  simp [sameName]

end Relational
end Refbook
