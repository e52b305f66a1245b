import Refbook.Proofs.KeptState
import Refbook.Proofs.JsonText
import Refbook.Proofs.StorageMove
import Refbook.Proofs.SqlParams

namespace Refbook

/-!
# The relational engine's own tables

The engine that keeps dict schemes and migration history keeps them in
stores of its own, next to the stores of the dicts: the relational engine in
the tables `dict` and `version_scheme`.  Tables are found by name in any
case, so a dict named `DICT` would reach the table of schemes.  No such dict
keeps its records here: creating its table fails, since a table of that name
stands.  A dict is *clear* of an engine when, kept by that engine, its id is
apart from the engine's own names.

This module shows, for the relational engine, that work on the table of a
clear dict leaves the engine's own tables alone, that saving a clear dict
keeps every scheme in the table of schemes clear, and that creating a table
succeeds only under a name apart from them.  The schemes are read back from
their JSON text, and a dict read back keeps its id and engine.
-/

/-! ## Dict schemes read back -/

namespace Json

theorem Similar.string_right {str : String} {j : Json} (similar : Similar (.string str) j) :
    j = .string str := by
  cases similar
  rfl

theorem Similar.null_right {j : Json} (similar : Similar .null j) : j = .null := by
  cases similar
  rfl

theorem Similar.ofOption_right {o : Option String} {j : Json} (similar : Similar (.ofOption o) j) :
    j = .ofOption o := by
  cases o with
  | none => exact similar.null_right
  | some str => exact similar.string_right

/-- Entries read back keep their keys, in order. -/
theorem SimilarFields.keys : ∀ {fields read : List (String × Json)},
    SimilarFields fields read → read.map Prod.fst = fields.map Prod.fst
  | [], _, similar => by cases similar; rfl
  | _ :: _, _, similar => by
    cases similar with
    | cons key _ tail => simp [tail.keys]

/-- A key present in the written entries is present in the entries read,
with a similar value. -/
theorem SimilarFields.lookup {key : String} {value : Json} : ∀ {fields read : List (String × Json)},
    SimilarFields fields read → fields.lookup key = some value →
      ∃ value', read.lookup key = some value' ∧ Similar value value'
  | [], _, _, found => by cases found
  | _ :: _, _, similar, found => by
    cases similar with
    | cons key' head tail =>
      by_cases same : key = key'
      · subst same
        simp only [List.lookup_cons_self, Option.some.injEq] at found ⊢
        subst found
        exact ⟨_, rfl, head⟩
      · have other : (key == key') = false := by simpa using same
        simp only [List.lookup, other] at found ⊢
        exact tail.lookup found

/-- Entries whose keys are new, to what is set and among themselves, are set
by appending them. -/
theorem setEntries_fresh : ∀ (acc read : List (String × Json)),
    ((acc ++ read).map Prod.fst).Nodup → setEntries acc read = acc ++ read
  | acc, [], _ => by simp [setEntries]
  | acc, (key, value) :: read, fresh => by
    have absent : acc.any (fun entry => entry.1 == key) = false := by
      rw [List.any_eq_false]
      intro entry mem same
      simp only [beq_iff_eq] at same
      rw [List.map_append] at fresh
      have := List.nodup_append.mp fresh
      exact this.2.2 entry.1 (List.mem_map_of_mem mem) key (by simp) same
    have set : Fields.set acc key value = acc ++ [(key, value)] := by
      simp [Fields.set, absent]
    show setEntries (Fields.set acc key value) read = acc ++ (key, value) :: read
    rw [set, setEntries_fresh (acc ++ [(key, value)]) read (by simpa using fresh)]
    simp

end Json

theorem Except.ok_of_map {ε α β : Type} {f : α → β} {x : Except ε α} {b : β}
    (mapped : x.map f = .ok b) : ∃ a, x = .ok a ∧ f a = b := by
  cases x with
  | error e => cases mapped
  | ok a => exact ⟨a, rfl, Except.ok.inj mapped⟩

namespace Dict

/-- A dict read from an object takes its id and engine from the entries of
those keys. -/
theorem ofJson_object {entries : List (String × Json)} {d : Dict}
    (read : Dict.ofJson (.object entries) = .ok d) :
    Decode.field entries "id" Decode.string = .ok d.id ∧
      Decode.fieldOr entries "engine" (Decode.optional Decode.string) none = .ok d.engine := by
  unfold Dict.ofJson at read
  obtain ⟨entries', found, read⟩ := Sql.except_bind_ok read
  cases found
  obtain ⟨_, -, read⟩ := Sql.except_bind_ok read
  obtain ⟨id, id_read, read⟩ := Sql.except_bind_ok read
  obtain ⟨_, -, read⟩ := Sql.except_bind_ok read
  obtain ⟨_, -, read⟩ := Sql.except_bind_ok read
  obtain ⟨_, -, read⟩ := Sql.except_bind_ok read
  obtain ⟨_, -, read⟩ := Sql.except_bind_ok read
  obtain ⟨_, -, read⟩ := Sql.except_bind_ok read
  obtain ⟨_, -, read⟩ := Sql.except_bind_ok read
  obtain ⟨_, -, read⟩ := Sql.except_bind_ok read
  obtain ⟨_, -, read⟩ := Sql.except_bind_ok read
  obtain ⟨engine, engine_read, read⟩ := Sql.except_bind_ok read
  cases read
  exact ⟨id_read, engine_read⟩

/-- A dict read from entries holding its id and its engine has that id and
engine. -/
theorem ofJson_of_lookups {entries : List (String × Json)} {d d' : Dict}
    (id : entries.lookup "id" = some (.string d.id))
    (engine : entries.lookup "engine" = some (.ofOption d.engine))
    (read : Dict.ofJson (.object entries) = .ok d') : d'.id = d.id ∧ d'.engine = d.engine := by
  obtain ⟨id_read, engine_read⟩ := ofJson_object read
  rw [Decode.field, id] at id_read
  rw [Decode.fieldOr, engine] at engine_read
  cases h : d.engine <;> simp_all [Decode.string, Decode.optional, Json.ofOption, Except.map]

/-- The entries of a dict's JSON, whose keys are all different. -/
theorem toJson_keys (d : Dict) : ∃ entries, d.toJson = .object entries ∧
    (entries.map Prod.fst).Nodup ∧ entries.lookup "id" = some (.string d.id) ∧
      entries.lookup "engine" = some (.ofOption d.engine) ∧
      entries.lookup "_id" = none := by
  refine ⟨_, rfl, ?_, ?_, ?_, ?_⟩
  · simp
  · simp
  · rfl
  · simp

end Dict

/-! ## Dicts clear of an engine's own stores -/

/-- The names under which an engine keeps its dict schemes and applied
migrations; the relational engine matches table names in any case. -/
def Engine.ownName : Engine → String → Bool
  | .relational, name => Relational.sameName name "dict" || Relational.sameName name "version_scheme"
  | .document, name => name == "dict" || name == "version_scheme"

/-- A dict whose records an engine keeps stores them apart from that
engine's own stores. -/
def Clear (e : Engine) (d : Dict) : Prop :=
  d.engine = some e.name → e.ownName d.id = false

namespace Relational

/-- The names of the tables the relational engine keeps for itself. -/
def ownName (name : String) : Bool :=
  Engine.relational.ownName name

/-- A dict scheme kept as the compact text of its JSON reads back with its
id and engine: the text read back has the keys of the JSON, all different,
so none is merged. -/
theorem dictOfText_compact {d d' : Dict} (read : dictOfText (Json.compact d.toJson) = .ok d') :
    d'.id = d.id ∧ d'.engine = d.engine := by
  unfold dictOfText at read
  obtain ⟨json, parsed, read⟩ := Sql.except_bind_ok read
  have similar : Json.Similar d.toJson json := by
    unfold readJson at parsed
    split at parsed
    next j' text => cases parsed; exact Json.read_compact text
    next => cases parsed
  split at read
  next d₀ decoded =>
    cases read
    obtain ⟨entries, spelled, distinct, id, engine, -⟩ := Dict.toJson_keys d
    rw [spelled] at similar
    cases similar with
    | object fields =>
      rw [Json.setEntries_fresh [] _ (by simpa [fields.keys] using distinct), List.nil_append]
        at decoded
      obtain ⟨id', id_read, id_similar⟩ := fields.lookup id
      obtain ⟨engine', engine_read, engine_similar⟩ := fields.lookup engine
      rw [id_similar.string_right] at id_read
      rw [engine_similar.ofOption_right] at engine_read
      exact Dict.ofJson_of_lookups id_read engine_read decoded
  next => cases read

/-! ## Names apart from the own tables -/

theorem sameName_symm {a b : String} (ab : sameName a b = true) : sameName b a = true :=
  sameName_iff.mpr (sameName_iff.mp ab).symm

/-- A name apart from `b` is apart from every name the same as `b`. -/
theorem sameName_apart {a b c : String} (apart : sameName a c = false) (same : sameName b a = true) :
    sameName b c = false := by
  cases other : sameName b c
  · rfl
  · rw [sameName_trans (sameName_symm same) other] at apart
    cases apart

/-- A search that a map keeps in place: the map changes no member's match
and leaves the matching members alone. -/
theorem find?_map_of_fixed {α : Type} {p : α → Bool} {g : α → α} (keeps : ∀ u, p (g u) = p u)
    (fixes : ∀ u, p u = true → g u = u) (l : List α) : (l.map g).find? p = l.find? p := by
  induction l with
  | nil => rfl
  | cons u l ih =>
    rw [List.map_cons, List.find?_cons, List.find?_cons, keeps u]
    cases matched : p u
    · exact ih
    · rw [fixes u matched]

namespace Database

/-- Putting back a table leaves alone the tables of other names. -/
theorem replaceTable_table? (db : Database) (t : Table) {name : String}
    (apart : sameName t.name name = false) : (db.replaceTable t).table? name = db.table? name := by
  unfold replaceTable table?
  apply find?_map_of_fixed
  · intro u
    split
    · rename_i same
      rw [apart, sameName_apart apart same]
    · rfl
  · intro u matched
    rw [if_neg]
    intro same
    rw [sameName_apart apart same] at matched
    cases matched

/-- A table put back is the one found under its name. -/
theorem replaceTable_table?_self {db : Database} {t : Table} {name : String}
    (found : db.table? name = some t) (t' : Table) (named : t'.name = t.name) :
    (db.replaceTable t').table? name = some t' := by
  unfold replaceTable table? at *
  generalize db.tables = tables at found ⊢
  induction tables with
  | nil => cases found
  | cons u tables ih =>
    rw [List.find?_cons] at found
    rw [List.map_cons, List.find?_cons]
    cases matched : sameName u.name name
    · rw [matched] at found
      have apart : sameName u.name t'.name = false := by
        have chosen : sameName t.name name = true := by simpa using List.find?_some found
        rw [named]
        cases same : sameName u.name t.name
        · rfl
        · rw [sameName_trans same chosen] at matched
          cases matched
      simp only [apart, Bool.false_eq_true, if_false, matched]
      exact ih found
    · rw [matched] at found
      cases found
      simp [named, matched]

/-- The tables the relational engine keeps for itself. -/
def ownTables (db : Database) : Option Table × Option Table :=
  (db.table? "dict", db.table? "version_scheme")

/-- Putting back a table found under a name of its own leaves the engine's
own tables alone. -/
theorem replaceTable_ownTables {db : Database} {name : String} {t : Table}
    (found : db.table? name = some t) (apart : ownName name = false) (t' : Table)
    (named : t'.name = t.name) : (db.replaceTable t').ownTables = db.ownTables := by
  have chosen : sameName t.name name = true := by simpa using List.find?_some found
  simp only [ownName, Engine.ownName, Bool.or_eq_false_iff] at apart
  unfold ownTables
  rw [replaceTable_table? db t' (named ▸ sameName_apart apart.1 chosen),
    replaceTable_table? db t' (named ▸ sameName_apart apart.2 chosen)]

end Database

/-! ## Changes of one table -/

/-- The value a cell holds after an update setting `values`: the last value
named like its column, stored by the column's affinity, or what it held. -/
def setCell (values : List (String × Value)) (c : Column) (v : Value) : Value :=
  ((values.reverse.find? fun nv => sameName nv.1 c.name).map fun nv => nv.2.store c.affinity).getD v

/-- A row with the values an update sets. -/
def Table.changed (t : Table) (values : List (String × Value)) (row : Row) : Row :=
  (t.columns.zip row).map fun cv => setCell values cv.1 cv.2

/-- A table with the rows that `chosen` picks changed to hold `values`. -/
def Table.updated (t : Table) (values : List (String × Value))
    (chosen : List (String × Value) → Bool) : Table :=
  { t with rows := t.rows.map fun r => if chosen (t.named r) then t.changed values r else r }

namespace Database

/-- The update loop changes the rows it picks, in place. -/
theorem update_go_eq {db : Database} {chosen : List (String × Value) → Bool} {t : Table}
    {change : Row → Row} : ∀ {before rows rows' : List Row} {count count' : Nat},
    update.go db chosen t change before count rows = .ok (rows', count') →
      rows' = before ++ rows.map fun r => if chosen (t.named r) then change r else r
  | before, [], rows', count, count', ran => by
    cases ran
    simp
  | before, row :: rest, rows', count, count', ran => by
    unfold update.go at ran
    split at ran
    · rename_i picked
      dsimp only [bind, Except.bind] at ran
      split at ran
      · contradiction
      split at ran
      · contradiction
      rw [update_go_eq ran]
      simp [picked]
    · rename_i skipped
      rw [update_go_eq ran]
      simp [skipped]

/-- An update puts back the table it found with the rows it picks changed. -/
theorem update_eq {db db' : Database} {table : String} {values : List (String × Value)}
    {chosen : List (String × Value) → Bool} {count : Nat}
    (made : db.update table values chosen = .ok (db', count)) :
    ∃ t, db.table? table = some t ∧ db' = db.replaceTable (t.updated values chosen) := by
  unfold update needTable at made
  split at made
  · rename_i t found
    dsimp only [bind, Except.bind] at made
    split at made
    · cases made
    split at made
    · cases made
    rename_i result looped
    cases made
    refine ⟨t, found, ?_⟩
    rw [update_go_eq looped, List.nil_append]
    unfold Table.updated
    congr 3
    funext r
    split
    · refine List.map_congr_left fun cv _ => ?_
      unfold setCell
      split <;> rename_i found <;> simp [found]
    · rfl
  · dsimp only [bind, Except.bind] at made
    cases made

/-- An update puts back the table it found, each row kept or changed. -/
theorem update_ok {db db' : Database} {table : String} {values : List (String × Value)}
    {chosen : List (String × Value) → Bool} {count : Nat}
    (made : db.update table values chosen = .ok (db', count)) :
    ∃ t rows, db.table? table = some t ∧ db' = db.replaceTable { t with rows } ∧
      ∀ r ∈ rows, ∃ r₀ ∈ t.rows, r = r₀ ∨
        r = (t.columns.zip r₀).map fun cv =>
          ((values.reverse.find? fun nv => sameName nv.1 cv.1.name).map fun nv => nv.2.store cv.1.affinity).getD
            cv.2 := by
  obtain ⟨t, found, rfl⟩ := update_eq made
  refine ⟨t, (t.updated values chosen).rows, found, rfl, fun r mem => ?_⟩
  obtain ⟨r₀, mem₀, rfl⟩ := List.mem_map.mp mem
  refine ⟨r₀, mem₀, ?_⟩
  split
  · exact Or.inr rfl
  · exact Or.inl rfl

/-- The database `db'` is `db` with the table found under `name` put back,
changed but keeping its name. -/
def OnTable (name : String) (db db' : Database) : Prop :=
  ∃ t t', db.table? name = some t ∧ db'.tables = (db.replaceTable t').tables ∧ t'.name = t.name

/-- The engine's own tables are found among the tables. -/
theorem ownTables_of_tables {db db' : Database} (same : db'.tables = db.tables) :
    db'.ownTables = db.ownTables := by
  simp only [ownTables, table?, same]

theorem OnTable.ownTables {name : String} {db db' : Database} (changed : OnTable name db db')
    (apart : ownName name = false) : db'.ownTables = db.ownTables := by
  obtain ⟨t, t', found, tables, named⟩ := changed
  rw [← replaceTable_ownTables found apart t' named]
  exact ownTables_of_tables tables

theorem insert_onTable {db db' : Database} {table : String} {values : List (String × Value)}
    (made : db.insert table values = .ok db') : OnTable table db db' := by
  obtain ⟨t, row, found, rfl⟩ := insert_ok made
  exact ⟨t, _, found, rfl, rfl⟩

theorem update_onTable {db db' : Database} {table : String} {values : List (String × Value)}
    {chosen : List (String × Value) → Bool} {count : Nat}
    (made : db.update table values chosen = .ok (db', count)) : OnTable table db db' := by
  obtain ⟨t, rows, found, rfl, -⟩ := update_ok made
  exact ⟨t, _, found, rfl, rfl⟩

theorem addColumn_onTable {db db' : Database} {table : String} {column : Column}
    (made : db.addColumn table column = .ok db') : OnTable table db db' := by
  unfold addColumn needTable at made
  split at made
  · rename_i t found
    dsimp only [bind, Except.bind] at made
    split at made
    · cases made
    cases made
    exact ⟨t, _, found, rfl, rfl⟩
  · cases made

theorem dropColumn_onTable {db db' : Database} {table written name : String}
    (made : db.dropColumn table written name = .ok db') : OnTable table db db' := by
  unfold dropColumn needTable at made
  split at made
  · rename_i t found
    dsimp only [bind, Except.bind] at made
    split at made
    · cases made
    split at made
    · cases made
    split at made
    · cases made
    cases made
    exact ⟨t, _, found, rfl, rfl⟩
  · cases made

theorem renameColumn_onTable {db db' : Database} {table written source target : String}
    (made : db.renameColumn table written source target = .ok db') : OnTable table db db' := by
  unfold renameColumn needTable at made
  split at made
  · rename_i t found
    dsimp only [bind, Except.bind] at made
    split at made
    · cases made
    split at made
    · cases made
    cases made
    exact ⟨t, _, found, rfl, rfl⟩
  · cases made

end Database

/-! ## Work on the table of a clear dict -/

theorem untouched_run {f : Database → Except String Database}
    (apart : ∀ db db', f db = .ok db' → db'.ownTables = db.ownTables) :
    Leaves Database.ownTables (run f) := by
  intro own
  refine Keeps.intro fun db r db' kept ran => ?_
  rw [run_run] at ran
  split at ran
  next made =>
    cases ran
    exact ⟨(apart db _ made).trans kept, rfl, fun _ _ => trivial⟩
  next =>
    cases ran
    exact ⟨kept, rfl, fun _ _ => trivial⟩

/-- Work made atomic leaves the engine's own tables alone when the work
does: a failure puts back the database it started from. -/
theorem untouched_atomically {α : Type} {act : DbM α} (inner : Leaves Database.ownTables act) :
    Leaves Database.ownTables (atomically act) := by
  intro own
  refine Keeps.intro fun db r db' kept ran => ?_
  unfold atomically at ran
  rw [runState_bind_ok (runState_get db), runState_tryCatch] at ran
  rcases worked : act.run.run db with ⟨result, db₁⟩
  rw [worked] at ran
  cases result with
  | ok a =>
    cases ran
    exact (inner own).run kept worked
  | error e =>
    dsimp only at ran
    rw [runState_bind_ok (runState_set db₁ db)] at ran
    cases ran
    exact ⟨kept, rfl, fun _ same => by cases same⟩

section Apart

variable {name : String} (apart : ownName name = false)
include apart

theorem untouched_insert (values : List (String × Value)) :
    Leaves Database.ownTables (run fun db => db.insert name values) :=
  untouched_run fun _ _ made => (Database.insert_onTable made).ownTables apart

theorem untouched_addColumn (column : Column) :
    Leaves Database.ownTables (run fun db => db.addColumn name column) :=
  untouched_run fun _ _ made => (Database.addColumn_onTable made).ownTables apart

theorem untouched_dropColumn (written column : String) :
    Leaves Database.ownTables (run fun db => db.dropColumn name written column) :=
  untouched_run fun _ _ made => (Database.dropColumn_onTable made).ownTables apart

theorem untouched_renameColumn (written source target : String) :
    Leaves Database.ownTables (run fun db => db.renameColumn name written source target) :=
  untouched_run fun _ _ made => (Database.renameColumn_onTable made).ownTables apart

end Apart

/-- Indexes are kept beside the tables. -/
theorem untouched_createIndex (ix : Index) : Leaves Database.ownTables (run fun db => db.createIndex ix) :=
  untouched_run fun _ _ made => by rw [Database.createIndex_ok made]; rfl

theorem untouched_dropIndex (ixName : String) :
    Leaves Database.ownTables (modify fun db => db.dropIndex ixName : DbM PUnit) :=
  Leaves.modify fun _ => rfl

theorem insertItem_untouched {d : Dict} (apart : ownName d.id = false) (item : Item) :
    Leaves Database.ownTables (insertItem d item) :=
  untouched_insert apart _

theorem renameField_untouched {d : Dict} (apart : ownName d.id = false) (source target : String) :
    Leaves Database.ownTables (renameField d source target) :=
  untouched_renameColumn apart _ _ _

theorem need_ok {α : Type} {e : Except String α} {db db' : Database} {a : α}
    (ran : (need e).run.run db = (.ok a, db')) : e = .ok a := by
  cases e with
  | ok a' => cases ran; rfl
  | error message => cases ran

/-- Reading the database, updating one table of it, setting the result in
its place and going on with work that only reads. -/
theorem untouched_update_set {β : Type} {name : String} (apart : ownName name = false)
    (values : List (String × Value)) (chosen : List (String × Value) → Bool)
    {k : Database × Nat → DbM β} (reads : ∀ p, Stateless (k p)) :
    Leaves Database.ownTables (do
      let db ← get
      let p ← need (db.update name values chosen)
      set p.1
      k p) := by
  intro own
  refine Keeps.intro fun db r db' kept ran => ?_
  rw [runState_bind_ok (runState_get db)] at ran
  rcases (need_stateless _).bind_run ran with ⟨e, rfl, rfl⟩ | ⟨p, found, rest⟩
  · exact ⟨kept, rfl, fun _ same => by cases same⟩
  · rw [runState_bind_ok (runState_set db p.1)] at rest
    have same := (reads p).state p.1
    rw [rest] at same
    simp only at same
    subst same
    obtain ⟨db₁, count⟩ := p
    have changed := Database.update_onTable (need_ok found)
    exact ⟨(changed.ownTables apart).trans kept, rfl, fun _ _ => trivial⟩

/-- Changing a stored record touches the dict's table only: the change is
one update of that table, set in place of the database it was read from. -/
theorem modifyItem_untouched {α : Type} {d : Dict} (apart : ownName d.id = false) (id : String)
    (expected : Option Int) (change : Item → Except Error (Item × α)) :
    Leaves Database.ownTables (modifyItem d id expected change) := by
  unfold modifyItem
  apply untouched_atomically
  refine fun own => Runs.seq (Runs.of_stateless (getItem_stateless d id)) fun found => ?_
  extract_lets stale checked
  have afterRead : ∀ stored, Leaves Database.ownTables (checked stored) := by
    intro stored
    simp -zeta only [checked]
    extract_lets written changed
    have afterChange : ∀ p, Leaves Database.ownTables (written p) := by
      intro p own
      simp -zeta only [written]
      extract_lets values
      refine untouched_update_set apart _ _ (fun q => ?_) own
      split
      · exact Runs.seq (getItem_stateless d id) fun _ => Runs.throw_bind trivial _
      · exact Runs.pure trivial
    have write : ∀ u, Leaves Database.ownTables (changed u) := by
      intro u own
      simp -zeta only [changed]
      split
      · exact Runs.seq (Runs.pure trivial) fun p => afterChange p own
      · exact Runs.throw_bind trivial _
    split
    · split
      · exact fun own => Runs.throw_bind trivial _
      · exact write ()
    · exact write ()
  split
  · exact Runs.seq (Runs.pure trivial) fun stored => afterRead stored own
  · exact Runs.throw_bind trivial _

/-- Bringing a table to a new scheme touches that table and indexes only. -/
theorem updateScheme_untouched (previous : Dict) {current : Dict}
    (apart : ownName current.id = false) : Leaves Database.ownTables (updateScheme previous current) := by
  unfold updateScheme
  intro own
  refine Runs.seq (Runs.forIn fun f _ _ => ?_) fun _ => ?_
  · split
    · split
      · exact Runs.throw_bind trivial _
      · exact Runs.pure trivial
    · exact Runs.pure trivial
  refine Runs.seq (Runs.forIn fun i _ _ => ?_) fun _ => ?_
  · split
    · exact Runs.seq (untouched_dropIndex _ own) fun _ => Runs.pure trivial
    · exact Runs.pure trivial
  refine Runs.seq (Runs.forIn fun c _ _ => ?_) fun _ => ?_
  · split
    · exact Runs.seq (untouched_dropIndex _ own) fun _ => Runs.pure trivial
    · exact Runs.pure trivial
  refine Runs.seq (Runs.forIn fun f _ _ => ?_) fun _ => ?_
  · split
    · exact Runs.seq (untouched_dropColumn apart _ _ own) fun _ => Runs.pure trivial
    · exact Runs.pure trivial
  refine Runs.seq (Runs.forIn fun f _ _ => ?_) fun _ => ?_
  · split
    · exact Runs.seq (untouched_addColumn apart _ own) fun _ => Runs.pure trivial
    · exact Runs.pure trivial
  refine Runs.seq (Runs.forIn fun ix _ _ => ?_) fun _ => Runs.pure trivial
  exact Runs.seq (untouched_createIndex _ own) fun _ => Runs.pure trivial

/-! ## The table of dict schemes stays clear -/

theorem need_keeps {α V : Type} {inv : Database → Prop} {view : Database → V}
    (e : Except String α) : Keeps inv view (fun a => e = .ok a) (need e) := by
  refine Keeps.intro fun s r s' sound ran => ?_
  cases e with
  | ok a =>
    cases ran
    exact ⟨sound, rfl, fun _ same => by cases same; rfl⟩
  | error e =>
    cases ran
    exact ⟨sound, rfl, fun _ same => by cases same⟩

/-- The columns of the table of dict schemes. -/
def dictColumns : List Column :=
  [{ name := "id", declared := "text", notNull := true, primaryKey := true },
   { name := "body", declared := "text", notNull := true }]

/-- A kept dict scheme text reads, if at all, as a dict clear of the
engine's own tables. -/
def ClearText (body : String) : Prop :=
  ∀ d, dictOfText body = .ok d → Clear .relational d

/-- The table of dict schemes, with its two columns, holding texts of
clear dicts only. -/
def DictsClear (found : Option Table) : Prop :=
  ∃ t, found = some t ∧ t.columns = dictColumns ∧
    ∀ row ∈ t.records, ∀ body, rowText row "body" = some body → ClearText body

/-- The engine's own tables stand: the dict schemes, all clear, and the
applied migrations. -/
def Sound (db : Database) : Prop :=
  DictsClear (db.table? "dict") ∧ (db.table? "version_scheme").isSome

/-- The applied migrations, as the engine keeps them. -/
def history (db : Database) : Option Table :=
  db.table? "version_scheme"

/-- Work that leaves the engine's own tables alone keeps them sound and the
applied migrations as they were. -/
theorem untouched_keeps {α : Type} {act : DbM α} (untouched : Leaves Database.ownTables act) :
    Keeps Sound history (fun _ => True) act := by
  refine untouched.keeps fun db db' same sound => ?_
  simp only [Database.ownTables, Prod.mk.injEq] at same
  refine ⟨?_, same.2⟩
  unfold Sound
  rw [same.1, same.2]
  exact sound

/-- A dict scheme read from the engine is clear of its own tables. -/
theorem getDict_clear (id : String) :
    Keeps Sound history (fun found => ∀ d ∈ found, Clear .relational d) (getDict id) := by
  unfold getDict
  refine Runs.bind Runs.get fun db sound => ?_
  refine Runs.bind (need_keeps _) fun t found => ?_
  split
  next body read =>
    refine Runs.bind (Runs.lift (fun _ found => found) fun _ _ => trivial) fun d decoded => Runs.pure ?_
    obtain ⟨t₀, kept, -, clear⟩ := sound.1
    have same : t = t₀ := by
      unfold Database.needTable at found
      rw [kept] at found
      cases found
      rfl
    subst same
    obtain ⟨row, first, text⟩ := Option.bind_eq_some_iff.mp read
    have mem : row ∈ t.records := (List.mem_filter.mp (List.mem_of_mem_head? first)).1
    rintro _ ⟨⟩
    exact clear row mem body text d decoded
  next => exact Runs.pure (by simp)

/-- The table found under the name of the dict schemes is apart from the
applied migrations. -/
theorem dicts_apart {db : Database} {t : Table} (found : db.table? "dict" = some t) :
    sameName t.name "version_scheme" = false :=
  sameName_apart (a := "dict") (by decide) (by simpa using List.find?_some found)

theorem clearText_compact {d : Dict} (clear : Clear .relational d) :
    ClearText (Json.compact d.toJson) := by
  intro d' read
  obtain ⟨id, engine⟩ := dictOfText_compact read
  unfold Clear
  rw [id, engine]
  exact clear

/-- Rows of the table of dict schemes, all holding clear texts. -/
theorem dictsClear_rows {t : Table} (cols : t.columns = dictColumns) {rows : List Row}
    (clear : ∀ r ∈ rows, ∀ body, rowText (t.named r) "body" = some body → ClearText body) :
    DictsClear (some { t with rows }) :=
  ⟨_, rfl, cols, fun row mem body text => by
    obtain ⟨r, kept, rfl⟩ := List.mem_map.mp mem
    exact clear r kept body text⟩

theorem records_clear {t : Table} (clear : DictsClear (some t)) :
    ∀ r ∈ t.rows, ∀ body, rowText (t.named r) "body" = some body → ClearText body := by
  obtain ⟨t', same, -, clear⟩ := clear
  cases same
  exact fun r mem => clear _ (List.mem_map_of_mem mem)

/-- Inserting a clear scheme text into the table of dict schemes keeps it
clear and leaves the applied migrations alone. -/
theorem insert_dict_keeps {id body : String} (clear : ClearText body) :
    Keeps Sound history (fun _ => True)
      (run fun db => db.insert "dict" [("id", .text id), ("body", .text body)]) := by
  refine Keeps.intro fun db r db' sound ran => ?_
  rw [run_run] at ran
  split at ran
  next made =>
    cases ran
    obtain ⟨t, row, found, built, -, rfl⟩ := Database.insert_checked made
    obtain ⟨t₀, kept, cols, -⟩ := sound.1
    rw [found] at kept
    cases kept
    have built' : row = [.text id, .text body] := by
      unfold Database.rowOf Table.column? at built
      rw [cols] at built
      exact (Except.ok.inj built).symm
    subst built'
    have same := Database.replaceTable_table? db { t with rows := t.rows ++ [[.text id, .text body]] }
      (dicts_apart found : sameName t.name "version_scheme" = false)
    refine ⟨⟨?_, ?_⟩, same, fun _ _ => trivial⟩
    · rw [Database.replaceTable_table?_self found { t with rows := t.rows ++ [[.text id, .text body]] } rfl]
      refine dictsClear_rows cols fun r mem b text => ?_
      rcases List.mem_append.mp mem with old | new
      · exact records_clear (found ▸ sound.1) r old b text
      · rw [List.mem_singleton.mp new] at text
        have named : rowText (t.named [.text id, .text body]) "body" = some body := by
          unfold Table.named
          rw [cols]
          rfl
        rw [named] at text
        cases text
        exact clear
    · rw [same]
      exact sound.2
  next =>
    cases ran
    exact ⟨sound, rfl, fun _ same => by cases same⟩

theorem text_affinity : Affinity.ofDeclared "text" = .text := by decide

theorem store_text (s : String) : (Value.text s).store .text = .text s := rfl

/-- Setting the body of a row of dict schemes leaves that body in it. -/
theorem body_of_update {t : Table} (cols : t.columns = dictColumns) (body : String) (r₀ : Row)
    {b : String}
    (text : rowText (t.named ((t.columns.zip r₀).map fun cv =>
      (([("body", Value.text body)].reverse.find? fun nv => sameName nv.1 cv.1.name).map fun nv =>
        nv.2.store cv.1.affinity).getD cv.2)) "body" = some b) : b = body := by
  unfold Table.named at text
  rw [cols] at text
  rcases r₀ with _ | ⟨id, _ | ⟨old, rest⟩⟩
  · cases text
  · cases text
  · simp [dictColumns, rowText, List.lookup, Column.affinity, text_affinity, store_text] at text
    exact text.symm

/-- Setting a clear scheme text in rows of the table of dict schemes keeps
it clear and leaves the applied migrations alone. -/
theorem update_dict_keeps {body : String} (clear : ClearText body)
    (chosen : List (String × Value) → Bool) :
    Keeps Sound history (fun _ => True)
      (run fun db => (db.update "dict" [("body", .text body)] chosen).map (·.1)) := by
  refine Keeps.intro fun db r db' sound ran => ?_
  rw [run_run] at ran
  split at ran
  next mapped =>
    cases ran
    obtain ⟨⟨_, count⟩, made, rfl⟩ := Except.ok_of_map mapped
    obtain ⟨t, rows, found, rfl, changed⟩ := Database.update_ok made
    obtain ⟨t₀, kept, cols, -⟩ := sound.1
    rw [found] at kept
    cases kept
    have same := Database.replaceTable_table? db { t with rows }
      (dicts_apart found : sameName t.name "version_scheme" = false)
    refine ⟨⟨?_, ?_⟩, same, fun _ _ => trivial⟩
    · rw [Database.replaceTable_table?_self found { t with rows } rfl]
      refine dictsClear_rows cols fun r mem b text => ?_
      obtain ⟨r₀, old, same | same⟩ := changed r mem
      · rw [same] at text
        exact records_clear (found ▸ sound.1) r₀ old b text
      · rw [same] at text
        rw [body_of_update cols body r₀ text]
        exact clear
    · rw [same]
      exact sound.2
  next =>
    cases ran
    exact ⟨sound, rfl, fun _ same => by cases same⟩

/-- Saving a clear dict scheme keeps the engine's own tables sound and the
applied migrations as they were. -/
theorem saveDict_keeps {d : Dict} (clear : Clear .relational d) :
    Keeps Sound history (fun _ => True) (saveDict d) := by
  unfold saveDict
  refine Runs.seq (Runs.of_stateless Runs.get) fun db => ?_
  refine Runs.seq (Runs.of_stateless (need_stateless _)) fun t => ?_
  split
  · exact insert_dict_keeps (clearText_compact clear)
  · exact update_dict_keeps (clearText_compact clear) _

/-! ## Creating a table -/

/-- A table found under a name is still found first when tables are
added after it. -/
theorem table?_append {db : Database} {name : String} {t : Table} (found : db.table? name = some t)
    (more : List Table) : ({ db with tables := db.tables ++ more } : Database).table? name = some t := by
  unfold Database.table? at *
  rw [List.find?_append, found]
  rfl

/-- A name the same as that of a table is found. -/
theorem table?_isSome_of_same {db : Database} {a b : String} {t : Table}
    (found : db.table? a = some t) (same : sameName a b = true) : (db.table? b).isSome := by
  unfold Database.table? at *
  rw [List.find?_isSome]
  exact ⟨t, List.mem_of_find?_eq_some found,
    sameName_trans (by simpa using List.find?_some found) same⟩

/-- A table made while the engine's own tables stand has a name apart
from theirs, and leaves them standing. -/
theorem createTable_keeps (written name : String) (columns : List Column) :
    Keeps Sound history (fun _ => ownName name = false)
      (run fun db => db.createTable written name columns) := by
  refine Keeps.intro fun db r db' sound ran => ?_
  rw [run_run] at ran
  split at ran
  next made =>
    cases ran
    obtain ⟨absent, rfl⟩ := Database.createTable_ok made
    obtain ⟨t, dicts, -⟩ := sound.1
    obtain ⟨t', versions⟩ := Option.isSome_iff_exists.mp sound.2
    have apart : ownName name = false := by
      show (sameName name "dict" || sameName name "version_scheme") = false
      cases dict_same : sameName name "dict"
      · cases version_same : sameName name "version_scheme"
        · rfl
        · have := table?_isSome_of_same versions (sameName_symm version_same)
          rw [absent] at this
          cases this
      · have := table?_isSome_of_same dicts (sameName_symm dict_same)
        rw [absent] at this
        cases this
    have same : history { db with tables := db.tables ++ [{ name, columns }] } = history db := by
      unfold history
      rw [table?_append versions, versions]
    refine ⟨?_, same, fun _ _ => apart⟩
    unfold Sound
    rw [table?_append dicts, ← dicts, ← history, same]
    exact sound
  next =>
    cases ran
    exact ⟨sound, rfl, fun _ same => by cases same⟩

/-- Creating a dict's table, when it succeeds, shows the dict's id apart
from the engine's own tables. -/
theorem createScheme_keeps (d : Dict) :
    Keeps Sound history (fun _ => ownName d.id = false) (createScheme d) := by
  unfold createScheme
  refine Runs.seq (Runs.of_stateless Runs.get) fun db => ?_
  split
  · exact Runs.throw trivial
  · refine Runs.bind (createTable_keeps _ _ _) fun _ apart => ?_
    refine Runs.seq (Runs.forIn fun ix _ _ => ?_) fun _ => Runs.pure apart
    exact Runs.seq (untouched_keeps (untouched_createIndex ix)) fun _ => Runs.pure trivial

end Relational

end Refbook
