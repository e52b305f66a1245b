import Refbook.Proofs.Versions
import Refbook.Proofs.SqlParams
import Refbook.Store.Placement

namespace Refbook

/-!
# A move of a dict's storage that fails

Moving a dict's records to another engine creates the dict's storage
there, copies the records into it in one transaction of that engine,
records the new engine in the dict's scheme and lets the old storage go.
It has no transaction around the whole: when a step fails, the new storage
is dropped again.

The main statement, `Placement.failed_move_keeps_world`, says that this
compensation is exact: a move that fails leaves the whole world as it found
it.  The dict's scheme, its old storage and every record in it are
untouched, and the target engine holds no storage for the dict, unless it
held some before, which is then untouched as well.

Two facts of the stores carry it.  Creating a dict's storage and then
dropping it gives back the store it started from, for a relational table
with its indexes as for a document collection; and everything the copy
writes goes into that storage, so dropping it takes the writes along.  The
world where a step failed is therefore always a *residue* of the world
before: either the same world, or one that dropping the new storage brings
back.

Two properties of the stores are assumed, both kept by every operation of
the library: every relational index stands on a table, and the scheme kept
under a dict's id is the scheme of that id.
-/

/-! ## Loops that keep an invariant -/

section Invariant

variable {σ ε α β : Type}

/-- A loop whose every round keeps a property of the state keeps it,
whether it ends or fails. -/
theorem forIn_invariant {P : σ -> Prop} {xs : List α} {b : β}
    {f : α -> β -> ExceptT ε (StateM σ) (ForInStep β)}
    (round : ∀ a ∈ xs, ∀ b s r s', (f a b).run.run s = (r, s') -> P s -> P s')
    {s s' : σ} {r : Except ε β} (ran : (ForIn.forIn xs b f).run.run s = (r, s'))
    (holds : P s) : P s' := by
  induction xs generalizing b s with
  | nil =>
    cases ran
    exact holds
  | cons a rest ih =>
    rw [List.forIn_cons, runState_bind] at ran
    rcases first : (f a b).run.run s with ⟨step, s₁⟩
    rw [first] at ran
    have kept := round a List.mem_cons_self b s step s₁ first holds
    cases step with
    | error e =>
      cases ran
      exact kept
    | ok step =>
      cases step with
      | done b' =>
        cases ran
        exact kept
      | yield b' =>
        exact ih (fun a mem => round a (List.mem_cons_of_mem _ mem)) ran kept

/-- A bind after a part that only reads: either that part failed and left
the state, or it answered from the state and the rest ran from there. -/
theorem Stateless.bind_run {x : ExceptT ε (StateM σ) α} {f : α -> ExceptT ε (StateM σ) β}
    {s s' : σ} {r : Except ε β} (reads : Stateless x) (ran : (x >>= f).run.run s = (r, s')) :
    (∃ e, r = .error e ∧ s' = s) ∨ ∃ a, x.run.run s = (.ok a, s) ∧ (f a).run.run s = (r, s') := by
  rw [runState_bind, Stateless.runState_eq reads] at ran
  rcases first : (x.run.run s).1 with e | a
  · rw [first] at ran
    cases ran
    exact Or.inl ⟨e, rfl, rfl⟩
  · rw [first] at ran
    exact Or.inr ⟨a, by rw [Stateless.runState_eq reads, first], ran⟩

end Invariant

/-! ## Dropping a table takes its work along -/

namespace Relational

theorem sameName_iff {a b : String} :
    sameName a b = true ↔ a.toList.map Char.toLower = b.toList.map Char.toLower := by
  simp [sameName]

@[simp] theorem sameName_self (a : String) : sameName a a = true :=
  sameName_iff.mpr rfl

theorem sameName_trans {a b c : String} (ab : sameName a b = true) (bc : sameName b c = true) :
    sameName a c = true :=
  sameName_iff.mpr ((sameName_iff.mp ab).trans (sameName_iff.mp bc))

namespace Database

/-- Every index of the database stands on one of its tables. -/
def IndexesOnTables (db : Database) : Prop :=
  ∀ ix ∈ db.indexes, ∃ t ∈ db.tables, sameName t.name ix.table = true

theorem not_sameName_of_table?_none {db : Database} {name : String}
    (absent : db.table? name = none) : ∀ t ∈ db.tables, sameName t.name name = false := by
  intro t mem
  have := List.find?_eq_none.mp absent t mem
  simpa using this

theorem createTable_ok {db db' : Database} {written name : String} {columns : List Column}
    (made : db.createTable written name columns = .ok db') :
    db.table? name = none ∧ db' = { db with tables := db.tables ++ [{ name, columns }] } := by
  unfold createTable at made
  dsimp only at made
  split at made
  · cases made
  rename_i absent
  split at made
  · cases made
  split at made
  · cases made
  · cases made
    exact ⟨Option.not_isSome_iff_eq_none.mp absent, rfl⟩

theorem createIndex_ok {db db' : Database} {ix : Index} (made : db.createIndex ix = .ok db') :
    db' = { db with indexes := db.indexes ++ [ix] } := by
  unfold createIndex at made
  dsimp only at made
  split at made
  case h_2 => cases made
  split at made
  · cases made
  split at made
  · cases made
  split at made
  · obtain ⟨t, -, made⟩ := Sql.except_bind_ok made
    split at made
    · cases made
    · obtain ⟨⟨⟩, -, made⟩ := Sql.except_bind_ok made
      exact (Except.ok.inj made).symm
  · obtain ⟨t, -, made⟩ := Sql.except_bind_ok made
    split at made
    · cases made
    · exact (Except.ok.inj made).symm

/-- An insert finds the table, makes the row, checks it against the rows
there and adds it at the end. -/
theorem insert_checked {db db' : Database} {table : String} {values : List (String × Value)}
    (made : db.insert table values = .ok db') :
    ∃ t row, db.table? table = some t ∧ rowOf t values = .ok row ∧
      db.checkUnique t row t.rows = .ok () ∧
      db' = db.replaceTable { t with rows := t.rows ++ [row] } := by
  unfold insert needTable at made
  split at made
  · rename_i t found
    rw [Sql.except_ok_bind] at made
    obtain ⟨row, built, made⟩ := Sql.except_bind_ok made
    obtain ⟨-, -, made⟩ := Sql.except_bind_ok made
    obtain ⟨⟨⟩, unique, made⟩ := Sql.except_bind_ok made
    exact ⟨t, row, found, built, unique, (Except.ok.inj made).symm⟩
  · cases made

theorem insert_ok {db db' : Database} {table : String} {values : List (String × Value)}
    (made : db.insert table values = .ok db') :
    ∃ t row, db.table? table = some t ∧ db' = db.replaceTable { t with rows := t.rows ++ [row] } := by
  obtain ⟨t, row, found, -, -, changed⟩ := insert_checked made
  exact ⟨t, row, found, changed⟩

/-- The database `db` with one table of the name added, and indexes on it:
what creating a dict's table, its indexes and its rows leaves. -/
def Grown (db : Database) (name : String) (db' : Database) : Prop :=
  db.table? name = none ∧ ∃ t ixs, t.name = name ∧ (∀ ix ∈ ixs, ix.table = name) ∧
    db' = { tables := db.tables ++ [t], indexes := db.indexes ++ ixs }

namespace Grown

variable {db db' db'' : Database} {name : String}

theorem tableExists (grown : db.Grown name db') : db'.tableExists name = true := by
  obtain ⟨-, t, ixs, named, -, rfl⟩ := grown
  simp [Database.tableExists, named]

/-- Dropping the table of the name gives back the database it was added
to, when every index of that database stood on a table. -/
theorem dropTable (grown : db.Grown name db') (tidy : db.IndexesOnTables) :
    db'.dropTable name = db := by
  obtain ⟨absent, t, ixs, named, on, rfl⟩ := grown
  have apart := not_sameName_of_table?_none absent
  have old : ∀ ix ∈ db.indexes, sameName ix.table name = false := by
    intro ix mem
    obtain ⟨u, member, same⟩ := tidy ix mem
    cases h : sameName ix.table name with
    | false => rfl
    | true =>
      have clash := apart u member
      rw [sameName_trans same h] at clash
      cases clash
  have keepTables : db.tables.filter (fun u => !sameName u.name name) = db.tables :=
    List.filter_eq_self.mpr fun u mem => by simp [apart u mem]
  have keepIndexes : db.indexes.filter (fun ix => !sameName ix.table name) = db.indexes :=
    List.filter_eq_self.mpr fun ix mem => by simp [old ix mem]
  have dropIndexes : ixs.filter (fun ix => !sameName ix.table name) = [] :=
    List.filter_eq_nil_iff.mpr fun ix mem => by simp [on ix mem]
  simp only [Database.dropTable, List.filter_append, keepTables, keepIndexes, dropIndexes, named,
    List.filter_cons, sameName_self, Bool.not_true, Bool.false_eq_true, if_false,
    List.filter_nil, List.append_nil]

theorem createIndex (grown : db.Grown name db') {ix : Index} (on : ix.table = name)
    {db'' : Database} (made : db'.createIndex ix = .ok db'') : db.Grown name db'' := by
  obtain ⟨absent, t, ixs, named, onAll, rfl⟩ := grown
  refine ⟨absent, t, ixs ++ [ix], named, ?_, ?_⟩
  · intro ix' mem
    rcases List.mem_append.mp mem with old | new
    · exact onAll ix' old
    · rw [List.mem_singleton.mp new]
      exact on
  · rw [createIndex_ok made, List.append_assoc]

/-- A row added to the table of the name stays within it. -/
theorem insert (grown : db.Grown name db') {values : List (String × Value)}
    (made : db'.insert name values = .ok db'') : db.Grown name db'' := by
  obtain ⟨t₀, row, found, rfl⟩ := insert_ok made
  obtain ⟨absent, t, ixs, named, on, rfl⟩ := grown
  have apart := not_sameName_of_table?_none absent
  have first : t₀ = t := by
    have none_old : db.tables.find? (fun u => sameName u.name name) = none := absent
    simp only [table?, List.find?_append, none_old, Option.none_or, List.find?_cons, named,
      sameName_self, Option.some.injEq] at found
    exact found.symm
  subst first
  refine ⟨absent, { t₀ with rows := t₀.rows ++ [row] }, ixs, named, on, ?_⟩
  have keep : db.tables.map (fun u => if sameName u.name t₀.name then
      { t₀ with rows := t₀.rows ++ [row] } else u) = db.tables := by
    conv => rhs; rw [← List.map_id db.tables]
    exact List.map_congr_left fun u mem => by simp [apart u mem, named]
  simp only [replaceTable, List.map_append, keep, List.map_cons, sameName_self, if_true,
    List.map_nil]

end Grown

end Database

/-- Database work: the work's answer and the database it leaves. -/
theorem run_run (f : Database -> Except String Database) (db : Database) :
    (run f).run.run db =
      match f db with
      | .ok db' => (.ok (), db')
      | .error message => (.error (.persistence message), db) := by
  unfold run
  rw [runState_bind_ok (runState_get db)]
  cases f db <;> rfl

theorem indexesOf_table {d : Dict} {indexes : List Refbook.Index} {constraints : List Constraint}
    {ix : Index} (mem : ix ∈ indexesOf d indexes constraints) : ix.table = d.id := by
  simp only [indexesOf, List.mem_append, List.mem_map] at mem
  rcases mem with ⟨i, -, rfl⟩ | ⟨c, -, rfl⟩ <;> rfl

/-- Creating a dict's table either fails before it, leaving the database as
it was, or leaves the database grown by that table, whether it ends or
fails. -/
theorem createScheme_residue {d : Dict} {db db' : Database} {r : Except Error Unit}
    (ran : (createScheme d).run.run db = (r, db')) (absent : schemeExists db d.id = false) :
    (db' = db ∧ ∃ e, r = .error e) ∨ db.Grown d.id db' := by
  unfold createScheme at ran
  rw [runState_bind_ok (runState_get db)] at ran
  simp only [absent, Bool.false_eq_true, if_false] at ran
  rw [runState_bind, run_run] at ran
  cases made : db.createTable (Sql.quoteIdentifier d.id) d.id (itemColumns d) with
  | error message =>
    rw [made] at ran
    cases ran
    exact Or.inl ⟨rfl, _, rfl⟩
  | ok db₁ =>
    rw [made] at ran
    dsimp only at ran
    obtain ⟨none_yet, rfl⟩ := Database.createTable_ok made
    have table : db.Grown d.id
        ({ db with tables := db.tables ++ [{ name := d.id, columns := itemColumns d }] }) :=
      ⟨none_yet, { name := d.id, columns := itemColumns d }, [], rfl, by simp, by simp⟩
    rw [runState_bind] at ran
    rcases loop : (forIn (indexesOf d d.indexes d.constraints) PUnit.unit fun ix _ => do
        run fun db => db.createIndex ix
        pure (ForInStep.yield PUnit.unit) : DbM PUnit).run.run
        ({ db with tables := db.tables ++ [{ name := d.id, columns := itemColumns d }] }) with
      ⟨result, db₂⟩
    rw [loop] at ran
    have grown : db.Grown d.id db₂ := by
      refine forIn_invariant (fun ix mem _ s r s' round before => ?_) loop table
      rw [runState_bind, run_run] at round
      cases created : s.createIndex ix with
      | ok s₁ =>
        rw [created] at round
        cases round
        exact before.createIndex (indexesOf_table mem) created
      | error message =>
        rw [created] at round
        cases round
        exact before
    cases result <;> (cases ran; exact Or.inr grown)

/-- Adding a record to a dict's table keeps the database grown by that
table, whether it ends or fails. -/
theorem insertItem_grown {d : Dict} {item : Item} {base db db' : Database}
    {r : Except Error Unit} (ran : (insertItem d item).run.run db = (r, db'))
    (grown : base.Grown d.id db) : base.Grown d.id db' := by
  unfold insertItem at ran
  rw [run_run] at ran
  cases inserted : db.insert d.id (rowOfItem d item) with
  | ok db₁ =>
    rw [inserted] at ran
    cases ran
    exact grown.insert inserted
  | error message =>
    rw [inserted] at ran
    cases ran
    exact grown

theorem allItems_stateless (d : Dict) : Stateless (allItems d) := by
  unfold allItems
  refine Runs.seq Runs.get fun db => Runs.seq (need_stateless _) fun t => ?_
  split
  · exact Runs.pure trivial
  · exact Runs.throw trivial

/-- Failed database work leaves the database as it was. -/
theorem run_error {f : Database -> Except String Database} {db db' : Database} {e : Error}
    (ran : (run f).run.run db = (.error e, db')) : db' = db := by
  rw [run_run] at ran
  split at ran
  · cases ran
  · cases ran
    rfl

/-- Saving a dict scheme fails without a change. -/
theorem saveDict_error {d : Dict} {db db' : Database} {e : Error}
    (ran : (saveDict d).run.run db = (.error e, db')) : db' = db := by
  unfold saveDict at ran
  rw [runState_bind_ok (runState_get db)] at ran
  rcases (need_stateless _).bind_run ran with ⟨-, -, rfl⟩ | ⟨t, -, rest⟩
  · rfl
  · split at rest
    · exact run_error rest
    · exact run_error rest

end Relational

/-! ## Dropping a collection takes its work along -/

namespace Document

namespace Store

/-- The store `s` with one collection of the name added. -/
def Grown (s : Store) (name : String) (s' : Store) : Prop :=
  s.contains name = false ∧ ∃ docs, s' = { collections := s.collections ++ [(name, docs)] }

theorem lookup_none_of_contains {s : Store} {name : String} (absent : s.contains name = false) :
    s.collections.lookup name = none := by
  simpa [contains, collection?] using absent

namespace Grown

variable {s s' : Store} {name : String}

theorem collection? (grown : s.Grown name s') : ∃ docs, s'.collection? name = some docs := by
  obtain ⟨absent, docs, rfl⟩ := grown
  refine ⟨docs, ?_⟩
  simp [Store.collection?, List.lookup_append, lookup_none_of_contains absent]

theorem contains (grown : s.Grown name s') : s'.contains name = true := by
  obtain ⟨docs, found⟩ := grown.collection?
  simp [Store.contains, found]

/-- No collection of the store has the name of one it does not contain. -/
theorem apart_of_contains {s : Store} {name : String} (absent : s.contains name = false) :
    ∀ entry ∈ s.collections, entry.1 ≠ name := by
  have none_old := lookup_none_of_contains absent
  simp [List.lookup_eq_none_iff] at none_old
  intro entry mem same
  exact none_old entry.1 entry.2 mem same.symm

theorem drop (grown : s.Grown name s') : s'.drop name = s := by
  obtain ⟨absent, docs, rfl⟩ := grown
  have keep : s.collections.filter (fun entry => entry.1 != name) = s.collections :=
    List.filter_eq_self.mpr fun entry mem => by simp [apart_of_contains absent entry mem]
  simp [Store.drop, List.filter_append, keep]

theorem put (grown : s.Grown name s') (docs' : List Json) : s.Grown name (s'.put name docs') := by
  obtain ⟨absent, docs, rfl⟩ := grown
  refine ⟨absent, docs', ?_⟩
  simp only [Store.put, List.map_append, List.map_cons, beq_self_eq_true, if_true, List.map_nil,
    Store.mk.injEq, List.append_cancel_right_eq]
  conv => rhs; rw [← List.map_id s.collections]
  exact List.map_congr_left fun entry mem => by simp [apart_of_contains absent entry mem]

end Grown

end Store

/-- Creating a dict's collection where none of its name is grows the store
by it. -/
theorem createScheme_grown {d : Dict} {s s' : Store} {r : Except Error Unit}
    (ran : (createScheme d).run.run s = (r, s')) (absent : s.contains d.id = false) :
    s.Grown d.id s' := by
  unfold createScheme at ran
  rw [runState_bind_ok (runState_get s)] at ran
  simp only [absent, Bool.false_eq_true, if_false] at ran
  rw [runState_modify] at ran
  cases ran
  refine ⟨absent, [], ?_⟩
  simp [Store.create, absent]

theorem checkUnique_stateless (d : Dict) (item : Item) : Stateless (checkUnique d item) := by
  unfold checkUnique
  split
  · exact Runs.pure trivial
  · refine Runs.seq (Runs.forIn fun c _ _ => ?_) fun _ => Runs.pure trivial
    refine Runs.seq (liftExcept_stateless _) fun conditions => ?_
    split
    · exact Runs.pure trivial
    · refine Runs.seq (find_stateless _ _ _) fun found => ?_
      split
      · exact Runs.throw_bind trivial _
      · exact Runs.pure trivial

theorem documents_ok {name : String} {s s' : Store} {docs : List Json}
    (ran : (documents name).run.run s = (.ok docs, s')) :
    s.collection? name = some docs ∧ s' = s := by
  unfold documents at ran
  rw [runState_bind_ok (runState_get s)] at ran
  split at ran
  · rename_i found
    cases ran
    exact ⟨found, rfl⟩
  · cases ran

/-- A document added to a collection lands at its end. -/
theorem insertOne_ok {name : String} {document : Json} {s s' : Store} {u : Unit}
    (ran : (insertOne name document).run.run s = (.ok u, s')) :
    ∃ docs, s.collection? name = some docs ∧ s' = s.put name (docs ++ [document]) := by
  unfold insertOne at ran
  rw [runState_bind] at ran
  rcases listed : (documents name).run.run s with ⟨result, s₁⟩
  rw [listed] at ran
  cases result with
  | error e => cases ran
  | ok docs =>
    obtain ⟨found, rfl⟩ := documents_ok listed
    refine ⟨docs, found, ?_⟩
    dsimp only at ran
    split at ran
    · cases ran
    · split at ran
      · cases ran
      · rw [runState_modify] at ran
        cases ran
        rfl

/-- A failed insert leaves the store as it was. -/
theorem insertOne_error {name : String} {document : Json} {s s' : Store} {e : Error}
    (ran : (insertOne name document).run.run s = (.error e, s')) : s' = s := by
  unfold insertOne at ran
  rcases (documents_stateless name).bind_run ran with ⟨-, -, rfl⟩ | ⟨docs, -, rest⟩
  · rfl
  · dsimp only at rest
    split at rest
    · cases rest
      rfl
    · split at rest
      · cases rest
        rfl
      · rw [runState_modify] at rest
        cases rest

/-- A replace changes the store only when it replaced a document. -/
theorem replaceOne_kept {name : String} {filter document : Json} {s s' : Store}
    {r : Except Error Nat} (ran : (replaceOne name filter document).run.run s = (r, s')) :
    r = .ok 1 ∨ s' = s := by
  unfold replaceOne at ran
  rcases (documents_stateless name).bind_run ran with ⟨-, -, rfl⟩ | ⟨docs, -, rest⟩
  · exact Or.inr rfl
  · rw [runState_bind] at rest
    cases matched : firstMatch docs filter with
    | error e =>
      simp only [matched, liftExcept_run] at rest
      cases rest
      exact Or.inr rfl
    | ok found =>
      simp only [matched, liftExcept_run] at rest
      split at rest
      · rw [runState_bind_ok (runState_modify _ s)] at rest
        cases rest
        exact Or.inl rfl
      · cases rest
        exact Or.inr rfl

/-- Saving a dict scheme fails without a change. -/
theorem saveDict_error {d : Dict} {s s' : Store} {e : Error}
    (ran : (saveDict d).run.run s = (.error e, s')) : s' = s := by
  unfold saveDict at ran
  rw [runState_bind] at ran
  rcases replaced : (replaceOne "dict" (byId d.id) (withId d.id d.toJson)).run.run s with
    ⟨result, s₁⟩
  rw [replaced] at ran
  cases result with
  | error e' =>
    cases ran
    exact (replaceOne_kept replaced).resolve_left (by simp)
  | ok n =>
    dsimp only at ran
    split at ran
    · rename_i none_replaced
      have kept : s₁ = s := (replaceOne_kept replaced).resolve_left (by simp [none_replaced])
      subst kept
      exact insertOne_error ran
    · cases ran

theorem allItems_stateless (d : Dict) : Stateless (allItems d) := by
  unfold allItems
  exact Runs.seq (find_stateless _ _ _) fun found => liftExcept_stateless _

/-- Adding a record to a dict's collection keeps the store grown by that
collection, whether it ends or fails. -/
theorem insertItem_grown {d : Dict} {item : Item} {base s s' : Store} {r : Except Error Unit}
    (ran : (insertItem d item).run.run s = (r, s')) (grown : base.Grown d.id s) :
    base.Grown d.id s' := by
  unfold insertItem atomically at ran
  rw [runState_bind_ok (runState_get s)] at ran
  simp only [runState_tryCatch] at ran
  split at ran
  · rename_i added
    cases ran
    obtain ⟨-, -, rest⟩ := (checkUnique_stateless d item).bind_ok added
    obtain ⟨doc, -, inserted⟩ := (liftExcept_stateless _).bind_ok rest
    obtain ⟨docs, -, rfl⟩ := insertOne_ok inserted
    exact grown.put _
  · rw [runState_bind_ok (runState_set _ s)] at ran
    cases ran
    exact grown

end Document

/-! ## The storage of a dict in the world -/

/-- Database work that ran on the world ran on its database, and changed
nothing else. -/
theorem onDatabase_inv {α : Type} {act : Relational.DbM α} {w w' : World} {r : Except Error α}
    (ran : (onDatabase act).run.run w = (r, w')) :
    ∃ db, act.run.run w.database = (r, db) ∧ w' = { w with database := db } := by
  rw [onDatabase_run] at ran
  rcases worked : act.run.run w.database with ⟨result, db⟩
  rw [worked] at ran
  cases ran
  exact ⟨db, rfl, rfl⟩

/-- Document work that ran on the world ran on its store, and changed
nothing else. -/
theorem onDocuments_inv {α : Type} {act : Document.StoreM α} {w w' : World}
    {r : Except Error α} (ran : (onDocuments act).run.run w = (r, w')) :
    ∃ s, act.run.run w.documents = (r, s) ∧ w' = { w with documents := s } := by
  rw [onDocuments_run] at ran
  rcases worked : act.run.run w.documents with ⟨result, s⟩
  rw [worked] at ran
  cases ran
  exact ⟨s, rfl, rfl⟩

namespace Engine

/-- Whether the engine holds storage under a dict id. -/
def holdsScheme : Engine -> World -> String -> Bool
  | relational, w, id => Relational.schemeExists w.database id
  | document, w, id => Document.schemeExists w.documents id

/-- The world `w` with the engine's store grown by the storage of one dict
id, and nothing else changed. -/
def Grown : Engine -> World -> String -> World -> Prop
  | relational, w, id, w' => ∃ db, w.database.Grown id db ∧ w' = { w with database := db }
  | document, w, id, w' => ∃ s, w.documents.Grown id s ∧ w' = { w with documents := s }

/-- What a step of a move leaves: the world as it was, or grown by the new
storage. -/
def Residue (e : Engine) (w : World) (id : String) (w' : World) : Prop :=
  w' = w ∨ e.Grown w id w'

theorem schemeExists_run (e : Engine) (id : String) (w : World) :
    (e.schemeExists id).run.run w = (.ok (e.holdsScheme w id), w) := by
  cases e <;> exact runState_bind_ok (runState_get w)

theorem allItems_stateless (e : Engine) (d : Dict) : Stateless (e.allItems d) := by
  cases e with
  | relational =>
    rw [allItems]
    exact onDatabase_stateless (Relational.allItems_stateless d)
  | document =>
    rw [allItems]
    exact onDocuments_stateless (Document.allItems_stateless d)

/-- Dropping storage never fails. -/
theorem dropScheme_ok (e : Engine) (d : Dict) (w : World) :
    ∃ w', (e.dropScheme d).run.run w = (.ok (), w') := by
  cases e with
  | relational =>
    exact ⟨{ w with database := w.database.dropTable d.id },
      by rw [dropScheme, onDatabase_run, Relational.dropScheme, runState_modify]⟩
  | document =>
    exact ⟨{ w with documents := w.documents.drop d.id },
      by rw [dropScheme, onDocuments_run, Document.dropScheme, runState_modify]⟩

theorem saveDict_error {e : Engine} {d : Dict} {w w' : World} {err : Error}
    (ran : (e.saveDict d).run.run w = (.error err, w')) : w' = w := by
  cases e with
  | relational =>
    rw [saveDict] at ran
    obtain ⟨db, saved, rfl⟩ := onDatabase_inv ran
    rw [Relational.saveDict_error saved]
  | document =>
    rw [saveDict] at ran
    obtain ⟨docs, saved, rfl⟩ := onDocuments_inv ran
    rw [Document.saveDict_error saved]

namespace Grown

variable {e : Engine} {w w' : World}

theorem holds {id : String} (grown : e.Grown w id w') : e.holdsScheme w' id = true := by
  cases e with
  | relational =>
    obtain ⟨db, grownDb, rfl⟩ := grown
    exact grownDb.tableExists
  | document =>
    obtain ⟨s, grownStore, rfl⟩ := grown
    exact grownStore.contains

/-- Dropping the new storage gives back the world it was added to. -/
theorem dropScheme {d : Dict} (grown : e.Grown w d.id w') (tidy : w.database.IndexesOnTables) :
    (e.dropScheme d).run.run w' = (.ok (), w) := by
  cases e with
  | relational =>
    obtain ⟨db, grownDb, rfl⟩ := grown
    rw [Engine.dropScheme, onDatabase_run, Relational.dropScheme, runState_modify]
    simp only [grownDb.dropTable tidy]
  | document =>
    obtain ⟨s, grownStore, rfl⟩ := grown
    rw [Engine.dropScheme, onDocuments_run, Document.dropScheme, runState_modify]
    simp only [grownStore.drop]

/-- Adding a record to the new storage keeps the world grown by it. -/
theorem insertItem {base : World} {d : Dict} {item : Item} {r : Except Error Unit}
    (grown : e.Grown base d.id w) (ran : (e.insertItem d item).run.run w = (r, w')) :
    e.Grown base d.id w' := by
  cases e with
  | relational =>
    obtain ⟨db, grownDb, rfl⟩ := grown
    rw [Engine.insertItem] at ran
    obtain ⟨db', inserted, rfl⟩ := onDatabase_inv ran
    exact ⟨db', Relational.insertItem_grown inserted grownDb, rfl⟩
  | document =>
    obtain ⟨s, grownStore, rfl⟩ := grown
    rw [Engine.insertItem] at ran
    obtain ⟨s', inserted, rfl⟩ := onDocuments_inv ran
    exact ⟨s', Document.insertItem_grown inserted grownStore, rfl⟩

end Grown

/-- Creating a dict's storage either fails before it, leaving the world as
it was, or leaves the world grown by that storage, whether it ends or
fails. -/
theorem createScheme_residue {e : Engine} {d : Dict} {w w' : World} {r : Except Error Unit}
    (ran : (e.createScheme d).run.run w = (r, w')) (absent : e.holdsScheme w d.id = false) :
    (w' = w ∧ ∃ err, r = .error err) ∨ e.Grown w d.id w' := by
  cases e with
  | relational =>
    rw [createScheme] at ran
    obtain ⟨db, created, rfl⟩ := onDatabase_inv ran
    rcases Relational.createScheme_residue created absent with ⟨rfl, err, rfl⟩ | grownDb
    · exact Or.inl ⟨rfl, err, rfl⟩
    · exact Or.inr ⟨db, grownDb, rfl⟩
  | document =>
    rw [createScheme] at ran
    obtain ⟨s, created, rfl⟩ := onDocuments_inv ran
    exact Or.inr ⟨s, Document.createScheme_grown created absent, rfl⟩

/-- A transaction of one engine whose work keeps the world grown by a new
storage keeps it so, also when it fails and puts that engine's store back. -/
theorem transact_grown {e : Engine} {act : WorldM Unit} {base w w' : World} {id : String}
    {r : Except Error Unit}
    (keeps : ∀ w r w', act.run.run w = (r, w') -> e.Grown base id w -> e.Grown base id w')
    (grown : e.Grown base id w) (ran : (transact [e] act).run.run w = (r, w')) :
    e.Grown base id w' := by
  cases r with
  | error err =>
    obtain ⟨mid, failed, rfl⟩ := transact_error ran
    have grownMid := keeps w _ mid failed grown
    cases e with
    | relational =>
      obtain ⟨db, grownDb, rfl⟩ := grown
      obtain ⟨db', -, rfl⟩ := grownMid
      exact ⟨db, grownDb, rfl⟩
    | document =>
      obtain ⟨s, grownStore, rfl⟩ := grown
      obtain ⟨s', -, rfl⟩ := grownMid
      exact ⟨s, grownStore, rfl⟩
  | ok u =>
    unfold transact at ran
    rw [runState_bind_ok (runState_get w), runState_tryCatch] at ran
    split at ran
    · rename_i worked
      cases ran
      exact keeps w _ _ worked grown
    · cases ran

end Engine

theorem Capability.lookup_of_named {name : String} {e : Engine}
    (named : Engine.named? name = some e) (c : Capability) : c.lookup name = .ok e := by
  unfold Capability.lookup
  rw [named]

/-- Recording another engine for a dict fails without a change. -/
theorem Dicts.setEngine_error {dictId engine : String} {w w' : World} {err : Error}
    (ran : (Dicts.setEngine dictId engine).run.run w = (.error err, w')) : w' = w := by
  unfold Dicts.setEngine at ran
  rcases (Dicts.get_stateless dictId).bind_run ran with ⟨-, -, rfl⟩ | ⟨d, -, rest⟩
  · rfl
  rcases defaultEngine_stateless.bind_run rest with ⟨-, -, rfl⟩ | ⟨e, -, saving⟩
  · rfl
  rw [runState_bind] at saving
  rcases saved : (e.saveDict { d with engine := some engine }).run.run w with ⟨result, w₁⟩
  rw [saved] at saving
  cases result with
  | error err' =>
    cases saving
    exact Engine.saveDict_error saved
  | ok u => cases saving

namespace Placement

/-- Dropping the new storage again after a failed step gives back the world
before the move, whichever residue the step left. -/
theorem rollBack_residue {target : Engine} {moved : Dict} {cause : Error} {w w' : World}
    (residue : target.Residue w moved.id w') (absent : target.holdsScheme w moved.id = false)
    (tidy : w.database.IndexesOnTables) :
    (rollBack target moved cause).run.run w' =
      (.ok (.storageMigration moved.id cause.message), w) := by
  unfold rollBack
  rw [runState_bind, runState_tryCatch, runState_bind, Engine.schemeExists_run]
  rcases residue with rfl | grown
  · rw [absent]
    rfl
  · rw [grown.holds]
    dsimp only
    rw [if_pos rfl, runState_bind, grown.dropScheme tidy]
    rfl

/-- Once the source engine is known, recording the new engine can fail only
before anything changes: dropping the old storage never fails. -/
theorem finish_error {d : Dict} {sourceName targetName : String} {source : Engine}
    {w w' : World} {err : Error} (known : Engine.named? sourceName = some source)
    (ran : (finish d sourceName targetName).run.run w = (.error err, w')) : w' = w := by
  unfold finish at ran
  rw [runState_bind] at ran
  rcases recorded : (Dicts.setEngine d.id targetName).run.run w with ⟨result, w₁⟩
  rw [recorded] at ran
  cases result with
  | error err' =>
    cases ran
    exact Dicts.setEngine_error recorded
  | ok updated =>
    obtain ⟨w₂, dropped⟩ := source.dropScheme_ok d w₁
    dsimp only at ran
    rw [runState_bind, runState_tryCatch, runState_bind,
      liftExcept_run, Capability.lookup_of_named known] at ran
    dsimp only at ran
    rw [dropped] at ran
    cases ran

/-- Copying the records leaves a residue of the world: nothing changed, or
the new storage added with whatever records went into it. -/
theorem copy_residue {source moved : Dict} {target : Engine} {targetName : String}
    {w w' : World} {r : Except Error Unit} (placed : moved.engine = some targetName)
    (named : Engine.named? targetName = some target)
    (absent : target.holdsScheme w moved.id = false)
    (ran : (copy source moved target).run.run w = (r, w')) : target.Residue w moved.id w' := by
  unfold copy at ran
  have naming : (engineOf moved).run.run w = (.ok targetName, w) := by
    unfold engineOf
    rw [placed]
    rfl
  rw [runState_bind_ok naming] at ran
  rcases (engineOf_stateless source).bind_run ran with ⟨-, -, rfl⟩ | ⟨sourceName, -, ran⟩
  · exact Or.inl rfl
  rcases (liftExcept_stateless _).bind_run ran with ⟨-, -, rfl⟩ | ⟨sourceEngine, -, ran⟩
  · exact Or.inl rfl
  rcases (sourceEngine.allItems_stateless source).bind_run ran with
    ⟨-, -, rfl⟩ | ⟨items, -, ran⟩
  · exact Or.inl rfl
  rw [runState_bind, liftExcept_run, Capability.lookup_of_named named] at ran
  dsimp only at ran
  rw [runState_bind, liftExcept_run, Capability.lookup_of_named named] at ran
  dsimp only at ran
  rw [runState_bind] at ran
  rcases created : (target.createScheme moved).run.run w with ⟨result, w₁⟩
  rw [created] at ran
  rcases Engine.createScheme_residue created absent with ⟨rfl, err, rfl⟩ | grown
  · cases ran
    exact Or.inl rfl
  cases result with
  | error err =>
    cases ran
    exact Or.inr grown
  | ok u =>
    refine Or.inr (Engine.transact_grown (fun v r v' loop before => ?_) grown ran)
    rw [runState_bind] at loop
    have rounds : ∀ item ∈ items, ∀ (_ : PUnit) s r s',
        (do target.insertItem moved item; pure (ForInStep.yield PUnit.unit) :
          WorldM (ForInStep PUnit)).run.run s = (r, s') ->
        target.Grown w moved.id s -> target.Grown w moved.id s' := by
      intro item _ _ s r s' round held
      rw [runState_bind] at round
      rcases inserted : (target.insertItem moved item).run.run s with ⟨result, s₁⟩
      rw [inserted] at round
      have grown₁ := held.insertItem inserted
      cases result <;> (cases round; exact grown₁)
    split at loop
    · rename_i looped
      cases loop
      exact forIn_invariant rounds looped before
    · rename_i looped
      cases loop
      exact forIn_invariant rounds looped before

/-- A copy from a dict whose engine is unknown fails before it changes
anything. -/
theorem copy_error_of_unknown {source moved : Dict} {target : Engine} {sourceName : String}
    {w : World} (sourced : (engineOf source).run.run w = (.ok sourceName, w))
    (unknown : Engine.named? sourceName = none) :
    ∃ e, (copy source moved target).run.run w = (.error e, w) := by
  unfold copy
  obtain ⟨result, named⟩ := (engineOf_stateless moved).exists_run w
  cases result with
  | error e => exact ⟨e, runState_bind_error named⟩
  | ok targetName =>
    rw [runState_bind_ok named, runState_bind_ok sourced, runState_bind, liftExcept_run]
    unfold Capability.lookup
    rw [unknown]
    exact ⟨_, rfl⟩

/-- A move that fails leaves the whole world as it found it: the dict's
scheme, its old storage and records, and the target engine's stores.  This
holds of every world whose relational indexes stand on tables and whose
dict store keeps the moved dict under its id. -/
theorem failed_move_keeps_world {dictId targetName : String} {w w' : World} {err : Error}
    (tidy : w.database.IndexesOnTables)
    (named : ∀ d, (Dicts.get dictId).run.run w = (.ok d, w) -> d.id = dictId)
    (fails : (move dictId targetName).run.run w = (.error err, w')) : w' = w := by
  unfold move at fails
  rcases (Dicts.get_stateless dictId).bind_run fails with ⟨-, -, rfl⟩ | ⟨d, found, fails⟩
  · rfl
  have same := named d found
  rcases (engineOf_stateless d).bind_run fails with ⟨-, -, rfl⟩ | ⟨sourceName, sourced, fails⟩
  · rfl
  dsimp only at fails
  split at fails
  · cases fails
    rfl
  split at fails
  case h_2 =>
    cases fails
    rfl
  rename_i target targeted
  have named_target : Engine.named? targetName = some target := by
    unfold Capability.lookup at targeted
    split at targeted
    · cases targeted
      assumption
    · cases targeted
  rw [runState_bind_ok (runState_pure _ w), runState_bind_ok (target.schemeExists_run dictId w)]
    at fails
  split at fails
  · cases fails
    rfl
  rename_i free
  have absent : target.holdsScheme w d.id = false := by
    rw [same]
    simpa using free
  rw [runState_bind, runState_tryCatch] at fails
  rcases copied : (copy d { d with engine := some targetName } target).run.run w with ⟨copyResult, w₁⟩
  rw [copied] at fails
  have residue := @copy_residue d { d with engine := some targetName } target targetName w w₁ _
    rfl named_target absent copied
  cases copyResult with
  | error cause =>
    dsimp only at fails
    rw [runState_bind, rollBack_residue residue absent tidy] at fails
    cases fails
    rfl
  | ok u =>
    dsimp only at fails
    rw [runState_tryCatch] at fails
    cases known : Engine.named? sourceName with
    | none =>
      obtain ⟨cause, refused⟩ := copy_error_of_unknown sourced known
      rw [refused] at copied
      cases copied
    | some source =>
      rcases finished : (finish d sourceName targetName).run.run w₁ with ⟨finishResult, w₂⟩
      rw [finished] at fails
      cases finishResult with
      | ok moved => cases fails
      | error cause =>
        obtain rfl := finish_error known finished
        dsimp only at fails
        rw [runState_bind, rollBack_residue residue absent tidy] at fails
        cases fails
        rfl

end Placement

end Refbook
