import Refbook.Proofs.OwnTables
import Refbook.Proofs.DecimalColumns
import Refbook.Proofs.Evictions

namespace Refbook

/-!
# Records moved into tables

Moving a dict from the document engine to the relational one makes the
dict's table, inserts every record of the old collection into it in one
transaction, records the new engine and drops the collection.  The main
statement, `Placement.moved_records_read_back_through_columns`, says where a
successful move leaves each record: the collection is gone, and the record
is read back from the new table, from a row that holds in each column the
value the record gives that column, as the column stores it.

A column stores what it is given by its affinity, so the move carries every
value exactly when the table's columns keep the values they are given.  A
numeric column does not: it keeps a decimal's text as the number the text
reads as.  `Placement.moved_decimals_read_back_alike` moves a dict whose
two records hold decimals apart only in their twenty-first digit; both are
read back from rows holding one value, so at most one of them reads back as
it was before the move.

The argument follows the copy.  The new table comes last among the tables,
after tables whose names are apart from it (`Relational.Copied`); each
insert adds a row at its end whose id no row before holds, since the key
rule of the table refuses a second one; the dict store lies in an earlier
table, so recording the new engine leaves the table where it is; and the
first row holding an id is that record's row.
-/

namespace Relational

/-- Names apart from each other, up to ASCII case, as the columns of one
table must be. -/
def NamesApart (names : List String) : Prop :=
  names.Pairwise fun a b => sameName a b = false

theorem ne_of_sameName_false {a b : String} (apart : sameName a b = false) : a ≠ b := by
  rintro rfl
  rw [sameName_self] at apart
  cases apart

/-- Among named values whose names are apart, the value found under a name
is the one named so. -/
theorem find?_of_namesApart {values : List (String × Value)} {p : String × Value → Bool}
    {name : String} (tests : ∀ nv, p nv = sameName nv.1 name)
    (apart : NamesApart (values.map Prod.fst)) {v : Value} (mem : (name, v) ∈ values) :
    values.find? p = some (name, v) := by
  induction values with
  | nil => cases mem
  | cons nv rest ih =>
    rw [List.map_cons, NamesApart, List.pairwise_cons] at apart
    rcases List.mem_cons.mp mem with rfl | later
    · simp [tests]
    · have other : sameName nv.1 name = false := apart.1 _ (List.mem_map_of_mem later)
      rw [List.find?_cons, tests nv, other]
      exact ih apart.2 later

/-- A column is found under its own name among columns of apart names. -/
theorem lookup_of_namesApart {cs : List Column} (apart : NamesApart (cs.map Column.name))
    (g : Column → Value) {c : Column} (mem : c ∈ cs) :
    (cs.map fun c => (c.name, g c)).lookup c.name = some (g c) := by
  induction cs with
  | nil => cases mem
  | cons c' rest ih =>
    rw [List.map_cons, NamesApart, List.pairwise_cons] at apart
    rcases List.mem_cons.mp mem with rfl | later
    · simp
    · have other : c.name ≠ c'.name :=
        (ne_of_sameName_false (apart.1 _ (List.mem_map_of_mem later))).symm
      rw [List.map_cons, List.lookup_cons, beq_false_of_ne other]
      exact ih apart.2 later

theorem Table.named_map (t : Table) (g : Column → Value) :
    t.named (t.columns.map g) = t.columns.map fun c => (c.name, g c) := by
  unfold Table.named
  induction t.columns with
  | nil => rfl
  | cons c rest ih => simp [ih]

/-- A row built from named values whose names are apart holds, in each
column of a table of apart names, the value named as the column, as the
column stores it. -/
theorem rowOf_lookup {t : Table} {values : List (String × Value)} {row : Row}
    (built : Database.rowOf t values = .ok row) (columns : NamesApart (t.columns.map Column.name))
    (named : NamesApart (values.map Prod.fst)) {c : Column} (column : c ∈ t.columns) {v : Value}
    (given : (c.name, v) ∈ values) : (t.named row).lookup c.name = some (v.store c.affinity) := by
  unfold Database.rowOf at built
  split at built
  · cases built
  · cases built
    rw [Table.named_map, lookup_of_namesApart columns _ column,
      find?_of_namesApart (fun _ => rfl) named given]

theorem firstRepeat_none {cs : List Column} (unrepeated : Database.createTable.firstRepeat cs = none) :
    NamesApart (cs.map Column.name) := by
  induction cs with
  | nil => exact List.Pairwise.nil
  | cons c rest ih =>
    unfold Database.createTable.firstRepeat at unrepeated
    split at unrepeated
    · cases unrepeated
    · rename_i clear
      refine List.pairwise_cons.mpr ⟨?_, ih unrepeated⟩
      intro b mem
      obtain ⟨c', mem', rfl⟩ := List.mem_map.mp mem
      simpa using List.any_eq_false.mp (Bool.not_eq_true _ ▸ clear) c' mem'

/-- A table is made only with columns of apart names. -/
theorem createTable_apart {db db' : Database} {written name : String} {columns : List Column}
    (made : db.createTable written name columns = .ok db') : NamesApart (columns.map Column.name) := by
  cases repeated : Database.createTable.firstRepeat columns with
  | none => exact firstRepeat_none repeated
  | some c =>
    unfold Database.createTable at made
    rw [repeated] at made
    dsimp only at made
    split at made
    · cases made
    · split at made
      · cases made
      · cases made

theorem rowOfItem_names (d : Dict) (item : Item) :
    (rowOfItem d item).map Prod.fst = (itemColumns d).map Column.name := by
  simp [rowOfItem, itemColumns, Function.comp_def]

/-- The id is the only key column of a dict's table. -/
theorem itemColumns_key (d : Dict) :
    ((itemColumns d).filter (·.primaryKey)).map Column.name = ["id"] := by
  simp [itemColumns, List.filter_append, List.filter_map, Function.comp_def]

/-- A row that passes the unique rules of a dict's table clashes with no
other row on the id. -/
theorem checkUnique_id {db : Database} {d : Dict} {t : Table} (cols : t.columns = itemColumns d)
    {row : Row} {others : List Row} (passed : db.checkUnique t row others = .ok ()) :
    ∀ o ∈ others, clash t ["id"] row o = false := by
  unfold Database.checkUnique at passed
  split at passed
  · cases passed
  · rename_i unbroken
    have key : Index.mk "" t.name ["id"] true false ∈ db.uniqueRules t := by
      simp [Database.uniqueRules, cols, itemColumns_key]
    have unmatched := List.find?_eq_none.mp unbroken _ key
    intro o mem
    simp only [Index.covers, Bool.not_false, Bool.true_or, Bool.true_and, List.any_eq_true,
      not_exists, not_and, Bool.not_eq_true] at unmatched
    exact unmatched o mem

/-- The table of a dict, as its storage is made: named by the dict's id,
with the dict's columns. -/
def tableOf (d : Dict) (rows : List Row) : Table :=
  { name := d.id, columns := itemColumns d, rows }

/-- The row the table of a dict makes of a record. -/
def Written (d : Dict) (item : Item) (row : Row) : Prop :=
  Database.rowOf (tableOf d []) (rowOfItem d item) = .ok row

/-- A database whose last table, after `before`, is the table of `d`
holding one row for each of `items`, in order, their ids apart. -/
def Copied (before : List Table) (d : Dict) (items : List Item) (db : Database) : Prop :=
  NamesApart ((itemColumns d).map Column.name) ∧ (items.map Item.id).Nodup ∧
    ∃ rows, db.tables = before ++ [tableOf d rows] ∧ List.Forall₂ (Written d) items rows

theorem Written.of_rowOf {d : Dict} {item : Item} {rows : List Row} {row : Row}
    (built : Database.rowOf (tableOf d rows) (rowOfItem d item) = .ok row) : Written d item row :=
  built

/-- The value in the key column of a row made column by column for a dict's
table is the one made for that column. -/
theorem valueIn_key {d : Dict} {t : Table} (cols : t.columns = itemColumns d)
    (g : Column → Value) :
    t.valueIn ((itemColumns d).map g) "id" =
      g { name := "id", declared := "text", notNull := true, primaryKey := true } := by
  unfold Table.valueIn Table.columnIndex?
  rw [cols, itemColumns, List.append_assoc, List.singleton_append, List.findIdx?_cons,
    sameName_self]
  rfl

/-- A record's row holds its id in the key column. -/
theorem valueIn_id {d : Dict} {item : Item} {t : Table} (cols : t.columns = itemColumns d)
    {row : Row} (built : Written d item row) : t.valueIn row "id" = .text item.id := by
  unfold Written Database.rowOf at built
  split at built
  · cases built
  · cases built
    rw [show (tableOf d []).columns = itemColumns d from rfl, valueIn_key cols]
    simp [rowOfItem, Column.affinity, text_affinity, store_text]

/-- Rows of two records that do not clash on the id hold two ids. -/
theorem id_ne_of_clash {d : Dict} {a b : Item} {t : Table} (cols : t.columns = itemColumns d)
    {ra rb : Row} (builtA : Written d a ra) (builtB : Written d b rb)
    (apart : clash t ["id"] ra rb = false) : a.id ≠ b.id := by
  intro same
  simp only [clash, List.all_cons, List.all_nil, Bool.and_true, valueIn_id cols builtA,
    valueIn_id cols builtB, same] at apart
  rw [same_text_iff.mpr rfl] at apart
  cases apart

/-- A record whose row clashes on the id with none of the rows of `items`
has an id none of them has. -/
theorem id_fresh {d : Dict} {items : List Item} {rows : List Row}
    (written : List.Forall₂ (Written d) items rows) {t : Table} (cols : t.columns = itemColumns d)
    {item : Item} {row : Row} (built : Written d item row)
    (apart : ∀ o ∈ rows, clash t ["id"] row o = false) : item.id ∉ items.map Item.id := by
  induction written with
  | nil => simp
  | @cons a ra rest rows' head _ ih =>
    rw [List.map_cons, List.mem_cons, not_or]
    exact ⟨id_ne_of_clash cols built head (apart ra List.mem_cons_self),
      ih fun o mem => apart o (List.mem_cons_of_mem _ mem)⟩

/-- The last table, after tables of other names, is the one found under its
name. -/
theorem table?_last {db : Database} {before : List Table} {t : Table}
    (apart : ∀ u ∈ before, sameName u.name t.name = false) (tables : db.tables = before ++ [t]) :
    db.table? t.name = some t := by
  have unnamed : before.find? (fun u => sameName u.name t.name) = none :=
    List.find?_eq_none.mpr fun u mem => by simp [apart u mem]
  simp [Database.table?, tables, List.find?_append, unnamed]

/-- Putting back the last table, after tables of other names, changes only
it. -/
theorem replaceTable_last {db : Database} {before : List Table} {t t' : Table}
    (apart : ∀ u ∈ before, sameName u.name t.name = false) (renamed : t'.name = t.name)
    (tables : db.tables = before ++ [t]) : (db.replaceTable t').tables = before ++ [t'] := by
  have kept : before.map (fun u => if sameName u.name t.name then t' else u) = before := by
    conv => rhs; rw [← List.map_id before]
    exact List.map_congr_left fun u mem => by simp [apart u mem]
  simp [Database.replaceTable, tables, kept, renamed]

/-- Inserting a record's row into the last table, the table of `d`, adds it
at its end. -/
theorem Copied.insert {before : List Table} {d : Dict} {items : List Item} {db db' : Database}
    (apart : ∀ u ∈ before, sameName u.name d.id = false) (copied : Copied before d items db)
    {item : Item} (made : db.insert d.id (rowOfItem d item) = .ok db') :
    Copied before d (items ++ [item]) db' := by
  obtain ⟨columns, distinct, rows, tables, written⟩ := copied
  obtain ⟨t, row, found, built, unique, rfl⟩ := Database.insert_checked made
  rw [show d.id = (tableOf d rows).name from rfl, table?_last apart tables] at found
  cases found
  have fresh : item.id ∉ items.map Item.id :=
    id_fresh written rfl (Written.of_rowOf built) (checkUnique_id rfl unique)
  refine ⟨columns, ?_, rows ++ [row],
    @replaceTable_last db before (tableOf d rows) (tableOf d (rows ++ [row])) apart rfl tables,
    List.rel_append written (.cons (Written.of_rowOf built) .nil)⟩
  rw [List.map_append, List.nodup_append]
  exact ⟨distinct, List.nodup_singleton _, fun a mem b same => by
    rw [List.mem_singleton.mp same] at *
    rintro rfl
    exact fresh mem⟩

/-- A record's row holds, in each column of its dict's table, the record's
value for that column, as the column stores it. -/
theorem Written.lookup {d : Dict} {item : Item} {row : Row} (built : Written d item row)
    (columns : NamesApart ((itemColumns d).map Column.name)) {c : Column} (column : c ∈ itemColumns d)
    {v : Value} (given : (c.name, v) ∈ rowOfItem d item) :
    ((tableOf d []).named row).lookup c.name = some (v.store c.affinity) :=
  rowOf_lookup built columns (by rw [rowOfItem_names]; exact columns) column given

/-- The key column of a dict's table. -/
def keyColumn : Column :=
  { name := "id", declared := "text", notNull := true, primaryKey := true }

theorem Written.lookup_id {d : Dict} {item : Item} {row : Row} (built : Written d item row)
    (columns : NamesApart ((itemColumns d).map Column.name)) :
    ((tableOf d []).named row).lookup "id" = some (.text item.id) := by
  have key := @Written.lookup d item row built columns keyColumn (by simp [itemColumns, keyColumn])
    (.text item.id) (by simp [rowOfItem, keyColumn])
  rw [show keyColumn.name = "id" from rfl] at key
  rw [key]
  simp [keyColumn, Column.affinity, text_affinity, store_text]

/-- Among the rows of records with ids apart, the first row holding a
record's id is that record's row. -/
theorem whereText_head {d : Dict} {items : List Item} {rows : List Row}
    (columns : NamesApart ((itemColumns d).map Column.name)) (distinct : (items.map Item.id).Nodup)
    (written : List.Forall₂ (Written d) items rows) {item : Item} (mem : item ∈ items) :
    ∃ row, Written d item row ∧
      ((rows.map (tableOf d []).named).filter fun r =>
        ((r.lookup "id").getD .null).same (.text item.id)).head? = some ((tableOf d []).named row) := by
  induction written with
  | nil => cases mem
  | @cons a ra rest rows' head _ ih =>
    rw [List.map_cons, List.nodup_cons] at distinct
    rw [List.map_cons, List.filter_cons, head.lookup_id columns]
    rcases List.mem_cons.mp mem with rfl | later
    · refine ⟨ra, head, ?_⟩
      rw [Option.getD_some, same_text_iff.mpr rfl]
      rfl
    · have other : (Value.text a.id).same (.text item.id) = false := by
        rw [Bool.eq_false_iff]
        intro same
        exact distinct.1 (Value.text.inj (same_text_iff.mp same) ▸ List.mem_map_of_mem later)
      rw [Option.getD_some, other]
      exact ih distinct.2 later

/-- A record of a copied table is read back from its own row. -/
theorem getItem_copied {db : Database} {d : Dict} {rows : List Row} {items : List Item}
    (found : db.table? d.id = some (tableOf d rows))
    (columns : NamesApart ((itemColumns d).map Column.name)) (distinct : (items.map Item.id).Nodup)
    (written : List.Forall₂ (Written d) items rows) {item : Item} (mem : item ∈ items) :
    ∃ row, (getItem d item.id).run.run db = ((itemOfRow d row).map some, db) ∧
      ∀ c ∈ itemColumns d, ∀ v, (c.name, v) ∈ rowOfItem d item →
        row.lookup c.name = some (v.store c.affinity) := by
  obtain ⟨row, built, first⟩ := whereText_head columns distinct written mem
  refine ⟨(tableOf d []).named row, ?_, fun c column v given => built.lookup columns column given⟩
  unfold getItem
  rw [runState_bind_ok (runState_get db), Database.needTable, found]
  rw [runState_bind_ok (show (need (.ok (tableOf d rows)) : DbM Table).run.run db =
    (.ok (tableOf d rows), db) from rfl)]
  have chosen : (whereText (tableOf d rows) "id" item.id).head? = some ((tableOf d []).named row) :=
    first
  rw [chosen]
  dsimp only
  cases itemOfRow d ((tableOf d []).named row) <;> rfl

/-- Making a dict's table where no table has its name adds it, empty and
with columns of apart names, after the tables there. -/
theorem createScheme_ok {d : Dict} {db db' : Database}
    (ran : (createScheme d).run.run db = (.ok (), db')) :
    (∀ u ∈ db.tables, sameName u.name d.id = false) ∧ Copied db.tables d [] db' := by
  unfold createScheme at ran
  rw [runState_bind_ok (runState_get db)] at ran
  cases taken : schemeExists db d.id
  case true =>
    simp only [taken, ↓reduceIte] at ran
    rw [runState_bind, runState_throw] at ran
    cases ran
  simp only [taken, Bool.false_eq_true, if_false] at ran
  rw [runState_bind, run_run] at ran
  cases made : db.createTable (Sql.quoteIdentifier d.id) d.id (itemColumns d) with
  | error message =>
    rw [made] at ran
    cases ran
  | ok db₁ =>
    rw [made] at ran
    obtain ⟨absent, rfl⟩ := Database.createTable_ok made
    have tables : ∀ {db₂ : Database}, db₂.tables = db.tables ++ [tableOf d []] →
        ∀ ix r db₃, (run fun db => db.createIndex ix : DbM Unit).run.run db₂ = (r, db₃) →
          db₃.tables = db.tables ++ [tableOf d []] := by
      intro db₂ kept ix r db₃ created
      rw [run_run] at created
      cases indexed : db₂.createIndex ix with
      | ok db₄ =>
        rw [indexed] at created
        cases created
        rw [Database.createIndex_ok indexed]
        exact kept
      | error message =>
        rw [indexed] at created
        cases created
        exact kept
    refine ⟨Database.not_sameName_of_table?_none absent, createTable_apart made, List.nodup_nil,
      [], ?_, .nil⟩
    dsimp only at ran
    rw [runState_bind] at ran
    rcases loop : (forIn (indexesOf d d.indexes d.constraints) PUnit.unit fun ix _ => do
        run fun db => db.createIndex ix
        pure (ForInStep.yield PUnit.unit) : DbM PUnit).run.run
        ({ db with tables := db.tables ++ [{ name := d.id, columns := itemColumns d }] }) with
      ⟨result, db₂⟩
    rw [loop] at ran
    have kept : db₂.tables = db.tables ++ [tableOf d []] := by
      refine @forIn_invariant Database Error Index PUnit
        (fun db' => db'.tables = db.tables ++ [tableOf d []]) _ _ _
        (fun ix _ _ s r s' round before => ?_) _ _ _ loop rfl
      rw [runState_bind] at round
      rcases created : (run fun db => db.createIndex ix : DbM Unit).run.run s with ⟨r₁, s₁⟩
      rw [created] at round
      have grown := tables before ix r₁ s₁ created
      cases r₁ <;> (cases round; exact grown)
    cases result
    · cases ran
    · cases ran
      exact kept

/-- Saving a dict scheme changes only the table of dict schemes. -/
theorem saveDict_onTable {d : Dict} {db db' : Database}
    (ran : (saveDict d).run.run db = (.ok (), db')) : Database.OnTable "dict" db db' := by
  unfold saveDict at ran
  rw [runState_bind_ok (runState_get db)] at ran
  obtain ⟨t, -, ran⟩ := (need_stateless _).bind_ok ran
  split at ran
  · rw [run_run] at ran
    cases made : db.insert "dict" [("id", .text d.id), ("body", .text (Json.compact d.toJson))] with
    | ok db₁ =>
      rw [made] at ran
      cases ran
      exact Database.insert_onTable made
    | error message =>
      rw [made] at ran
      cases ran
  · rw [run_run] at ran
    split at ran
    · rename_i db₁ made
      cases ran
      obtain ⟨⟨db₂, count⟩, updated, rfl⟩ := Except.ok_of_map made
      exact Database.update_onTable updated
    · cases ran

/-- A change of one table leaves the tables of names apart from it where they
were. -/
theorem Database.OnTable.table? {name other : String} {db db' : Database}
    (changed : Database.OnTable name db db')
    (apart : ∀ t, db.table? name = some t → sameName t.name other = false) :
    db'.table? other = db.table? other := by
  obtain ⟨t, t', found, tables, renamed⟩ := changed
  have moved : db'.table? other = (db.replaceTable t').table? other := by
    unfold Database.table?
    rw [tables]
  rw [moved, Database.replaceTable_table? db t' (renamed ▸ apart t found)]

end Relational

/-- A dict found by a relational default engine was read from its table of
dict schemes. -/
theorem Dicts.get_dictStore {dictId : String} {w : World} {d : Dict}
    (found : (Dicts.get dictId).run.run w = (.ok d, w)) (relational : w.defaultEngine = .relational) :
    (w.database.table? "dict").isSome := by
  unfold Dicts.get at found
  obtain ⟨o, looked, -⟩ := (Dicts.find?_stateless dictId).bind_ok found
  unfold Dicts.find? at looked
  rw [runState_bind_ok (show (defaultEngine : WorldM Engine).run.run w = (.ok w.defaultEngine, w)
    from rfl), relational] at looked
  obtain ⟨dicts, read, -⟩ := (Engine.getDict_stateless .relational dictId).bind_ok looked
  rw [Engine.getDict, onDatabase_run] at read
  have answered := congrArg Prod.fst read
  dsimp only at answered
  unfold Relational.getDict at answered
  rw [runState_bind_ok (runState_get w.database), Relational.Database.needTable] at answered
  cases dicts : w.database.table? "dict" with
  | some t => rfl
  | none =>
    rw [dicts] at answered
    cases answered

/-- Recording a dict's engine leaves every table whose name is apart from
the table of dict schemes where it was. -/
theorem Dicts.setEngine_table? {dictId engine : String} {w w' : World} {d : Dict}
    (ran : (Dicts.setEngine dictId engine).run.run w = (.ok d, w')) {name : String}
    (apart : w.defaultEngine = .relational →
      ∀ t, w.database.table? "dict" = some t → Relational.sameName t.name name = false) :
    w'.database.table? name = w.database.table? name := by
  unfold Dicts.setEngine at ran
  obtain ⟨d₀, -, ran⟩ := (Dicts.get_stateless dictId).bind_ok ran
  dsimp only at ran
  rw [runState_bind_ok (show (defaultEngine : WorldM Engine).run.run w = (.ok w.defaultEngine, w)
    from rfl), runState_bind] at ran
  rcases saved : (w.defaultEngine.saveDict { d₀ with engine := some engine }).run.run w with
    ⟨result, w₁⟩
  rw [saved] at ran
  cases result with
  | error e => cases ran
  | ok u =>
    cases ran
    cases chosen : w.defaultEngine with
    | relational =>
      rw [chosen, Engine.saveDict] at saved
      obtain ⟨db, stored, rfl⟩ := onDatabase_inv saved
      exact (Relational.saveDict_onTable stored).table? (apart chosen)
    | document =>
      rw [chosen, Engine.saveDict] at saved
      obtain ⟨s, -, rfl⟩ := onDocuments_inv saved
      rfl

namespace Placement

/-- A move that ends recorded the new engine and then dropped the old
storage. -/
theorem finish_ok {d moved : Dict} {sourceName targetName : String} {source : Engine}
    {w w' : World} (known : Engine.named? sourceName = some source)
    (ran : (finish d sourceName targetName).run.run w = (.ok moved, w')) :
    ∃ w₁, (Dicts.setEngine d.id targetName).run.run w = (.ok moved, w₁) ∧
      (source.dropScheme d).run.run w₁ = (.ok (), w') := by
  unfold finish at ran
  rw [runState_bind] at ran
  rcases recorded : (Dicts.setEngine d.id targetName).run.run w with ⟨result, w₁⟩
  rw [recorded] at ran
  cases result with
  | error e => cases ran
  | ok updated =>
    obtain ⟨w₂, dropped⟩ := source.dropScheme_ok d w₁
    dsimp only at ran
    rw [runState_bind, runState_tryCatch, runState_bind, liftExcept_run,
      Capability.lookup_of_named known] at ran
    dsimp only at ran
    rw [dropped] at ran
    cases ran
    exact ⟨w₁, rfl, dropped⟩

/-- A copy that ends read the records of the old storage, made the new
storage and inserted the records into it one by one. -/
theorem copy_ok {source moved : Dict} {target : Engine} {targetName : String} {w w₁ : World}
    (placed : moved.engine = some targetName) (named : Engine.named? targetName = some target)
    (ran : (copy source moved target).run.run w = (.ok (), w₁)) :
    ∃ sourceName sourceEngine items w₂, (engineOf source).run.run w = (.ok sourceName, w) ∧
      Capability.data.lookup sourceName = .ok sourceEngine ∧
      (sourceEngine.allItems source).run.run w = (.ok items, w) ∧
      (target.createScheme moved).run.run w = (.ok (), w₂) ∧
      (forIn items PUnit.unit fun item _ => do
          target.insertItem moved item
          pure (ForInStep.yield PUnit.unit) : WorldM PUnit).run.run w₂ = (.ok PUnit.unit, w₁) := by
  unfold copy at ran
  have naming : (engineOf moved).run.run w = (.ok targetName, w) := by
    unfold engineOf
    rw [placed]
    rfl
  rw [runState_bind_ok naming] at ran
  obtain ⟨sourceName, sourced, ran⟩ := (engineOf_stateless source).bind_ok ran
  obtain ⟨sourceEngine, looked, ran⟩ := (liftExcept_stateless _).bind_ok ran
  rw [liftExcept_run] at looked
  obtain ⟨items, listed, ran⟩ := (sourceEngine.allItems_stateless source).bind_ok ran
  rw [runState_bind, liftExcept_run, Capability.lookup_of_named named] at ran
  dsimp only at ran
  rw [runState_bind, liftExcept_run, Capability.lookup_of_named named] at ran
  dsimp only at ran
  rw [runState_bind] at ran
  rcases created : (target.createScheme moved).run.run w with ⟨result, w₂⟩
  rw [created] at ran
  cases result with
  | error e => cases ran
  | ok u =>
    dsimp only at ran
    have looped := transact_ok ran
    rw [runState_bind] at looped
    rcases loop : (forIn items PUnit.unit fun item _ => do
        target.insertItem moved item
        pure (ForInStep.yield PUnit.unit) : WorldM PUnit).run.run w₂ with ⟨r, w₃⟩
    rw [loop] at looped
    cases r with
    | error e => cases looped
    | ok v =>
      cases looped
      exact ⟨sourceName, sourceEngine, items, w₂, sourced, congrArg Prod.fst looked, listed, rfl,
        loop⟩

/-- The compensation of a failed step always ends in a refusal. -/
theorem rollBack_refuses {α : Type} (target : Engine) (moved : Dict) (cause : Error) (w : World) :
    ∃ e w', ((rollBack target moved cause >>= fun e => throw e) : WorldM α).run.run w =
      (.error e, w') := by
  rw [runState_bind]
  rcases (rollBack target moved cause).run.run w with ⟨r, w'⟩
  cases r with
  | error e => exact ⟨e, w', rfl⟩
  | ok e => exact ⟨e, w', rfl⟩

/-- A move that ends found the dict and an engine of the target's name, and
then copied the records and recorded the new engine. -/
theorem move_ok {dictId targetName : String} {w w' : World} {moved : Dict}
    (ran : (move dictId targetName).run.run w = (.ok moved, w')) :
    ∃ d sourceName target w₁, (Dicts.get dictId).run.run w = (.ok d, w) ∧
      (engineOf d).run.run w = (.ok sourceName, w) ∧ Engine.named? targetName = some target ∧
      (copy d { d with engine := some targetName } target).run.run w = (.ok (), w₁) ∧
      (finish d sourceName targetName).run.run w₁ = (.ok moved, w') := by
  unfold move at ran
  obtain ⟨d, found, ran⟩ := (Dicts.get_stateless dictId).bind_ok ran
  obtain ⟨sourceName, sourced, ran⟩ := (engineOf_stateless d).bind_ok ran
  dsimp only at ran
  split at ran
  · cases ran
  split at ran
  case h_2 => cases ran
  rename_i target targeted
  have named : Engine.named? targetName = some target := by
    unfold Capability.lookup at targeted
    split at targeted
    · cases targeted
      assumption
    · cases targeted
  rw [runState_bind_ok (runState_pure _ w), runState_bind_ok (target.schemeExists_run dictId w)]
    at ran
  split at ran
  · cases ran
  rw [runState_bind, runState_tryCatch] at ran
  rcases copied : (copy d { d with engine := some targetName } target).run.run w with
    ⟨copyResult, w₁⟩
  rw [copied] at ran
  cases copyResult with
  | error cause =>
    obtain ⟨e, w₂, refused⟩ := @rollBack_refuses Unit target { d with engine := some targetName }
      cause w₁
    dsimp only at ran
    rw [refused] at ran
    cases ran
  | ok u =>
    dsimp only at ran
    rw [runState_tryCatch] at ran
    rcases finished : (finish d sourceName targetName).run.run w₁ with ⟨finishResult, w₂⟩
    rw [finished] at ran
    cases finishResult with
    | ok moved' =>
      cases ran
      exact ⟨d, sourceName, target, w₁, found, sourced, named, copied, finished⟩
    | error cause =>
      obtain ⟨e, w₃, refused⟩ := @rollBack_refuses Dict target { d with engine := some targetName }
        cause w₂
      dsimp only at ran
      rw [refused] at ran
      cases ran

end Placement

/-- Inserting records one by one into the table of a dict, the last table
of the database, adds their rows at its end in order, and changes nothing
but the database. -/
theorem insertAll_copied {before : List Relational.Table} {d : Dict}
    (apart : ∀ u ∈ before, Relational.sameName u.name d.id = false) (items : List Item) :
    ∀ {done : List Item} {w w' : World}, Relational.Copied before d done w.database →
      (forIn items PUnit.unit fun item _ => do
          Engine.relational.insertItem d item
          pure (ForInStep.yield PUnit.unit) : WorldM PUnit).run.run w = (.ok PUnit.unit, w') →
      Relational.Copied before d (done ++ items) w'.database ∧
        w' = { w with database := w'.database } := by
  induction items with
  | nil =>
    intro done w w' copied ran
    cases ran
    exact ⟨by rw [List.append_nil]; exact copied, rfl⟩
  | cons item rest ih =>
    intro done w w' copied ran
    rw [List.forIn_cons, runState_bind, runState_bind] at ran
    rcases inserted : (Engine.relational.insertItem d item).run.run w with ⟨result, w₁⟩
    rw [inserted] at ran
    cases result with
    | error e => cases ran
    | ok u =>
      dsimp only at ran
      rw [Engine.insertItem] at inserted
      obtain ⟨db₁, made, rfl⟩ := onDatabase_inv inserted
      unfold Relational.insertItem at made
      rw [Relational.run_run] at made
      cases added : w.database.insert d.id (Relational.rowOfItem d item) with
      | error message =>
        rw [added] at made
        cases made
      | ok db₂ =>
        rw [added] at made
        cases made
        obtain ⟨copiedAll, kept⟩ := ih (copied.insert apart added) ran
        rw [List.append_assoc, List.singleton_append] at copiedAll
        exact ⟨copiedAll, kept⟩

/-- A table found among a database's tables is found first when more tables
follow them. -/
theorem Relational.table?_of_tables {db db' : Relational.Database} {more : List Relational.Table}
    (tables : db'.tables = db.tables ++ more) {name : String} {t : Relational.Table}
    (found : db.table? name = some t) : db'.table? name = some t := by
  unfold Relational.Database.table? at *
  rw [tables, List.find?_append, found]
  rfl

/-- After the document engine drops a collection, it holds no storage under
that name. -/
theorem Document.schemeExists_drop (s : Document.Store) (name : String) :
    Document.schemeExists (s.drop name) name = false := by
  simp only [Document.schemeExists, Document.Store.contains, Document.Store.collection?,
    Document.Store.drop, Option.isSome_eq_false_iff, Option.isNone_iff_eq_none,
    List.lookup_eq_none_iff]
  intro entry kept
  rw [bne_comm]
  exact (List.mem_filter.mp kept).2

namespace Placement

/-- A dict moved from the document engine to the relational one leaves no
collection behind, and every record the collection held is read back from
the new table, from a row that holds in each of the table's columns the
record's value for it as the column stores it.  The columns convert what
they are given: a decimal field's text goes into a numeric column as the
number it reads as, so a moved decimal reads back as `columnRoundTrip`
says. -/
theorem moved_records_read_back_through_columns {dictId : String} {w w' : World}
    {d moved : Dict} {items : List Item} (found : (Dicts.get dictId).run.run w = (.ok d, w))
    (sourced : d.engine = some "mongo")
    (listed : (Engine.document.allItems d).run.run w = (.ok items, w))
    (ran : (move dictId "postgres").run.run w = (.ok moved, w')) :
    Document.schemeExists w'.documents d.id = false ∧
      ∀ item ∈ items, ∃ row, (Engine.relational.getItem d item.id).run.run w' =
          ((Relational.itemOfRow d row).map some, w') ∧
        ∀ c ∈ Relational.itemColumns d, ∀ v, (c.name, v) ∈ Relational.rowOfItem d item →
          row.lookup c.name = some (v.store c.affinity) := by
  obtain ⟨d', sourceName, target, w₁, found', sourced', named, copied, finished⟩ := move_ok ran
  rw [found] at found'
  cases found'
  have fromDocuments : sourceName = "mongo" := by
    unfold engineOf at sourced'
    rw [sourced] at sourced'
    cases sourced'
    rfl
  subst fromDocuments
  have toTables : target = .relational := by
    rw [show Engine.named? "postgres" = some .relational from rfl] at named
    cases named
    rfl
  subst toTables
  obtain ⟨sourceName, sourceEngine, items', w₂, sourced'', looked, listed', created, looped⟩ :=
    copy_ok rfl named copied
  rw [sourced'] at sourced''
  cases sourced''
  rw [show Capability.data.lookup "mongo" = .ok .document from rfl] at looked
  cases looked
  rw [listed] at listed'
  cases listed'
  rw [Engine.createScheme] at created
  obtain ⟨db₂, made, rfl⟩ := onDatabase_inv created
  obtain ⟨apart, fresh⟩ := Relational.createScheme_ok made
  obtain ⟨⟨columns, distinct, rows, tables, written⟩, kept⟩ :=
    insertAll_copied apart items fresh looped
  have sameEngine : w₁.defaultEngine = w.defaultEngine := by
    rw [kept]
  obtain ⟨w₃, recorded, dropped⟩ :=
    finish_ok (show Engine.named? "mongo" = some .document from rfl) finished
  have standing : w₃.database.table? d.id = some (Relational.tableOf d rows) := by
    rw [Dicts.setEngine_table? recorded]
    · exact Relational.table?_last apart tables
    · intro relational t dicts
      obtain ⟨t₀, stored⟩ :=
        Option.isSome_iff_exists.mp (Dicts.get_dictStore found (sameEngine ▸ relational))
      rw [Relational.table?_of_tables tables stored] at dicts
      cases dicts
      exact apart t (List.mem_of_find?_eq_some stored)
  rw [Engine.dropScheme, onDocuments_run, Document.dropScheme, runState_modify] at dropped
  cases dropped
  refine ⟨Document.schemeExists_drop _ _, fun item mem => ?_⟩
  obtain ⟨row, read, holds⟩ := Relational.getItem_copied standing columns distinct written mem
  exact ⟨row, by rw [Engine.getItem, onDatabase_run, read], holds⟩

/-- A document dict with one decimal field. -/
def decimalDict : Dict :=
  { id := "m", engine := some "mongo", fields := [{ id := "d", fieldType := .decimal }] }

/-- A document session holding two records of `decimalDict` whose decimals,
of twenty-one digits, differ only in the last one. -/
def longDecimalsWorld : World :=
  ((do
    let _ ← Dicts.create decimalDict
    let _ ← Records.create "m" [("id", .string "x"), ("d", .string "123456789012345678901")]
    let _ ← Records.create "m" [("id", .string "y"), ("d", .string "123456789012345678909")]
    pure () : WorldM Unit).run.run (archivingStart "mongo")).2

end Placement

theorem Json.eq_of_bind_str? {o : Option Json} {s : String} (read : o.bind Json.str? = some s) :
    o = some (.string s) := by
  cases o with
  | none => cases read
  | some j =>
    cases j with
    | string s' =>
      cases read
      rfl
    | _ => cases read

namespace Placement

set_option maxRecDepth 100000 in
/-- Moving `decimalDict` to the relational engine succeeds, and its records
`x` and `y`, which the collection held with decimals apart in the last
digit, are read back from rows holding one value under `d`: at most one of
them reads back as it was. -/
theorem moved_decimals_read_back_alike :
    ∃ d moved w' rowX rowY, (move "m" "postgres").run.run longDecimalsWorld = (.ok moved, w') ∧
      ((Engine.document.allItems d).run.run longDecimalsWorld).1.toOption.map
          (fun items => items.map fun item => (item.id, (item.data.lookup "d").bind Json.str?)) =
        some [("x", some "123456789012345678901"), ("y", some "123456789012345678909")] ∧
      Document.schemeExists w'.documents "m" = false ∧
      (Engine.relational.getItem d "x").run.run w' = ((Relational.itemOfRow d rowX).map some, w') ∧
      (Engine.relational.getItem d "y").run.run w' = ((Relational.itemOfRow d rowY).map some, w') ∧
      rowX.lookup "d" = rowY.lookup "d" := by
  have probe : ((Dicts.get "m").run.run longDecimalsWorld).1.toOption.any (fun d =>
      d.id == "m" && d.engine == some "mongo" &&
      d.fields.map (fun f => (f.id, f.fieldType == .decimal && !f.multivalued)) == [("d", true)] &&
      ((Engine.document.allItems d).run.run longDecimalsWorld).1.toOption.any (fun items =>
        items.map (fun item => (item.id, (item.data.lookup "d").bind Json.str?)) ==
          [("x", some "123456789012345678901"), ("y", some "123456789012345678909")])) &&
      ((move "m" "postgres").run.run longDecimalsWorld).1.toBool = true := by
    decide +kernel
  rw [Bool.and_eq_true] at probe
  obtain ⟨d, found, tested⟩ := Stateless.ok_of_any (Dicts.get_stateless "m") _ _ probe.1
  simp only [Bool.and_eq_true, beq_iff_eq] at tested
  obtain ⟨⟨⟨named, sourced⟩, fields⟩, listing⟩ := tested
  obtain ⟨items, listed, shown⟩ := Stateless.ok_of_any (Engine.allItems_stateless .document d) _ _
    listing
  rw [beq_iff_eq] at shown
  rcases moving : (move "m" "postgres").run.run longDecimalsWorld with ⟨result, w'⟩
  rw [moving] at probe
  cases result with
  | error e => cases probe.2
  | ok moved =>
  obtain ⟨gone, reads⟩ := moved_records_read_back_through_columns found sourced listed moving
  obtain ⟨x, rest, rfl, readX, restShown⟩ := List.map_eq_cons_iff.mp shown
  obtain ⟨y, others, rfl, readY, -⟩ := List.map_eq_cons_iff.mp restShown
  obtain ⟨f, fields', fieldsEq, fieldShown, -⟩ := List.map_eq_cons_iff.mp fields
  simp only [Prod.mk.injEq, Bool.and_eq_true, beq_iff_eq, Bool.not_eq_true'] at readX readY fieldShown
  obtain ⟨idX, valueX⟩ := readX
  obtain ⟨idY, valueY⟩ := readY
  obtain ⟨fieldId, decimal, single⟩ := fieldShown
  obtain ⟨rowX, getX, cellsX⟩ := reads x List.mem_cons_self
  obtain ⟨rowY, getY, cellsY⟩ := reads y (List.mem_cons_of_mem _ List.mem_cons_self)
  refine ⟨d, moved, w', rowX, rowY, rfl, by rw [listed]; exact congrArg some shown, named ▸ gone,
    idX ▸ getX, idY ▸ getY, ?_⟩
  have column : { name := f.id, declared := Relational.columnType f } ∈ Relational.itemColumns d := by
    simp [Relational.itemColumns, fieldsEq]
  have written := Relational.encodeValue_decimal_text decimal single
  have cellX := cellsX _ column (.text "123456789012345678901") (by
    simp [Relational.rowOfItem, fieldsEq, fieldId ▸ Json.eq_of_bind_str? valueX, written])
  have cellY := cellsY _ column (.text "123456789012345678909") (by
    simp [Relational.rowOfItem, fieldsEq, fieldId ▸ Json.eq_of_bind_str? valueY, written])
  rw [← fieldId, cellX, cellY, Relational.Column.affinity,
    Relational.decimal_column_numeric decimal single,
    Relational.store_numeric_alike (by decide +kernel) Relational.long_whole_readings_agree
      (@Relational.wide_of_whole "123456789012345678901" 123456789012345678901
        (by decide +kernel) (by decide +kernel))
      (@Relational.wide_of_whole "123456789012345678909" 123456789012345678909
        (by decide +kernel) (by decide +kernel))]

end Placement

end Refbook
