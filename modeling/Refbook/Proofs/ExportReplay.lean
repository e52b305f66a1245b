import Refbook.Proofs.StorageMove
import Refbook.Proofs.Versions
import Refbook.Ddl.Interpret
import Refbook.Ddl.Parse
import Refbook.Export.Render

namespace Refbook

/-!
# Replaying records that reference their own dict

Before a record is written, every record its reference fields name must be
live; an insert writes its rows one record after another, in the order
given, in one transaction of the dict's engine.  A record that names, under
a reference field of its own dict, a record that is not written yet (itself,
or one that comes later in the same insert) is therefore refused with
`itemNotFound`, and the whole insert with it.

The SQL export of a dict writes each record's stored values as they are, in
the order of the records given.  Exporting a dict whose record is its own
parent gives a script that does not replay into a copy of the dict without
records: the reference check runs before the record it names is inserted.
-/

@[simp] theorem Engine.named?_name (e : Engine) : Engine.named? e.name = some e := by
  cases e <;> rfl

section Loops

variable {σ ε α : Type}

theorem runState_discard_error {x : ExceptT ε (StateM σ) α} {s s' : σ} {e : ε}
    (fails : x.run.run s = (.error e, s')) : (discard x).run.run s = (.error e, s') := by
  simp only [Functor.discard, map_const, Function.comp_apply, map_eq_pure_bind]
  rw [runState_bind_error fails]

/-- A loop whose first rounds each go on in place runs as the rest of it. -/
theorem forIn_append_skip {xs ys : List α}
    {f : α -> PUnit -> ExceptT ε (StateM σ) (ForInStep PUnit)} {s : σ}
    (skips : ∀ a ∈ xs, (f a ⟨⟩).run.run s = (.ok (.yield ⟨⟩), s)) :
    (forIn (xs ++ ys) ⟨⟩ f).run.run s = (forIn ys ⟨⟩ f).run.run s := by
  induction xs with
  | nil => rfl
  | cons a rest ih =>
    rw [List.cons_append, List.forIn_cons, runState_bind_ok (skips a List.mem_cons_self)]
    exact ih fun b mem => skips b (List.mem_cons_of_mem a mem)

end Loops

namespace Records

theorem engine_run {d : Dict} {e : Engine} (kept : d.engine = some e.name) (w : World) :
    (engine d).run.run w = (.ok e, w) := by
  unfold engine engineOf
  simp only [kept]
  rw [runState_bind_ok (runState_pure e.name w),
    Capability.lookup_of_named (Engine.named?_name e), liftExcept_run]

/-- Record values in which `f`, the first reference field of `d` that they
set, references `d` itself and names the record `i`, which the engine `e`
keeping `d` does not hold in `w`. -/
structure NamesUnwritten (w : World) (d : Dict) (e : Engine) (data : Data) (f : Field)
    (i : String) : Prop where
  kept : d.engine = some e.name
  first : (d.fields.filter (·.fieldType = .reference)).find?
    (fun g => (data.lookup g.id).isSome) = some f
  own : f.reference.map Reference.dictId = some d.id
  names : (data.lookup f.id).bind Json.str? = some i
  absent : (e.getItem d i).run.run w = (.ok none, w)

/-- The reference check refuses values that name a record of their own dict
not yet written, and reads nothing else into the world. -/
theorem checkReferences_unwritten {w : World} {d : Dict} {e : Engine} {data : Data}
    {f : Field} {i : String} (unwritten : NamesUnwritten w d e data f i) :
    (checkReferences d data).run.run w = (.error (.itemNotFound d.id i), w) := by
  obtain ⟨kept, first, own, names, absent⟩ := unwritten
  obtain ⟨-, pre, post, refs, unset⟩ := List.find?_eq_some_iff_append.mp first
  obtain ⟨r, hr, own⟩ := Option.map_eq_some_iff.mp own
  obtain ⟨v, hv, text⟩ := Option.bind_eq_some_iff.mp names
  have single : v = .string i := by
    cases v <;> simp_all [Json.str?]
  subst single
  unfold checkReferences
  rw [refs, runState_bind, forIn_append_skip]
  · rw [List.forIn_cons]
    simp only [hv, hr, own, ↓reduceIte, Json.str?, Option.toList]
    simp only [runState_bind, runState_pure, engine_run kept, List.forIn_cons, absent,
      runState_throw]
  · intro g mem
    have unset : data.lookup g.id = none := by simpa using unset g mem
    simp only [unset]
    rfl

theorem create_unwritten {w : World} {d : Dict} {e : Engine} {data normalized : Data}
    {f : Field} {s i : String} (stored : (Dicts.get d.id).run.run w = (.ok d, w))
    (named : data.lookup "id" = some (.string s)) (nonempty : s ≠ "")
    (normal : d.normalize (Fields.swapRemove data "id") = .ok normalized)
    (unwritten : NamesUnwritten w d e normalized f i) :
    (create d.id data).run.run w = (.error (.itemNotFound d.id i), w) := by
  unfold create
  rw [runState_bind_ok stored]
  have given : s.isEmpty = false := by simpa [String.isEmpty_iff] using nonempty
  simp only [named, given, Bool.false_eq_true, ↓reduceIte]
  rw [runState_bind_ok (runState_pure s w), normal, runState_bind_ok (liftExcept_run _ w),
    runState_bind_error (checkReferences_unwritten unwritten)]

/-- Creating records whose first one names an unwritten record of its own
dict fails at that record. -/
theorem createMany_unwritten {w : World} {d : Dict} {e : Engine} {data normalized : Data}
    {more : List Data} {f : Field} {s i : String}
    (stored : (Dicts.get d.id).run.run w = (.ok d, w))
    (named : data.lookup "id" = some (.string s)) (nonempty : s ≠ "")
    (normal : d.normalize (Fields.swapRemove data "id") = .ok normalized)
    (unwritten : NamesUnwritten w d e normalized f i) :
    ∃ w', (createMany d.id (data :: more)).run.run w = (.error (.itemNotFound d.id i), w') := by
  have fails : ((data :: more).mapM (create d.id)).run.run w =
      (.error (.itemNotFound d.id i), w) := by
    rw [List.mapM_cons,
      runState_bind_error (create_unwritten stored named nonempty normal unwritten)]
  unfold createMany
  rw [runState_bind_ok stored, transactional_run _ (engine_run unwritten.kept w)]
  exact ⟨_, transact_run_error fails⟩

end Records

theorem liftExcept_bind {σ α β : Type} (x : Except Error α) (g : α -> Except Error β) :
    liftExcept (σ := σ) (x >>= g) = liftExcept x >>= fun a => liftExcept (g a) := by
  cases x <;> rfl

section Lifted

variable {α β : Type}

/-- A fold whose every step only lifts a failing computation is that fold,
lifted. -/
theorem foldlM_liftExcept {xs : List α} {acc : β} {step : β -> α -> WorldM β}
    {g : β -> α -> Except Error β} (lifted : ∀ b a, step b a = liftExcept (g b a)) :
    xs.foldlM step acc = liftExcept (xs.foldlM g acc) := by
  induction xs generalizing acc with
  | nil => rfl
  | cons a rest ih => simp only [List.foldlM_cons, liftExcept_bind, lifted, ih]

theorem mapM_liftExcept {xs : List α} {step : α -> WorldM β} {g : α -> Except Error β}
    (lifted : ∀ a ∈ xs, step a = liftExcept (g a)) :
    xs.mapM step = liftExcept (xs.mapM g) := by
  induction xs with
  | nil => rfl
  | cons a rest ih =>
    rw [List.mapM_cons, List.mapM_cons, lifted a List.mem_cons_self,
      ih fun b mem => lifted b (List.mem_cons_of_mem a mem)]
    simp only [liftExcept_bind]
    rfl

end Lifted

namespace Ddl

/-- The values a row of an insert gives its record: each column set to its
literal's value, left to right. -/
def rowValues (columns : List String) (row : List Literal) : Except Error Data :=
  (columns.zip row).foldlM (fun data (column, literal) => do
    pure (Fields.set data column (← literal.toValue))) []

example : rowValues ["id", "parent"] [.string "a", .string "a"] =
    .ok [("id", .string "a"), ("parent", .string "a")] := rfl

/-- An insert naming its columns, whose rows all fit them and read as
values, creates those records as one batch. -/
theorem insertRows_run {table : String} {columns : List String} {rows : List (List Literal)}
    {items : List Data} (listed : columns ≠ [])
    (fits : ∀ row ∈ rows, row.length = columns.length)
    (read : rows.mapM (rowValues columns) = .ok items) :
    insertRows table columns rows = discard (Records.createMany table items) := by
  have given : columns.isEmpty = false := List.isEmpty_eq_false_iff.mpr listed
  unfold insertRows
  simp only [given, Bool.false_eq_true, ↓reduceIte, pure_bind]
  rw [@mapM_liftExcept _ _ rows _ (rowValues columns) ?lifted, read]
  · rfl
  · intro row mem
    simp only [fits row mem, ne_eq, not_true_eq_false, ↓reduceIte]
    exact foldlM_liftExcept fun data ⟨column, literal⟩ => by rw [liftExcept_bind]; rfl

end Ddl

/-- A script of one insert into `d`, whose first row gives a record that
names, under a reference field of `d`, a record of `d` not written yet, is
refused with `itemNotFound` for that record. -/
theorem insert_refuses_unwritten_reference {w : World} {d : Dict} {e : Engine}
    {columns : List String} {rows : List (List Ddl.Literal)} {data normalized : Data}
    {more : List Data} {f : Field} {s i : String}
    (stored : (Dicts.get d.id).run.run w = (.ok d, w))
    (listed : columns ≠ []) (fits : ∀ row ∈ rows, row.length = columns.length)
    (read : rows.mapM (Ddl.rowValues columns) = .ok (data :: more))
    (named : data.lookup "id" = some (.string s)) (nonempty : s ≠ "")
    (normal : d.normalize (Fields.swapRemove data "id") = .ok normalized)
    (unwritten : Records.NamesUnwritten w d e normalized f i) :
    ∃ w', (Ddl.execute [.insert d.id columns rows]).run.run w =
      (.error (.itemNotFound d.id i), w') := by
  obtain ⟨w', fails⟩ := @Records.createMany_unwritten w d e data normalized more f s i
    stored named nonempty normal unwritten
  refine ⟨w', ?_⟩
  have single : Ddl.checkSingleEngine [.insert d.id columns rows] = .ok () := rfl
  unfold Ddl.execute
  rw [single, runState_bind_ok (liftExcept_run (.ok ()) w), List.forIn_cons]
  simp only [Ddl.Statement.run, Ddl.insertRows_run listed fits read]
  rw [runState_bind_error (runState_bind_error (runState_bind_error
    (runState_discard_error fails)))]

/-! ## A record that is its own parent -/

/-- A dict whose records name a parent record of the same dict, kept by the
relational engine. -/
def treeDict : Dict :=
  { id := "c", engine := some "postgres",
    fields := [{ id := "parent", fieldType := .reference,
                 reference := some { dictId := "c", fieldId := "id" } }] }

/-- A record that is its own parent. -/
def rootItem : Item :=
  Item.fresh "a" [("parent", .string "a")] default

/-- A database holding the scheme of `treeDict` and no records of it. -/
def treeWorld : World :=
  { defaultEngine := .relational, clock := default,
    database := { tables := [
      { name := "dict",
        columns := [{ name := "id", declared := "TEXT" }, { name := "body", declared := "TEXT" }],
        rows := [[.text "c", .text (Json.compact treeDict.toJson)]] },
      { name := "c",
        columns := [{ name := "id", declared := "TEXT" },
                    { name := "parent", declared := "TEXT" }] }] } }

/-- Whether a script reads as the one insert of `rootItem`: into `c`, naming `id` and `parent`,
one row of the two texts `a`. -/
def readsAsRootInsert : Except Error (List Ddl.Statement) -> Bool
  | .ok [.insert t cs [[.string a, .string b]]] =>
    t == "c" && cs == ["id", "parent"] && a == "a" && b == "a"
  | _ => false

/-- The export of `rootItem` is one insert, which is refused against
`treeWorld`: the record is checked for its parent before it is written. -/
theorem self_parent_export_not_replayed :
    Export.sql treeDict [rootItem] = "insert into c (id, parent) values ('a', 'a');" ∧
    Ddl.parseScript (Export.sql treeDict [rootItem]) =
      .ok [.insert "c" ["id", "parent"] [[.string "a", .string "a"]]] ∧
    ∃ w', (Ddl.execute [.insert "c" ["id", "parent"] [[.string "a", .string "a"]]]).run.run
      treeWorld = (.error (.itemNotFound "c" "a"), w') := by
  refine ⟨by decide +kernel, ?parsed, ?replayed⟩
  case parsed =>
    have probe : readsAsRootInsert (Ddl.parseScript (Export.sql treeDict [rootItem])) = true := by
      decide +kernel
    unfold readsAsRootInsert at probe
    split at probe
    · rename_i parsed
      simp only [Bool.and_eq_true, beq_iff_eq] at probe
      obtain ⟨⟨⟨rfl, rfl⟩, rfl⟩, rfl⟩ := probe
      exact parsed
    · cases probe
  case replayed =>
    obtain ⟨d, stored, facts⟩ := Stateless.ok_of_any (Dicts.get_stateless "c") treeWorld
      (fun d => d.id == "c" && d.engine == some "postgres" &&
        (d.normalize [("parent", .string "a")]).toOption.any (fun n =>
          ((d.fields.filter (·.fieldType = .reference)).find?
            (fun g => (n.lookup g.id).isSome)).any fun f =>
              f.reference.map Reference.dictId == some d.id &&
                (n.lookup f.id).bind Json.str? == some "a") &&
        ((Engine.relational.getItem d "a").run.run treeWorld).1.toOption.any Option.isNone)
      (by decide +kernel)
    simp only [Bool.and_eq_true, beq_iff_eq] at facts
    obtain ⟨⟨⟨named, kept⟩, checked⟩, absent⟩ := facts
    obtain ⟨n, normal, checked⟩ := Except.ok_of_any checked
    obtain ⟨f, first, checked⟩ := (Option.any_eq_true _ _).mp checked
    simp only [Bool.and_eq_true, beq_iff_eq] at checked
    obtain ⟨own, names⟩ := checked
    obtain ⟨found, absent, none⟩ := Stateless.ok_of_any (Engine.getItem_stateless _ d "a")
      treeWorld _ absent
    rw [Option.isNone_iff_eq_none] at none
    subst none
    have unwritten : Records.NamesUnwritten treeWorld d .relational n f "a" :=
      ⟨kept, first, own, names, absent⟩
    rw [← named]
    exact insert_refuses_unwritten_reference (by rw [named]; exact stored) (by simp)
      (by simp) rfl rfl (by decide) normal unwritten

end Refbook
