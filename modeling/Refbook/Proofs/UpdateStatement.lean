import Refbook.Proofs.CanonicalRecords
import Refbook.Proofs.Versions
import Refbook.Proofs.ExportReplay

namespace Refbook

/-!
# What an update statement writes

`update T set c1 = a1, ..., ck = ak where w` reads the live records of `T`
that `w` selects, once, before it changes any of them.  It then changes
each in turn, in the order they were read, at the version it was read at;
the first failure ends the statement and keeps the changes made before it.

A record's new data is its data before the statement with each assigned
column set.  Every value is read from the data before the statement, never
from an assignment made earlier in the same statement, and a later
assignment to a column overrides an earlier one: `set a = b, b = a` swaps.
A literal is its JSON value.  A column reference reads the record's prior
data under exactly the name written, and reads null when the data has no
entry of that name.  Field lookups elsewhere find fields in any case and
also know the service columns `id`, `version`, `created`, `updated` and
`deleted`; a column reference does neither, so `set copy = id` sets `copy`
to null.

The main statement is `update_statement_reads_prior_entries`.
-/

namespace Fields

/-- Replacing the entries of a key replaces what the key reads, when the key
is there, and nothing else. -/
theorem lookup_map_replace (fields : List (String × Json)) (key : String) (value : Json)
    (other : String) :
    (fields.map fun entry => if entry.1 == key then (key, value) else entry).lookup other =
      if other = key ∧ key ∈ fields.map Prod.fst then some value else fields.lookup other := by
  induction fields with
  | nil => simp
  | cons entry rest ih =>
    obtain ⟨k, v⟩ := entry
    rw [List.map_cons, List.lookup_cons, List.lookup_cons]
    by_cases here : k = key
    · subst here
      rw [if_pos (beq_self_eq_true k)]
      by_cases same : other = k
      · subst same
        simp
      · rw [beq_false_of_ne same]
        dsimp only
        rw [ih]
        simp [same]
    · rw [if_neg (by simpa using here)]
      by_cases same : other = k
      · subst same
        simp [here]
      · rw [beq_false_of_ne same]
        dsimp only
        rw [ih]
        exact if_congr (and_congr_right fun _ => by simp [Ne.symm here]) rfl rfl

/-- Setting a key gives it the new value and keeps what every other key
reads. -/
theorem lookup_set (fields : List (String × Json)) (key : String) (value : Json)
    (other : String) :
    (set fields key value).lookup other =
      if other = key then some value else fields.lookup other := by
  unfold set
  split
  · rename_i present
    rw [lookup_map_replace]
    simp [any_key_iff.mp present]
  · rename_i absent
    rw [List.lookup_append]
    by_cases same : other = key
    · subst same
      have missing : fields.lookup other = none :=
        List.lookup_eq_none_iff.mpr fun entry mem => by
          simpa using fun named => absent (List.any_eq_true.mpr ⟨entry, mem, by simp [named]⟩)
      simp [missing]
    · cases fields.lookup other <;> simp [same]

end Fields

namespace Ddl

/-! ## The data a record is given -/

/-- The value an assignment gives a record whose data before the statement
is `prior`: a literal's JSON value, or the prior entry under the column
name as written, null when there is none. -/
def Assignment.valueOn (prior : Data) (a : Assignment) : Except Error Json :=
  match a.value with
  | .value literal => literal.toValue
  | .column name => .ok ((prior.lookup name).getD .null)

/-- The data a statement's assignments give a record, starting from `data`
and reading every value from `prior`. -/
def assignFrom (prior : Data) (assignments : List Assignment) (data : Data) : Except Error Data :=
  assignments.foldlM (fun data a => (a.valueOn prior).map (Fields.set data a.column)) data

/-- The data a statement's assignments give a record whose data before the
statement is `prior`. -/
def assignedData (prior : Data) (assignments : List Assignment) : Except Error Data :=
  assignFrom prior assignments prior

/-- The last assignment to a column, if there is one. -/
def lastAssignment (assignments : List Assignment) (column : String) : Option Assignment :=
  assignments.reverse.find? (·.column == column)

theorem lastAssignment_cons (a : Assignment) (rest : List Assignment) (column : String) :
    lastAssignment (a :: rest) column =
      (lastAssignment rest column).or (if a.column == column then some a else none) := by
  rw [lastAssignment, List.reverse_cons, List.find?_append, List.find?_singleton]
  rfl

/-- Each key reads the value of its last assignment, or else what it read
before the assignments. -/
theorem assignFrom_lookup {prior acc data : Data} {assignments : List Assignment}
    (assigned : assignFrom prior assignments acc = .ok data) (key : String) :
    data.lookup key =
      match lastAssignment assignments key with
      | some a => (a.valueOn prior).toOption
      | none => acc.lookup key := by
  induction assignments generalizing acc with
  | nil =>
    cases assigned
    rfl
  | cons a rest ih =>
    unfold assignFrom at assigned
    rw [List.foldlM_cons] at assigned
    obtain ⟨next, valued, assigned⟩ := Sql.except_bind_ok assigned
    cases value : a.valueOn prior with
    | error e =>
      rw [value] at valued
      cases valued
    | ok v =>
      rw [value] at valued
      cases valued
      rw [ih assigned, lastAssignment_cons]
      cases lastAssignment rest key with
      | some b => rfl
      | none =>
        rw [Fields.lookup_set]
        by_cases same : key = a.column
        · subst same
          simp only [beq_self_eq_true, if_true, Option.none_or, value]
          rfl
        · simp [same, Ne.symm same]

/-- A statement's assignments fail only on a literal that is no JSON value,
with its error. -/
theorem assignFrom_error {prior acc : Data} {assignments : List Assignment} {e : Error}
    (refused : assignFrom prior assignments acc = .error e) :
    ∃ a ∈ assignments, ∃ literal, a.value = .value literal ∧ literal.toValue = .error e := by
  induction assignments generalizing acc with
  | nil => cases refused
  | cons a rest ih =>
    unfold assignFrom at refused
    rw [List.foldlM_cons] at refused
    cases value : a.valueOn prior with
    | error e' =>
      rw [value] at refused
      cases refused
      unfold Assignment.valueOn at value
      split at value
      · rename_i literal named
        exact ⟨a, List.mem_cons_self, literal, named, value⟩
      · cases value
    | ok v =>
      rw [value] at refused
      obtain ⟨b, found, ⟨literal, named, failed⟩⟩ := ih refused
      exact ⟨b, List.mem_cons_of_mem a found, literal, named, failed⟩

/-! ## The records the statement changes -/

section Runs

variable {σ ε α : Type}

theorem runState_discard_ok {x : ExceptT ε (StateM σ) α} {s s' : σ} {a : α}
    (done : x.run.run s = (.ok a, s')) : (discard x).run.run s = (.ok ⟨⟩, s') := by
  simp only [Functor.discard, map_const, Function.comp_apply, map_eq_pure_bind]
  rw [runState_bind_ok done]
  rfl

theorem runState_bind_pure_unit (x : ExceptT ε (StateM σ) PUnit) (s : σ) :
    (x >>= fun _ => pure ⟨⟩).run.run s = x.run.run s := by
  rw [runState_bind]
  rcases x.run.run s with ⟨result, s'⟩
  cases result <;> rfl

end Runs

/-- The changes an update statement makes to the records it selected, in
order: each is given the data `write` makes of it, and is changed at the
version it was read at.  The first failure, of `write` or of the change,
ends the run in the world it left. -/
inductive Changes (table : String) (write : Item -> Except Error Data) :
    List Item -> World -> Except Error Unit × World -> Prop
  | done (w : World) : Changes table write [] w (.ok (), w)
  | unwritten {item : Item} {rest : List Item} {w : World} {e : Error} :
      write item = .error e -> Changes table write (item :: rest) w (.error e, w)
  | refused {item : Item} {rest : List Item} {w w' : World} {data : Data} {e : Error} :
      write item = .ok data ->
      (Records.update table item.id item.version data).run.run w = (.error e, w') ->
      Changes table write (item :: rest) w (.error e, w')
  | changed {item : Item} {rest : List Item} {w w' : World} {data : Data} {updated : Item}
      {result : Except Error Unit × World} :
      write item = .ok data ->
      (Records.update table item.id item.version data).run.run w = (.ok updated, w') ->
      Changes table write rest w' result -> Changes table write (item :: rest) w result

/-- A loop whose round for a record writes its data and changes it runs the
changes of its records. -/
theorem forIn_changes {table : String} {write : Item -> Except Error Data}
    {body : Item -> PUnit -> WorldM (ForInStep PUnit)}
    (unwritten : ∀ item e w, write item = .error e -> (body item ⟨⟩).run.run w = (.error e, w))
    (refused : ∀ item data e w w', write item = .ok data ->
      (Records.update table item.id item.version data).run.run w = (.error e, w') ->
      (body item ⟨⟩).run.run w = (.error e, w'))
    (changed : ∀ item data updated w w', write item = .ok data ->
      (Records.update table item.id item.version data).run.run w = (.ok updated, w') ->
      (body item ⟨⟩).run.run w = (.ok (.yield ⟨⟩), w'))
    (items : List Item) (w : World) :
    Changes table write items w ((forIn items ⟨⟩ body).run.run w) := by
  induction items generalizing w with
  | nil => exact Changes.done w
  | cons item rest ih =>
    rw [List.forIn_cons]
    cases written : write item with
    | error e =>
      rw [runState_bind_error (unwritten item e w written)]
      exact Changes.unwritten written
    | ok data =>
      rcases changing : (Records.update table item.id item.version data).run.run w with
        ⟨result, w'⟩
      cases result with
      | error e =>
        rw [runState_bind_error (refused item data e w w' written changing)]
        exact Changes.refused written changing
      | ok updated =>
        rw [runState_bind_ok (changed item data updated w w' written changing)]
        exact Changes.changed written changing (ih w')

/-- The model's fold over the assignments reads as `assignFrom`. -/
theorem foldlM_run {prior : Data} {f : Data -> Assignment -> WorldM Data}
    (step : ∀ data a w, (f data a).run.run w = ((a.valueOn prior).map (Fields.set data a.column), w))
    (assignments : List Assignment) (acc : Data) (w : World) :
    (assignments.foldlM f acc).run.run w = (assignFrom prior assignments acc, w) := by
  induction assignments generalizing acc with
  | nil => rfl
  | cons a rest ih =>
    unfold assignFrom
    rw [List.foldlM_cons, List.foldlM_cons, runState_bind, step]
    cases a.valueOn prior with
    | error e => rfl
    | ok v => exact ih _

/-- The statement's loop, with its fold over the assignments left open:
when the fold reads as `assignFrom`, the loop runs the changes of its
records. -/
theorem forIn_assign_changes {table : String} {assignments : List Assignment}
    {f : Item -> Data -> Assignment -> WorldM Data}
    (step : ∀ item data a w,
      (f item data a).run.run w = ((a.valueOn item.data).map (Fields.set data a.column), w))
    (items : List Item) (w : World) :
    Changes table (fun item => assignedData item.data assignments) items w
      ((forIn items PUnit.unit fun item _ => do
        let data ← assignments.foldlM (f item) item.data
        discard (Records.update table item.id item.version data)
        pure (ForInStep.yield PUnit.unit)).run.run w) := by
  have fold := fun item w => foldlM_run (step item) assignments item.data w
  apply forIn_changes
  · intro item e w unwritten
    exact runState_bind_error ((fold item w).trans (by rw [assignedData] at unwritten; rw [unwritten]))
  · intro item data e w w' written refused
    rw [runState_bind_ok ((fold item w).trans (by rw [assignedData] at written; rw [written]))]
    exact runState_bind_error (runState_discard_error refused)
  · intro item data updated w w' written changed
    rw [runState_bind_ok ((fold item w).trans (by rw [assignedData] at written; rw [written])),
      runState_bind_ok (runState_discard_ok changed)]
    rfl

/-- An update statement either fails on its condition, or fails to select,
changing nothing; or it selects records once, before any change, and then
runs the changes of exactly those records, each given the data its
assignments make of its data before the statement. -/
theorem updateRows_changes (w : World) (table : String) (assignments : List Assignment)
    (filter : Option Condition) :
    (∃ e, filterOf filter = .error e ∧
      (updateRows table assignments filter).run.run w = (.error e, w)) ∨
    (∃ expression e, filterOf filter = .ok expression ∧
      (Records.select table expression false).run.run w = (.error e, w) ∧
      (updateRows table assignments filter).run.run w = (.error e, w)) ∨
    (∃ expression items, filterOf filter = .ok expression ∧
      (Records.select table expression false).run.run w = (.ok items, w) ∧
      Changes table (fun item => assignedData item.data assignments) items w
        ((updateRows table assignments filter).run.run w)) := by
  unfold updateRows
  cases condition : filterOf filter with
  | error e =>
    exact .inl ⟨e, rfl, runState_bind_error (liftExcept_run _ w)⟩
  | ok expression =>
    rw [runState_bind_ok (liftExcept_run _ w)]
    obtain ⟨selected, selecting⟩ := (Records.select_stateless table expression false).exists_run w
    cases selected with
    | error e => exact .inr (.inl ⟨expression, e, rfl, selecting, runState_bind_error selecting⟩)
    | ok items =>
      refine .inr (.inr ⟨expression, items, rfl, selecting, ?_⟩)
      rw [runState_bind_ok selecting, runState_bind_pure_unit]
      refine forIn_assign_changes (fun item data a w => ?_) items w
      obtain ⟨column, value⟩ := a
      cases value with
      | value literal =>
        show (liftExcept literal.toValue >>= fun v => pure (Fields.set data column v)).run.run w =
          (literal.toValue.map (Fields.set data column), w)
        cases literal.toValue <;> rfl
      | column name => rfl

/-- An update statement fails on its condition or on its selection without
a change, or it runs the changes of exactly the records it selected before
any change, in order, each at the version it was read at.  A record's new
data sets each assigned column to the value of the column's last assignment
and keeps every other key: a literal gives its JSON value, and a column
reference gives the record's entry before the statement under the name as
written, null when there is none.  The assignments fail only on a literal
that is no JSON value. -/
theorem update_statement_reads_prior_entries (w : World) (table : String)
    (assignments : List Assignment) (filter : Option Condition) :
    ((∃ e, filterOf filter = .error e ∧
        (updateRows table assignments filter).run.run w = (.error e, w)) ∨
      (∃ expression e, filterOf filter = .ok expression ∧
        (Records.select table expression false).run.run w = (.error e, w) ∧
        (updateRows table assignments filter).run.run w = (.error e, w)) ∨
      (∃ expression items, filterOf filter = .ok expression ∧
        (Records.select table expression false).run.run w = (.ok items, w) ∧
        Changes table (fun item => assignedData item.data assignments) items w
          ((updateRows table assignments filter).run.run w))) ∧
    (∀ prior data, assignedData prior assignments = .ok data -> ∀ key,
      data.lookup key =
        match lastAssignment assignments key with
        | some ⟨_, .value literal⟩ => literal.toValue.toOption
        | some ⟨_, .column name⟩ => some ((prior.lookup name).getD .null)
        | none => prior.lookup key) ∧
    (∀ prior e, assignedData prior assignments = .error e ->
      ∃ a ∈ assignments, ∃ literal, a.value = .value literal ∧ literal.toValue = .error e) := by
  refine ⟨updateRows_changes w table assignments filter, fun prior data assigned key => ?_,
    fun prior e refused => assignFrom_error refused⟩
  rw [assignFrom_lookup assigned key]
  cases lastAssignment assignments key with
  | none => rfl
  | some a =>
    obtain ⟨column, value⟩ := a
    cases value <;> rfl

/-- With `name = 'a'` before the statement, `set copy = id` gives `copy`
null: the record's data has no entry `id`. -/
theorem reference_to_id_reads_null :
    assignedData [("name", .string "a")] [⟨"copy", .column "id"⟩] =
      .ok [("name", .string "a"), ("copy", .null)] ∧
    ([("name", .string "a"), ("copy", .null)] : Data).lookup "copy" = some .null :=
  have assigned : assignedData [("name", .string "a")] [⟨"copy", .column "id"⟩] =
      .ok [("name", .string "a"), ("copy", .null)] := by
    rfl
  ⟨assigned, (update_statement_reads_prior_entries default "c" [⟨"copy", .column "id"⟩] none).2.1
    _ _ assigned "copy"⟩

end Ddl

end Refbook
