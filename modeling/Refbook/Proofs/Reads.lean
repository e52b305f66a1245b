import Refbook.Store.Records

namespace Refbook

/-!
# What every run of a computation keeps

Work on the world mostly reads before it writes, and what it writes it
writes in one part of the world: a dict scheme, the records of one engine,
the archive.  Each such fact is a property of every run of a computation in
`ExceptT ε (StateM σ)`: run from a state where an invariant `inv` holds, it
ends, answering or failing, in a state where `inv` holds again and whose
`view` is unchanged, its answer satisfies `post` and its failure satisfies
`fail`.  That is `Runs`.

`Runs` is closed under the monad's operations and the list loops the model
is written with, so each function of the model gets one lemma, proved by
following its `do` block, and its callers cite it.  Three instances recur:
a *stateless* computation leaves its state exactly as it found it; one that
*keeps* an invariant and a view says nothing of its failures
(`Keeps`, in `KeptState`); one that *fails only* so bounds its errors and
nothing else (`FailsOnly`, in `MigrationBatch`).

The lookups of dicts and records, the filters behind them and the checks
that run before a record is written are all stateless, in both engines and
in every world.
-/

section Monad

variable {σ ε α β : Type}

/-- Running a bind runs its first part, then, on success, the rest from the
state the first part left. -/
theorem runState_bind (x : ExceptT ε (StateM σ) α) (f : α -> ExceptT ε (StateM σ) β)
    (s : σ) :
    (x >>= f).run.run s =
      match x.run.run s with
      | (.ok a, s') => (f a).run.run s'
      | (.error e, s') => (.error e, s') := by
  simp only [ExceptT.run_bind, StateT.run_bind]
  rcases x.run.run s with ⟨result, s'⟩
  cases result <;> rfl

@[simp] theorem runState_pure (a : α) (s : σ) :
    (pure a : ExceptT ε (StateM σ) α).run.run s = (.ok a, s) := rfl

@[simp] theorem runState_throw (e : ε) (s : σ) :
    (throw e : ExceptT ε (StateM σ) α).run.run s = (.error e, s) := rfl

@[simp] theorem runState_get (s : σ) :
    (get : ExceptT ε (StateM σ) σ).run.run s = (.ok s, s) := rfl

@[simp] theorem runState_set (s s' : σ) :
    (set s' : ExceptT ε (StateM σ) PUnit).run.run s = (.ok ⟨⟩, s') := rfl

@[simp] theorem runState_modify (f : σ -> σ) (s : σ) :
    (modify f : ExceptT ε (StateM σ) PUnit).run.run s = (.ok ⟨⟩, f s) := rfl

/-- A bind whose first part succeeds continues with its answer. -/
theorem runState_bind_ok {x : ExceptT ε (StateM σ) α} {f : α -> ExceptT ε (StateM σ) β}
    {s s' : σ} {a : α} (first : x.run.run s = (.ok a, s')) :
    (x >>= f).run.run s = (f a).run.run s' := by
  rw [runState_bind, first]

/-- A bind whose first part fails fails with it. -/
theorem runState_bind_error {x : ExceptT ε (StateM σ) α} {f : α -> ExceptT ε (StateM σ) β}
    {s s' : σ} {e : ε} (first : x.run.run s = (.error e, s')) :
    (x >>= f).run.run s = (.error e, s') := by
  rw [runState_bind, first]

/-- A handler runs from the state the failure left. -/
theorem runState_tryCatch (x : ExceptT ε (StateM σ) α) (handle : ε -> ExceptT ε (StateM σ) α)
    (s : σ) :
    (tryCatch x handle).run.run s =
      match x.run.run s with
      | (.ok a, s') => (.ok a, s')
      | (.error e, s') => (handle e).run.run s' := by
  show (ExceptT.tryCatch x handle).run.run s = _
  rcases found : x.run.run s with ⟨result, s'⟩
  have unfolded : @StateT.run σ Id (Except ε α) x s = (result, s') := found
  simp only [ExceptT.tryCatch, ExceptT.run_mk, StateT.run_bind, unfolded]
  cases result <;> rfl

/-- Work run with its state saved, to be put back should it fail: when it
ends, it is the work, ended. -/
theorem runState_saved_ok {act : ExceptT ε (StateM σ) α} {s s' : σ} {a : α}
    (ran : (do
      let saved ← get
      tryCatch act fun e => do
        set saved
        throw e : ExceptT ε (StateM σ) α).run.run s = (.ok a, s')) :
    act.run.run s = (.ok a, s') := by
  rw [runState_bind_ok (runState_get s), runState_tryCatch] at ran
  rcases worked : act.run.run s with ⟨result, s₁⟩
  rw [worked] at ran
  cases result with
  | ok b => exact ran
  | error e =>
    dsimp only at ran
    rw [runState_bind_ok (runState_set _ _), runState_throw] at ran
    cases ran

end Monad

section Runs

variable {σ ε α β V : Type}

/-- Work each run of which, from a state where `inv` holds, ends in a state
where `inv` holds again and whose `view` is unchanged, with an answer that
satisfies `post` or a failure that satisfies `fail`. -/
def Runs (inv : σ → Prop) (view : σ → V) (post : α → Prop) (fail : ε → Prop)
    (act : ExceptT ε (StateM σ) α) : Prop :=
  ∀ s r s', inv s → act.run.run s = (r, s') →
    inv s' ∧ view s' = view s ∧ (∀ a, r = .ok a → post a) ∧ ∀ e, r = .error e → fail e

/-- A computation that leaves its state exactly as it found it, whatever it
answers and whether or not it fails. -/
abbrev Stateless (act : ExceptT ε (StateM σ) α) : Prop :=
  Runs (fun _ => True) id (fun _ => True) (fun _ => True) act

namespace Runs

variable {inv : σ → Prop} {view : σ → V} {fail : ε → Prop}

theorem pure {post : α → Prop} {a : α} (holds : post a) :
    Runs inv view post fail (Pure.pure a : ExceptT ε (StateM σ) α) := by
  intro s r s' sound ran
  cases ran
  exact ⟨sound, rfl, fun _ same => (by cases same; exact holds), fun _ same => by cases same⟩

theorem throw {post : α → Prop} {e : ε} (holds : fail e) :
    Runs inv view post fail (MonadExcept.throw e : ExceptT ε (StateM σ) α) := by
  intro s r s' sound ran
  cases ran
  exact ⟨sound, rfl, fun _ same => (by cases same), fun _ same => by cases same; exact holds⟩

/-- Reading the state answers a state where the invariant holds. -/
theorem get : Runs inv view inv fail (MonadState.get : ExceptT ε (StateM σ) σ) := by
  intro s r s' sound ran
  cases ran
  exact ⟨sound, rfl, fun _ same => (by cases same; exact sound), fun _ same => by cases same⟩

theorem set {s' : σ} (holds : inv s') (same : ∀ s, inv s → view s' = view s) :
    Runs inv view (fun _ => True) fail (MonadStateOf.set s' : ExceptT ε (StateM σ) PUnit) := by
  intro s r s'' sound ran
  cases ran
  exact ⟨holds, same s sound, fun _ _ => trivial, fun _ same => by cases same⟩

/-- A computation that may fail, lifted: its answer and its failure are the
ones it gives. -/
theorem lift {post : α → Prop} {e : Except ε α} (ok : ∀ a, e = .ok a → post a)
    (error : ∀ x, e = .error x → fail x) :
    Runs inv view post fail (liftM e : ExceptT ε (StateM σ) α) := by
  intro s r s' sound ran
  cases e with
  | ok a =>
    cases ran
    exact ⟨sound, rfl, fun _ same => (by cases same; exact ok a rfl), fun _ same => by cases same⟩
  | error x =>
    cases ran
    exact ⟨sound, rfl, fun _ same => (by cases same), fun _ same => by cases same; exact error x rfl⟩

theorem mono {P Q : α → Prop} {x : ExceptT ε (StateM σ) α} (keeps : Runs inv view P fail x)
    (weaker : ∀ a, P a → Q a) : Runs inv view Q fail x := by
  intro s r s' sound ran
  obtain ⟨sound', same, post, failed⟩ := keeps s r s' sound ran
  exact ⟨sound', same, fun a answered => weaker a (post a answered), failed⟩

/-- The rule of sequence: the rest runs from a state where the invariant
holds, on an answer that satisfies the first part's postcondition. -/
theorem bind {P : α → Prop} {Q : β → Prop} {x : ExceptT ε (StateM σ) α}
    {f : α → ExceptT ε (StateM σ) β} (first : Runs inv view P fail x)
    (rest : ∀ a, P a → Runs inv view Q fail (f a)) : Runs inv view Q fail (x >>= f) := by
  intro s r s' sound ran
  rw [runState_bind] at ran
  rcases ran₁ : x.run.run s with ⟨result, s₁⟩
  obtain ⟨sound₁, same₁, post₁, failed₁⟩ := first s result s₁ sound ran₁
  rw [ran₁] at ran
  cases result with
  | error e =>
    cases ran
    exact ⟨sound₁, same₁, fun _ same => (by cases same), fun _ same => by cases same; exact failed₁ _ rfl⟩
  | ok a =>
    obtain ⟨sound', same', post'⟩ := rest a (post₁ a rfl) s₁ r s' sound₁ ran
    exact ⟨sound', same'.trans same₁, post'⟩

/-- A failure ends the work: nothing after it runs. -/
theorem throw_bind {P : β → Prop} {e : ε} (holds : fail e) (f : α → ExceptT ε (StateM σ) β) :
    Runs inv view P fail (MonadExcept.throw e >>= f) :=
  bind (P := fun _ => False) (throw holds) fun _ never => never.elim

/-- A bind whose first part answers nothing the rest needs. -/
theorem seq {Q : β → Prop} {x : ExceptT ε (StateM σ) α} {f : α → ExceptT ε (StateM σ) β}
    (first : Runs inv view (fun _ => True) fail x) (rest : ∀ a, Runs inv view Q fail (f a)) :
    Runs inv view Q fail (x >>= f) :=
  bind first fun a _ => rest a

theorem tryCatch {P : α → Prop} {x : ExceptT ε (StateM σ) α} {handle : ε → ExceptT ε (StateM σ) α}
    (first : Runs inv view P (fun _ => True) x) (handled : ∀ e, Runs inv view P fail (handle e)) :
    Runs inv view P fail (tryCatch x handle) := by
  intro s r s' sound ran
  rw [runState_tryCatch] at ran
  rcases ran₁ : x.run.run s with ⟨result, s₁⟩
  obtain ⟨sound₁, same₁, post₁, -⟩ := first s result s₁ sound ran₁
  rw [ran₁] at ran
  cases result with
  | ok a =>
    cases ran
    exact ⟨sound₁, same₁, post₁, fun _ same => by cases same⟩
  | error e =>
    obtain ⟨sound', same', post'⟩ := handled e s₁ r s' sound₁ ran
    exact ⟨sound', same'.trans same₁, post'⟩

theorem forIn {xs : List α} {b : β} {f : α → β → ExceptT ε (StateM σ) (ForInStep β)}
    (round : ∀ a ∈ xs, ∀ b, Runs inv view (fun _ => True) fail (f a b)) :
    Runs inv view (fun _ => True) fail (ForIn.forIn xs b f) := by
  induction xs generalizing b with
  | nil => exact pure trivial
  | cons a rest ih =>
    rw [List.forIn_cons]
    refine bind (round a List.mem_cons_self b) fun step _ => ?_
    cases step with
    | done b' => exact pure trivial
    | yield b' => exact ih fun a mem => round a (List.mem_cons_of_mem _ mem)

theorem mapM {xs : List α} {f : α → ExceptT ε (StateM σ) β}
    (each : ∀ a ∈ xs, Runs inv view (fun _ => True) fail (f a)) :
    Runs inv view (fun _ => True) fail (xs.mapM f) := by
  induction xs with
  | nil => exact pure trivial
  | cons a rest ih =>
    rw [List.mapM_cons]
    exact bind (each a List.mem_cons_self) fun b _ =>
      bind (ih fun a mem => each a (List.mem_cons_of_mem _ mem)) fun bs _ => pure trivial

theorem foldlM {xs : List α} {b : β} {f : β → α → ExceptT ε (StateM σ) β}
    (each : ∀ a ∈ xs, ∀ b, Runs inv view (fun _ => True) fail (f b a)) :
    Runs inv view (fun _ => True) fail (xs.foldlM f b) := by
  induction xs generalizing b with
  | nil => exact pure trivial
  | cons a rest ih =>
    rw [List.foldlM_cons]
    exact bind (each a List.mem_cons_self b) fun _ _ =>
      ih fun a mem => each a (List.mem_cons_of_mem _ mem)

/-- A filter answers members of the list it filters. -/
theorem filterAuxM {xs acc : List α} {p : α → ExceptT ε (StateM σ) Bool}
    (each : ∀ a, Runs inv view (fun _ => True) fail (p a)) :
    Runs inv view (fun ys => ∀ y ∈ ys, y ∈ xs ∨ y ∈ acc) fail (List.filterAuxM p xs acc) := by
  induction xs generalizing acc with
  | nil => exact pure fun y mem => Or.inr mem
  | cons a rest ih =>
    refine bind (each a) fun b _ => mono ih fun ys kept y mem => ?_
    rcases kept y mem with inner | outer
    · exact Or.inl (List.mem_cons_of_mem a inner)
    · cases b
      · exact Or.inr outer
      · rcases List.mem_cons.mp outer with rfl | old
        · exact Or.inl List.mem_cons_self
        · exact Or.inr old

theorem filterM {xs : List α} {p : α → ExceptT ε (StateM σ) Bool}
    (each : ∀ a, Runs inv view (fun _ => True) fail (p a)) :
    Runs inv view (fun ys => ∀ y ∈ ys, y ∈ xs) fail (xs.filterM p) := by
  unfold List.filterM
  refine bind (filterAuxM each) fun ys kept => pure fun y mem => ?_
  rcases kept y (List.mem_reverse.mp mem) with found | none
  · exact found
  · cases none

/-- Work whose answer is dropped. -/
theorem discard {P : α → Prop} {x : ExceptT ε (StateM σ) α} (keeps : Runs inv view P fail x) :
    Runs inv view (fun _ => True) fail (Functor.discard x) := by
  simp only [Functor.discard, map_const, Function.comp_apply, map_eq_pure_bind]
  exact bind keeps fun _ _ => pure trivial

/-- Every computation runs, with nothing claimed of its runs. -/
theorem any (x : ExceptT ε (StateM σ) α) :
    Runs (fun _ => True) (fun _ => ()) (fun _ => True) (fun _ => True) x :=
  fun _ _ _ _ _ => ⟨trivial, rfl, fun _ _ => trivial, fun _ _ => trivial⟩

/-- Work that leaves its state exactly as it found it keeps every invariant
and view. -/
theorem of_stateless {x : ExceptT ε (StateM σ) α} (reads : Stateless x) :
    Runs inv view (fun _ => True) (fun _ => True) x := by
  intro s r s' sound ran
  have same : s' = s := (reads s r s' trivial ran).2.1
  subst same
  exact ⟨sound, rfl, fun _ _ => trivial, fun _ _ => trivial⟩

end Runs

namespace Stateless

variable {x : ExceptT ε (StateM σ) α}

/-- Work that ends every run in the state it began in is stateless. -/
theorem of_state (kept : ∀ s, (x.run.run s).2 = s) : Stateless x := by
  intro s r s' _ ran
  have same : s' = s := by rw [← kept s, ran]
  exact ⟨trivial, same, fun _ _ => trivial, fun _ _ => trivial⟩

theorem state (reads : Stateless x) (s : σ) : (x.run.run s).2 = s :=
  (reads s _ _ trivial rfl).2.1

/-- A stateless computation answers from the state it was given and keeps it. -/
theorem runState_eq (reads : Stateless x) (s : σ) :
    x.run.run s = ((x.run.run s).1, s) :=
  Prod.ext rfl (reads.state s)

/-- A stateless computation ends in the state it began in, with some answer. -/
theorem exists_run (reads : Stateless x) (s : σ) :
    ∃ result, x.run.run s = (result, s) :=
  ⟨_, reads.runState_eq s⟩

/-- A bind that succeeds after a stateless first part: what the first part
answered, from the same state. -/
theorem bind_ok {f : α -> ExceptT ε (StateM σ) β} {s s' : σ}
    {b : β} (reads : Stateless x) (ran : (x >>= f).run.run s = (.ok b, s')) :
    ∃ a, x.run.run s = (.ok a, s) ∧ (f a).run.run s = (.ok b, s') := by
  rw [runState_bind, runState_eq reads] at ran
  rcases first : (x.run.run s).1 with e | a
  · rw [first] at ran
    cases ran
  · rw [first] at ran
    exact ⟨a, by rw [runState_eq reads, first], ran⟩

/-- A bind that fails after a stateless first part: either the first part
failed and left the state, or it answered and the rest failed from the same
state. -/
theorem bind_error {f : α -> ExceptT ε (StateM σ) β} {s s' : σ}
    {e : ε} (reads : Stateless x) (ran : (x >>= f).run.run s = (.error e, s')) :
    s' = s ∨ ∃ a, x.run.run s = (.ok a, s) ∧ (f a).run.run s = (.error e, s') := by
  rw [runState_bind, runState_eq reads] at ran
  rcases first : (x.run.run s).1 with e' | a
  · rw [first] at ran
    cases ran
    exact Or.inl rfl
  · rw [first] at ran
    exact Or.inr ⟨a, by rw [runState_eq reads, first], ran⟩

/-- A stateless computation whose answer passes a test gives that answer
from the state it starts in. -/
theorem ok_of_any (reads : Stateless x) (s : σ) (test : α -> Bool)
    (passes : (x.run.run s).1.toOption.any test = true) :
    ∃ a, x.run.run s = (.ok a, s) ∧ test a = true := by
  rcases found : (x.run.run s).1 with e | a
  · rw [found] at passes
    cases passes
  · rw [found] at passes
    exact ⟨a, by rw [reads.runState_eq, found], passes⟩

/-- A stateless computation whose answer is a failure fails from the state
it starts in. -/
theorem error_of_isNone (reads : Stateless x) (s : σ)
    (fails : (x.run.run s).1.toOption.isNone = true) :
    ∃ e, x.run.run s = (.error e, s) := by
  rcases found : (x.run.run s).1 with e | a
  · exact ⟨e, by rw [reads.runState_eq, found]⟩
  · rw [found] at fails
    cases fails

end Stateless

theorem Except.ok_of_any {r : Except ε α} {test : α -> Bool}
    (passes : r.toOption.any test = true) : ∃ a, r = .ok a ∧ test a = true := by
  cases r with
  | error e => cases passes
  | ok a => exact ⟨a, rfl, passes⟩

end Runs

/-! ## The relational engine -/

namespace Relational

theorem need_stateless {α : Type} (e : Except String α) : Stateless (need e) := by
  cases e with
  | ok a => exact Runs.pure trivial
  | error message => exact Runs.throw trivial

theorem getItem_stateless (d : Dict) (id : String) : Stateless (getItem d id) := by
  unfold getItem
  refine Runs.seq Runs.get fun db => Runs.seq (need_stateless _) fun t => ?_
  split
  · split
    · exact Runs.pure trivial
    · exact Runs.throw trivial
  · exact Runs.pure trivial

theorem getDict_stateless (id : String) : Stateless (getDict id) := by
  unfold getDict
  refine Runs.seq Runs.get fun db => Runs.seq (need_stateless _) fun t => ?_
  split
  · exact Runs.seq (Runs.lift (fun _ _ => trivial) fun _ _ => trivial) fun found =>
      Runs.pure trivial
  · exact Runs.pure trivial

/-- Selecting records only evaluates the compiled filter over the rows. -/
theorem findItems_stateless (d : Dict) (catalog : List Dict) (filter : Query.Expression)
    (includeDeleted : Bool) : Stateless (findItems d catalog filter includeDeleted) := by
  unfold findItems
  extract_lets live afterCompile
  have compiledRest : ∀ compiled, Stateless (afterCompile compiled) := by
    intro compiled
    simp -zeta only [afterCompile]
    extract_lets params afterJoins
    have joinsRest : ∀ joins, Stateless (afterJoins joins) := by
      intro joins
      simp -zeta only [afterJoins]
      refine Runs.seq Runs.get fun db => Runs.seq (need_stateless _) fun main => Runs.seq
        (Runs.mapM fun _ _ => Runs.seq (need_stateless _) fun _ => Runs.pure trivial) fun others => ?_
      extract_lets tables scope checked
      refine Runs.seq (need_stateless _) fun _ => ?_
      have tail : ∀ u, Stateless (checked u) := by
        intro u
        simp -zeta only [checked]
        refine Runs.seq (Runs.forIn fun _ _ _ =>
          Runs.seq (need_stateless _) fun _ => Runs.pure trivial) fun _ => ?_
        refine Runs.seq (need_stateless _) fun _ => ?_
        refine Runs.seq (Runs.foldlM fun row _ acc => ?_) fun selected => ?_
        · refine Runs.seq (Runs.mono (Runs.filterM fun combo => ?_) fun _ _ => trivial) fun _ =>
            Runs.pure trivial
          exact Runs.seq (need_stateless _) fun _ => Runs.seq (need_stateless _) fun _ =>
            Runs.pure trivial
        · split
          · exact Runs.pure trivial
          · exact Runs.throw trivial
      split
      · exact Runs.seq (need_stateless _) tail
      · exact tail ()
    split
    · exact Runs.seq (Runs.pure trivial) joinsRest
    · exact Runs.throw_bind trivial _
  split
  · exact Runs.seq (Runs.pure trivial) compiledRest
  · exact Runs.throw_bind trivial _

end Relational

/-! ## Lifted failures -/

section Lifted

variable {σ α V : Type}

@[simp] theorem liftExcept_run (e : Except Error α) (s : σ) :
    (liftExcept e).run.run s = (e, s) := by
  cases e <;> rfl

/-- A computation that may fail, lifted to work on a state: its answer and
its failure are the ones it gives, and the state stands. -/
theorem liftExcept_runs {inv : σ → Prop} {view : σ → V} {post : α → Prop} {fail : Error → Prop}
    {e : Except Error α} (ok : ∀ a, e = .ok a → post a) (error : ∀ x, e = .error x → fail x) :
    Runs inv view post fail (liftExcept (σ := σ) e) := by
  intro s r s' sound ran
  rw [liftExcept_run] at ran
  cases ran
  exact ⟨sound, rfl, ok, error⟩

theorem liftExcept_stateless (e : Except Error α) : Stateless (liftExcept (σ := σ) e) :=
  liftExcept_runs (fun _ _ => trivial) fun _ _ => trivial

end Lifted

/-! ## The document engine -/

namespace Document

theorem documents_stateless (name : String) : Stateless (documents name) := by
  unfold documents
  refine Runs.seq Runs.get fun s => ?_
  split
  · exact Runs.pure trivial
  · exact Runs.throw trivial

/-- Finding documents evaluates the filter on each of them. -/
theorem find_stateless (name : String) (filter : Json) (lookups : List Lookup) :
    Stateless (find name filter lookups) := by
  unfold find
  refine Runs.seq (documents_stateless name) fun docs =>
    Runs.seq Runs.get fun s => Runs.mono (Runs.filterM fun doc => ?_) fun _ _ => trivial
  split
  · exact Runs.pure trivial
  · exact Runs.throw trivial

theorem getItem_stateless (d : Dict) (id : String) : Stateless (getItem d id) := by
  unfold getItem
  refine Runs.seq (find_stateless _ _ _) fun found => ?_
  split
  · exact liftExcept_stateless _
  · exact Runs.pure trivial

theorem getDict_stateless (id : String) : Stateless (getDict id) := by
  unfold getDict
  refine Runs.seq (find_stateless _ _ _) fun found => ?_
  split
  · exact liftExcept_stateless _
  · exact Runs.pure trivial

theorem findItems_stateless (d : Dict) (catalog : List Dict) (filter : Query.Expression)
    (includeDeleted : Bool) : Stateless (findItems d catalog filter includeDeleted) := by
  unfold findItems
  exact Runs.seq (liftExcept_stateless _) fun compiled =>
    Runs.seq (liftExcept_stateless _) fun lookups =>
      Runs.seq (find_stateless _ _ _) fun found => liftExcept_stateless _

end Document

/-! ## The world -/


/-- Database work on the world: its answer, and the world with the database
it left. -/
theorem onDatabase_run {α : Type} (act : Relational.DbM α) (w : World) :
    (onDatabase act).run.run w =
      ((act.run.run w.database).1, { w with database := (act.run.run w.database).2 }) := by
  unfold onDatabase
  rw [runState_bind_ok (runState_get w)]
  rcases act.run.run w.database with ⟨result, db⟩
  exact (runState_bind_ok (runState_set w _)).trans (liftExcept_run result _)

/-- Document work on the world: its answer, and the world with the store it
left. -/
theorem onDocuments_run {α : Type} (act : Document.StoreM α) (w : World) :
    (onDocuments act).run.run w =
      ((act.run.run w.documents).1, { w with documents := (act.run.run w.documents).2 }) := by
  unfold onDocuments
  rw [runState_bind_ok (runState_get w)]
  rcases act.run.run w.documents with ⟨result, docs⟩
  exact (runState_bind_ok (runState_set w _)).trans (liftExcept_run result _)

/-- Database work that only reads leaves the whole world as it was. -/
theorem onDatabase_stateless {α : Type} {act : Relational.DbM α} (reads : Stateless act) :
    Stateless (onDatabase act) :=
  Stateless.of_state fun w => by rw [onDatabase_run, reads.state w.database]

/-- Document work that only reads leaves the whole world as it was. -/
theorem onDocuments_stateless {α : Type} {act : Document.StoreM α} (reads : Stateless act) :
    Stateless (onDocuments act) :=
  Stateless.of_state fun w => by rw [onDocuments_run, reads.state w.documents]

/-- Reading database work answers on the world's database what it answers on
the world. -/
theorem onDatabase_answer {α : Type} {act : Relational.DbM α} (reads : Stateless act) (w : World) :
    act.run.run w.database = (((onDatabase act).run.run w).1, w.database) := by
  rw [onDatabase_run]
  exact Stateless.runState_eq reads _

/-- Reading document work answers on the world's documents what it answers
on the world. -/
theorem onDocuments_answer {α : Type} {act : Document.StoreM α} (reads : Stateless act)
    (w : World) : act.run.run w.documents = (((onDocuments act).run.run w).1, w.documents) := by
  rw [onDocuments_run]
  exact Stateless.runState_eq reads _

theorem engineOf_stateless (d : Dict) : Stateless (engineOf d) := by
  unfold engineOf
  split
  · exact Runs.pure trivial
  · exact Runs.throw trivial

theorem defaultEngine_stateless : Stateless defaultEngine :=
  Runs.seq Runs.get fun _ => Runs.pure trivial

namespace Engine

theorem getItem_stateless (e : Engine) (d : Dict) (id : String) :
    Stateless (e.getItem d id) := by
  cases e with
  | relational =>
    unfold getItem
    exact onDatabase_stateless (Relational.getItem_stateless d id)
  | document =>
    unfold getItem
    exact onDocuments_stateless (Document.getItem_stateless d id)

theorem getDict_stateless (e : Engine) (id : String) : Stateless (e.getDict id) := by
  cases e with
  | relational =>
    unfold getDict
    exact onDatabase_stateless (Relational.getDict_stateless id)
  | document =>
    unfold getDict
    exact onDocuments_stateless (Document.getDict_stateless id)

theorem findItems_stateless (e : Engine) (d : Dict) (catalog : List Dict)
    (filter : Query.Expression) (includeDeleted : Bool) :
    Stateless (e.findItems d catalog filter includeDeleted) := by
  cases e with
  | relational =>
    unfold findItems
    exact onDatabase_stateless (Relational.findItems_stateless d catalog filter includeDeleted)
  | document =>
    unfold findItems
    exact onDocuments_stateless (Document.findItems_stateless d catalog filter includeDeleted)

end Engine

namespace Dicts

theorem find?_stateless (dictId : String) : Stateless (find? dictId) := by
  unfold find?
  exact Runs.seq defaultEngine_stateless fun e =>
    Runs.seq (e.getDict_stateless dictId) fun found => Runs.pure trivial

theorem get_stateless (dictId : String) : Stateless (get dictId) := by
  unfold get
  refine Runs.seq (find?_stateless dictId) fun found => ?_
  split
  · exact Runs.pure trivial
  · exact Runs.throw trivial

theorem catalog_stateless (d : Dict) : Stateless (catalog d) := by
  unfold catalog
  exact Runs.seq (Runs.mapM fun id _ => get_stateless id) fun others => Runs.pure trivial

end Dicts

namespace Records

theorem engine_stateless (d : Dict) : Stateless (engine d) := by
  unfold engine
  exact Runs.seq (engineOf_stateless d) fun name => liftExcept_stateless _

/-- Looking up a record by id only reads. -/
theorem get_stateless (dictId itemId : String) (includeDeleted : Bool) :
    Stateless (get dictId itemId includeDeleted) := by
  unfold get
  refine Runs.seq (Dicts.get_stateless dictId) fun d =>
    Runs.seq (engine_stateless d) fun e =>
      Runs.seq (e.getItem_stateless d itemId) fun found => ?_
  split
  · split
    · exact Runs.pure trivial
    · exact Runs.throw trivial
  · exact Runs.throw trivial

/-- The unique check searches the dict's records once per constraint. -/
theorem checkUnique_stateless (d : Dict) (itemId : String) (data : Data) :
    Stateless (checkUnique d itemId data) := by
  unfold checkUnique
  refine Runs.seq (engine_stateless d) fun e =>
    Runs.seq (Runs.forIn fun c _ _ => ?_) fun _ => Runs.pure trivial
  dsimp only
  split
  · refine Runs.seq (e.findItems_stateless _ _ _ _) fun found => ?_
    split
    · exact Runs.throw trivial
    · exact Runs.pure trivial
  · exact Runs.pure trivial

/-- The reference check reads the referenced records, dict by dict. -/
theorem checkReferences_stateless (d : Dict) (data : Data) :
    Stateless (checkReferences d data) := by
  unfold checkReferences
  refine Runs.seq (Runs.forIn fun f _ _ => ?_) fun _ => Runs.pure trivial
  split
  · extract_lets ids afterTarget
    have checked : ∀ target, Stateless (afterTarget target) := by
      intro target
      simp -zeta only [afterTarget]
      refine Runs.seq (engine_stateless target) fun e => ?_
      refine Runs.seq (Runs.forIn fun id _ _ => ?_) fun _ => Runs.pure trivial
      refine Runs.seq (Engine.getItem_stateless _ _ _) fun found => ?_
      split
      · split
        · exact Runs.throw_bind trivial _
        · exact Runs.pure trivial
      · exact Runs.throw_bind trivial _
    split
    · exact Runs.seq (Runs.pure trivial) checked
    · exact Runs.seq (Dicts.get_stateless _) checked
  · exact Runs.pure trivial

/-- Selecting records by filter only reads. -/
theorem select_stateless (dictId : String) (filter : Query.Expression) (includeDeleted : Bool) :
    Stateless (select dictId filter includeDeleted) := by
  unfold select
  exact Runs.seq (Dicts.get_stateless dictId) fun d =>
    Runs.seq (Dicts.catalog_stateless d) fun catalog =>
      Runs.seq (engine_stateless d) fun e => e.findItems_stateless d catalog filter _

end Records

end Refbook

