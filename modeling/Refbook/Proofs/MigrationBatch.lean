import Refbook.Proofs.Versions
import Refbook.Migration.Run

namespace Refbook

/-!
# A migration batch that fails

A batch of one target's scripts is checked as a whole before anything
runs: versions must differ, applied scripts must be unchanged, and new
scripts must be newer than the installed version.  Then each pending script
runs in a round of its own: the target is marked migrating and the script's
statements, together with the record of its version, run in one transaction
over both engines.

The main statement, `Migration.failed_batch_keeps_committed_rounds`, says
what a failed batch has done.  When its checks refuse it, nothing of the
world has changed.  When a script fails, every pending script before it ran
to the end in its own committed round, the failing script left both stores
exactly as those rounds left them, and no later script ran.

Two facts carry the proof.  Everything before the loop only reads, and none
of its failures is the failure of a script; this is stated with `FailsOnly`,
a companion of `Stateless` that bounds the errors a computation can raise.
The loop is a fold that stops at its first failing round.

What is not claimed: the archive of evicted history snapshots lies outside
every transaction, so a failing script may leave snapshots in it (see
`Transactions`); and `migrate` runs the batches of several targets one
after another, so a later target's refusal does not undo an earlier one.
-/

/-! ## Failures of a kind -/

/-- A computation whose every failure, from every state, satisfies `p`. -/
abbrev FailsOnly {σ α : Type} (p : Error -> Prop) (act : ExceptT Error (StateM σ) α) : Prop :=
  Runs (fun _ => True) (fun _ => ()) (fun _ => True) p act

namespace FailsOnly

variable {σ α β : Type} {p : Error -> Prop}

/-- A computation whose every failure satisfies `p`. -/
theorem of_error {x : ExceptT Error (StateM σ) α}
    (only : ∀ s e s', x.run.run s = (.error e, s') → p e) : FailsOnly p x := by
  intro s r s' _ ran
  refine ⟨trivial, rfl, fun _ _ => trivial, fun e failed => ?_⟩
  rw [failed] at ran
  exact only s e s' ran

/-- A failure of such a computation satisfies `p`. -/
theorem error {x : ExceptT Error (StateM σ) α} {s s' : σ} {e : Error} (only : FailsOnly p x)
    (ran : x.run.run s = (.error e, s')) : p e :=
  (only s _ s' trivial ran).2.2.2 e rfl

/-- A bind that fails after a first part that only reads: the first part
failed, leaving the state, or it answered and the rest failed from the same
state. -/
theorem bind_error {x : ExceptT Error (StateM σ) α} {f : α -> ExceptT Error (StateM σ) β}
    {s s' : σ} {e : Error} (reads : Stateless x) (only : FailsOnly p x)
    (ran : (x >>= f).run.run s = (.error e, s')) :
    (s' = s ∧ p e) ∨ ∃ a, x.run.run s = (.ok a, s) ∧ (f a).run.run s = (.error e, s') := by
  rw [runState_bind, Stateless.runState_eq reads] at ran
  rcases first : (x.run.run s).1 with e' | a
  · rw [first] at ran
    cases ran
    exact Or.inl ⟨rfl, only.error (by rw [Stateless.runState_eq reads, first])⟩
  · rw [first] at ran
    exact Or.inr ⟨a, by rw [Stateless.runState_eq reads, first], ran⟩

end FailsOnly

/-- A list walked by a failing function fails at one of its members. -/
theorem except_mapM_error {α β ε : Type} {f : α -> Except ε β} {xs : List α} {e : ε}
    (fails : xs.mapM f = .error e) : ∃ x ∈ xs, f x = .error e := by
  induction xs with
  | nil => cases fails
  | cons x rest ih =>
    rw [List.mapM_cons] at fails
    cases found : f x with
    | error e' =>
      rw [found] at fails
      cases fails
      exact ⟨x, List.mem_cons_self, found⟩
    | ok b =>
      rw [found] at fails
      cases later : rest.mapM f with
      | error e' =>
        rw [later] at fails
        cases fails
        obtain ⟨y, mem, at_y⟩ := ih later
        exact ⟨y, List.mem_cons_of_mem x mem, at_y⟩
      | ok bs =>
        rw [later] at fails
        cases fails

/-- A fold by a failing function fails at one of the members. -/
theorem except_foldlM_error {α β ε : Type} {f : β -> α -> Except ε β} {xs : List α} {b : β}
    {e : ε} (fails : xs.foldlM f b = .error e) : ∃ b' x, x ∈ xs ∧ f b' x = .error e := by
  induction xs generalizing b with
  | nil => cases fails
  | cons x rest ih =>
    rw [List.foldlM_cons] at fails
    cases found : f b x with
    | error e' =>
      rw [found] at fails
      cases fails
      exact ⟨b, x, List.mem_cons_self, found⟩
    | ok b₁ =>
      rw [found] at fails
      obtain ⟨b', y, mem, at_y⟩ := ih fails
      exact ⟨b', y, List.mem_cons_of_mem x mem, at_y⟩

/-! ## Reading the history of a target -/

/-- An error that is not the failure of a running migration script. -/
def NotApplied (e : Error) : Prop :=
  ∀ script cause, e ≠ .migrationApplied script cause

namespace Relational

theorem rowTimestamp_notApplied {row : List (String × Value)} {column : String} {e : Error}
    (fails : rowTimestamp row column = .error e) : NotApplied e := by
  unfold rowTimestamp at fails
  split at fails
  · cases fails
  · split at fails
    · cases fails
    · cases fails
      exact fun _ _ h => nomatch h

theorem versions_failsOnly (target : String) : FailsOnly NotApplied (versions target) := by
  unfold versions
  refine Runs.seq Runs.get fun db =>
    Runs.seq ?_ fun t => Runs.mapM fun row _ => ?_
  · unfold need
    split
    · exact Runs.pure trivial
    · exact Runs.throw (fun _ _ h => nomatch h)
  extract_lets column record
  have read : ∀ name, FailsOnly NotApplied (column name) := by
    intro name
    simp -zeta only [column]
    split
    · exact Runs.pure trivial
    · exact Runs.throw (fun _ _ h => nomatch h)
  have built : ∀ installed, FailsOnly NotApplied (record installed) := fun installed =>
    Runs.seq (read _) fun _ => Runs.seq (read _) fun _ => Runs.seq (read _) fun _ =>
      Runs.seq (read _) fun _ => Runs.seq (read _) fun _ => Runs.pure trivial
  split
  · exact Runs.seq (Runs.pure trivial) built
  · exact Runs.throw_bind (fun _ _ h => nomatch h) _
  · exact Runs.throw_bind (rowTimestamp_notApplied ‹_›) _

theorem versions_stateless (target : String) : Stateless (versions target) := by
  unfold versions
  refine Runs.seq Runs.get fun db =>
    Runs.seq (need_stateless _) fun t => Runs.mapM fun row _ => ?_
  extract_lets column record
  have read : ∀ name, Stateless (column name) := by
    intro name
    simp -zeta only [column]
    split
    · exact Runs.pure trivial
    · exact Runs.throw trivial
  have built : ∀ installed, Stateless (record installed) := fun installed =>
    Runs.seq (read _) fun _ => Runs.seq (read _) fun _ => Runs.seq (read _) fun _ =>
      Runs.seq (read _) fun _ => Runs.seq (read _) fun _ => Runs.pure trivial
  split
  · exact Runs.seq (Runs.pure trivial) built
  · exact Runs.throw_bind trivial _
  · exact Runs.throw_bind trivial _

end Relational

namespace Document

/-- The filter of a target's history never fails: it holds when a candidate
at `target` is the target's name. -/
theorem satisfies_target (doc : Json) (t : String) :
    satisfies doc (.object [("target", .string t)]) =
      .ok (equals (candidates doc "target") (.string t)) := by
  simp [satisfies, matchesWith, entryHolds, fieldMatches, isOperatorObject,
    isExtendedLiteral, List.allM]
  cases equals (candidates doc "target") (Json.string t) <;> rfl

theorem find_target_failsOnly (name target : String) :
    FailsOnly NotApplied (find name (.object [("target", .string target)])) := by
  unfold find documents
  refine Runs.seq ?_ fun docs =>
    Runs.seq Runs.get fun s => Runs.mono (Runs.filterM fun doc => ?_) fun _ _ => trivial
  · refine Runs.seq Runs.get fun s => ?_
    split
    · exact Runs.pure trivial
    · exact Runs.throw (fun _ _ h => nomatch h)
  · split
    · exact Runs.pure trivial
    · rename_i e found
      rw [satisfies_target] at found
      cases found


theorem versions_failsOnly (target : String) : FailsOnly NotApplied (versions target) := by
  unfold versions
  refine Runs.seq (find_target_failsOnly _ _) fun docs => liftExcept_runs (fun _ _ => trivial) ?_
  intro err fails
  obtain ⟨doc, -, found⟩ := except_mapM_error fails
  split at found
  · cases found
  · cases found
    exact fun _ _ h => nomatch h

theorem versions_stateless (target : String) : Stateless (versions target) := by
  unfold versions
  exact Runs.seq (find_stateless _ _ _) fun docs => liftExcept_stateless _

end Document

theorem onDatabase_failsOnly {α : Type} {p : Error -> Prop} {act : Relational.DbM α}
    (only : FailsOnly p act) : FailsOnly p (onDatabase act) := by
  refine FailsOnly.of_error fun w e w' ran => ?_
  rw [onDatabase_run] at ran
  have answer : (act.run.run w.database).1 = .error e := congrArg Prod.fst ran
  exact only.error (Prod.ext answer rfl)

theorem onDocuments_failsOnly {α : Type} {p : Error -> Prop} {act : Document.StoreM α}
    (only : FailsOnly p act) : FailsOnly p (onDocuments act) := by
  refine FailsOnly.of_error fun w e w' ran => ?_
  rw [onDocuments_run] at ran
  have answer : (act.run.run w.documents).1 = .error e := congrArg Prod.fst ran
  exact only.error (Prod.ext answer rfl)


theorem defaultEngine_failsOnly {p : Error -> Prop} : FailsOnly p defaultEngine :=
  Runs.seq Runs.get fun _ => Runs.pure trivial

namespace Engine

/-- Reading a target's history changes nothing, in either engine. -/
theorem versions_stateless (e : Engine) (target : String) : Stateless (e.versions target) := by
  cases e with
  | relational =>
    unfold versions
    exact onDatabase_stateless (Relational.versions_stateless target)
  | document =>
    unfold versions
    exact onDocuments_stateless (Document.versions_stateless target)

/-- Reading a target's history fails only as a read does. -/
theorem versions_failsOnly (e : Engine) (target : String) :
    FailsOnly NotApplied (e.versions target) := by
  cases e with
  | relational =>
    unfold versions
    exact onDatabase_failsOnly (Relational.versions_failsOnly target)
  | document =>
    unfold versions
    exact onDocuments_failsOnly (Document.versions_failsOnly target)

end Engine

namespace Migration

theorem parse_notApplied {dotted : String} {e : Error} (fails : Version.parse dotted = .error e) :
    NotApplied e := by
  unfold Version.parse at fails
  split at fails
  · cases fails
  · cases fails
    exact fun _ _ h => nomatch h

theorem installedVersion_stateless (target : String) : Stateless (installedVersion target) := by
  unfold installedVersion
  exact Runs.seq defaultEngine_stateless fun store =>
    Runs.seq (store.versions_stateless target) fun rows =>
      Runs.seq (liftExcept_stateless _) fun versions => Runs.pure trivial

theorem installedVersion_failsOnly (target : String) :
    FailsOnly NotApplied (installedVersion target) := by
  unfold installedVersion
  refine Runs.seq defaultEngine_failsOnly fun store =>
    Runs.seq (store.versions_failsOnly target) fun rows =>
      Runs.seq (liftExcept_runs (fun _ _ => trivial) ?_) fun versions => Runs.pure trivial
  intro err fails
  obtain ⟨row, -, found⟩ := except_mapM_error fails
  exact parse_notApplied found

/-! ## The checks of a batch -/

/-- The batch's own refusals: a shared version, a changed script, a script
older than the installed version. -/
def Refusal : Error -> Prop
  | .migrationsShareVersion .. => True
  | .checksumMismatch .. => True
  | .migrationOutOfOrder .. => True
  | _ => False

theorem checkDistinct_refusal {target : String} {ordered : List Script} {e : Error}
    (fails : checkDistinct target ordered = .error e) : Refusal e := by
  unfold checkDistinct at fails
  split at fails
  · cases fails
    trivial
  · cases fails

theorem pendingScripts_refusal {target : String} {history : List Applied}
    {installed : Option Version} {ordered : List Script} {e : Error}
    (fails : pendingScripts target history installed ordered = .error e) : Refusal e := by
  unfold pendingScripts at fails
  obtain ⟨pending, script, -, step⟩ := except_foldlM_error fails
  split at step
  · split at step
    · cases step
      trivial
    · cases step
  · split at step
    · cases step
      trivial
    · cases step
  · cases step

theorem Refusal.notApplied {e : Error} (refused : Refusal e) : NotApplied e := by
  intro script cause same
  subst same
  exact refused

/-! ## One round of the loop -/

theorem setState_run (target : String) (s : MigrationState) (w : World) :
    (setState target s).run.run w = (.ok ⟨⟩, ((setState target s).run.run w).2) := rfl

/-- What a target stands at is kept apart from both stores. -/
theorem setState_database (target : String) (s : MigrationState) (w : World) :
    ((setState target s).run.run w).2.database = w.database := rfl

theorem setState_documents (target : String) (s : MigrationState) (w : World) :
    ((setState target s).run.run w).2.documents = w.documents := rfl

/-- Taking a fresh id changes nothing but the count of ids issued. -/
theorem freshId_run (w : World) :
    ∃ id, freshId.run.run w = (.ok id, { w with issued := w.issued + 1 }) :=
  ⟨_, rfl⟩

theorem now_stateless : Stateless now :=
  Runs.seq Runs.get fun _ => Runs.pure trivial

/-- A script that fails leaves the stores of both engines as they were: its
statements and the record of its version run in one transaction over every
engine. -/
theorem applyScript_error {target : String} {script : Script} {u v : World} {e : Error}
    (fails : (applyScript target script).run.run u = (.error e, v)) :
    v.database = u.database ∧ v.documents = u.documents := by
  unfold applyScript at fails
  obtain ⟨id, issued⟩ := freshId_run u
  rw [runState_bind_ok issued] at fails
  rcases Stateless.bind_error now_stateless fails with rfl | ⟨t, -, fails⟩
  · exact ⟨rfl, rfl⟩
  dsimp only at fails
  rcases Stateless.bind_error defaultEngine_stateless fails with rfl | ⟨store, -, fails⟩
  · exact ⟨rfl, rfl⟩
  rw [runState_bind] at fails
  rcases ran : (transact Engine.all _).run.run _ with ⟨result, after⟩
  rw [ran] at fails
  cases result with
  | ok row => cases fails
  | error e' =>
    cases fails
    obtain ⟨database, documents⟩ := transact_error_restores ran
    exact ⟨database (by decide), documents (by decide)⟩

/-- A round whose script fails leaves the stores of both engines as the
round found them. -/
theorem round_stores {target : String} {script : Script} {state : MigrationState}
    {u v : World} {e : Error}
    (fails : (do setState target state; applyScript target script).run.run u = (.error e, v)) :
    v.database = u.database ∧ v.documents = u.documents := by
  rw [runState_bind, setState_run target state u] at fails
  dsimp only at fails
  obtain ⟨database, documents⟩ := applyScript_error fails
  rw [database, documents]
  exact ⟨setState_database target state u, setState_documents target state u⟩

/-- Scripts run one after another from a world, each in a round of its own:
the target is marked migrating, and the script's statements and the record
of its version run in one transaction that commits. -/
inductive Applies (target : String) : List Script -> World -> World -> Prop
  | nil (w : World) : Applies target [] w w
  | cons {script : Script} {rest : List Script} {w w₁ w₂ : World} {row : Applied}
      (ran : (do setState target .migrating; applyScript target script).run.run w = (.ok row, w₁))
      (later : Applies target rest w₁ w₂) :
      Applies target (script :: rest) w w₂

/-- The shape of one round of the loop over pending scripts: mark the
target migrating, run the script, and on its failure settle the target at
the version reached and report the script. -/
def IsRound (target : String)
    (f : List Applied × Option Version -> Script -> WorldM (List Applied × Option Version)) :
    Prop :=
  ∀ applied installed script, f (applied, installed) script = (do
    setState target .migrating
    let row ← tryCatch (applyScript target script) fun e => do
      setState target (settled installed)
      throw (.migrationApplied script.file e)
    pure (applied ++ [row], some script.version))

section Rounds

variable {target : String}
  {f : List Applied × Option Version -> Script -> WorldM (List Applied × Option Version)}

/-- A round that succeeds ran its script to the end. -/
theorem round_ok (round : IsRound target f) {applied : List Applied} {installed : Option Version}
    {script : Script} {u u' : World} {r : List Applied × Option Version}
    (ran : (f (applied, installed) script).run.run u = (.ok r, u')) :
    ∃ row, (do setState target .migrating; applyScript target script).run.run u = (.ok row, u') ∧
      r = (applied ++ [row], some script.version) := by
  rw [round, runState_bind_ok (setState_run target .migrating u)] at ran
  rw [runState_bind_ok (setState_run target .migrating u)]
  generalize ((setState target .migrating).run.run u).2 = u₁ at ran ⊢
  rw [runState_bind] at ran
  simp only [runState_tryCatch] at ran
  rcases attempt : (applyScript target script).run.run u₁ with ⟨result, v⟩
  simp only [attempt] at ran
  cases result with
  | ok row =>
    cases ran
    exact ⟨row, rfl, rfl⟩
  | error cause =>
    dsimp only at ran
    rw [runState_bind_ok (setState_run target (settled installed) v), runState_throw] at ran
    cases ran

/-- A round that fails ran its script, which failed; the round settled the
target and reported the script with the cause. -/
theorem round_error (round : IsRound target f) {applied : List Applied}
    {installed : Option Version} {script : Script} {u u' : World} {e : Error}
    (ran : (f (applied, installed) script).run.run u = (.error e, u')) :
    ∃ cause v, (do setState target .migrating; applyScript target script).run.run u =
        (.error cause, v) ∧ e = .migrationApplied script.file cause ∧
      u' = ((setState target (settled installed)).run.run v).2 := by
  rw [round, runState_bind_ok (setState_run target .migrating u)] at ran
  rw [runState_bind_ok (setState_run target .migrating u)]
  generalize ((setState target .migrating).run.run u).2 = u₁ at ran ⊢
  rw [runState_bind] at ran
  simp only [runState_tryCatch] at ran
  rcases attempt : (applyScript target script).run.run u₁ with ⟨result, v⟩
  simp only [attempt] at ran
  cases result with
  | ok row => cases ran
  | error cause =>
    dsimp only at ran
    rw [runState_bind_ok (setState_run target (settled installed) v), runState_throw] at ran
    cases ran
    exact ⟨cause, v, rfl, rfl, rfl⟩

/-! ## The loop over the pending scripts -/

/-- A fold that fails ran a prefix of the list to the end and failed on
the next member. -/
theorem foldlM_error_split {σ ε α β : Type} {g : β -> α -> ExceptT ε (StateM σ) β}
    {xs : List α} {b : β} {s s' : σ} {e : ε}
    (fails : (xs.foldlM g b).run.run s = (.error e, s')) :
    ∃ done x later b' s₁, xs = done ++ x :: later ∧
      (done.foldlM g b).run.run s = (.ok b', s₁) ∧ (g b' x).run.run s₁ = (.error e, s') := by
  induction xs generalizing b s with
  | nil => cases fails
  | cons x rest ih =>
    rw [List.foldlM_cons, runState_bind] at fails
    rcases first : (g b x).run.run s with ⟨result, s₁⟩
    rw [first] at fails
    cases result with
    | error e' =>
      cases fails
      exact ⟨[], x, rest, b, s, rfl, rfl, first⟩
    | ok b₁ =>
      obtain ⟨done, y, later, b', s₂, split, ran, step⟩ := ih fails
      refine ⟨x :: done, y, later, b', s₂, by rw [split, List.cons_append], ?_, step⟩
      rw [List.foldlM_cons, runState_bind_ok first]
      exact ran

/-- A loop of rounds that ends ran every script of it. -/
theorem applies_of_foldlM (round : IsRound target f) {scripts : List Script}
    {acc r : List Applied × Option Version} {u u' : World}
    (ran : (scripts.foldlM f acc).run.run u = (.ok r, u')) : Applies target scripts u u' := by
  induction scripts generalizing acc u with
  | nil =>
    cases ran
    exact Applies.nil _
  | cons script rest ih =>
    rw [List.foldlM_cons, runState_bind] at ran
    obtain ⟨applied, installed⟩ := acc
    rcases first : (f (applied, installed) script).run.run u with ⟨result, u₁⟩
    rw [first] at ran
    cases result with
    | error e => cases ran
    | ok acc₁ =>
      obtain ⟨row, script_ran, -⟩ := round_ok round first
      exact Applies.cons script_ran (ih ran)

/-- A loop of rounds that fails ran a prefix of its scripts to the end,
then failed in the next one, which left both stores as the prefix did. -/
theorem loop_error (round : IsRound target f) {scripts : List Script}
    {acc : List Applied × Option Version} {u u' : World} {e : Error}
    (fails : (scripts.foldlM f acc).run.run u = (.error e, u')) :
    ∃ done script later wk cause v, scripts = done ++ script :: later ∧
      Applies target done u wk ∧
      (do setState target .migrating; applyScript target script).run.run wk = (.error cause, v) ∧
      e = .migrationApplied script.file cause ∧
      u'.database = wk.database ∧ u'.documents = wk.documents := by
  obtain ⟨done, script, later, ⟨applied, reached⟩, wk, split, ran, stopped⟩ :=
    foldlM_error_split fails
  obtain ⟨cause, v, failed, rfl, rfl⟩ := round_error round stopped
  have stores := round_stores failed
  refine ⟨done, script, later, wk, cause, v, split, applies_of_foldlM round ran, failed, rfl, ?_, ?_⟩
  · rw [setState_database]
    exact stores.1
  · rw [setState_documents]
    exact stores.2

end Rounds

/-! ## The batch -/

/-- A failed batch of one target.  Refused by its checks, it has changed
nothing at all.  Failed in a script, it ran every pending script before
that one to the end, each in its own committed round, and the failing
script ran and left the stores of both engines as those rounds did; no
later script ran. -/
theorem failed_batch_keeps_committed_rounds {target : String} {scripts : List Script}
    {w w' : World} {e : Error}
    (fails : (applyPending target scripts).run.run w = (.error e, w')) :
    (Refusal e → w' = w) ∧
    ∀ file cause, e = .migrationApplied file cause →
      ∃ history installed pending done script later wk v,
        (w.defaultEngine.versions target).run.run w = (.ok history, w) ∧
        (installedVersion target).run.run w = (.ok installed, w) ∧
        pendingScripts target history installed (orderByVersion Script.version scripts) =
          .ok pending ∧
        pending = done ++ script :: later ∧ script.file = file ∧
        Applies target done w wk ∧
        (do setState target .migrating; applyScript target script).run.run wk =
          (.error cause, v) ∧
        w'.database = wk.database ∧ w'.documents = wk.documents := by
  unfold applyPending at fails
  have early : NotApplied e → (Refusal e → w = w) ∧ ∀ file cause,
      e = .migrationApplied file cause → False :=
    fun only => ⟨fun _ => rfl, fun file cause same => only file cause same⟩
  rcases FailsOnly.bind_error (liftExcept_stateless _)
    (liftExcept_runs (fun _ _ => trivial) fun _ refused => (checkDistinct_refusal refused).notApplied) fails
    with ⟨rfl, only⟩ | ⟨_, -, fails⟩
  · exact ⟨(early only).1, fun file cause same => ((early only).2 file cause same).elim⟩
  rcases FailsOnly.bind_error defaultEngine_stateless defaultEngine_failsOnly fails
    with ⟨rfl, only⟩ | ⟨store, found, fails⟩
  · exact ⟨(early only).1, fun file cause same => ((early only).2 file cause same).elim⟩
  cases found
  rcases FailsOnly.bind_error (w.defaultEngine.versions_stateless target)
    (w.defaultEngine.versions_failsOnly target) fails
    with ⟨rfl, only⟩ | ⟨history, read, fails⟩
  · exact ⟨(early only).1, fun file cause same => ((early only).2 file cause same).elim⟩
  rcases FailsOnly.bind_error (installedVersion_stateless target)
    (installedVersion_failsOnly target) fails
    with ⟨rfl, only⟩ | ⟨installed, newest, fails⟩
  · exact ⟨(early only).1, fun file cause same => ((early only).2 file cause same).elim⟩
  rcases FailsOnly.bind_error (liftExcept_stateless _)
    (liftExcept_runs (fun _ _ => trivial) fun _ refused => (pendingScripts_refusal refused).notApplied) fails
    with ⟨rfl, only⟩ | ⟨pending, checked, fails⟩
  · exact ⟨(early only).1, fun file cause same => ((early only).2 file cause same).elim⟩
  rw [liftExcept_run] at checked
  rw [runState_bind] at fails
  split at fails
  next r w₁ loop =>
    obtain ⟨applied, reached⟩ := r
    dsimp only at fails
    rw [runState_bind_ok (setState_run target (settled reached) w₁)] at fails
    cases fails
  next e₁ w₁ loop =>
    cases fails
    obtain ⟨done, script, later, wk, cause, v, split, ran, failed, rfl, database, documents⟩ :=
      loop_error (by exact fun _ _ _ => rfl) loop
    refine ⟨fun refused => refused.elim, fun file cause' same => ?_⟩
    cases same
    exact ⟨history, installed, pending, done, script, later, wk, v, read, newest,
      (Prod.mk.inj checked).1, split, rfl, ran, failed, database, documents⟩

/-- A batch two of whose scripts share a version is refused, from every
world and without changing it. -/
theorem applyPending_shared_version {target : String} {scripts : List Script} {e : Error}
    (shared : checkDistinct target (orderByVersion Script.version scripts) = .error e)
    (w : World) : (applyPending target scripts).run.run w = (.error e, w) := by
  unfold applyPending
  exact runState_bind_error (by rw [liftExcept_run, shared])

/-- A script with no statements, read from a file of the given version. -/
def emptyScript (target file : String) (version : Version) : Script :=
  { target, file, version, text := "", checksum := Digest.checksum "" }

/-- The fresh store of a session whose default engine is the document one. -/
def freshDocumentWorld : World :=
  { defaultEngine := .document, clock := default,
    documents := { collections := [("dict", []), ("version_scheme", [])] } }

theorem checkDistinct_one_twice :
    checkDistinct "b" (orderByVersion Script.version
      [emptyScript "b" "V1__b.sql" ⟨[1]⟩, emptyScript "b" "V1_0__c.sql" ⟨[1, 0]⟩]) =
      .error (.migrationsShareVersion "b" "1" ["V1__b.sql", "V1_0__c.sql"]) := by
  have ordered : orderByVersion Script.version [emptyScript "b" "V1__b.sql" ⟨[1]⟩,
      emptyScript "b" "V1_0__c.sql" ⟨[1, 0]⟩] =
      [emptyScript "b" "V1__b.sql" ⟨[1]⟩, emptyScript "b" "V1_0__c.sql" ⟨[1, 0]⟩] :=
    List.mergeSort_of_pairwise (by decide +kernel)
  rw [ordered]
  rfl

/-- Versions `1` and `1.0` of one target are refused, and the world is kept. -/
theorem shared_version_batch_keeps_world :
    ∃ w', (applyPending "b" [emptyScript "b" "V1__b.sql" ⟨[1]⟩,
        emptyScript "b" "V1_0__c.sql" ⟨[1, 0]⟩]).run.run freshDocumentWorld =
      (.error (.migrationsShareVersion "b" "1" ["V1__b.sql", "V1_0__c.sql"]), w') ∧
      w' = freshDocumentWorld :=
  ⟨_, applyPending_shared_version checkDistinct_one_twice freshDocumentWorld,
    (failed_batch_keeps_committed_rounds
      (applyPending_shared_version checkDistinct_one_twice freshDocumentWorld)).1 trivial⟩

/-! ## Batches of several targets

`migrate` hands each target's scripts to `applyPending`, target after
target in the order of their names.  A batch refused for a later target
therefore leaves an earlier target migrated.
-/

/-- Scripts of two targets, `a` at version 1 and `b` twice at version 1
(written `1` and `1.0`), on a fresh store: the call is refused for sharing a
version, yet the script of `a` has run and its version is recorded. -/
theorem later_target_refusal_keeps_earlier_target :
    ∃ w', (migrate [emptyScript "a" "V1__a.sql" ⟨[1]⟩, emptyScript "b" "V1__b.sql" ⟨[1]⟩,
          emptyScript "b" "V1_0__c.sql" ⟨[1, 0]⟩]).run.run freshDocumentWorld =
        (.error (.migrationsShareVersion "b" "1" ["V1__b.sql", "V1_0__c.sql"]), w') ∧
      (w'.documents.collection? "version_scheme").map List.length = some 1 := by
  have first : ∃ rows w₁, (applyPending "a" [emptyScript "a" "V1__a.sql" ⟨[1]⟩]).run.run
        freshDocumentWorld = (.ok rows, w₁) ∧
      (w₁.documents.collection? "version_scheme").map List.length = some 1 := by
    have probe : (fun r : Except Error (List Applied) × World =>
        r.1.toBool && (r.2.documents.collection? "version_scheme").map List.length == some 1)
        ((applyPending "a" [emptyScript "a" "V1__a.sql" ⟨[1]⟩]).run.run freshDocumentWorld) =
          true := by
      decide +kernel
    rcases ran : (applyPending "a" [emptyScript "a" "V1__a.sql" ⟨[1]⟩]).run.run
        freshDocumentWorld with ⟨result, w₁⟩
    rw [ran] at probe
    cases result with
    | ok rows => exact ⟨rows, w₁, rfl, beq_iff_eq.mp ((Bool.and_eq_true _ _).mp probe).2⟩
    | error e => cases probe
  have named : targets [emptyScript "a" "V1__a.sql" ⟨[1]⟩, emptyScript "b" "V1__b.sql" ⟨[1]⟩,
      emptyScript "b" "V1_0__c.sql" ⟨[1, 0]⟩] = ["a", "b"] := by
    unfold targets
    rw [List.mergeSort_of_pairwise (by decide +kernel)]
    decide +kernel
  obtain ⟨rows, w₁, ran, recorded⟩ := first
  refine ⟨w₁, ?_, recorded⟩
  unfold migrate
  rw [named]
  simp only [List.mapM_cons, List.mapM_nil]
  rw [show [emptyScript "a" "V1__a.sql" ⟨[1]⟩, emptyScript "b" "V1__b.sql" ⟨[1]⟩,
      emptyScript "b" "V1_0__c.sql" ⟨[1, 0]⟩].filter (fun s => decide (s.target = "a")) =
      [emptyScript "a" "V1__a.sql" ⟨[1]⟩] from rfl]
  rw [show [emptyScript "a" "V1__a.sql" ⟨[1]⟩, emptyScript "b" "V1__b.sql" ⟨[1]⟩,
      emptyScript "b" "V1_0__c.sql" ⟨[1, 0]⟩].filter (fun s => decide (s.target = "b")) =
      [emptyScript "b" "V1__b.sql" ⟨[1]⟩, emptyScript "b" "V1_0__c.sql" ⟨[1, 0]⟩] from rfl]
  rw [runState_bind, runState_bind, ran]
  dsimp only
  rw [runState_bind, runState_bind, applyPending_shared_version checkDistinct_one_twice]

end Migration

end Refbook
