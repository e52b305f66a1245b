import Refbook.Proofs.Transactions
import Mathlib.Logic.Function.Basic
import Mathlib.Data.List.Nodup

namespace Refbook
namespace Nesting

/-!
# One transaction over several fallible backends

A transaction spanning several backends begins on each in the order given,
runs the work, and then commits them the last begun first.  The first
refused commit turns the remaining commits into rollbacks and is the answer.
A refused begin, or failed work, rolls back what was begun, the last begun
first; a refused rollback is passed over.

Each backend is a nesting transaction state machine: a store and one
savepoint per open transaction.  A begin saves the store, a commit drops the
innermost savepoint, a rollback puts the store back to it.  Any call may be
refused.  A refused begin opens nothing; a refused commit or rollback still
ends the transaction, as the engines' backends do, but leaves the store as
it is.  In the world, `transact` keeps one snapshot per call and is never
refused; here every backend keeps its own savepoints.  The world's
`transact` is the case where nothing is refused: its engines are backends
holding the world, and what the world keeps beside them, the archive among
it, is in no transaction (`transact_as_inTransaction`).

The monadic calls are first shown equal to pure phases (`inTransaction_run`),
and the phases are then read backend by backend.  Whatever is refused, every
transaction begun is ended, so every backend's savepoints are as before, and
on success every backend keeps the work (`transaction_ends_and_commits`).
Failure is not all-or-nothing: backends committed before a refused commit
keep the work (`earlier_refused_commit_keeps_later_commit`), and so does a
backend whose rollback is refused; `Failed` says exactly how.
-/

/-- A backend's store and the savepoints of its open transactions, the
innermost first. -/
structure Nest (D : Type) where
  store : D
  savepoints : List D := []
  deriving DecidableEq

namespace Nest

variable {D : Type}

/-- Open a transaction: save the store. -/
def push (n : Nest D) : Nest D :=
  { n with savepoints := n.store :: n.savepoints }

/-- End the innermost transaction and keep the store. -/
def pop (n : Nest D) : Nest D :=
  { n with savepoints := n.savepoints.tail }

/-- End the innermost transaction and put back the store it saved. -/
def restore (n : Nest D) : Nest D :=
  match n.savepoints with
  | [] => n
  | saved :: rest => { store := saved, savepoints := rest }

theorem pop_push (n : Nest D) : n.push.pop = n := rfl

theorem restore_push (n : Nest D) : n.push.restore = n := rfl

@[simp] theorem savepoints_push (n : Nest D) : n.push.savepoints = n.store :: n.savepoints := rfl

@[simp] theorem savepoints_pop (n : Nest D) : n.pop.savepoints = n.savepoints.tail := rfl

@[simp] theorem savepoints_restore (n : Nest D) : n.restore.savepoints = n.savepoints.tail := by
  unfold restore
  split <;> simp_all

@[simp] theorem store_pop (n : Nest D) : n.pop.store = n.store := rfl

theorem store_restore {n : Nest D} {saved : D} {rest : List D}
    (open_ : n.savepoints = saved :: rest) : n.restore.store = saved := by
  simp [restore, open_]

end Nest

/-- The calls a backend refuses, each with the error it reports. -/
structure Refusals (ε : Type) where
  begin : Option ε := none
  commit : Option ε := none
  rollback : Option ε := none
  deriving DecidableEq

/-- How a rollback call leaves its backend: the store put back, or, when the
rollback is refused, only the transaction ended. -/
def Refusals.undo {ε D : Type} (r : Refusals ε) : Nest D -> Nest D :=
  if r.rollback.isSome then Nest.pop else Nest.restore

@[simp] theorem Refusals.savepoints_undo {ε D : Type} (r : Refusals ε) (n : Nest D) :
    (r.undo n).savepoints = n.savepoints.tail := by
  unfold Refusals.undo
  split <;> simp

/-- Work on backends named by `ι`, with errors `ε`. -/
abbrev TxM (ι D ε : Type) := ExceptT ε (StateM (ι -> Nest D))

section Calls

variable {ι D ε : Type} [DecidableEq ι]

/-- Change backend `i` alone. -/
def change (i : ι) (g : Nest D -> Nest D) (s : ι -> Nest D) : ι -> Nest D :=
  Function.update s i (g (s i))

def beginOn (i : ι) (r : Refusals ε) : TxM ι D ε Unit :=
  match r.begin with
  | some e => throw e
  | none => modify (change i Nest.push)

def commitOn (i : ι) (r : Refusals ε) : TxM ι D ε Unit := do
  modify (change i Nest.pop)
  match r.commit with
  | some e => throw e
  | none => pure ()

def rollbackOn (i : ι) (r : Refusals ε) : TxM ι D ε Unit :=
  match r.rollback with
  | some e => do
    modify (change i Nest.pop)
    throw e
  | none => modify (change i Nest.restore)

/-- Roll back open transactions in the order given, passing over refusals. -/
def rollbackEach : List (ι × Refusals ε) -> TxM ι D ε Unit
  | [] => pure ()
  | (i, r) :: rest => do
    tryCatch (rollbackOn i r) fun _ => pure ()
    rollbackEach rest

/-- Commit open transactions in the order given.  Once a commit is refused the
rest are rolled back, and the first refusal is the answer. -/
def commitEach : Option ε -> List (ι × Refusals ε) -> TxM ι D ε Unit
  | none, [] => pure ()
  | some e, [] => throw e
  | failure, (i, r) :: rest => do
    let refused ← tryCatch (do
        if failure.isSome then rollbackOn i r else commitOn i r
        pure none) fun e => pure (some e)
    commitEach (failure.or refused) rest

/-- Begin on each backend in order, and answer the transactions begun, the
last first.  A refused begin rolls back those begun and is the answer. -/
def beginEach : List (ι × Refusals ε) -> List (ι × Refusals ε) ->
    TxM ι D ε (List (ι × Refusals ε))
  | [], opened => pure opened
  | (i, r) :: rest, opened => do
    tryCatch (beginOn i r) fun e => do
      rollbackEach opened
      throw e
    beginEach rest ((i, r) :: opened)

/-- Run `act` in one transaction over `backends`: begin on each in order,
commit them the last begun first when `act` succeeds, roll them back the
last begun first when it fails. -/
def inTransaction {α : Type} (backends : List (ι × Refusals ε)) (act : TxM ι D ε α) :
    TxM ι D ε α := do
  let opened ← beginEach backends []
  let outcome ← tryCatch (do pure (Except.ok (← act))) fun e => pure (.error e)
  match outcome with
  | .ok result => do
    commitEach none opened
    pure result
  | .error e => do
    rollbackEach opened
    throw e

end Calls

section Phases

variable {ι D ε : Type} [DecidableEq ι]

/-- The backends after a call on each of `calls`, in order, the call on
backend `i` with refusals `r` changing it by `g r`. -/
def changeEach (g : Refusals ε -> Nest D -> Nest D) :
    List (ι × Refusals ε) -> (ι -> Nest D) -> (ι -> Nest D)
  | [], s => s
  | (i, r) :: rest, s => changeEach g rest (change i (g r) s)

/-- The backends after a begin on each of `backends`, in order. -/
abbrev pushAll : List (ι × Refusals ε) -> (ι -> Nest D) -> (ι -> Nest D) :=
  changeEach fun _ => Nest.push

/-- The backends after a commit on each of `opened`, in order. -/
abbrev popAll : List (ι × Refusals ε) -> (ι -> Nest D) -> (ι -> Nest D) :=
  changeEach fun _ => Nest.pop

/-- The backends after a rollback call on each of `opened`, in order. -/
abbrev undoAll : List (ι × Refusals ε) -> (ι -> Nest D) -> (ι -> Nest D) :=
  changeEach Refusals.undo

/-- What the begins answer, with the backends they leave. -/
def beginPhase : List (ι × Refusals ε) -> List (ι × Refusals ε) -> (ι -> Nest D) ->
    Except ε (List (ι × Refusals ε)) × (ι -> Nest D)
  | [], opened, s => (.ok opened, s)
  | (i, r) :: rest, opened, s =>
    match r.begin with
    | some e => (.error e, undoAll opened s)
    | none => beginPhase rest ((i, r) :: opened) (change i Nest.push s)

/-- What the commits answer, with the backends they leave. -/
def commitPhase : Option ε -> List (ι × Refusals ε) -> (ι -> Nest D) -> Except ε Unit × (ι -> Nest D)
  | none, [], s => (.ok (), s)
  | some e, [], s => (.error e, s)
  | failure, (i, r) :: rest, s =>
    if failure.isSome then commitPhase failure rest (change i r.undo s)
    else commitPhase r.commit rest (change i Nest.pop s)

theorem rollbackOn_caught (i : ι) (r : Refusals ε) (s : ι -> Nest D) :
    (tryCatch (rollbackOn i r) fun _ => pure () : TxM ι D ε Unit).run.run s =
      (.ok (), change i r.undo s) := by
  unfold rollbackOn Refusals.undo
  cases r.rollback <;> rfl

theorem rollbackEach_run (opened : List (ι × Refusals ε)) (s : ι -> Nest D) :
    (rollbackEach opened : TxM ι D ε Unit).run.run s = (.ok (), undoAll opened s) := by
  induction opened generalizing s with
  | nil => rfl
  | cons b rest ih =>
    obtain ⟨i, r⟩ := b
    rw [rollbackEach, runState_bind_ok (rollbackOn_caught i r s), ih]
    rfl

/-- One round of the commit loop: a commit, or a rollback once a commit was
refused, answering the refusal it meets. -/
theorem attempt_run (failure : Option ε) (i : ι) (r : Refusals ε) (s : ι -> Nest D) :
    (tryCatch (do
        if failure.isSome then rollbackOn i r else commitOn i r
        pure none) fun e => pure (some e) : TxM ι D ε (Option ε)).run.run s =
      (.ok (if failure.isSome then r.rollback else r.commit),
        if failure.isSome then change i r.undo s else change i Nest.pop s) := by
  unfold rollbackOn commitOn Refusals.undo
  cases failure <;> simp only [Option.isSome_none, Option.isSome_some, Bool.false_eq_true,
    ↓reduceIte] <;> cases r.rollback <;> cases r.commit <;> rfl

theorem commitEach_run (failure : Option ε) (opened : List (ι × Refusals ε))
    (s : ι -> Nest D) :
    (commitEach failure opened : TxM ι D ε Unit).run.run s = commitPhase failure opened s := by
  induction opened generalizing failure s with
  | nil => cases failure <;> rfl
  | cons b rest ih =>
    obtain ⟨i, r⟩ := b
    rw [commitEach, runState_bind_ok (attempt_run failure i r s)]
    cases failure <;> simp [commitPhase, ih]

theorem beginOn_caught (i : ι) (r : Refusals ε) (opened : List (ι × Refusals ε))
    (s : ι -> Nest D) :
    (tryCatch (beginOn i r) (fun e => do
        rollbackEach opened
        throw e) : TxM ι D ε Unit).run.run s =
      match r.begin with
      | some e => (.error e, undoAll opened s)
      | none => (.ok (), change i Nest.push s) := by
  unfold beginOn
  cases r.begin with
  | none => rfl
  | some e =>
    simp only [runState_tryCatch, runState_throw]
    rw [runState_bind_ok (rollbackEach_run opened s)]
    rfl

theorem beginEach_run (backends opened : List (ι × Refusals ε)) (s : ι -> Nest D) :
    (beginEach backends opened : TxM ι D ε _).run.run s = beginPhase backends opened s := by
  induction backends generalizing opened s with
  | nil => rfl
  | cons b rest ih =>
    obtain ⟨i, r⟩ := b
    rw [beginEach, runState_bind, beginOn_caught, beginPhase]
    cases r.begin with
    | none => exact ih _ _
    | some e => rfl

omit [DecidableEq ι] in
theorem outcome_run {α : Type} (act : TxM ι D ε α) (s : ι -> Nest D) :
    (tryCatch (do pure (Except.ok (← act))) fun e => pure (.error e) :
        TxM ι D ε (Except ε α)).run.run s = (.ok (act.run.run s).1, (act.run.run s).2) := by
  simp only [runState_tryCatch, runState_bind]
  rcases act.run.run s with ⟨_ | _, s'⟩ <;> rfl

/-- The transaction as its phases: the begins, then the work, then the
commits or the rollbacks. -/
theorem inTransaction_run {α : Type} (backends : List (ι × Refusals ε)) (act : TxM ι D ε α)
    (s : ι -> Nest D) :
    (inTransaction backends act).run.run s =
      match beginPhase backends [] s with
      | (.error e, s') => (.error e, s')
      | (.ok opened, s₁) =>
        match act.run.run s₁ with
        | (.ok result, s₂) =>
          match commitPhase none opened s₂ with
          | (.ok (), s') => (.ok result, s')
          | (.error e, s') => (.error e, s')
        | (.error e, s₂) => (.error e, undoAll opened s₂) := by
  unfold inTransaction
  rw [runState_bind, beginEach_run]
  rcases beginPhase backends [] s with ⟨_ | opened, s₁⟩
  · rfl
  · dsimp only
    rw [runState_bind, outcome_run]
    rcases act.run.run s₁ with ⟨_ | result, s₂⟩
    · dsimp only
      rw [runState_bind, rollbackEach_run]
      rfl
    · dsimp only
      rw [runState_bind, commitEach_run]
      rcases commitPhase none opened s₂ with ⟨_ | _, s'⟩ <;> rfl

/-! ### Begins and their undoing -/

theorem Refusals.undo_push (r : Refusals ε) (n : Nest D) : r.undo n.push = n := by
  unfold Refusals.undo
  split
  · exact Nest.pop_push n
  · exact Nest.restore_push n

theorem change_undo_push (i : ι) (r : Refusals ε) (t : ι -> Nest D) :
    change i r.undo (change i Nest.push t) = t := by
  simp only [change, Function.update_self, Function.update_idem, Refusals.undo_push,
    Function.update_eq_self]

theorem changeEach_append (g : Refusals ε -> Nest D -> Nest D) (bs cs : List (ι × Refusals ε))
    (t : ι -> Nest D) : changeEach g (bs ++ cs) t = changeEach g cs (changeEach g bs t) := by
  induction bs generalizing t with
  | nil => rfl
  | cons b rest ih => exact ih _

/-- Rolling back, the last begun first, what was begun and nothing else
undoes the begins, refused rollbacks included. -/
theorem undoAll_pushAll (opened : List (ι × Refusals ε)) (t : ι -> Nest D) :
    undoAll opened (pushAll opened.reverse t) = t := by
  induction opened generalizing t with
  | nil => rfl
  | cons b rest ih =>
    obtain ⟨i, r⟩ := b
    unfold undoAll pushAll at *
    rw [List.reverse_cons, changeEach_append]
    simp only [changeEach]
    rw [change_undo_push, ih]

theorem beginPhase_ok {backends opened opened' : List (ι × Refusals ε)} {t t' : ι -> Nest D}
    (began : beginPhase backends opened t = (.ok opened', t')) :
    opened' = backends.reverse ++ opened ∧ t' = pushAll backends t := by
  induction backends generalizing opened t with
  | nil =>
    cases began
    exact ⟨rfl, rfl⟩
  | cons b rest ih =>
    obtain ⟨i, r⟩ := b
    rw [beginPhase] at began
    cases h : r.begin with
    | some e => simp [h] at began
    | none =>
      simp only [h] at began
      obtain ⟨rfl, rfl⟩ := ih began
      simp [changeEach]

/-- A refused begin leaves every backend as it was. -/
theorem beginPhase_error {backends opened : List (ι × Refusals ε)} {t t' : ι -> Nest D}
    {e : ε} (refused : beginPhase backends opened (pushAll opened.reverse t) = (.error e, t')) :
    t' = t := by
  induction backends generalizing opened with
  | nil => cases refused
  | cons b rest ih =>
    obtain ⟨i, r⟩ := b
    rw [beginPhase] at refused
    cases h : r.begin with
    | some e' =>
      simp only [h, Prod.mk.injEq] at refused
      rw [← refused.2, undoAll_pushAll]
    | none =>
      simp only [h] at refused
      apply @ih ((i, r) :: opened)
      unfold pushAll
      rw [List.reverse_cons, changeEach_append]
      exact refused

/-! ### Savepoints -/

theorem savepoints_change_tail {g : Nest D -> Nest D} (ends : ∀ n, (g n).savepoints = n.savepoints.tail)
    (j i : ι) (t : ι -> Nest D) (k : Nat) :
    ((change j g t i).savepoints).drop k =
      (t i).savepoints.drop (k + if j = i then 1 else 0) := by
  unfold change
  by_cases same : j = i
  · subst same
    simp [ends, List.drop_tail]
  · simp [Function.update_of_ne (Ne.symm same), same]

/-- Calls that each end a transaction drop one savepoint of their backend
per call. -/
theorem savepoints_changeEach {g : Refusals ε -> Nest D -> Nest D}
    (ends : ∀ r n, (g r n).savepoints = n.savepoints.tail) (calls : List (ι × Refusals ε))
    (t : ι -> Nest D) (i : ι) :
    (changeEach g calls t i).savepoints = (t i).savepoints.drop (calls.countP fun b => b.1 = i) := by
  induction calls generalizing t with
  | nil => rfl
  | cons b rest ih =>
    obtain ⟨j, r⟩ := b
    rw [changeEach, ih, savepoints_change_tail (ends r), List.countP_cons]
    simp

theorem savepoints_commitPhase (failure : Option ε) (opened : List (ι × Refusals ε))
    (t : ι -> Nest D) (i : ι) :
    ((commitPhase failure opened t).2 i).savepoints =
      (t i).savepoints.drop (opened.countP fun b => b.1 = i) := by
  induction opened generalizing failure t with
  | nil => cases failure <;> rfl
  | cons b rest ih =>
    obtain ⟨j, r⟩ := b
    rw [commitPhase, List.countP_cons]
    split
    · rw [ih, savepoints_change_tail (Refusals.savepoints_undo r)]
      simp
    · rw [ih, savepoints_change_tail Nest.savepoints_pop]
      simp

theorem savepoints_pushAll (backends : List (ι × Refusals ε)) (t : ι -> Nest D) (i : ι) :
    ∃ saved, saved.length = backends.countP (fun b => b.1 = i) ∧
      (pushAll backends t i).savepoints = saved ++ (t i).savepoints := by
  induction backends generalizing t with
  | nil => exact ⟨[], rfl, rfl⟩
  | cons b rest ih =>
    obtain ⟨j, r⟩ := b
    obtain ⟨saved, counted, pushed⟩ := ih (change j Nest.push t)
    by_cases same : j = i
    · subst same
      refine ⟨saved ++ [(t j).store], by simp [counted], ?_⟩
      unfold pushAll at *
      rw [changeEach, pushed]
      simp [change]
    · refine ⟨saved, by simp [counted, same], ?_⟩
      unfold pushAll at *
      rw [changeEach, pushed]
      simp [change, Function.update_of_ne (Ne.symm same)]

/-! ### Every transaction begun is ended -/

/-- Work that leaves every backend's savepoints as it found them, as work
made of balanced transactions does. -/
def Balanced {α : Type} (act : TxM ι D ε α) : Prop :=
  ∀ t i, ((act.run.run t).2 i).savepoints = (t i).savepoints

/-- Ending, in any way, each transaction that the begins opened gives a
backend back the savepoints it had before them. -/
theorem ended_savepoints {backends : List (ι × Refusals ε)} {s t : ι -> Nest D} (i : ι)
    (kept : (t i).savepoints = (pushAll backends s i).savepoints) :
    (t i).savepoints.drop ((backends.reverse ++ []).countP fun (b : ι × Refusals ε) => b.1 = i) =
      (s i).savepoints := by
  obtain ⟨saved, counted, pushed⟩ := savepoints_pushAll backends s i
  rw [kept, pushed, List.append_nil, List.countP_reverse, List.drop_left' counted]

theorem inTransaction_savepoints {α : Type} (backends : List (ι × Refusals ε))
    {act : TxM ι D ε α} (balanced : Balanced act) (s : ι -> Nest D) (i : ι) :
    (((inTransaction backends act).run.run s).2 i).savepoints = (s i).savepoints := by
  rw [inTransaction_run]
  rcases began : beginPhase backends [] s with ⟨_ | opened, s₁⟩
  · dsimp only
    rw [@beginPhase_error _ _ _ _ backends [] s _ _ began]
  · obtain ⟨rfl, rfl⟩ := beginPhase_ok began
    have kept := balanced (pushAll backends s) i
    dsimp only
    rcases worked : act.run.run (pushAll backends s) with ⟨_ | result, s₂⟩
    all_goals rw [worked] at kept
    · exact (savepoints_changeEach Refusals.savepoints_undo _ s₂ i).trans (ended_savepoints i kept)
    · have ended := (savepoints_commitPhase none _ s₂ i).trans (ended_savepoints i kept)
      dsimp only
      rcases committed : commitPhase none (backends.reverse ++ []) s₂ with ⟨_ | _, s'⟩
      all_goals rw [committed] at ended
      all_goals exact ended

/-! ### Success -/

theorem commitPhase_some (e : ε) (opened : List (ι × Refusals ε)) (t : ι -> Nest D) :
    commitPhase (some e) opened t = (.error e, undoAll opened t) := by
  induction opened generalizing t with
  | nil => rfl
  | cons b rest ih =>
    obtain ⟨i, r⟩ := b
    rw [commitPhase]
    simp only [Option.isSome_some, ↓reduceIte]
    rw [ih]
    rfl

/-- Commits that answer success met no refusal and only ended the
transactions. -/
theorem commitPhase_ok {opened : List (ι × Refusals ε)} {t t' : ι -> Nest D}
    (committed : commitPhase none opened t = (.ok (), t')) : t' = popAll opened t := by
  induction opened generalizing t with
  | nil =>
    cases committed
    rfl
  | cons b rest ih =>
    obtain ⟨i, r⟩ := b
    rw [commitPhase] at committed
    simp only [Option.isSome_none, Bool.false_eq_true, ↓reduceIte] at committed
    cases h : r.commit with
    | none =>
      rw [h] at committed
      exact ih committed
    | some e =>
      rw [h, commitPhase_some] at committed
      cases committed

theorem store_changeEach {g : Refusals ε -> Nest D -> Nest D}
    (keeps : ∀ r n, (g r n).store = n.store) (calls : List (ι × Refusals ε)) (t : ι -> Nest D)
    (i : ι) : (changeEach g calls t i).store = (t i).store := by
  induction calls generalizing t with
  | nil => rfl
  | cons b rest ih =>
    obtain ⟨j, r⟩ := b
    rw [changeEach, ih]
    unfold change
    by_cases same : i = j
    · subst same
      simp [keeps]
    · simp [Function.update_of_ne same]

/-- A transaction that succeeds leaves every backend with the store the
work left. -/
theorem inTransaction_ok {α : Type} {backends : List (ι × Refusals ε)} {act : TxM ι D ε α}
    {s s' : ι -> Nest D} {result : α}
    (ran : (inTransaction backends act).run.run s = (.ok result, s')) :
    ∃ s₂, act.run.run (pushAll backends s) = (.ok result, s₂) ∧
      ∀ i, (s' i).store = (s₂ i).store := by
  rw [inTransaction_run] at ran
  rcases began : beginPhase backends [] s with ⟨_ | opened, s₁⟩
  · rw [began] at ran
    cases ran
  · obtain ⟨rfl, rfl⟩ := beginPhase_ok began
    rw [began] at ran
    dsimp only at ran
    rcases worked : act.run.run (pushAll backends s) with ⟨_ | result', s₂⟩
    · rw [worked] at ran
      cases ran
    · rw [worked] at ran
      dsimp only at ran
      rcases committed : commitPhase none (backends.reverse ++ []) s₂ with ⟨_ | _, s''⟩
      · rw [committed] at ran
        cases ran
      · rw [committed] at ran
        cases ran
        refine ⟨s₂, rfl, fun i => ?_⟩
        rw [commitPhase_ok committed]
        exact @store_changeEach ι D ε _ (fun _ => Nest.pop) (fun _ => Nest.store_pop) _ s₂ i

/-! ### Failure -/

/-- The store a rollback leaves: the one saved when the transaction began,
or the current one when the rollback is refused. -/
def Refusals.rolledBack (r : Refusals ε) (saved current : D) : D :=
  if r.rollback.isSome then current else saved

theorem Refusals.store_undo (r : Refusals ε) {n : Nest D} {saved : D} {rest : List D}
    (open_ : n.savepoints = saved :: rest) : (r.undo n).store = r.rolledBack saved n.store := by
  unfold Refusals.undo Refusals.rolledBack
  split
  · rfl
  · exact Nest.store_restore open_

theorem changeEach_of_not_mem {g : Refusals ε -> Nest D -> Nest D} {calls : List (ι × Refusals ε)}
    {i : ι} (absent : i ∉ calls.map Prod.fst) (t : ι -> Nest D) : changeEach g calls t i = t i := by
  induction calls generalizing t with
  | nil => rfl
  | cons b rest ih =>
    obtain ⟨j, r⟩ := b
    simp only [List.map_cons, List.mem_cons, not_or] at absent
    rw [changeEach, ih absent.2]
    exact Function.update_of_ne absent.1 _ _

theorem changeEach_of_mem {g : Refusals ε -> Nest D -> Nest D} {calls : List (ι × Refusals ε)}
    (distinct : (calls.map Prod.fst).Nodup) {i : ι} {r : Refusals ε} (mem : (i, r) ∈ calls)
    (t : ι -> Nest D) : changeEach g calls t i = g r (t i) := by
  induction calls generalizing t with
  | nil => cases mem
  | cons b rest ih =>
    obtain ⟨j, r'⟩ := b
    rw [List.map_cons, List.nodup_cons] at distinct
    rw [changeEach]
    rcases List.mem_cons.mp mem with same | later
    · cases same
      rw [changeEach_of_not_mem distinct.1]
      exact Function.update_self _ _ _
    · have other : i ≠ j := by
        rintro rfl
        exact distinct.1 (List.mem_map_of_mem later : i ∈ rest.map Prod.fst)
      rw [ih distinct.2 later]
      unfold change
      rw [Function.update_of_ne other]

/-- A rollback of one of distinct backends, after balanced work, puts back
the store the backend had before the transaction, unless it is refused. -/
theorem undo_after_work {backends : List (ι × Refusals ε)} (distinct : (backends.map Prod.fst).Nodup)
    {s t : ι -> Nest D} (kept : ∀ i, (t i).savepoints = (pushAll backends s i).savepoints)
    {b : ι × Refusals ε} (mem : b ∈ backends) :
    (b.2.undo (t b.1)).store = b.2.rolledBack (s b.1).store (t b.1).store := by
  apply Refusals.store_undo
  rw [kept]
  unfold pushAll
  rw [changeEach_of_mem distinct mem]
  rfl

/-- Commits that answer a refusal: those before it committed, the refused
one ended, and those after it rolled back. -/
theorem commitPhase_error {opened : List (ι × Refusals ε)} {t t' : ι -> Nest D} {e : ε}
    (refused : commitPhase none opened t = (.error e, t')) :
    ∃ committed b rolledBack, opened = committed ++ b :: rolledBack ∧
      (∀ c ∈ committed, c.2.commit = none) ∧ b.2.commit = some e ∧
      t' = undoAll rolledBack (popAll (committed ++ [b]) t) := by
  induction opened generalizing t with
  | nil => cases refused
  | cons c rest ih =>
    obtain ⟨i, r⟩ := c
    rw [commitPhase] at refused
    simp only [Option.isSome_none, Bool.false_eq_true, ↓reduceIte] at refused
    cases h : r.commit with
    | none =>
      rw [h] at refused
      obtain ⟨committed, b, rolledBack, split, passed, refusal, rfl⟩ := ih refused
      refine ⟨(i, r) :: committed, b, rolledBack, by rw [split]; rfl, ?_, refusal, rfl⟩
      intro c mem
      rcases List.mem_cons.mp mem with rfl | earlier
      · exact h
      · exact passed c earlier
    | some e' =>
      rw [h, commitPhase_some] at refused
      cases refused
      exact ⟨[], (i, r), rest, rfl, by simp, h, rfl⟩

/-- How a failed transaction may leave distinct backends, from `s` to `s'`
with the error `e`.  Either a begin was refused and nothing changed; or the
work failed, and each backend is back to its store from before unless its
rollback was refused; or a commit was refused: the backends committed before
it, begun after it, keep the work, as does the refused one, and those after
it are rolled back. -/
def Failed {α : Type} (backends : List (ι × Refusals ε)) (act : TxM ι D ε α)
    (s s' : ι -> Nest D) (e : ε) : Prop :=
  s' = s ∨
  (∃ s₂, act.run.run (pushAll backends s) = (.error e, s₂) ∧
    ∀ b ∈ backends, (s' b.1).store = b.2.rolledBack (s b.1).store (s₂ b.1).store) ∨
  (∃ result s₂ committed b rolledBack, backends.reverse = committed ++ b :: rolledBack ∧
    act.run.run (pushAll backends s) = (.ok result, s₂) ∧
    (∀ c ∈ committed, c.2.commit = none) ∧ b.2.commit = some e ∧
    (∀ c ∈ b :: committed, (s' c.1).store = (s₂ c.1).store) ∧
    ∀ c ∈ rolledBack, (s' c.1).store = c.2.rolledBack (s c.1).store (s₂ c.1).store)

theorem inTransaction_error {α : Type} {backends : List (ι × Refusals ε)} {act : TxM ι D ε α}
    (distinct : (backends.map Prod.fst).Nodup) (balanced : Balanced act) {s s' : ι -> Nest D}
    {e : ε} (ran : (inTransaction backends act).run.run s = (.error e, s')) :
    Failed backends act s s' e := by
  rw [inTransaction_run] at ran
  rcases began : beginPhase backends [] s with ⟨_ | opened, s₁⟩
  · rw [began] at ran
    cases ran
    exact Or.inl (@beginPhase_error _ _ _ _ backends [] s _ _ began)
  obtain ⟨rfl, rfl⟩ := beginPhase_ok began
  rw [began, List.append_nil] at ran
  dsimp only at ran
  have reversed : (backends.reverse.map Prod.fst).Nodup := by
    rw [List.map_reverse, List.nodup_reverse]
    exact distinct
  have kept := balanced (pushAll backends s)
  rcases worked : act.run.run (pushAll backends s) with ⟨_ | result, s₂⟩
  all_goals rw [worked] at ran kept
  · cases ran
    refine Or.inr (Or.inl ⟨s₂, worked, fun b mem => ?_⟩)
    unfold undoAll
    rw [changeEach_of_mem reversed (List.mem_reverse.mpr mem)]
    exact undo_after_work distinct kept mem
  · dsimp only at ran
    rcases committed : commitPhase none backends.reverse s₂ with ⟨_ | _, s''⟩
    all_goals rw [committed] at ran
    all_goals cases ran
    obtain ⟨done, b, rest, split, passed, refusal, rfl⟩ := commitPhase_error committed
    have apart : ((done ++ [b]).map Prod.fst ++ rest.map Prod.fst).Nodup := by
      rw [← List.map_append, List.append_assoc, List.singleton_append, ← split]
      exact reversed
    obtain ⟨front, back, disjoint⟩ := List.nodup_append.mp apart
    refine Or.inr (Or.inr ⟨result, s₂, done, b, rest, split, worked, passed, refusal, ?_, ?_⟩)
    · intro c mem
      have ended : c ∈ done ++ [b] := by
        rcases List.mem_cons.mp mem with rfl | earlier
        · exact List.mem_append_right _ (List.mem_singleton_self _)
        · exact List.mem_append_left _ earlier
      have untouched : c.1 ∉ rest.map Prod.fst := fun later =>
        disjoint _ (List.mem_map_of_mem ended) _ later rfl
      unfold undoAll popAll
      rw [changeEach_of_not_mem untouched, changeEach_of_mem front ended]
      rfl
    · intro c mem
      have untouched : c.1 ∉ (done ++ [b]).map Prod.fst := fun ended =>
        disjoint _ ended _ (List.mem_map_of_mem mem) rfl
      have begun : c ∈ backends := by
        rw [← List.mem_reverse, split]
        exact List.mem_append_right _ (List.mem_cons_of_mem _ mem)
      unfold undoAll popAll
      rw [changeEach_of_mem back mem, changeEach_of_not_mem untouched]
      exact undo_after_work distinct kept begun

/-- A transaction over fallible backends ends every transaction it begins,
whatever is refused, and on success every backend keeps the store the work
left.  On failure distinct backends are left as `Failed` says. -/
theorem transaction_ends_and_commits {α : Type} (backends : List (ι × Refusals ε))
    {act : TxM ι D ε α} (balanced : Balanced act) (s : ι -> Nest D) :
    (∀ i, (((inTransaction backends act).run.run s).2 i).savepoints = (s i).savepoints) ∧
    (∀ result s', (inTransaction backends act).run.run s = (.ok result, s') ->
      ∃ s₂, act.run.run (pushAll backends s) = (.ok result, s₂) ∧
        ∀ i, (s' i).store = (s₂ i).store) ∧
    ((backends.map Prod.fst).Nodup -> ∀ e s',
      (inTransaction backends act).run.run s = (.error e, s') -> Failed backends act s s' e) :=
  ⟨inTransaction_savepoints backends balanced s, fun _ _ ran => inTransaction_ok ran,
    fun distinct _ _ ran => inTransaction_error distinct balanced ran⟩

/-! ### Backends that refuse nothing -/

/-- Begins that no backend refuses open a transaction on each. -/
theorem beginPhase_unrefused {backends : List (ι × Refusals ε)}
    (unrefused : ∀ b ∈ backends, b.2.begin = none) (opened : List (ι × Refusals ε))
    (s : ι -> Nest D) :
    beginPhase backends opened s = (.ok (backends.reverse ++ opened), pushAll backends s) := by
  induction backends generalizing opened s with
  | nil => rfl
  | cons b rest ih =>
    obtain ⟨i, r⟩ := b
    rw [beginPhase, unrefused (i, r) List.mem_cons_self]
    dsimp only
    rw [ih (fun b mem => unrefused b (List.mem_cons_of_mem _ mem))]
    simp [changeEach]

/-- Commits that no backend refuses end every transaction, keeping the
work. -/
theorem commitPhase_unrefused {opened : List (ι × Refusals ε)}
    (unrefused : ∀ b ∈ opened, b.2.commit = none) (s : ι -> Nest D) :
    commitPhase none opened s = (.ok (), popAll opened s) := by
  induction opened generalizing s with
  | nil => rfl
  | cons b rest ih =>
    obtain ⟨i, r⟩ := b
    rw [commitPhase, if_neg (by simp), unrefused (i, r) List.mem_cons_self]
    exact ih (fun b mem => unrefused b (List.mem_cons_of_mem _ mem)) _

/-- Rolling back distinct backends that refuse no rollback, after work that
kept their savepoints, puts back the store each had before the begins; every
other backend keeps the store the work left. -/
theorem store_undoAll_unrefused {backends : List (ι × Refusals ε)}
    (distinct : (backends.map Prod.fst).Nodup) (unrefused : ∀ b ∈ backends, b.2.rollback = none)
    {s t : ι -> Nest D} (kept : ∀ i, (t i).savepoints = (pushAll backends s i).savepoints)
    (i : ι) :
    (undoAll backends.reverse t i).store =
      if i ∈ backends.map Prod.fst then (s i).store else (t i).store := by
  have reversed : (backends.reverse.map Prod.fst).Nodup := by
    rw [List.map_reverse, List.nodup_reverse]
    exact distinct
  split
  · rename_i listed
    obtain ⟨⟨j, r⟩, mem, rfl⟩ := List.mem_map.mp listed
    unfold undoAll
    have restored : r.rollback = none := unrefused (j, r) mem
    rw [changeEach_of_mem reversed (List.mem_reverse.mpr mem), undo_after_work distinct kept mem]
    simp [Refusals.rolledBack, restored]
  · rename_i unlisted
    unfold undoAll
    rw [changeEach_of_not_mem (by rwa [List.map_reverse, List.mem_reverse])]

end Phases

/-! ## The world's transactions -/

/-- The world's engines as backends, each holding the whole world; `none`
stands for what the world keeps beside its engines. -/
def backendsOf (w : World) : Option Engine -> Nest World :=
  fun _ => { store := w }

/-- The world that backends keep: the database of the relational one, the
documents of the document one, and the rest as kept beside them. -/
def joined (t : Option Engine -> Nest World) : World :=
  { (t none).store with
    database := (t (some .relational)).store.database
    documents := (t (some .document)).store.documents }

/-- Work on the world as work on the backends: it runs on the world they
keep and leaves the world it makes in each of them. -/
def onBackends {α : Type} (act : WorldM α) : TxM (Option Engine) World Error α :=
  ExceptT.mk fun t =>
    ((act.run.run (joined t)).1, fun i => { t i with store := (act.run.run (joined t)).2 })

theorem onBackends_run {α : Type} (act : WorldM α) (t : Option Engine -> Nest World) :
    (onBackends act).run.run t =
      ((act.run.run (joined t)).1, fun i => { t i with store := (act.run.run (joined t)).2 }) :=
  rfl

/-- The backends of the engines a world transaction names, refusing nothing. -/
def guarded (engines : List Engine) : List (Option Engine × Refusals Error) :=
  engines.map fun e => (some e, {})

/-- The world's `transact` over distinct engines is a transaction over their
backends that refuses nothing, with the rest of the world kept beside them in
no transaction: the work fails, and every named engine's store is put back,
or it succeeds and the world keeps it. -/
theorem transact_as_inTransaction {α : Type} {engines : List Engine} (distinct : engines.Nodup)
    (act : WorldM α) (w : World) :
    Prod.map id joined ((inTransaction (guarded engines) (onBackends act)).run.run (backendsOf w)) =
      (transact engines act).run.run w := by
  have apart : ((guarded engines).map Prod.fst).Nodup := by
    simpa [guarded, Function.comp_def] using distinct.map fun _ _ same => Option.some.inj same
  have stores : ∀ i, (pushAll (guarded engines) (backendsOf w) i).store = w := fun i =>
    @store_changeEach _ _ Error _ (fun _ => Nest.push) (fun _ _ => rfl) _ (backendsOf w) i
  have start : joined (pushAll (guarded engines) (backendsOf w)) = w := by
    simp only [joined, stores]
  rw [inTransaction_run, beginPhase_unrefused (by simp [guarded]), List.append_nil]
  dsimp only
  rw [onBackends_run, start]
  rcases worked : act.run.run w with ⟨_ | a, w₁⟩
  · rename_i err
    rw [transact_run_error worked]
    dsimp only
    have undone := @store_undoAll_unrefused _ World Error _ (guarded engines) apart
      (by simp [guarded]) (backendsOf w)
      (fun i => { pushAll (guarded engines) (backendsOf w) i with store := w₁ }) (fun i => rfl)
    simp only [Prod.map, id, joined, undone]
    simp [guarded, backendsOf, apply_ite World.database, apply_ite World.documents]
  · have ended : (transact engines act).run.run w = (.ok a, w₁) := by
      unfold transact
      rw [runState_bind_ok (runState_get w), runState_tryCatch, worked]
    dsimp only
    rw [commitPhase_unrefused (by simp [guarded]), ended]
    have kept : ∀ i, (popAll (guarded engines).reverse
        (fun i => { pushAll (guarded engines) (backendsOf w) i with store := w₁ }) i).store = w₁ :=
      fun i => @store_changeEach _ _ Error _ (fun _ => Nest.pop) (fun _ _ => rfl) _ _ i
    simp only [Prod.map, id, joined, kept]

/-! ## Two backends, the first refusing its commit -/

/-- Two backends holding 0, of which the first begun refuses its commit. -/
def refusingFirst : List (Bool × Refusals String) :=
  [(false, { commit := some "refused" }), (true, {})]

/-- Work that sets every backend's store to 1. -/
def setOne : TxM Bool Nat String Unit :=
  modify fun t i => { t i with store := 1 }

/-- The second backend commits before the first refuses: the transaction
fails, and the second backend keeps the work. -/
theorem earlier_refused_commit_keeps_later_commit :
    ∃ s', (inTransaction refusingFirst setOne).run.run (fun _ => { store := 0 }) =
      (.error "refused", s') ∧ (s' true).store = 1 :=
  ⟨_, rfl, rfl⟩

theorem refused_commit_transaction_settles :
    Balanced setOne ∧
    ((∀ i, (((inTransaction refusingFirst setOne).run.run fun _ => { store := 0 }).2 i).savepoints =
        []) ∧
      (∀ result s', (inTransaction refusingFirst setOne).run.run (fun _ => { store := 0 }) =
          (.ok result, s') ->
        ∃ s₂, setOne.run.run (pushAll refusingFirst fun _ => { store := 0 }) = (.ok result, s₂) ∧
          ∀ i, (s' i).store = (s₂ i).store) ∧
      ((refusingFirst.map Prod.fst).Nodup -> ∀ e s',
        (inTransaction refusingFirst setOne).run.run (fun _ => { store := 0 }) = (.error e, s') ->
          Failed refusingFirst setOne (fun _ => { store := 0 }) s' e)) :=
  ⟨fun _ _ => rfl, transaction_ends_and_commits refusingFirst (fun _ _ => rfl) _⟩

end Nesting
end Refbook
