import Refbook.Proofs.Reads

namespace Refbook

/-!
# What a failed transaction puts back

A transaction names the engines whose stores it guards.  When its work
fails, it puts back the relational database and the document store of those
engines, as they were when it began, and rethrows the failure.  Nothing else
of the world is put back: the clock, the ids issued, the migration states and
the archive of evicted history snapshots stay as the work left them.

The last point matters for histories.  An update that evicts snapshots from
a record's history hands them to the archive at once; when a later step of
the same transaction fails, the record returns to its old version and old
history, while the archive keeps the snapshots it was given.
-/

/-- A transaction whose work fails puts back the stores of its engines and
keeps everything else the work left. -/
theorem transact_run_error {α : Type} {engines : List Engine} {act : WorldM α} {w w' : World}
    {err : Error} (fails : act.run.run w = (.error err, w')) :
    (transact engines act).run.run w =
      (.error err, { w' with
        database := if engines.contains .relational then w.database else w'.database
        documents := if engines.contains .document then w.documents else w'.documents }) := by
  unfold transact
  rw [runState_bind_ok (runState_get w), runState_tryCatch, fails]
  dsimp only
  rw [runState_bind_ok (runState_modify _ w')]
  rfl

/-- A transaction that ends is its work, ended. -/
theorem transact_ok {α : Type} {engines : List Engine} {act : WorldM α} {w w' : World} {a : α}
    (ended : (transact engines act).run.run w = (.ok a, w')) : act.run.run w = (.ok a, w') := by
  unfold transact at ended
  rw [runState_bind_ok (runState_get w), runState_tryCatch] at ended
  split at ended
  · rename_i worked
    cases ended
    exact worked
  · rw [runState_bind_ok (runState_modify _ _), runState_throw] at ended
    cases ended

/-- A transaction fails exactly when its work does, and then puts back the
stores of its engines in the world the work left. -/
theorem transact_error {α : Type} {engines : List Engine} {act : WorldM α} {w after : World}
    {err : Error} (fails : (transact engines act).run.run w = (.error err, after)) :
    ∃ mid, act.run.run w = (.error err, mid) ∧
      after = { mid with
        database := if engines.contains .relational then w.database else mid.database
        documents := if engines.contains .document then w.documents else mid.documents } := by
  rcases worked : act.run.run w with ⟨result, mid⟩
  cases result with
  | ok a =>
    unfold transact at fails
    rw [runState_bind_ok (runState_get w), runState_tryCatch, worked] at fails
    cases fails
  | error err' =>
    rw [transact_run_error worked] at fails
    cases fails
    exact ⟨mid, rfl, rfl⟩

/-- A transaction that fails has put back the stores of its engines. -/
theorem transact_error_restores {α : Type} {engines : List Engine} {act : WorldM α}
    {w w' : World} {err : Error} (ran : (transact engines act).run.run w = (.error err, w')) :
    (engines.contains .relational → w'.database = w.database) ∧
      (engines.contains .document → w'.documents = w.documents) := by
  obtain ⟨mid, -, rfl⟩ := transact_error ran
  exact ⟨fun guarded => if_pos guarded, fun guarded => if_pos guarded⟩

/-- A transaction whose work fails without touching the world fails the
same way. -/
theorem transact_error_of_kept {α : Type} {engines : List Engine} {act : WorldM α} {w : World}
    {err : Error} (fails : act.run.run w = (.error err, w)) :
    (transact engines act).run.run w = (.error err, w) := by
  rw [transact_run_error fails]
  simp only [ite_self]

end Refbook
