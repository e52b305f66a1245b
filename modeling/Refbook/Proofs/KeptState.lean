import Refbook.Proofs.Transactions

namespace Refbook

/-!
# What a computation keeps

Most of the world is left alone by most work: a script of statements about
dicts and records never touches the migration history, nor the states of
the migration targets, nor the clock.  Such facts are stated with `Keeps`,
the runs of `Runs` that say nothing of their failures: run from a state
where an invariant holds, the work leaves a state where it holds again and
whose view is unchanged, whether it ends or fails, and each answer it gives
satisfies a postcondition.

A computation that leaves some part of the state alone (`Leaves`) keeps
every invariant and view that depend on that part only.
-/
section Keeps

variable {σ ε α V : Type}

/-- Work that, from a state where `inv` holds, leaves a state where it holds
again and whose `view` is unchanged, whether the work ends or fails; an
answer it gives satisfies `post`. -/
abbrev Keeps (inv : σ → Prop) (view : σ → V) (post : α → Prop) (act : ExceptT ε (StateM σ) α) :
    Prop :=
  Runs inv view post (fun _ => True) act

namespace Keeps

variable {inv : σ → Prop} {view : σ → V} {post : α → Prop} {act : ExceptT ε (StateM σ) α}

theorem intro
    (keeps : ∀ s r s', inv s → act.run.run s = (r, s') →
      inv s' ∧ view s' = view s ∧ ∀ a, r = .ok a → post a) :
    Keeps inv view post act := by
  intro s r s' sound ran
  obtain ⟨sound', same, answered⟩ := keeps s r s' sound ran
  exact ⟨sound', same, answered, fun _ _ => trivial⟩

theorem run (keeps : Keeps inv view post act) {s s' : σ} {r : Except ε α} (sound : inv s)
    (ran : act.run.run s = (r, s')) : inv s' ∧ view s' = view s ∧ ∀ a, r = .ok a → post a := by
  obtain ⟨sound', same, answered, -⟩ := keeps s r s' sound ran
  exact ⟨sound', same, answered⟩

end Keeps

end Keeps

section Leaves

variable {σ ε α O : Type}

/-- Work that leaves `own` of the state as it was, whether it ends or
fails. -/
def Leaves (own : σ → O) (act : ExceptT ε (StateM σ) α) : Prop :=
  ∀ o, Keeps (fun s => own s = o) (fun _ => ()) (fun _ => True) act

namespace Leaves

variable {own : σ → O} {act : ExceptT ε (StateM σ) α}

theorem run (leaves : Leaves own act) {s s' : σ} {r : Except ε α}
    (ran : act.run.run s = (r, s')) : own s' = own s :=
  (leaves (own s) s r s' rfl ran).1

theorem stateless (reads : Stateless act) : Leaves own act :=
  fun _ => Runs.of_stateless reads

theorem modify {f : σ → σ} (same : ∀ s, own (f s) = own s) :
    Leaves own (modify f : ExceptT ε (StateM σ) PUnit) := by
  intro o s r s' kept ran
  rw [runState_modify] at ran
  cases ran
  exact ⟨(same s).trans kept, rfl, fun _ _ => trivial, fun _ _ => trivial⟩

/-- Work that leaves what an invariant and a view depend on keeps them. -/
theorem keeps {V : Type} {inv : σ → Prop} {view : σ → V} (leaves : Leaves own act)
    (depends : ∀ s s', own s' = own s → inv s → inv s' ∧ view s' = view s) :
    Keeps inv view (fun _ => True) act := by
  intro s r s' sound ran
  obtain ⟨sound', same⟩ := depends s s' (leaves.run ran) sound
  exact ⟨sound', same, fun _ _ => trivial, fun _ _ => trivial⟩

end Leaves

end Leaves

end Refbook
