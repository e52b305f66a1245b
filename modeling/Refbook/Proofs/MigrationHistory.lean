import Refbook.Proofs.HistoryStore
import Refbook.Proofs.VersionOrder

namespace Refbook
namespace Migration

/-!
# The migration history and the states of the targets agree

Every batch of migrations, ended or failed, leaves each target with a
history whose versions, in the order they were recorded, rise strictly, and
leaves the target listed as settled at the newest of them: without a schema
while it has none, up to date with the installed version otherwise, never
migrating (`history_consistent`).

A batch reads the installed version once, before its loop, and then keeps
its own copy, which it settles the target at on success and on failure.
That copy agrees with the history because the history changes only by the
rounds of the loop: each round that commits appends exactly the record of
its script, and a round that fails puts the stores back.  The scripts
themselves run statements on dicts and records, which leave the history, the
states and the clock alone (`Ddl.execute_keeps`).  The checks of the batch
make the pending scripts rise strictly and pass the installed version, so
each record appended is newer than all before it.

The invariant `Consistent` is stated once and shown to hold on a fresh
store and after every call of `applyPending` and `migrate`; the main
statement follows by induction over the worlds so reached.
-/

/-! ## Version order -/

namespace Version

theorem order_lt_of_isLE_of_lt {a b c : Version} (first : (a.order b).isLE)
    (second : b.order c = .lt) : a.order c = .lt := by
  rw [order_eq_compareLex] at first second ⊢
  exact Std.TransCmp.lt_of_isLE_of_lt first second

theorem order_lt_of_gt {a b : Version} (newer : a.order b = .gt) : b.order a = .lt := by
  rw [order_swap, newer]
  rfl

theorem order_gt_of_lt {a b : Version} (older : a.order b = .lt) : b.order a = .gt := by
  rw [order_swap, older]
  rfl

/-- Versions in order that are not the same are in strict order. -/
theorem order_lt_of_isLE {a b : Version} (first : (a.order b).isLE) (apart : a.same b = false) :
    a.order b = .lt := by
  cases ordered : a.order b
  · rfl
  · rw [order_eq_eq_iff.mp ordered] at apart
    cases apart
  · rw [ordered] at first
    cases first

theorem order_isLE_self (a : Version) : (a.order a).isLE := by
  rw [order_eq_eq_iff.mpr (same_self a)]
  rfl

/-- A version not older than another stands at or above it. -/
theorem order_isLE_of_not_lt {a b : Version} (notOlder : a.order b ≠ .lt) : (b.order a).isLE := by
  rw [order_swap]
  cases ordered : a.order b
  · exact absurd ordered notOlder
  · rfl
  · rfl

end Version

/-! ## The newest version -/

/-- The newest of some versions is at or above each of them: each step of
the fold keeps the best so far or takes a version not older, so the best so
far stands at or above every version seen. -/
theorem newest_bound {versions : List Version} {b : Version} (found : newest versions = some b) :
    ∀ v ∈ versions, (v.order b).isLE := by
  have bound : ∀ {step : Option Version → Version → Option Version}
      (first : ∀ v, step none v = some v)
      (turn : ∀ c v, (v.order c = .lt ∧ step (some c) v = some c) ∨
        (v.order c ≠ .lt ∧ step (some c) v = some v))
      (vs : List Version) (best : Option Version), vs.foldl step best = some b →
      (∀ c, best = some c → (c.order b).isLE) ∧ ∀ v ∈ vs, (v.order b).isLE := by
    intro step first turn vs
    induction vs with
    | nil =>
      intro best ended
      rw [List.foldl_nil] at ended
      refine ⟨fun c start => ?_, fun v mem => by cases mem⟩
      rw [ended] at start
      cases start
      exact Version.order_isLE_self _
    | cons v rest ih =>
      intro best ended
      obtain ⟨stepped, later⟩ := ih _ ended
      have taken : ∀ c, best = some c → (c.order b).isLE ∧ (v.order b).isLE := by
        intro c start
        subst start
        rcases turn c v with ⟨older, kept⟩ | ⟨notOlder, took⟩
        · have atBest := stepped c kept
          exact ⟨atBest, Version.order_isLE_trans (by rw [older]; rfl) atBest⟩
        · have atNew := stepped v took
          exact ⟨Version.order_isLE_trans (Version.order_isLE_of_not_lt notOlder) atNew, atNew⟩
      refine ⟨fun c start => (taken c start).1, fun x mem => ?_⟩
      rcases List.mem_cons.mp mem with rfl | mem
      · cases best with
        | none => exact stepped x (first x)
        | some c => exact (taken c rfl).2
      · exact later x mem
  unfold newest at found
  refine (bound (fun v => rfl) (fun c v => ?_) versions none found).2
  dsimp only
  split
  · exact .inl ⟨‹_›, rfl⟩
  · exact .inr ⟨‹_›, rfl⟩

/-- A version newer than the newest of some versions is the newest of them
and it. -/
theorem newest_append {versions : List Version} {v : Version}
    (newer : ∀ b, newest versions = some b → v.order b = .gt) :
    newest (versions ++ [v]) = some v := by
  unfold newest at newer ⊢
  rw [List.foldl_append, List.foldl_cons, List.foldl_nil]
  generalize versions.foldl _ none = best at newer ⊢
  cases best with
  | none => rfl
  | some b =>
    dsimp only
    rw [if_neg (by rw [newer b rfl]; decide)]

/-- Some versions have a newest exactly when there is one. -/
theorem newest_eq_none {versions : List Version} : newest versions = none ↔ versions = [] := by
  refine ⟨fun missing => ?_, fun empty => by rw [empty]; rfl⟩
  have answers : ∀ {step : Option Version → Version → Option Version}
      (always : ∀ best v, step best v ≠ none) (vs : List Version) (best : Option Version),
      best ≠ none → vs.foldl step best ≠ none := by
    intro step always vs
    induction vs with
    | nil => exact fun best given => given
    | cons v rest ih => exact fun best _ => ih _ (always best v)
  cases versions with
  | nil => rfl
  | cons v rest =>
    unfold newest at missing
    rw [List.foldl_cons] at missing
    refine absurd missing (answers (fun best x => ?_) rest _ (by simp))
    split
    · split <;> simp
    · simp

/-! ## What the world lists a target at -/

theorem state_run (target : String) (w : World) :
    (state target).run.run w = (.ok ((w.states.lookup target).getD .noSchema), w) := rfl

/-- Setting the state of entries of one name in place. -/
theorem lookup_map_set (states : List (String × MigrationState)) (target t : String)
    (s : MigrationState) :
    (states.map fun (n, old) => if n = target then (n, s) else (n, old)).lookup t =
      (states.lookup t).map fun old => if t = target then s else old := by
  induction states with
  | nil => rfl
  | cons entry rest ih =>
    obtain ⟨n, old⟩ := entry
    by_cases named : t = n
    · subst named
      by_cases chosen : t = target <;> simp [chosen]
    · have differ : (t == n) = false := by simpa using named
      have stays : ((if n = target then (n, s) else (n, old)).1) = n := by split <;> rfl
      rw [List.map_cons, List.lookup_cons, List.lookup_cons]
      simp only [stays, differ]
      exact ih

/-- Setting a target's state lists it at that state and leaves every other
target as it was. -/
theorem setState_lookup (target : String) (s : MigrationState) (w : World) (t : String) :
    ((setState target s).run.run w).2.states.lookup t =
      if t = target then some s else w.states.lookup t := by
  unfold setState
  rw [runState_modify]
  dsimp only
  split
  · rename_i listed
    rw [lookup_map_set]
    by_cases chosen : t = target
    · subst chosen
      obtain ⟨old, found⟩ : ∃ old, w.states.lookup t = some old := by
        obtain ⟨entry, mem, named⟩ := List.any_eq_true.mp listed
        have same : entry.1 = t := by simpa using named
        exact Option.isSome_iff_exists.mp
          (List.lookup_isSome_iff.mpr ⟨entry, mem, by simp [same]⟩)
      simp [found]
    · simp [chosen]
  · rename_i unlisted
    rw [List.lookup_append]
    by_cases chosen : t = target
    · subst chosen
      have absent : w.states.lookup t = none := by
        refine List.lookup_eq_none_iff.mpr fun entry mem => ?_
        have other : entry.1 ≠ t := fun same =>
          unlisted (List.any_eq_true.mpr ⟨entry, mem, by simpa using same⟩)
        simpa using Ne.symm other
      simp [absent]
    · have differ : (t == target) = false := by simpa using chosen
      rw [List.lookup_cons, differ, if_neg chosen]
      cases w.states.lookup t <;> rfl

/-- Setting a target's state changes nothing but the states. -/
theorem setState_kept (target : String) (s : MigrationState) (w : World) :
    ((setState target s).run.run w).2 = { w with states := ((setState target s).run.run w).2.states } :=
  rfl

/-! ## The invariant -/

/-- The versions the rows of a target record, in the order they were
recorded, read back. -/
def recordedVersions (rows : List Applied) (target : String) : Except Error (List Version) :=
  (rows.filter (·.target == target)).mapM fun row => Version.parse row.version

/-- The rows of a target record versions that read back and rise strictly,
and the world lists the target settled at the newest of them. -/
def Settles (w : World) (rows : List Applied) (target : String) : Prop :=
  ∃ versions, recordedVersions rows target = .ok versions ∧
    versions.Pairwise (fun a b => a.order b = .lt) ∧
    (w.states.lookup target).getD .noSchema = settled (newest versions)

/-- The default engine's own stores stand and its history holds `rows`, each
installed at the world's clock, which is a valid time. -/
structure Recorded (w : World) (rows : List Applied) : Prop where
  sound : w.defaultEngine.OwnSound w
  holds : w.defaultEngine.Holds w rows
  clock : w.clock.Valid
  stamped : ∀ row ∈ rows, row.installed = w.clock

/-- The history of every target agrees with what the world lists it at. -/
def Consistent (w : World) : Prop :=
  ∃ rows, Recorded w rows ∧ ∀ target, Settles w rows target

/-- The history a recorded world reads for a target: the versions of the
target's rows, in the order they were recorded. -/
theorem Recorded.history {w : World} {rows : List Applied} (recorded : Recorded w rows)
    {target : String} {versions : List Version} (read : recordedVersions rows target = .ok versions) :
    ∃ found, History w target found versions ∧
      found.map Applied.version = (rows.filter (·.target == target)).map Applied.version := by
  obtain ⟨found, ran, same⟩ :=
    Engine.versions_run recorded.holds recorded.stamped recorded.clock target
  refine ⟨found, ⟨ran, ?_⟩, same⟩
  have parsed : found.mapM (fun row => Version.parse row.version) =
      (found.map Applied.version).mapM Version.parse := by
    rw [List.mapM_map]
    rfl
  rw [parsed, same, List.mapM_map]
  exact read

/-- What a recorded world holds depends on its default engine, its stores
and its clock only. -/
theorem Recorded.of_stores {u v : World} {rows : List Applied} (recorded : Recorded u rows)
    (engine : v.defaultEngine = u.defaultEngine) (database : v.database = u.database)
    (documents : v.documents = u.documents) (clock : v.clock = u.clock) : Recorded v rows := by
  obtain ⟨sound, holds, valid, stamped⟩ := recorded
  refine ⟨?_, ?_, clock ▸ valid, fun row mem => clock ▸ stamped row mem⟩
  · rw [engine]
    cases E : u.defaultEngine with
    | relational =>
      rw [E] at sound
      exact ⟨engine.trans E, database ▸ sound.2⟩
    | document =>
      rw [E] at sound
      exact ⟨engine.trans E, documents ▸ sound.2⟩
  · rw [engine]
    cases E : u.defaultEngine with
    | relational =>
      rw [E] at holds
      show Relational.HistoryHolds v.database rows
      exact database ▸ holds
    | document =>
      rw [E] at holds
      show Document.HistoryHolds v.documents rows
      exact documents ▸ holds

/-- A target's agreement depends on what the world lists it at only. -/
theorem Settles.of_lookup {u v : World} {rows : List Applied} {target : String}
    (settles : Settles u rows target) (same : v.states.lookup target = u.states.lookup target) :
    Settles v rows target := by
  obtain ⟨versions, read, ascending, standing⟩ := settles
  exact ⟨versions, read, ascending, by rw [same]; exact standing⟩

/-- A row of another target leaves the versions a target records alone. -/
theorem recordedVersions_append_other {rows : List Applied} {row : Applied} {target : String}
    (other : row.target ≠ target) :
    recordedVersions (rows ++ [row]) target = recordedVersions rows target := by
  have dropped : (row.target == target) = false := by simpa using other
  simp [recordedVersions, List.filter_append, dropped]

/-- A row of the target adds its version last. -/
theorem recordedVersions_append_self {rows : List Applied} {row : Applied} {target : String}
    {versions : List Version} {v : Version} (own : row.target = target)
    (parsed : Version.parse row.version = .ok v) (read : recordedVersions rows target = .ok versions) :
    recordedVersions (rows ++ [row]) target = .ok (versions ++ [v]) := by
  have kept : (row.target == target) = true := by simpa using own
  unfold recordedVersions at read ⊢
  rw [List.filter_append, List.filter_cons, if_pos kept, List.filter_nil, List.mapM_append, read]
  simp only [List.mapM_cons, List.mapM_nil, parsed]
  rfl

/-! ## A script's round -/

theorem ownView_states {E : Engine} {u v : World} (same : E.ownView v = E.ownView u) :
    v.states = u.states ∧ v.clock = u.clock := by
  cases E <;> simp only [Engine.ownView, Prod.mk.injEq] at same <;> exact ⟨same.2.1, same.2.2⟩

/-- Work that keeps the default engine's own stores and view, followed by
the record of a migration: when both end, the history gains the record. -/
theorem record_after_run {E : Engine} {x : WorldM Unit} {row : Applied} {u v : World}
    {rows : List Applied} {r : Except Error Unit}
    (keeps : Keeps E.OwnSound E.ownView (fun _ => True) x) (sound : E.OwnSound u)
    (holds : E.Holds u rows) (ran : (x >>= fun _ => E.recordVersion row).run.run u = (r, v)) :
    E.OwnSound v ∧ v.states = u.states ∧ v.clock = u.clock ∧
      ((r = .ok () ∧ E.Holds v (rows ++ [row])) ∨ ∃ e, r = .error e) := by
  rw [runState_bind] at ran
  rcases first : x.run.run u with ⟨result, u₁⟩
  obtain ⟨sound₁, same₁, -⟩ := keeps u result u₁ sound first
  obtain ⟨states₁, clock₁⟩ := ownView_states same₁
  rw [first] at ran
  cases result with
  | error e =>
    cases ran
    exact ⟨sound₁, states₁, clock₁, .inr ⟨e, rfl⟩⟩
  | ok _ =>
    rcases Engine.recordVersion_run sound₁ (Engine.Holds.of_view same₁ holds) ran with
      ⟨failed, rfl⟩ | ⟨ok, sound', grown, states, clock⟩
    · exact ⟨sound₁, states₁, clock₁, .inr failed⟩
    · exact ⟨sound', states.trans states₁, clock.trans clock₁, .inl ⟨ok, grown⟩⟩

/-- A script that runs to the end appends the record of its run to the
history; one that fails leaves the history as it was.  Either way the
states of the targets are kept. -/
theorem applyScript_recorded {target : String} {script : Script} {u v : World}
    {rows : List Applied} {r : Except Error Applied} (recorded : Recorded u rows)
    (ran : (applyScript target script).run.run u = (r, v)) :
    v.states = u.states ∧
      ((∃ row, r = .ok row ∧ row.Of target script ∧ Recorded v (rows ++ [row])) ∨
        ((∃ e, r = .error e) ∧ Recorded v rows)) := by
  unfold applyScript at ran
  obtain ⟨id, issued⟩ := freshId_run u
  rw [runState_bind_ok issued, runState_bind_ok (show now.run.run _ = (.ok _, _) from rfl)] at ran
  dsimp only at ran
  rw [runState_bind_ok (show defaultEngine.run.run _ = (.ok _, _) from rfl), runState_bind] at ran
  have recorded₁ : Recorded { u with issued := u.issued + 1 } rows :=
    recorded.of_stores rfl rfl rfl rfl
  have work : Keeps u.defaultEngine.OwnSound u.defaultEngine.ownView (fun _ => True)
      (liftExcept (Ddl.parseScript script.text) >>= Ddl.execute) :=
    Runs.bind (liftExcept_runs (fun _ found => found) fun _ _ => trivial) fun statements _ => Ddl.execute_keeps statements
  split at ran
  next done v₁ committed =>
    have inner := transact_ok committed
    rw [← bind_assoc] at inner
    obtain ⟨sound', states', clock', outcome⟩ :=
      record_after_run work recorded₁.sound recorded₁.holds inner
    obtain ⟨-, grown⟩ : _ ∧ _ := outcome.resolve_right fun failed => by
      obtain ⟨_, failed⟩ := failed
      cases failed
    cases ran
    refine ⟨states', .inl ⟨_, rfl, ⟨rfl, rfl, rfl, rfl⟩, ?_⟩⟩
    have engine := sound'.defaultEngine
    refine ⟨by rw [engine]; exact sound', by rw [engine]; exact grown, clock' ▸ recorded.clock,
      fun row mem => ?_⟩
    rw [clock']
    rcases List.mem_append.mp mem with old | new
    · exact recorded.stamped row old
    · rw [List.mem_singleton.mp new]
  next e v₁ failed =>
    cases ran
    obtain ⟨mid, inner, rfl⟩ := transact_error failed
    rw [← bind_assoc] at inner
    obtain ⟨sound', states', clock', -⟩ :=
      record_after_run work recorded₁.sound recorded₁.holds inner
    refine ⟨states', .inr ⟨⟨e, rfl⟩, recorded₁.of_stores sound'.defaultEngine ?_ ?_ clock'⟩⟩ <;>
      rfl

/-! ## A target's batch -/

/-- A world in the middle of a target's batch: the history holds `rows`,
every other target agrees with it, and `installed` is the newest of the
versions the target's rows record, which rise strictly. -/
structure Midway (w : World) (rows : List Applied) (target : String) (installed : Option Version) :
    Prop where
  recorded : Recorded w rows
  others : ∀ t, t ≠ target → Settles w rows t
  rising : ∃ versions, recordedVersions rows target = .ok versions ∧
    versions.Pairwise (fun a b => a.order b = .lt) ∧ installed = newest versions

section Batch

variable {target : String} {rows : List Applied} {installed : Option Version}

/-- Setting the target's state keeps a batch midway. -/
theorem Midway.restate {w : World} (mid : Midway w rows target installed) (s : MigrationState) :
    Midway ((setState target s).run.run w).2 rows target installed :=
  ⟨mid.recorded.of_stores rfl rfl rfl rfl,
    fun t other => (mid.others t other).of_lookup (by rw [setState_lookup, if_neg other]),
    mid.rising⟩

/-- Settling the target at the installed version ends a batch in a
consistent world. -/
theorem Midway.settle {w : World} (mid : Midway w rows target installed) :
    Consistent ((setState target (settled installed)).run.run w).2 := by
  refine ⟨rows, mid.recorded.of_stores rfl rfl rfl rfl, fun t => ?_⟩
  by_cases chosen : t = target
  · subst chosen
    obtain ⟨versions, read, rising, rfl⟩ := mid.rising
    refine ⟨versions, read, rising, ?_⟩
    rw [setState_lookup, if_pos rfl]
    rfl
  · exact (mid.others t chosen).of_lookup (by rw [setState_lookup, if_neg chosen])

/-- One round of the batch.  A script newer than the installed version that
runs to the end records it, and becomes the installed version; a script
that fails leaves the batch where it was. -/
theorem round_midway {script : Script} {u v : World} {r : Except Error Applied}
    (formed : script.version.WellFormed) (newer : ∀ c, installed = some c → script.version.order c = .gt)
    (mid : Midway u rows target installed)
    (ran : (do setState target .migrating; applyScript target script).run.run u = (r, v)) :
    (∀ row, r = .ok row → Midway v (rows ++ [row]) target (some script.version)) ∧
      (∀ e, r = .error e → Midway v rows target installed) := by
  rw [runState_bind_ok (setState_run target .migrating u)] at ran
  have mid₁ := mid.restate .migrating
  obtain ⟨states, outcome⟩ := applyScript_recorded mid₁.recorded ran
  have others : ∀ rows', (∀ t, t ≠ target → recordedVersions rows' t = recordedVersions rows t) →
      ∀ t, t ≠ target → Settles v rows' t := by
    intro rows' same t other
    obtain ⟨versions, read, rising, standing⟩ := mid₁.others t other
    exact ⟨versions, (same t other).trans read, rising, by rw [states]; exact standing⟩
  rcases outcome with ⟨row, rfl, written, recorded⟩ | ⟨⟨e, rfl⟩, recorded⟩
  · refine ⟨fun row' same => ?_, fun _ never => (by cases never)⟩
    cases same
    obtain ⟨versions, read, rising, rfl⟩ := mid.rising
    have parsed : Version.parse row.version = .ok script.version := by
      rw [written.version_eq]
      exact Version.parse_text formed
    have below : ∀ a ∈ versions, a.order script.version = .lt := by
      intro a mem
      cases found : newest versions with
      | none => rw [newest_eq_none.mp found] at mem; cases mem
      | some c =>
        exact Version.order_lt_of_isLE_of_lt (newest_bound found a mem)
          (Version.order_lt_of_gt (newer c found))
    refine ⟨recorded, others _ fun t other => ?_, versions ++ [script.version],
      recordedVersions_append_self written.target_eq parsed read, ?_, ?_⟩
    · exact recordedVersions_append_other (by rw [written.target_eq]; exact Ne.symm other)
    · exact List.pairwise_append.mpr ⟨rising, List.pairwise_singleton _ _,
        fun a mem b single => by rw [List.mem_singleton.mp single]; exact below a mem⟩
    · exact (newest_append newer).symm
  · exact ⟨fun _ never => (by cases never), fun _ _ => ⟨recorded, others rows fun _ _ => rfl, mid.rising⟩⟩

variable {f : List Applied × Option Version → Script → WorldM (List Applied × Option Version)}

/-- The loop over the pending scripts, which rise strictly and pass the
installed version: when it ends the batch is midway at the version it
reached, and when it fails the world is consistent, the failing round having
settled the target. -/
theorem loop_midway (round : IsRound target f) {scripts : List Script}
    (formed : ∀ s ∈ scripts, s.version.WellFormed)
    (rising : scripts.Pairwise fun a b => a.version.order b.version = .lt)
    {applied : List Applied} {u u' : World} {r : Except Error (List Applied × Option Version)}
    (mid : Midway u rows target installed)
    (newer : ∀ s ∈ scripts, ∀ c, installed = some c → s.version.order c = .gt)
    (ran : (scripts.foldlM f (applied, installed)).run.run u = (r, u')) :
    (∀ applied' reached, r = .ok (applied', reached) → ∃ rows', Midway u' rows' target reached) ∧
      (∀ e, r = .error e → Consistent u') := by
  induction scripts generalizing applied installed u rows with
  | nil =>
    cases ran
    exact ⟨fun _ _ same => (by cases same; exact ⟨rows, mid⟩), fun _ never => by cases never⟩
  | cons script rest ih =>
    rw [List.foldlM_cons, runState_bind] at ran
    rcases first : (f (applied, installed) script).run.run u with ⟨result, u₁⟩
    rw [first] at ran
    cases result with
    | error e =>
      cases ran
      refine ⟨fun _ _ never => (by cases never), fun _ _ => ?_⟩
      obtain ⟨cause, v, failed, -, rfl⟩ := round_error round first
      exact ((round_midway (formed script List.mem_cons_self) (newer script List.mem_cons_self)
        mid failed).2 cause rfl).settle
    | ok next =>
      obtain ⟨row, committed, rfl⟩ := round_ok round first
      have mid₁ := (round_midway (formed script List.mem_cons_self)
        (newer script List.mem_cons_self) mid committed).1 row rfl
      refine ih (fun s mem => formed s (List.mem_cons_of_mem script mem)) rising.of_cons mid₁
        (fun s mem c reached => ?_) ran
      cases reached
      exact Version.order_gt_of_lt (List.rel_of_pairwise_cons rising mem)

end Batch

/-! ## The checks of a batch -/

/-- Scripts in version order of which no two neighbours share a version rise
strictly. -/
theorem ascending_of_apart {ordered : List Script}
    (sorted : ordered.Pairwise fun a b => (a.version.order b.version).isLE)
    (apart : ∀ pair ∈ ordered.zip ordered.tail, pair.1.version.same pair.2.version = false) :
    ordered.Pairwise fun a b => a.version.order b.version = .lt := by
  induction ordered with
  | nil => exact List.Pairwise.nil
  | cons a rest ih =>
    cases rest with
    | nil => exact List.pairwise_singleton _ _
    | cons c more =>
      have zipped : (a :: c :: more).zip (c :: more) = (a, c) :: (c :: more).zip more := rfl
      have later := ih sorted.of_cons fun pair mem => apart pair (by
        rw [List.tail_cons, zipped]
        exact List.mem_cons_of_mem _ mem)
      have first : a.version.order c.version = .lt :=
        Version.order_lt_of_isLE (List.rel_of_pairwise_cons sorted List.mem_cons_self)
          (apart (a, c) (by rw [List.tail_cons, zipped]; exact List.mem_cons_self))
      refine List.Pairwise.cons (fun b mem => ?_) later
      rcases List.mem_cons.mp mem with rfl | mem
      · exact first
      · exact Version.order_lt_of_isLE_of_lt (by rw [first]; rfl)
          (List.rel_of_pairwise_cons later mem)

/-- A batch that passes the check for shared versions rises strictly in
version order. -/
theorem checkDistinct_ascending {scripts : List Script}
    (distinct : checkDistinct target (orderByVersion Script.version scripts) = .ok ()) :
    (orderByVersion Script.version scripts).Pairwise
      fun a b => a.version.order b.version = .lt := by
  refine ascending_of_apart (orderByVersion_sorted scripts) fun pair mem => ?_
  unfold checkDistinct at distinct
  split at distinct
  · cases distinct
  · rename_i none
    have missed := List.find?_eq_none.mp none pair mem
    simpa using missed

/-- A fold that keeps some members, in order, each with a property. -/
theorem foldlM_sublist {α ε : Type} {step : List α → α → Except ε (List α)} {p : α → Prop}
    (each : ∀ acc x next, step acc x = .ok next → next = acc ∨ (next = acc ++ [x] ∧ p x)) :
    ∀ {xs acc kept : List α}, xs.foldlM step acc = .ok kept →
      ∃ more, kept = acc ++ more ∧ more.Sublist xs ∧ ∀ x ∈ more, p x := by
  intro xs
  induction xs with
  | nil =>
    intro acc kept done
    cases done
    exact ⟨[], by rw [List.append_nil], List.Sublist.slnil, fun x mem => by cases mem⟩
  | cons x rest ih =>
    intro acc kept done
    rw [List.foldlM_cons] at done
    obtain ⟨next, stepped, later⟩ := Sql.except_bind_ok done
    obtain ⟨more, rfl, sub, holds⟩ := ih later
    rcases each acc x next stepped with rfl | ⟨rfl, px⟩
    · exact ⟨more, rfl, sub.cons x, holds⟩
    · refine ⟨x :: more, by rw [List.append_assoc, List.singleton_append], sub.cons_cons x, ?_⟩
      intro y mem
      rcases List.mem_cons.mp mem with rfl | mem
      · exact px
      · exact holds y mem

/-- The pending scripts are scripts of the batch, in its order, each newer
than the installed version. -/
theorem pendingScripts_ok {history : List Applied} {installed : Option Version}
    {ordered pending : List Script} (checked : pendingScripts target history installed ordered = .ok pending) :
    pending.Sublist ordered ∧ ∀ s ∈ pending, ∀ c, installed = some c → s.version.order c = .gt := by
  unfold pendingScripts at checked
  suffices walk : ∃ more, pending = [] ++ more ∧ more.Sublist ordered ∧
      ∀ s ∈ more, ∀ c, installed = some c → s.version.order c = .gt by
    obtain ⟨more, rfl, sub, newer⟩ := walk
    exact ⟨by simpa using sub, by simpa using newer⟩
  refine foldlM_sublist (fun acc s next stepped => ?_) checked
  split at stepped
  · split at stepped
    · cases stepped
    · cases stepped
      exact .inl rfl
  · split at stepped
    · cases stepped
    · rename_i current _ notOlder
      cases stepped
      refine .inr ⟨rfl, fun c same => ?_⟩
      cases same
      simpa using notOlder
  · cases stepped
    exact .inr ⟨rfl, fun c never => by cases never⟩

/-! ## Batches keep the world consistent -/

/-- A batch of well-formed scripts for one target keeps the world
consistent, whether it ends, is refused by its checks, or fails on a
script. -/
theorem applyPending_keeps {target : String} {scripts : List Script}
    (formed : ∀ s ∈ scripts, s.version.WellFormed) :
    Keeps Consistent (fun _ => ()) (fun _ => True) (applyPending target scripts) := by
  refine Keeps.intro fun w r w' consistent ran => ?_
  refine ⟨?_, rfl, fun _ _ => trivial⟩
  obtain ⟨rows, recorded, settles⟩ := consistent
  obtain ⟨versions, read, rising, -⟩ := settles target
  obtain ⟨found, history, -⟩ := recorded.history read
  unfold applyPending at ran
  dsimp only at ran
  cases distinct : checkDistinct target (orderByVersion Script.version scripts) with
  | error e =>
    rw [runState_bind, liftExcept_run, distinct] at ran
    cases ran
    exact ⟨rows, recorded, settles⟩
  | ok _ =>
  rw [runState_bind_ok (by rw [liftExcept_run, distinct]),
    runState_bind_ok (show defaultEngine.run.run w = (.ok w.defaultEngine, w) from rfl),
    runState_bind_ok history.read, runState_bind_ok (installedVersion_of_history history)] at ran
  cases checked : pendingScripts target found (newest versions)
      (orderByVersion Script.version scripts) with
  | error e =>
    rw [runState_bind, liftExcept_run, checked] at ran
    cases ran
    exact ⟨rows, recorded, settles⟩
  | ok pending =>
  rw [runState_bind_ok (by rw [liftExcept_run, checked]), runState_bind] at ran
  obtain ⟨sub, newer⟩ := pendingScripts_ok checked
  have ascending := (checkDistinct_ascending distinct).sublist sub
  have formedPending : ∀ s ∈ pending, s.version.WellFormed :=
    fun s mem => formed s (mem_orderByVersion.mp (sub.subset mem))
  have mid : Midway w rows target (newest versions) :=
    ⟨recorded, fun t _ => settles t, versions, read, rising, rfl⟩
  split at ran
  next result u loop =>
    obtain ⟨applied, reached⟩ := result
    obtain ⟨rows', mid'⟩ := (loop_midway (by exact fun _ _ _ => rfl) formedPending ascending mid
      newer loop).1 applied reached rfl
    dsimp only at ran
    rw [runState_bind_ok (setState_run target (settled reached) u)] at ran
    cases ran
    exact mid'.settle
  next e u loop =>
    cases ran
    exact (loop_midway (by exact fun _ _ _ => rfl) formedPending ascending mid newer loop).2 e rfl

/-- Migrating well-formed scripts, target by target, keeps the world
consistent. -/
theorem migrate_keeps {scripts : List Script} (formed : ∀ s ∈ scripts, s.version.WellFormed) :
    Keeps Consistent (fun _ => ()) (fun _ => True) (migrate scripts) := by
  unfold migrate
  refine Runs.bind (Runs.mapM fun target _ => applyPending_keeps fun s mem => ?_)
    fun _ _ => Runs.pure trivial
  exact formed s (List.mem_filter.mp mem).1

/-- A session starts from a consistent world: the history is empty and no
target has a state. -/
theorem start_consistent {available : List String} {defaultName : String} {retention : Retention}
    {archive : Bool} {clock : Temporal.Timestamp} {w : World} (valid : clock.Valid)
    (started : World.start available defaultName retention archive clock = .ok w) :
    Consistent w := by
  have empty : ∀ u : World, u.states = [] → Recorded u [] → Consistent u :=
    fun u none recorded => ⟨[], recorded, fun t => ⟨[], rfl, List.Pairwise.nil, by rw [none]; rfl⟩⟩
  unfold World.start at started
  simp only [bind, Except.bind] at started
  split at started
  · cases started
  split at started
  · cases started
  split at started
  · cases started
  rename_i E found
  cases E
  · have made : Except.ok w = Except.ok
        ({ defaultEngine := .relational, retention, clock,
           archive := if archive = true then some [] else none,
           database := { tables := [{ name := "dict", columns := Relational.dictColumns },
             Relational.versionTable []] } } : World) :=
      started.symm.trans rfl
    cases made
    exact empty _ rfl ⟨⟨rfl, ⟨_, rfl, rfl, fun _ never => by cases never⟩, rfl⟩, rfl, valid,
      fun _ never => by cases never⟩
  · have made : Except.ok w = Except.ok
        ({ defaultEngine := .document, retention, clock,
           archive := if archive = true then some [] else none,
           documents := { collections := [("dict", []), ("version_scheme", [])] } } : World) :=
      started.symm.trans rfl
    cases made
    exact empty _ rfl ⟨⟨rfl, ⟨⟨[], rfl, fun _ never => by cases never⟩, rfl⟩⟩, rfl, valid,
      fun _ never => by cases never⟩

/-! ## Every reachable world is consistent -/

/-- The worlds a session reaches from its start by running batches of
well-formed scripts, for all their targets or for one, whether the batches
end or fail. -/
inductive Reachable : World → Prop
  | start {available : List String} {defaultName : String} {retention : Retention}
      {archive : Bool} {clock : Temporal.Timestamp} {w : World} (valid : clock.Valid)
      (started : World.start available defaultName retention archive clock = .ok w) : Reachable w
  | migrated {w w' : World} {scripts : List Script} {r : Except Error (List Applied)}
      (reached : Reachable w) (formed : ∀ s ∈ scripts, s.version.WellFormed)
      (ran : (migrate scripts).run.run w = (r, w')) : Reachable w'
  | applied {w w' : World} {target : String} {scripts : List Script}
      {r : Except Error (List Applied)} (reached : Reachable w)
      (formed : ∀ s ∈ scripts, s.version.WellFormed)
      (ran : (applyPending target scripts).run.run w = (r, w')) : Reachable w'

theorem Reachable.consistent {w : World} (reached : Reachable w) : Consistent w := by
  induction reached with
  | start valid started => exact start_consistent valid started
  | migrated _ formed ran consistent => exact (migrate_keeps formed _ _ _ consistent ran).1
  | applied _ formed ran consistent => exact (applyPending_keeps formed _ _ _ consistent ran).1

/-- In every world a session reaches through batches of migrations, ended or
failed, each target's history and state agree.  The rows the history holds
for the target are read back in the order they were recorded, with strictly
rising versions; the installed version is the newest of them; and the
target's state is `noSchema` when it has no row and up to date at the
installed version otherwise, never `migrating`. -/
theorem history_consistent {w : World} (reached : Reachable w) (target : String) :
    ∃ recorded rows versions, w.defaultEngine.Holds w recorded ∧
      rows.map Applied.version = (recorded.filter (·.target == target)).map Applied.version ∧
      History w target rows versions ∧ versions.Pairwise (fun a b => a.order b = .lt) ∧
      (installedVersion target).run.run w = (.ok (newest versions), w) ∧
      (state target).run.run w = (.ok (settled (newest versions)), w) ∧
      (newest versions = none ↔ rows = []) := by
  obtain ⟨recorded, facts, settles⟩ := reached.consistent
  obtain ⟨versions, read, rising, standing⟩ := settles target
  obtain ⟨rows, history, same⟩ := facts.history read
  refine ⟨recorded, rows, versions, facts.holds, same, history, rising,
    installedVersion_of_history history, by rw [state_run, standing], ?_⟩
  have length := (Version.except_mapM_answers history.parsed).1
  rw [newest_eq_none, ← List.length_eq_zero_iff, length, List.length_eq_zero_iff]

theorem started_history_consistent :
    ∃ w, World.start ["postgres"] "postgres" .keepAll false
        { date := { year := 2024, month := 1, day := 1 }, hour := 0, minute := 0, second := 0,
          nano := 0 } = .ok w ∧
      ∃ recorded rows versions, w.defaultEngine.Holds w recorded ∧
        rows.map Applied.version = (recorded.filter (·.target == "app")).map Applied.version ∧
        History w "app" rows versions ∧ versions.Pairwise (fun a b => a.order b = .lt) ∧
        (installedVersion "app").run.run w = (.ok (newest versions), w) ∧
        (state "app").run.run w = (.ok (settled (newest versions)), w) ∧
        (newest versions = none ↔ rows = []) := by
  have started : World.start ["postgres"] "postgres" .keepAll false
      { date := { year := 2024, month := 1, day := 1 }, hour := 0, minute := 0, second := 0,
        nano := 0 } =
      .ok { defaultEngine := .relational, retention := .keepAll,
            clock := { date := { year := 2024, month := 1, day := 1 }, hour := 0, minute := 0,
                       second := 0, nano := 0 },
            archive := none,
            database := { tables := [{ name := "dict", columns := Relational.dictColumns },
              Relational.versionTable []] } } := by
    unfold World.start
    simp only [bind, Except.bind, List.foldl_cons, List.foldl_nil, List.contains_nil,
      Bool.false_eq_true, if_false, List.nil_append, List.mergeSort_singleton]
    rw [if_neg (by decide), if_neg (by decide), Capability.lookup,
      show Engine.named? "postgres" = some .relational by decide]
    rfl
  refine ⟨_, started, history_consistent (.start ?_ started) "app"⟩
  exact ⟨rfl, by decide, by decide, by decide, by decide, by decide⟩

end Migration
end Refbook
