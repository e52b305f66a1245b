import Refbook.Proofs.RecordSlots
import Refbook.Session.Step

namespace Refbook

/-!
# What a rolled-back change leaves in the archive

Under a retention that keeps the last `n` snapshots, a change of a record
appends the record's current state to its history and evicts the oldest
snapshots that no longer fit.  When an archive is attached, the evicted
snapshots are handed to it at once, after the ones it keeps for the record,
so that the archived snapshots followed by the history are every earlier
version of the record, in order.

The archive lies outside every transaction.  A transaction whose work fails
puts back the stores of its engines, and with them the record's version and
history, but the archive keeps what the work handed it.  This module states
both halves.  The archive only ever grows (`GrowsArchive`, for the deletes of
a filter and each step of them), and a failed bulk delete puts back the
records of its dict while the archive keeps the snapshots its deletes evicted
(`failed_deleteWhere_keeps_evictions`).  An update inside a transaction over
every engine that fails afterwards leaves the stores as they were and the
archive grown by exactly the snapshots the update evicted
(`rolled_back_update_keeps_evictions`).  Both are shown to happen in
sessions that start afresh.
-/

/-! ## What a change reads and hands over -/

namespace Document

theorem modifyItem_ok {α : Type} {d : Dict} {id : String} {expected : Option Int}
    {change : Item → Except Error (Item × α)} {s s' : Store} {m : Item} {a : α}
    (ran : (modifyItem d id expected change).run.run s = (.ok (m, a), s')) :
    ∃ stored, (getItem d id).run.run s = (.ok (some stored), s) ∧
      (∀ e, expected = some e → e = stored.version) ∧ change stored = .ok (m, a) := by
  unfold modifyItem at ran
  have worked := runState_saved_ok ran
  obtain ⟨found, read, worked⟩ := Stateless.bind_ok (getItem_stateless d id) worked
  cases found with
  | none =>
    dsimp only at worked
    rw [runState_bind_error (runState_throw _ _)] at worked
    cases worked
  | some stored =>
  refine ⟨stored, read, ?_⟩
  dsimp only at worked
  rw [runState_bind_ok (runState_pure _ _)] at worked
  have check : ∀ e, expected = some e → e = stored.version := by
    rintro e rfl
    dsimp only at worked
    split at worked
    · rw [runState_bind_error (runState_throw _ _)] at worked
      cases worked
    · exact not_not.mp ‹_›
  refine ⟨check, ?_⟩
  rcases expected with _ | e
  all_goals dsimp only at worked
  on_goal 2 => rw [if_neg (not_not.mpr (check e rfl))] at worked
  all_goals
    cases changed : change stored with
    | error err =>
      rw [changed, runState_bind_error (liftExcept_run _ _)] at worked
      cases worked
    | ok p =>
      rw [changed, runState_bind_ok (liftExcept_run _ _)] at worked
      obtain ⟨m', a'⟩ := p
      dsimp only at worked
      refine congrArg Except.ok (((?_ : Runs (fun _ : Store => True) (fun _ => ())
        (· = (m', a')) (fun _ : Error => True) _) s _ s' trivial worked).2.2.1 _ rfl).symm
      refine Runs.seq (Runs.any _) fun _ => Runs.bind (Runs.any _) fun _ _ =>
        Runs.bind (Runs.any _) fun replaced _ => ?_
      split
      · exact Runs.seq (Runs.any _) fun _ => Runs.throw_bind trivial _
      · exact Runs.pure rfl

end Document

namespace Engine

/-- A change that ended read the record it changed from the dict's storage,
at the version expected, and left the archive alone. -/
theorem modifyItem_ok {α : Type} {e : Engine} {d : Dict} {id : String} {expected : Option Int}
    {change : Item → Except Error (Item × α)} {w w' : World} {m : Item} {a : α}
    (ran : (e.modifyItem d id expected change).run.run w = (.ok (m, a), w')) :
    ∃ stored, (e.getItem d id).run.run w = (.ok (some stored), w) ∧
      (∀ v, expected = some v → v = stored.version) ∧ change stored = .ok (m, a) ∧
      w'.archive = w.archive := by
  unfold modifyItem at ran
  unfold getItem
  cases e with
  | relational =>
    obtain ⟨db, worked, rfl⟩ := onDatabase_inv ran
    obtain ⟨row, stored, -, found, read, check, changed, -⟩ := Relational.modifyItem_ok worked
    refine ⟨stored, ?_, check, changed, rfl⟩
    rw [onDatabase_run, Relational.getItem_of_slot found read]
  | document =>
    obtain ⟨s, worked, rfl⟩ := onDocuments_inv ran
    obtain ⟨stored, read, check, changed⟩ := Document.modifyItem_ok worked
    refine ⟨stored, ?_, check, changed, rfl⟩
    rw [onDocuments_run, read]

end Engine

namespace Records

/-- A record found in the dict's storage is what reading it, deleted or not,
answers. -/
theorem get_of_getItem {w : World} {dictId x : String} {d : Dict} {e : Engine} {stored : Item}
    (found : (Dicts.get dictId).run.run w = (.ok d, w)) (resolved : (engine d).run.run w = (.ok e, w))
    (read : (e.getItem d x).run.run w = (.ok (some stored), w)) :
    (get dictId x true).run.run w = (.ok stored, w) := by
  unfold get
  rw [runState_bind_ok found, runState_bind_ok resolved, runState_bind_ok read]
  rfl

/-- An update that ended handed the archive what recording the stored
record under the retention evicted. -/
theorem update_archives {w w' : World} {dictId x : String} {expected : Int} {data : Data}
    {item : Item} (ran : (update dictId x expected data).run.run w = (.ok item, w')) :
    ∃ d stored, (Dicts.get dictId).run.run w = (.ok d, w) ∧
      (get dictId x true).run.run w = (.ok stored, w) ∧
      w'.archive = addSnapshots w.archive (d.id, x) (w.retention.record stored).2 := by
  unfold update at ran
  obtain ⟨d, found, ran⟩ := Stateless.bind_ok (Dicts.get_stateless _) ran
  obtain ⟨normalized, -, ran⟩ := Stateless.bind_ok (liftExcept_stateless _) ran
  obtain ⟨_, -, ran⟩ := Stateless.bind_ok (checkReferences_stateless _ _) ran
  obtain ⟨e, resolved, ran⟩ := Stateless.bind_ok (engine_stateless _) ran
  rw [runState_bind_ok (show (getThe World : WorldM World).run.run w = (.ok w, w) from rfl),
    transactional_run _ resolved] at ran
  obtain ⟨_, -, ran⟩ := Stateless.bind_ok (checkUnique_stateless _ _ _) (transact_ok ran)
  rw [runState_bind] at ran
  rcases modified : (e.modifyItem d x (some expected) _).run.run w with ⟨result, w₁⟩
  rw [modified] at ran
  cases result with
  | error err => cases ran
  | ok p =>
  obtain ⟨m, evicted⟩ := p
  obtain ⟨stored, read, -, changed, kept⟩ := Engine.modifyItem_ok modified
  refine ⟨d, stored, found, get_of_getItem found resolved read, ?_⟩
  dsimp only at ran
  unfold archiveSnapshots at ran
  rw [runState_bind_ok (runState_modify _ _)] at ran
  cases ran
  show addSnapshots w₁.archive (d.id, x) evicted = _
  rw [kept]
  dsimp only at changed
  split at changed
  · cases changed
  · rcases recorded : w.retention.record stored with ⟨_, evicted'⟩
    rw [recorded] at changed
    cases changed
    rfl

end Records

/-! ## The archive only grows -/

/-- Every snapshot the archive `before` keeps for a record, `after` keeps
too, first and in the same order. -/
def ArchiveGrows (before after : Option Archive) : Prop :=
  ∀ key, snapshotsOf before key <+: snapshotsOf after key

namespace ArchiveGrows

theorem refl (archive : Option Archive) : ArchiveGrows archive archive :=
  fun _ => List.prefix_refl _

theorem trans {a b c : Option Archive} (first : ArchiveGrows a b) (second : ArchiveGrows b c) :
    ArchiveGrows a c :=
  fun key => (first key).trans (second key)

end ArchiveGrows

/-- Appending snapshots to one record's entry changes the lookup of that
record only. -/
theorem lookup_map_append (entries : Archive) (key k : String × String) (evicted : List Data) :
    (entries.map fun entry =>
        if entry.1 == key then (entry.1, entry.2 ++ evicted) else entry).lookup k =
      (entries.lookup k).map fun snaps => if k = key then snaps ++ evicted else snaps := by
  induction entries with
  | nil => rfl
  | cons entry rest ih =>
    obtain ⟨k', snaps⟩ := entry
    have head : (if k' == key then (k', snaps ++ evicted) else (k', snaps)) =
        (k', if k' = key then snaps ++ evicted else snaps) := by
      by_cases keyed : k' = key <;> simp [keyed]
    rw [List.map_cons, head, List.lookup_cons, List.lookup_cons]
    by_cases here : k = k'
    · subst here
      simp
    · have apart : (k == k') = false := beq_false_of_ne here
      simp only [apart, ih]

/-- An attached archive that receives a record's evicted snapshots keeps
them after the ones it holds for the record, and nothing new for any other
record. -/
theorem snapshotsOf_addSnapshots {archive : Option Archive} (attached : archive.isSome)
    (key k : String × String) (evicted : List Data) :
    snapshotsOf (addSnapshots archive key evicted) k =
      snapshotsOf archive k ++ if k = key then evicted else [] := by
  obtain ⟨entries, rfl⟩ := Option.isSome_iff_exists.mp attached
  unfold addSnapshots
  by_cases empty : evicted.isEmpty
  · simp [List.isEmpty_iff.mp empty]
  rw [if_neg empty, Option.map_some]
  split
  · rename_i present
    show ((List.map _ entries).lookup k).getD [] = (entries.lookup k).getD [] ++ _
    rw [lookup_map_append]
    by_cases keyed : k = key
    · subst keyed
      cases found : entries.lookup k with
      | none =>
        obtain ⟨entry, mem, named⟩ := List.any_eq_true.mp present
        have apart := List.lookup_eq_none_iff.mp found entry mem
        simp_all
      | some snaps => simp
    · cases entries.lookup k <;> simp [keyed]
  · rename_i absent
    show ((entries ++ [(key, evicted)]).lookup k).getD [] = (entries.lookup k).getD [] ++ _
    rw [List.lookup_append]
    by_cases keyed : k = key
    · subst keyed
      have found : entries.lookup k = none :=
        List.lookup_eq_none_iff.mpr fun entry mem => by
          have other := List.any_eq_false.mp (eq_false_of_ne_true absent) entry mem
          exact bne_iff_ne.mpr fun same => other (by rw [← same]; exact beq_self_eq_true _)
      simp [found]
    · have apart : (k == key) = false := beq_false_of_ne keyed
      simp [List.lookup_cons, apart, keyed]

theorem addSnapshots_grows (archive : Option Archive) (key : String × String)
    (evicted : List Data) : ArchiveGrows archive (addSnapshots archive key evicted) := by
  intro k
  cases attached : archive.isSome
  · rw [Option.not_isSome_iff_eq_none.mp (ne_true_of_eq_false attached)]
    simp [addSnapshots]
  · rw [snapshotsOf_addSnapshots attached]
    exact List.prefix_append _ _

/-- Work after which the archive holds every snapshot it held before, in
order, whether the work ends or fails. -/
def GrowsArchive {α : Type} (act : WorldM α) : Prop :=
  ∀ archive, Keeps (fun w => ArchiveGrows archive w.archive) (fun _ => ()) (fun _ => True) act

namespace GrowsArchive

variable {α : Type} {act : WorldM α}

theorem of_leaves (leaves : Leaves World.archive act) : GrowsArchive act :=
  fun _ => leaves.keeps fun _ _ same grown => ⟨by rw [same]; exact grown, rfl⟩

theorem of_stateless (reads : Stateless act) : GrowsArchive act :=
  fun _ => Runs.of_stateless reads

theorem run (grows : GrowsArchive act) {w w' : World} {r : Except Error α}
    (ran : act.run.run w = (r, w')) : ArchiveGrows w.archive w'.archive :=
  ((grows w.archive).run (ArchiveGrows.refl _) ran).1

end GrowsArchive

theorem onDatabase_leaves_archive {α : Type} (act : Relational.DbM α) :
    Leaves World.archive (onDatabase act) := by
  intro o
  refine Keeps.intro fun w r w' kept ran => ?_
  obtain ⟨db, -, rfl⟩ := onDatabase_inv ran
  exact ⟨kept, rfl, fun _ _ => trivial⟩

theorem onDocuments_leaves_archive {α : Type} (act : Document.StoreM α) :
    Leaves World.archive (onDocuments act) := by
  intro o
  refine Keeps.intro fun w r w' kept ran => ?_
  obtain ⟨s, -, rfl⟩ := onDocuments_inv ran
  exact ⟨kept, rfl, fun _ _ => trivial⟩

theorem Engine.modifyItem_grows {α : Type} (e : Engine) (d : Dict) (id : String)
    (expected : Option Int) (change : Item → Except Error (Item × α)) :
    GrowsArchive (e.modifyItem d id expected change) := by
  apply GrowsArchive.of_leaves
  unfold Engine.modifyItem
  cases e with
  | relational => exact onDatabase_leaves_archive _
  | document => exact onDocuments_leaves_archive _

theorem archiveSnapshots_grows (dictId itemId : String) (evicted : List Data) :
    GrowsArchive (archiveSnapshots dictId itemId evicted) := by
  intro archive
  refine Keeps.intro fun w r w' grown ran => ?_
  unfold archiveSnapshots at ran
  rw [runState_modify] at ran
  cases ran
  exact ⟨grown.trans (addSnapshots_grows _ _ _), rfl, fun _ _ => trivial⟩

/-- A transaction keeps the archive its work left, ended or failed. -/
theorem transact_grows {α : Type} {act : WorldM α} (grows : GrowsArchive act)
    (engines : List Engine) : GrowsArchive (transact engines act) := by
  intro archive
  refine Keeps.intro fun w r w' grown ran => ?_
  rcases worked : act.run.run w with ⟨result, w₁⟩
  obtain ⟨grown₁, -, -⟩ := (grows archive).run grown worked
  cases result with
  | ok a =>
    unfold transact at ran
    rw [runState_bind_ok (runState_get w), runState_tryCatch, worked] at ran
    cases ran
    exact ⟨grown₁, rfl, fun _ _ => trivial⟩
  | error e =>
    rw [transact_run_error worked] at ran
    cases ran
    exact ⟨grown₁, rfl, fun _ _ => trivial⟩

namespace Records

theorem transactional_grows {α : Type} {act : WorldM α} (grows : GrowsArchive act) (d : Dict) :
    GrowsArchive (transactional d act) := by
  intro archive
  unfold transactional
  exact Runs.bind (Runs.of_stateless (engineOf_stateless d)) fun _ _ =>
    Runs.bind (Runs.of_stateless (liftExcept_stateless _)) fun e _ =>
      transact_grows grows [e] archive

/-- Deleting a record at most hands its evicted snapshots to the archive. -/
theorem delete_grows (dictId itemId : String) (reason : Option String) :
    GrowsArchive (delete dictId itemId reason) := by
  intro archive
  unfold delete
  refine Runs.bind (Runs.of_stateless (Dicts.get_stateless _)) fun d _ =>
    Runs.bind (Runs.of_stateless (engine_stateless d)) fun e _ =>
      Runs.bind Runs.get fun w _ => transactional_grows ?_ d archive
  intro archive
  refine Runs.bind (Engine.modifyItem_grows e d itemId none _ archive) fun changed _ => ?_
  obtain ⟨item, evicted⟩ := changed
  exact Runs.seq (archiveSnapshots_grows d.id itemId evicted archive) fun _ => Runs.pure trivial

theorem deleteWhere_grows (dictId : String) (filter : Query.Expression) (reason : Option String) :
    GrowsArchive (deleteWhere dictId filter reason) := by
  intro archive
  unfold deleteWhere
  refine Runs.bind (Runs.of_stateless (select_stateless _ _ _)) fun items _ =>
    Runs.bind (Runs.of_stateless (Dicts.get_stateless _)) fun d _ =>
      transactional_grows (fun archive => ?_) d archive
  exact Runs.seq (Runs.forIn fun item _ _ =>
    Runs.seq (delete_grows dictId item.id reason archive) fun _ => Runs.pure trivial) fun _ =>
      Runs.pure trivial

end Records

/-! ## A rolled-back update -/

/-- An update that ends, followed in the same transaction over every engine
by work that fails without touching the archive: the transaction puts back
both stores, so the record is again at the version and with the history it
had, yet the archive keeps the snapshots the update evicted from that
history. -/
theorem rolled_back_update_keeps_evictions {β : Type} {w w₁ w₂ : World} {dictId x : String}
    {expected : Int} {data : Data} {item : Item} {rest : WorldM β} {err : Error}
    (updated : (Records.update dictId x expected data).run.run w = (.ok item, w₁))
    (fails : rest.run.run w₁ = (.error err, w₂)) (kept : w₂.archive = w₁.archive) :
    ∃ d stored after, (Dicts.get dictId).run.run w = (.ok d, w) ∧
      (Records.get dictId x true).run.run w = (.ok stored, w) ∧
      (transact Engine.all (do
        let _ ← Records.update dictId x expected data
        rest)).run.run w = (.error err, after) ∧
      after.database = w.database ∧ after.documents = w.documents ∧
      after.archive = addSnapshots w.archive (d.id, x) (w.retention.record stored).2 := by
  obtain ⟨d, stored, found, read, archived⟩ := Records.update_archives updated
  have failed : ((do
      let _ ← Records.update dictId x expected data
      rest) : WorldM β).run.run w = (.error err, w₂) := by
    rw [runState_bind_ok updated]
    exact fails
  have ran := @transact_run_error _ Engine.all _ _ _ _ failed
  obtain ⟨database, documents⟩ := transact_error_restores ran
  exact ⟨d, stored, _, found, read, ran, database (by decide), documents (by decide),
    kept.trans archived⟩

/-- The first world of a session on one engine, keeping no snapshot in
histories and with an archive attached. -/
def archivingStart (engine : String) : World :=
  ((World.start [engine] engine (.keepLast 0) true Session.clock).toOption).getD default

/-- A dict of named records, kept by the default engine. -/
def namedDict : Dict := { id := "c", fields := [{ id := "name", fieldType := .string }] }

/-- A relational session that has created `namedDict` and one record of it. -/
def evictionWorld : World :=
  ((do
    let _ ← Dicts.create namedDict
    let _ ← Records.create "c" [("id", .string "x"), ("name", .string "a")]
    pure () : WorldM Unit).run.run (archivingStart "postgres")).2

set_option maxRecDepth 100000 in
/-- In a fresh relational session, a record at version 1 with no history is
updated, and the transaction then fails on a dict that does not exist: the
record is back at version 1 with no history, while the archive holds its
version-1 snapshot. -/
theorem rolled_back_update_archives_snapshot :
    ∃ err after stored,
      (transact Engine.all (do
        let _ ← Records.update "c" "x" 1 [("name", .string "b")]
        Dicts.delete "nosuch")).run.run evictionWorld = (.error err, after) ∧
      after.database = evictionWorld.database ∧ after.documents = evictionWorld.documents ∧
      (Records.get "c" "x" true).run.run evictionWorld = (.ok stored, evictionWorld) ∧
      stored.version = 1 ∧ stored.history = [] ∧
      snapshotsOf evictionWorld.archive ("c", "x") = [] ∧
      snapshotsOf after.archive ("c", "x") = [stored.snapshot] := by
  have facts :
      ((Records.update "c" "x" 1 [("name", .string "b")]).run.run evictionWorld).1.toOption.any
          (fun _ => true) &&
        ((Dicts.get "nosuch").run.run
          ((Records.update "c" "x" 1 [("name", .string "b")]).run.run evictionWorld).2).1.toOption.isNone &&
        ((Dicts.get "c").run.run evictionWorld).1.toOption.any (·.id == "c") &&
        ((Records.get "c" "x" true).run.run evictionWorld).1.toOption.any
          (fun item => item.version == 1 && item.history.isEmpty) &&
        evictionWorld.retention == .keepLast 0 &&
        evictionWorld.archive.map List.isEmpty == some true := by
    decide +kernel
  simp only [Bool.and_eq_true] at facts
  obtain ⟨⟨⟨⟨⟨updating, refused⟩, named⟩, current⟩, retention⟩, attached⟩ := facts
  obtain ⟨item, updated, -⟩ := Except.ok_of_any updating
  obtain ⟨missing, refusal⟩ := Stateless.error_of_isNone (Dicts.get_stateless _) _ refused
  have fails : (Dicts.delete "nosuch").run.run
      ((Records.update "c" "x" 1 [("name", .string "b")]).run.run evictionWorld).2 =
      (.error missing, ((Records.update "c" "x" 1 [("name", .string "b")]).run.run evictionWorld).2) := by
    unfold Dicts.delete
    exact runState_bind_error refusal
  obtain ⟨d, stored, after, found, read, ran, database, documents, archived⟩ :=
    rolled_back_update_keeps_evictions (Prod.ext updated rfl) fails rfl
  obtain ⟨d', found', named⟩ := Stateless.ok_of_any (Dicts.get_stateless _) _ _ named
  obtain ⟨stored', read', current⟩ := Stateless.ok_of_any (Records.get_stateless _ _ _) _ _ current
  rw [found] at found'
  rw [read] at read'
  cases found'
  cases read'
  simp only [Bool.and_eq_true, beq_iff_eq, List.isEmpty_iff] at named current
  simp only [beq_iff_eq] at retention
  have empty : evictionWorld.archive = some [] := by
    cases archive : evictionWorld.archive with
    | none => rw [archive] at attached; cases attached
    | some entries =>
      rw [archive] at attached
      simpa [List.isEmpty_iff] using attached
  refine ⟨missing, after, stored, ran, database, documents, read, current.1, current.2,
    by rw [empty]; rfl, ?_⟩
  rw [archived, empty, retention, named]
  simp [Retention.record, current.2, addSnapshots, snapshotsOf]

/-! ## A failed bulk delete -/

namespace Records

/-- A bulk delete that fails puts back the store of the engine that keeps
the dict's records, with every record as it was, but the archive keeps the
snapshots the deletes evicted before the failure. -/
theorem failed_deleteWhere_keeps_evictions {w w' : World} {dictId : String}
    {filter : Query.Expression} {reason : Option String} {err : Error} {d : Dict} {e : Engine}
    (found : (Dicts.get dictId).run.run w = (.ok d, w))
    (resolved : (engine d).run.run w = (.ok e, w))
    (ran : (deleteWhere dictId filter reason).run.run w = (.error err, w')) :
    (e = .relational → w'.database = w.database) ∧ (e = .document → w'.documents = w.documents) ∧
      ArchiveGrows w.archive w'.archive := by
  have grown := (deleteWhere_grows dictId filter reason).run ran
  unfold deleteWhere at ran
  rcases Stateless.bind_error (select_stateless _ _ _) ran with same | ⟨items, -, ran⟩
  · subst same
    exact ⟨fun _ => rfl, fun _ => rfl, grown⟩
  rw [runState_bind_ok found, transactional_run _ resolved] at ran
  obtain ⟨database, documents⟩ := transact_error_restores ran
  refine ⟨fun relational => database ?_, fun document => documents ?_, grown⟩
  · subst relational
    rfl
  · subst document
    rfl

/-- A dict of one text field, kept by the document engine. -/
def staleDict : Dict :=
  { id := "m", engine := some "mongo", fields := [{ id := "a", fieldType := .string }] }

/-- A document session in which record `q` keeps a text under a field that
has since become a date field: renaming the field by case, dropping it and
adding it again as a date leave the old value in the document. -/
def staleWorld : World :=
  ((do
    let _ ← Dicts.create staleDict
    let _ ← create "m" [("id", .string "p")]
    let _ ← create "m" [("id", .string "q"), ("a", .string "xyz")]
    let _ ← Dicts.update "m" { id := "m", fields := [{ id := "A", fieldType := .string }] }
    let _ ← Dicts.dropField "m" "A"
    let _ ← Dicts.addField "m" { id := "a", fieldType := .date }
    pure () : WorldM Unit).run.run (archivingStart "mongo")).2

set_option maxRecDepth 100000 in
/-- Deleting every record of `staleDict` deletes `p`, handing its snapshot
to the archive, and then fails on `q`: the documents are put back, with `p`
live again, while the archive keeps `p`'s snapshot. -/
theorem failed_deleteWhere_archives_snapshot :
    ∃ err after, (deleteWhere "m" .empty none).run.run staleWorld = (.error err, after) ∧
      after.documents = staleWorld.documents ∧
      snapshotsOf staleWorld.archive ("m", "p") = [] ∧
      (snapshotsOf after.archive ("m", "p")).length = 1 := by
  have facts :
      ((Dicts.get "m").run.run staleWorld).1.toOption.any (fun d =>
          ((engine d).run.run staleWorld).1.toOption.any (· == .document)) &&
        ((deleteWhere "m" .empty none).run.run staleWorld).1.toOption.isNone &&
        (snapshotsOf staleWorld.archive ("m", "p")).isEmpty &&
        (snapshotsOf ((deleteWhere "m" .empty none).run.run staleWorld).2.archive
          ("m", "p")).length == 1 := by
    decide +kernel
  simp only [Bool.and_eq_true] at facts
  obtain ⟨⟨⟨resolving, failing⟩, before⟩, archived⟩ := facts
  obtain ⟨d, found, resolving⟩ := Stateless.ok_of_any (Dicts.get_stateless _) _ _ resolving
  obtain ⟨e, resolved, document⟩ := Stateless.ok_of_any (engine_stateless _) _ _ resolving
  rcases ran : (deleteWhere "m" .empty none).run.run staleWorld with ⟨result, after⟩
  rw [ran] at failing archived
  cases result with
  | ok n => cases failing
  | error err =>
    obtain ⟨-, documents, -⟩ := failed_deleteWhere_keeps_evictions found resolved ran
    exact ⟨err, after, rfl, documents (by simpa using document), List.isEmpty_iff.mp before,
      by simpa using archived⟩

end Records

end Refbook
