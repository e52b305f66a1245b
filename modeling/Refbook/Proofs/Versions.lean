import Refbook.Proofs.Transactions

namespace Refbook

/-!
# Versions guard every change of a record

A change of a record names the version it was read at.  Both engines read
the stored record inside the change and refuse it, before anything is
written, when the stored version is another one; the refusal names both
versions.  Every check that runs before the change only reads, and the
transaction around it puts back what it had touched, so a stale change
leaves the world exactly as it was.

This module proves that single step.  The runs of many clients, each
reading a record and then changing it, are built on it below.
-/

/-! ## The change inside each engine -/

namespace Relational

/-- A change expecting another version than the stored one is refused
before it writes. -/
theorem modifyItem_stale {α : Type} {d : Dict} {id : String} {expected : Int}
    {change : Item -> Except Error (Item × α)} {db : Database} {stored : Item}
    (found : (getItem d id).run.run db = (.ok (some stored), db))
    (stale : expected ≠ stored.version) :
    (modifyItem d id (some expected) change).run.run db =
      (.error (.concurrentUpdate d.id id expected stored.version), db) := by
  unfold modifyItem atomically
  rw [runState_bind_ok (runState_get db), runState_tryCatch, runState_bind_ok found]
  simp [stale]
  rfl

end Relational

namespace Document

/-- A change expecting another version than the stored one is refused
before it writes. -/
theorem modifyItem_stale {α : Type} {d : Dict} {id : String} {expected : Int}
    {change : Item -> Except Error (Item × α)} {s : Store} {stored : Item}
    (found : (getItem d id).run.run s = (.ok (some stored), s))
    (stale : expected ≠ stored.version) :
    (modifyItem d id (some expected) change).run.run s =
      (.error (.concurrentUpdate d.id id expected stored.version), s) := by
  unfold modifyItem atomically
  rw [runState_bind_ok (runState_get s), runState_tryCatch, runState_bind_ok found]
  simp [stale]
  rfl

end Document

namespace Engine

/-- Whichever engine keeps the record, a stale change is refused and the
world is left as it was. -/
theorem modifyItem_stale {α : Type} {e : Engine} {d : Dict} {id : String} {expected : Int}
    {change : Item -> Except Error (Item × α)} {w : World} {stored : Item}
    (found : (e.getItem d id).run.run w = (.ok (some stored), w))
    (stale : expected ≠ stored.version) :
    (e.modifyItem d id (some expected) change).run.run w =
      (.error (.concurrentUpdate d.id id expected stored.version), w) := by
  cases e with
  | relational =>
    unfold getItem at found
    unfold modifyItem
    have inside := (onDatabase_answer (Relational.getItem_stateless d id) w).trans (by rw [found])
    rw [onDatabase_run, Relational.modifyItem_stale inside stale]
  | document =>
    unfold getItem at found
    unfold modifyItem
    have inside := (onDocuments_answer (Document.getItem_stateless d id) w).trans (by rw [found])
    rw [onDocuments_run, Document.modifyItem_stale inside stale]

end Engine

/-! ## The stale update -/

/-- The engine named for one capability is the one named for any other. -/
theorem Capability.lookup_same {c c' : Capability} {name : String} {e : Engine}
    (found : c.lookup name = .ok e) : c'.lookup name = .ok e := by
  unfold Capability.lookup at found ⊢
  split at found
  · exact found
  · cases found

namespace Records

/-- A record found by id was read through the dict's scheme from the dict's
engine, and nothing changed. -/
theorem get_ok {w w' : World} {dictId itemId : String} {includeDeleted : Bool} {item : Item}
    (ran : (get dictId itemId includeDeleted).run.run w = (.ok item, w')) :
    ∃ d e, (Dicts.get dictId).run.run w = (.ok d, w) ∧ (engine d).run.run w = (.ok e, w) ∧
      (e.getItem d itemId).run.run w = (.ok (some item), w) := by
  unfold get at ran
  obtain ⟨d, found_d, ran⟩ := Stateless.bind_ok (Dicts.get_stateless _) ran
  obtain ⟨e, found_e, ran⟩ := Stateless.bind_ok (engine_stateless _) ran
  obtain ⟨found, found_item, ran⟩ := Stateless.bind_ok (e.getItem_stateless _ _) ran
  refine ⟨d, e, found_d, found_e, ?_⟩
  cases found with
  | none => cases ran
  | some stored =>
    by_cases visible : (includeDeleted || !stored.isDeleted) = true
    · simp only [visible, if_true] at ran
      cases ran
      exact found_item
    · simp only [visible] at ran
      cases ran

/-- The transaction of a dict's records is one over the engine that keeps
them. -/
theorem transactional_run {α : Type} {d : Dict} {e : Engine} {w : World} (act : WorldM α)
    (found : (engine d).run.run w = (.ok e, w)) :
    (transactional d act).run.run w = (transact [e] act).run.run w := by
  unfold engine at found
  obtain ⟨name, named, found⟩ := Stateless.bind_ok (engineOf_stateless d) found
  rw [liftExcept_run] at found
  unfold transactional
  have lookup : Capability.transactions.lookup name = .ok e :=
    Capability.lookup_same (congrArg Prod.fst found)
  rw [runState_bind_ok named, runState_bind_ok (by rw [liftExcept_run, lookup])]

/-- Changing a record at a version other than its stored one fails and
leaves the world exactly as it was.  When the values pass normalization and
the reference and unique checks, the refusal names the expected and the
stored version. -/
theorem update_stale {w : World} {dictId itemId : String} {expected : Int} {data : Data}
    {stored : Item} (read : (get dictId itemId true).run.run w = (.ok stored, w))
    (stale : expected ≠ stored.version) :
    ∃ err, (update dictId itemId expected data).run.run w = (.error err, w) ∧
      ∀ d normalized, (Dicts.get dictId).run.run w = (.ok d, w) ->
        d.normalize data = .ok normalized ->
        (checkReferences d normalized).run.run w = (.ok (), w) ->
        (checkUnique d itemId normalized).run.run w = (.ok (), w) ->
        err = .concurrentUpdate d.id itemId expected stored.version := by
  obtain ⟨d, e, found_d, found_e, found_item⟩ := get_ok read
  have same_dict : ∀ d', (Dicts.get dictId).run.run w = (.ok d', w) -> d' = d := by
    intro d' found
    rw [found_d] at found
    cases found
    rfl
  unfold update
  rw [runState_bind_ok found_d]
  cases normalizing : d.normalize data with
  | error err =>
    refine ⟨err, runState_bind_error (liftExcept_run _ w), ?_⟩
    intro d' normalized found normal
    cases same_dict d' found
    rw [normalizing] at normal
    cases normal
  | ok normalized =>
    rw [runState_bind_ok (liftExcept_run _ w)]
    obtain ⟨result, referencing⟩ := (checkReferences_stateless d normalized).exists_run w
    cases result with
    | error err =>
      refine ⟨err, runState_bind_error referencing, ?_⟩
      intro d' normalized' found normal passes
      cases same_dict d' found
      rw [normalizing] at normal
      cases normal
      rw [referencing] at passes
      cases passes
    | ok _ =>
      rw [runState_bind_ok referencing, runState_bind_ok found_e,
        runState_bind_ok (show (getThe World : WorldM World).run.run w = (.ok w, w) from rfl)]
      dsimp only
      rw [transactional_run _ found_e]
      obtain ⟨result', checking⟩ := (checkUnique_stateless d itemId normalized).exists_run w
      cases result' with
      | error err =>
        refine ⟨err, transact_error_of_kept (runState_bind_error checking), ?_⟩
        intro d' normalized' found normal _ passes
        cases same_dict d' found
        rw [normalizing] at normal
        cases normal
        rw [checking] at passes
        cases passes
      | ok _ =>
        refine ⟨.concurrentUpdate d.id itemId expected stored.version,
          transact_error_of_kept ?_, ?_⟩
        · rw [runState_bind_ok checking]
          exact runState_bind_error (Engine.modifyItem_stale found_item stale)
        · intro d' _ found _ _ _
          cases same_dict d' found
          rfl

end Records

end Refbook
