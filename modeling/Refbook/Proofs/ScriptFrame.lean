import Refbook.Proofs.OwnCollections
import Refbook.Proofs.MigrationBatch

namespace Refbook

/-!
# What a migration script leaves alone

A migration script runs statements that create and change dicts and their
records, through the same operations as every other client.  None of them
touches the migration history, the states of the migration targets or the
clock.  That rests on two facts of the default engine, which keeps the dict
schemes and the history in stores of its own: its own stores stand, and
every dict scheme in them is clear of them, so that the records of a dict
the default engine keeps never land in one of its own stores.  Both facts
hold again after every operation, whether it ends or fails.

A dict becomes clear when it is created: its storage is made under its id,
which fails when the id names one of the engine's own stores.  Every later
change of a scheme keeps its id and engine.  The main statement is
`execute_keeps`, for a script's statements; it is assembled from one lemma
per operation, layer by layer: the engines, the dict schemes, the records,
the statements.
-/

namespace Engine

/-- The default engine is `E`, and its own stores stand with every dict
scheme in them clear. -/
def OwnSound : Engine → World → Prop
  | .relational, w => w.defaultEngine = .relational ∧ Relational.Sound w.database
  | .document, w => w.defaultEngine = .document ∧ Document.Sound w.documents

/-- What work on dicts and records leaves alone: the applied migrations as
`E` keeps them, what the migration targets stand at, and the clock. -/
def ownView :
    Engine → World → (Option Relational.Table ⊕ Option (List Json)) ×
      List (String × MigrationState) × Temporal.Timestamp
  | .relational, w => (.inl (Relational.history w.database), w.states, w.clock)
  | .document, w => (.inr (Document.history w.documents), w.states, w.clock)

theorem OwnSound.defaultEngine {E : Engine} {w : World} (sound : E.OwnSound w) :
    w.defaultEngine = E := by
  cases E
  · exact sound.1
  · exact sound.1

/-- An engine is found by its name. -/
theorem name_inj {a b : Engine} (same : a.name = b.name) : a = b := by
  cases a <;> cases b <;> first | rfl | exact absurd same (by decide)

end Engine

/-- The engine a capability finds under a name has that name. -/
theorem Capability.lookup_name {c : Capability} {name : String} {e : Engine}
    (found : c.lookup name = .ok e) : e.name = name := by
  unfold Capability.lookup at found
  split at found
  · rename_i named
    cases found
    simpa using List.find?_some named
  · cases found

/-- The engine that keeps a clear dict's records, when it is the default
one, keeps them apart from its own stores. -/
theorem Clear.apart {E e : Engine} {d : Dict} {c : Capability} {name : String}
    (clear : Clear E d) (engine : d.engine = some name) (found : c.lookup name = .ok e) :
    e = E → E.ownName d.id = false := by
  intro same
  apply clear
  rw [engine, ← Capability.lookup_name found, same]

/-! ## The world around the stores -/

/-- What dict and record operations change only through the stores. -/
def World.kept (w : World) :
    Engine × Relational.Database × Document.Store × List (String × MigrationState) ×
      Temporal.Timestamp :=
  (w.defaultEngine, w.database, w.documents, w.states, w.clock)

section World

variable {E : Engine}

/-- Work that changes the world only besides the stores, the states and
the clock keeps the default engine's own stores and view. -/
theorem keeps_of_leaves {α : Type} {act : WorldM α} (leaves : Leaves World.kept act) :
    Keeps E.OwnSound E.ownView (fun _ => True) act := by
  refine leaves.keeps fun w w' same sound => ?_
  simp only [World.kept, Prod.mk.injEq] at same
  obtain ⟨engine, database, documents, states, clock⟩ := same
  cases E
  · refine ⟨?_, ?_⟩
    · simpa only [Engine.OwnSound, engine, database] using sound
    · simp only [Engine.ownView, database, states, clock]
  · refine ⟨?_, ?_⟩
    · simpa only [Engine.OwnSound, engine, documents] using sound
    · simp only [Engine.ownView, documents, states, clock]

theorem freshId_leaves : Leaves World.kept freshId := by
  intro o
  refine Keeps.intro fun w r w' kept ran => ?_
  obtain ⟨id, issued⟩ := Migration.freshId_run w
  rw [issued] at ran
  cases ran
  exact ⟨kept, rfl, fun _ _ => trivial⟩

/-- Handing snapshots to the archive changes the archive only. -/
theorem archiveSnapshots_leaves (dictId itemId : String) (evicted : List Data) :
    Leaves World.kept (archiveSnapshots dictId itemId evicted) :=
  Leaves.modify fun _ => rfl

theorem defaultEngine_keeps : Keeps E.OwnSound E.ownView (· = E) defaultEngine := by
  unfold defaultEngine
  exact Runs.bind Runs.get fun w sound => Runs.pure sound.defaultEngine

theorem engineOf_keeps {V : Type} {inv : World → Prop} {view : World → V} (d : Dict) :
    Keeps inv view (fun name => d.engine = some name) (engineOf d) := by
  unfold engineOf
  split
  · rename_i name named
    exact Runs.pure named
  · exact Runs.throw trivial

/-- Database work keeps the relational engine's own tables when it is the
default one; the document engine's stores it never touches. -/
theorem onDatabase_keeps {α : Type} {post : α → Prop} {act : Relational.DbM α}
    (own : E = .relational → Keeps Relational.Sound Relational.history post act)
    (other : E = .document → ∀ a, post a) :
    Keeps E.OwnSound E.ownView post (onDatabase act) := by
  refine Keeps.intro fun w r w' sound ran => ?_
  obtain ⟨db, worked, rfl⟩ := onDatabase_inv ran
  cases E with
  | relational =>
    obtain ⟨sound', same, post'⟩ := (own rfl).run sound.2 worked
    refine ⟨⟨sound.1, sound'⟩, ?_, post'⟩
    simp only [Engine.ownView, same]
  | document => exact ⟨sound, rfl, fun a _ => other rfl a⟩

theorem onDocuments_keeps {α : Type} {post : α → Prop} {act : Document.StoreM α}
    (own : E = .document → Keeps Document.Sound Document.history post act)
    (other : E = .relational → ∀ a, post a) :
    Keeps E.OwnSound E.ownView post (onDocuments act) := by
  refine Keeps.intro fun w r w' sound ran => ?_
  obtain ⟨s, worked, rfl⟩ := onDocuments_inv ran
  cases E with
  | relational => exact ⟨sound, rfl, fun a _ => other rfl a⟩
  | document =>
    obtain ⟨sound', same, post'⟩ := (own rfl).run sound.2 worked
    refine ⟨⟨sound.1, sound'⟩, ?_, post'⟩
    simp only [Engine.ownView, same]

/-- A transaction keeps what its work keeps: on failure it puts back
stores the work started from, which were sound and showed the same view. -/
theorem transact_keeps {α : Type} {post : α → Prop} {act : WorldM α}
    (keeps : Keeps E.OwnSound E.ownView post act) (engines : List Engine) :
    Keeps E.OwnSound E.ownView post (transact engines act) := by
  refine Keeps.intro fun w r w' sound ran => ?_
  rcases worked : act.run.run w with ⟨result, w₁⟩
  obtain ⟨sound₁, same₁, post₁⟩ := keeps.run sound worked
  cases result with
  | ok a =>
    unfold transact at ran
    rw [runState_bind_ok (runState_get w), runState_tryCatch, worked] at ran
    cases ran
    exact ⟨sound₁, same₁, post₁⟩
  | error e =>
    rw [transact_run_error worked] at ran
    cases ran
    refine ⟨?_, ?_, fun _ same => by cases same⟩
    · cases E
      · refine ⟨sound₁.1, ?_⟩
        dsimp only
        split
        · exact sound.2
        · exact sound₁.2
      · refine ⟨sound₁.1, ?_⟩
        dsimp only
        split
        · exact sound.2
        · exact sound₁.2
    · cases E
      · simp only [Engine.ownView, Prod.mk.injEq] at same₁ ⊢
        refine ⟨?_, same₁.2⟩
        split
        · rfl
        · exact same₁.1
      · simp only [Engine.ownView, Prod.mk.injEq] at same₁ ⊢
        refine ⟨?_, same₁.2⟩
        split
        · rfl
        · exact same₁.1

end World

/-! ## The engines -/

namespace Engine

variable {E : Engine}

theorem createScheme_keeps (e : Engine) (d : Dict) :
    Keeps E.OwnSound E.ownView (fun _ => e = E → E.ownName d.id = false) (e.createScheme d) := by
  cases e with
  | relational =>
    show Keeps _ _ _ (onDatabase (Relational.createScheme d))
    refine onDatabase_keeps (fun own => ?_) fun other _ same => ?_
    · subst own
      exact Runs.mono (Relational.createScheme_keeps d) fun _ apart _ => apart
    · rw [other] at same
      cases same
  | document =>
    show Keeps _ _ _ (onDocuments (Document.createScheme d))
    refine onDocuments_keeps (fun own => ?_) fun other _ same => ?_
    · subst own
      exact Runs.mono (Document.createScheme_keeps d) fun _ apart _ => apart
    · rw [other] at same
      cases same

theorem saveDict_keeps {d : Dict} (clear : Clear E d) :
    Keeps E.OwnSound E.ownView (fun _ => True) (E.saveDict d) := by
  cases E with
  | relational =>
    exact onDatabase_keeps (fun _ => Relational.saveDict_keeps clear) fun other => by cases other
  | document =>
    show Keeps _ _ _ (onDocuments (Document.saveDict d))
    exact onDocuments_keeps (fun _ => Document.saveDict_keeps clear) fun other => by cases other

theorem getDict_clear (id : String) :
    Keeps E.OwnSound E.ownView (fun found => ∀ d ∈ found, Clear E d) (E.getDict id) := by
  cases E with
  | relational =>
    exact onDatabase_keeps (fun _ => Relational.getDict_clear id) fun other => by cases other
  | document =>
    show Keeps _ _ _ (onDocuments (Document.getDict id))
    exact onDocuments_keeps (fun _ => Document.getDict_clear id) fun other => by cases other

section Apart

variable {e : Engine} {d : Dict}

theorem insertItem_keeps (apart : e = E → E.ownName d.id = false) (item : Item) :
    Keeps E.OwnSound E.ownView (fun _ => True) (e.insertItem d item) := by
  cases e with
  | relational =>
    show Keeps _ _ _ (onDatabase (Relational.insertItem d item))
    refine onDatabase_keeps (fun own => ?_) fun _ _ => trivial
    subst own
    exact Relational.untouched_keeps (Relational.insertItem_untouched (apart rfl) item)
  | document =>
    show Keeps _ _ _ (onDocuments (Document.insertItem d item))
    refine onDocuments_keeps (fun own => ?_) fun _ _ => trivial
    subst own
    exact Document.untouched_keeps (Document.insertItem_untouched (apart rfl) item)

theorem renameField_keeps (apart : e = E → E.ownName d.id = false) (source target : String) :
    Keeps E.OwnSound E.ownView (fun _ => True) (e.renameField d source target) := by
  cases e with
  | relational =>
    show Keeps _ _ _ (onDatabase (Relational.renameField d source target))
    refine onDatabase_keeps (fun own => ?_) fun _ _ => trivial
    subst own
    exact Relational.untouched_keeps (Relational.renameField_untouched (apart rfl) source target)
  | document =>
    show Keeps _ _ _ (onDocuments (Document.renameField d source target))
    refine onDocuments_keeps (fun own => ?_) fun _ _ => trivial
    subst own
    exact Document.untouched_keeps (Document.renameField_untouched (apart rfl) source target)

theorem updateScheme_keeps (previous : Dict) (apart : e = E → E.ownName d.id = false) :
    Keeps E.OwnSound E.ownView (fun _ => True) (e.updateScheme previous d) := by
  cases e with
  | relational =>
    show Keeps _ _ _ (onDatabase (Relational.updateScheme previous d))
    refine onDatabase_keeps (fun own => ?_) fun _ _ => trivial
    subst own
    exact Relational.untouched_keeps (Relational.updateScheme_untouched previous (apart rfl))
  | document =>
    show Keeps _ _ _ (onDocuments (Document.updateScheme previous d))
    refine onDocuments_keeps (fun own => ?_) fun _ _ => trivial
    subst own
    exact Document.untouched_keeps (Document.updateScheme_untouched previous (apart rfl))

theorem modifyItem_keeps {α : Type} (apart : e = E → E.ownName d.id = false) (id : String)
    (expected : Option Int) (change : Item → Except Error (Item × α)) :
    Keeps E.OwnSound E.ownView (fun _ => True) (e.modifyItem d id expected change) := by
  cases e with
  | relational =>
    show Keeps _ _ _ (onDatabase (Relational.modifyItem d id expected change))
    refine onDatabase_keeps (fun own => ?_) fun _ _ => trivial
    subst own
    exact Relational.untouched_keeps (Relational.modifyItem_untouched (apart rfl) id expected change)
  | document =>
    show Keeps _ _ _ (onDocuments (Document.modifyItem d id expected change))
    refine onDocuments_keeps (fun own => ?_) fun _ _ => trivial
    subst own
    exact Document.untouched_keeps (Document.modifyItem_untouched (apart rfl) id expected change)

end Apart

theorem allDicts_stateless (e : Engine) : Stateless e.allDicts := by
  cases e
  · show Stateless (onDatabase Relational.allDicts)
    refine onDatabase_stateless ?_
    unfold Relational.allDicts
    exact Runs.seq Runs.get fun db => Runs.seq (Relational.need_stateless _) fun t =>
      Runs.mapM fun body _ => Stateless.of_state fun _ => rfl
  · show Stateless (onDocuments Document.allDicts)
    refine onDocuments_stateless ?_
    unfold Document.allDicts
    exact Runs.seq (Document.find_stateless _ _ _) fun docs => liftExcept_stateless _

theorem schemeExists_stateless (e : Engine) (id : String) : Stateless (e.schemeExists id) := by
  cases e
  · exact Runs.seq Runs.get fun w => Runs.pure trivial
  · exact Runs.seq Runs.get fun w => Runs.pure trivial

end Engine

/-- A scheme with the id and engine of a clear one is clear. -/
theorem Clear.of_same {E : Engine} {d d' : Dict} (clear : Clear E d) (id : d'.id = d.id)
    (engine : d'.engine = d.engine) : Clear E d' := by
  unfold Clear
  rw [id, engine]
  exact clear

/-! ## Dict schemes -/

namespace Dicts

variable {E : Engine}

theorem validate_stateless (d : Dict) : Stateless (validate d) := by
  unfold validate
  exact Runs.seq defaultEngine_stateless fun store =>
    Runs.seq (store.allDicts_stateless) fun _ => liftExcept_stateless _

theorem all_stateless : Stateless all := by
  unfold all
  exact Runs.seq defaultEngine_stateless fun store =>
    Runs.seq (store.allDicts_stateless) fun _ => Runs.pure trivial

/-- A live dict found is one of the clear schemes. -/
theorem find?_clear (dictId : String) :
    Keeps E.OwnSound E.ownView (fun found => ∀ d ∈ found, Clear E d) (find? dictId) := by
  unfold find?
  refine Runs.bind defaultEngine_keeps fun store isDefault => ?_
  subst isDefault
  refine Runs.bind (Engine.getDict_clear dictId) fun found clear => Runs.pure ?_
  intro d mem
  exact clear d (Option.mem_filter_iff.mp mem).1

theorem get_clear (dictId : String) : Keeps E.OwnSound E.ownView (Clear E) (get dictId) := by
  unfold get
  refine Runs.bind (find?_clear dictId) fun found clear => ?_
  split
  · exact Runs.pure (clear _ rfl)
  · exact Runs.throw trivial

/-- Creating a dict makes its storage under its id, which fails on a name
of the default engine's own stores; so the scheme saved is clear. -/
theorem create_keeps (d : Dict) : Keeps E.OwnSound E.ownView (fun _ => True) (create d) := by
  unfold create
  refine Runs.bind defaultEngine_keeps fun store isDefault => ?_
  subst isDefault
  refine Runs.seq (Runs.of_stateless (validate_stateless _)) fun _ => ?_
  refine Runs.bind (engineOf_keeps _) fun name named => ?_
  refine Runs.bind (liftExcept_runs (fun _ found => found) fun _ _ => trivial) fun engine found => ?_
  refine Runs.seq (Runs.of_stateless (Engine.getDict_stateless _ _)) fun _ => ?_
  refine Runs.seq (Runs.of_stateless (Engine.schemeExists_stateless _ _)) fun _ => ?_
  dsimp only
  split
  · exact Runs.throw_bind trivial _
  · refine Runs.seq (transact_keeps ?_ Engine.all) fun _ => Runs.pure trivial
    refine Runs.bind (Engine.createScheme_keeps engine _) fun _ apart => ?_
    refine Engine.saveDict_keeps fun default => apart ?_
    rw [named] at default
    cases default
    exact Engine.name_inj (Capability.lookup_name found)

/-- Putting a new definition in the place of a clear dict keeps its id and
engine, so it is clear too. -/
theorem replace_keeps {previous updated : Dict} (clear : Clear E previous)
    (id : updated.id = previous.id) (engine : updated.engine = previous.engine) :
    Keeps E.OwnSound E.ownView (fun _ => True) (replace previous updated) := by
  unfold replace
  refine Runs.seq (Runs.of_stateless (validate_stateless _)) fun _ => ?_
  refine Runs.bind (engineOf_keeps previous) fun name named => ?_
  refine Runs.bind (liftExcept_runs (fun _ found => found) fun _ _ => trivial) fun kept found => ?_
  refine Runs.bind defaultEngine_keeps fun store isDefault => ?_
  subst isDefault
  refine Runs.seq (transact_keeps ?_ Engine.all) fun _ => Runs.pure trivial
  refine Runs.seq (Engine.updateScheme_keeps previous ?_) fun _ =>
    Engine.saveDict_keeps (clear.of_same id engine)
  rw [id]
  exact clear.apart named found

theorem update_keeps (dictId : String) (updated : Dict) :
    Keeps E.OwnSound E.ownView (fun _ => True) (update dictId updated) := by
  unfold update
  exact Runs.bind (get_clear dictId) fun previous clear => replace_keeps clear rfl rfl

theorem addField_keeps (dictId : String) (f : Field) :
    Keeps E.OwnSound E.ownView (fun _ => True) (addField dictId f) := by
  unfold addField
  exact Runs.bind (get_clear dictId) fun previous clear => replace_keeps clear rfl rfl

theorem dropField_keeps (dictId fieldId : String) :
    Keeps E.OwnSound E.ownView (fun _ => True) (dropField dictId fieldId) := by
  unfold dropField
  refine Runs.bind (get_clear dictId) fun previous clear => ?_
  dsimp only
  split
  · exact Runs.throw_bind trivial _
  · split
    · exact Runs.throw_bind trivial _
    · exact replace_keeps clear rfl rfl

theorem renameField_keeps (dictId source target : String) (name : Option String) :
    Keeps E.OwnSound E.ownView (fun _ => True) (renameField dictId source target name) := by
  unfold renameField
  refine Runs.bind (get_clear dictId) fun previous clear => ?_
  dsimp only
  split
  · refine Runs.seq (Runs.pure trivial) fun currentId => ?_
    refine Runs.seq (Runs.of_stateless (validate_stateless _)) fun _ => ?_
    refine Runs.bind (engineOf_keeps previous) fun name named => ?_
    refine Runs.bind (liftExcept_runs (fun _ found => found) fun _ _ => trivial) fun kept found => ?_
    refine Runs.bind defaultEngine_keeps fun store isDefault => ?_
    subst isDefault
    refine Runs.seq (transact_keeps ?_ Engine.all) fun _ => Runs.pure trivial
    exact Runs.seq (Engine.renameField_keeps (clear.apart named found) _ _) fun _ =>
      Engine.saveDict_keeps (clear.of_same rfl rfl)
  · exact Runs.throw_bind trivial _

theorem createIndex_keeps (dictId : String) (i : Index) :
    Keeps E.OwnSound E.ownView (fun _ => True) (createIndex dictId i) := by
  unfold createIndex
  exact Runs.bind (get_clear dictId) fun previous clear => replace_keeps clear rfl rfl

theorem deleteIndex_keeps (dictId indexId : String) :
    Keeps E.OwnSound E.ownView (fun _ => True) (deleteIndex dictId indexId) := by
  unfold deleteIndex
  refine Runs.bind (get_clear dictId) fun previous clear => ?_
  dsimp only
  split
  · exact Runs.throw_bind trivial _
  · exact replace_keeps clear rfl rfl

theorem createConstraint_keeps (dictId : String) (c : Constraint) :
    Keeps E.OwnSound E.ownView (fun _ => True) (createConstraint dictId c) := by
  unfold createConstraint
  exact Runs.bind (get_clear dictId) fun previous clear => replace_keeps clear rfl rfl

theorem deleteConstraint_keeps (dictId constraintId : String) :
    Keeps E.OwnSound E.ownView (fun _ => True) (deleteConstraint dictId constraintId) := by
  unfold deleteConstraint
  refine Runs.bind (get_clear dictId) fun previous clear => ?_
  dsimp only
  split
  · exact Runs.throw_bind trivial _
  · exact replace_keeps clear rfl rfl

theorem createEnum_keeps (dictId : String) (e : Enumeration) :
    Keeps E.OwnSound E.ownView (fun _ => True) (createEnum dictId e) := by
  unfold createEnum
  exact Runs.bind (get_clear dictId) fun previous clear => replace_keeps clear rfl rfl

theorem addEnumValue_keeps (dictId enumId value : String) :
    Keeps E.OwnSound E.ownView (fun _ => True) (addEnumValue dictId enumId value) := by
  unfold addEnumValue
  refine Runs.bind (get_clear dictId) fun previous clear => ?_
  split
  · exact Runs.throw trivial
  · dsimp only
    split
    · exact Runs.throw_bind trivial _
    · exact replace_keeps clear rfl rfl

theorem deleteEnum_keeps (dictId enumId : String) :
    Keeps E.OwnSound E.ownView (fun _ => True) (deleteEnum dictId enumId) := by
  unfold deleteEnum
  refine Runs.bind (get_clear dictId) fun previous clear => ?_
  dsimp only
  split
  · exact Runs.throw_bind trivial _
  · exact replace_keeps clear rfl rfl

theorem setParameter_keeps (dictId : String) (parameter : Ddl.TableParameter)
    (value : Option String) :
    Keeps E.OwnSound E.ownView (fun _ => True) (setParameter dictId parameter value) := by
  unfold setParameter
  refine Runs.bind (get_clear dictId) fun previous clear => ?_
  refine Runs.bind defaultEngine_keeps fun store isDefault => ?_
  subst isDefault
  refine Runs.seq (Engine.saveDict_keeps (clear.of_same ?_ ?_)) fun _ => Runs.pure trivial
  · cases parameter <;> rfl
  · cases parameter <;> rfl

/-- Deleting a dict saves its scheme again, marked deleted. -/
theorem delete_keeps (dictId : String) :
    Keeps E.OwnSound E.ownView (fun _ => True) (delete dictId) := by
  unfold delete
  refine Runs.bind (get_clear dictId) fun d clear => ?_
  refine Runs.seq (Runs.of_stateless all_stateless) fun _ => ?_
  dsimp only
  split
  · exact Runs.throw_bind trivial _
  · refine Runs.seq (Runs.of_stateless Migration.now_stateless) fun _ => ?_
    refine Runs.bind defaultEngine_keeps fun store isDefault => ?_
    subst isDefault
    exact Runs.seq (Engine.saveDict_keeps (clear.of_same rfl rfl)) fun _ => Runs.pure trivial

end Dicts

/-! ## Records -/

namespace Records

variable {E : Engine}

/-- The engine of a clear dict's records, when it is the default one,
keeps them apart from its own stores. -/
theorem engine_apart {d : Dict} (clear : Clear E d) :
    Keeps E.OwnSound E.ownView (fun e => e = E → E.ownName d.id = false) (engine d) := by
  unfold engine
  refine Runs.bind (engineOf_keeps d) fun name named => ?_
  exact Runs.mono (liftExcept_runs (fun _ found => found) fun _ _ => trivial) fun e found => clear.apart named found

theorem transactional_keeps {α : Type} {post : α → Prop} {act : WorldM α} (d : Dict)
    (keeps : Keeps E.OwnSound E.ownView post act) :
    Keeps E.OwnSound E.ownView post (transactional d act) := by
  unfold transactional
  exact Runs.bind (engineOf_keeps d) fun _ _ =>
    Runs.bind (liftExcept_runs (fun _ found => found) fun _ _ => trivial) fun e _ => transact_keeps keeps [e]

theorem create_keeps (dictId : String) (data : Data) :
    Keeps E.OwnSound E.ownView (fun _ => True) (create dictId data) := by
  unfold create
  refine Runs.bind (Dicts.get_clear dictId) fun d clear => ?_
  extract_lets written
  have rest : ∀ id, Keeps E.OwnSound E.ownView (fun _ => True) (written id) := by
    intro id
    simp only [written]
    refine Runs.bind (liftExcept_runs (fun _ found => found) fun _ _ => trivial) fun data _ => ?_
    refine Runs.seq (Runs.of_stateless (checkReferences_stateless d data)) fun _ => ?_
    refine Runs.bind (engine_apart clear) fun e apart => ?_
    refine Runs.seq (Runs.of_stateless Migration.now_stateless) fun stamp => ?_
    refine Runs.seq (transactional_keeps d ?_) fun _ => Runs.pure trivial
    refine Runs.seq (Runs.of_stateless (Engine.getItem_stateless e d _)) fun found => ?_
    split
    · exact Runs.throw_bind trivial _
    · exact Runs.seq (Runs.of_stateless (checkUnique_stateless _ _ _)) fun _ =>
        Engine.insertItem_keeps apart _
  split
  · split
    · exact Runs.throw_bind trivial _
    · exact Runs.seq (Runs.pure trivial) rest
  · exact Runs.seq (keeps_of_leaves freshId_leaves) rest
  · exact Runs.seq (keeps_of_leaves freshId_leaves) rest
  · exact Runs.throw_bind trivial _

theorem createMany_keeps (dictId : String) (items : List Data) :
    Keeps E.OwnSound E.ownView (fun _ => True) (createMany dictId items) := by
  unfold createMany
  exact Runs.bind (Dicts.get_clear dictId) fun d _ =>
    transactional_keeps d (Runs.mapM fun data _ => create_keeps dictId data)

/-- A change of a record is one write to its dict's storage, then the
snapshots it evicted go to the archive. -/
theorem update_keeps (dictId itemId : String) (expected : Int) (data : Data) :
    Keeps E.OwnSound E.ownView (fun _ => True) (update dictId itemId expected data) := by
  unfold update
  refine Runs.bind (Dicts.get_clear dictId) fun d clear => ?_
  refine Runs.bind (liftExcept_runs (fun _ found => found) fun _ _ => trivial) fun data _ => ?_
  refine Runs.seq (Runs.of_stateless (checkReferences_stateless d data)) fun _ => ?_
  refine Runs.bind (engine_apart clear) fun e apart => ?_
  refine Runs.seq (Runs.of_stateless Runs.get) fun w => ?_
  refine transactional_keeps d ?_
  refine Runs.seq (Runs.of_stateless (checkUnique_stateless _ _ _)) fun _ => ?_
  refine Runs.seq (Engine.modifyItem_keeps apart _ _ _) fun changed => ?_
  obtain ⟨item, evicted⟩ := changed
  exact Runs.seq (keeps_of_leaves (archiveSnapshots_leaves _ _ _)) fun _ => Runs.pure trivial

theorem delete_keeps (dictId itemId : String) (reason : Option String) :
    Keeps E.OwnSound E.ownView (fun _ => True) (delete dictId itemId reason) := by
  unfold delete
  refine Runs.bind (Dicts.get_clear dictId) fun d clear => ?_
  refine Runs.bind (engine_apart clear) fun e apart => ?_
  refine Runs.seq (Runs.of_stateless Runs.get) fun w => ?_
  refine transactional_keeps d ?_
  refine Runs.seq (Engine.modifyItem_keeps apart _ _ _) fun changed => ?_
  obtain ⟨item, evicted⟩ := changed
  exact Runs.seq (keeps_of_leaves (archiveSnapshots_leaves _ _ _)) fun _ => Runs.pure trivial

theorem deleteWhere_keeps (dictId : String) (filter : Query.Expression) (reason : Option String) :
    Keeps E.OwnSound E.ownView (fun _ => True) (deleteWhere dictId filter reason) := by
  unfold deleteWhere
  refine Runs.seq (Runs.of_stateless (select_stateless _ _ _)) fun items => ?_
  refine Runs.bind (Dicts.get_clear dictId) fun d _ => transactional_keeps d ?_
  refine Runs.seq (Runs.forIn fun item _ _ => ?_) fun _ => Runs.pure trivial
  exact Runs.seq (delete_keeps _ _ _) fun _ => Runs.pure trivial

end Records

/-! ## Statements -/

namespace Ddl

variable {E : Engine}

theorem alter_keeps (table : String) (alteration : Alteration) :
    Keeps E.OwnSound E.ownView (fun _ => True) (alter table alteration) := by
  cases alteration with
  | addColumn column => exact Runs.discard (Dicts.addField_keeps _ _)
  | dropColumn id => exact Runs.discard (Dicts.dropField_keeps _ _)
  | renameColumn source target name => exact Runs.discard (Dicts.renameField_keeps _ _ _ _)
  | setParameter parameter value => exact Runs.discard (Dicts.setParameter_keeps _ _ _)
  | addConstraint id columns => exact Runs.discard (Dicts.createConstraint_keeps _ _)
  | dropConstraint id => exact Runs.discard (Dicts.deleteConstraint_keeps _ _)
  | addEnumValue enumId value => exact Runs.discard (Dicts.addEnumValue_keeps _ _ _)
  | dropEnum id => exact Runs.discard (Dicts.deleteEnum_keeps _ _)

/-- Inserting rows reads the values, then creates the records. -/
theorem insertRows_keeps (table : String) (columns : List String) (rows : List (List Literal)) :
    Keeps E.OwnSound E.ownView (fun _ => True) (insertRows table columns rows) := by
  unfold insertRows
  extract_lets written
  have rest : ∀ columns, Keeps E.OwnSound E.ownView (fun _ => True) (written columns) := by
    intro columns
    simp only [written]
    refine Runs.bind (Runs.mapM fun row _ => ?_) fun items _ =>
      Runs.discard (Records.createMany_keeps table items)
    split
    · exact Runs.throw_bind trivial _
    · exact Runs.foldlM fun x _ data =>
        Runs.bind (Runs.of_stateless (liftExcept_stateless _)) fun _ _ => Runs.pure trivial
  split
  · exact Runs.seq (Runs.of_stateless (Dicts.get_stateless table)) fun d =>
      Runs.seq (Runs.pure trivial) rest
  · exact Runs.seq (Runs.pure trivial) rest

/-- Updating rows changes each record selected, at the version read. -/
theorem updateRows_keeps (table : String) (assignments : List Assignment)
    (filter : Option Condition) :
    Keeps E.OwnSound E.ownView (fun _ => True) (updateRows table assignments filter) := by
  unfold updateRows
  refine Runs.seq (Runs.of_stateless (liftExcept_stateless _)) fun expression => ?_
  refine Runs.seq (Runs.of_stateless (Records.select_stateless _ _ _)) fun items => ?_
  refine Runs.seq (Runs.forIn fun item _ _ => ?_) fun _ => Runs.pure trivial
  refine Runs.seq (Runs.of_stateless (Runs.foldlM fun a _ data => ?_)) fun data =>
    Runs.seq (Runs.discard (Records.update_keeps _ _ _ _)) fun _ => Runs.pure trivial
  dsimp only
  split
  · exact Runs.seq (liftExcept_stateless _) fun _ => Runs.pure trivial
  · exact Runs.seq (Runs.pure trivial) fun _ => Runs.pure trivial

theorem Statement.run_keeps (script : List Statement) (statement : Statement) :
    Keeps E.OwnSound E.ownView (fun _ => True) (statement.run script) := by
  cases statement with
  | createTable id name columns engine => exact Runs.discard (Dicts.create_keeps _)
  | createEnum id name table values =>
    refine Runs.seq (Runs.of_stateless (Dicts.find?_stateless table)) fun found => ?_
    split
    · split
      · exact Runs.throw trivial
      · exact Runs.pure trivial
    · split
      · split
        · exact Runs.throw trivial
        · exact Runs.pure trivial
      · exact Runs.discard (Dicts.createEnum_keeps _ _)
  | createIndex id table descending fields => exact Runs.discard (Dicts.createIndex_keeps _ _)
  | dropIndex id table => exact Runs.discard (Dicts.deleteIndex_keeps _ _)
  | alterTable table alteration => exact alter_keeps table alteration
  | dropTable table => exact Runs.discard (Dicts.delete_keeps _)
  | insert table columns rows => exact insertRows_keeps table columns rows
  | update table assignments filter => exact updateRows_keeps table assignments filter
  | delete table filter =>
    exact Runs.seq (Runs.of_stateless (liftExcept_stateless _)) fun expression =>
      Runs.discard (Records.deleteWhere_keeps _ _ _)

/-- A script's statements, from a world whose default engine's own stores
stand with every dict scheme clear, keep this so, and leave the applied
migrations, the states of the migration targets and the clock as they
were, whether the script ends or fails. -/
theorem execute_keeps (statements : List Statement) :
    Keeps E.OwnSound E.ownView (fun _ => True) (execute statements) := by
  unfold execute
  refine Runs.seq (Runs.of_stateless (liftExcept_stateless _)) fun _ => ?_
  refine Runs.seq (Runs.forIn fun statement _ _ => ?_) fun _ => Runs.pure trivial
  exact Runs.seq (Statement.run_keeps statements statement) fun _ => Runs.pure trivial

end Ddl

end Refbook
