import Refbook.Proofs.OwnTables

namespace Refbook

/-!
# The document engine's own collections

The document engine keeps dict schemes and migration history in the
collections `dict` and `version_scheme`, found by their exact names.  As
for the relational engine, work on the collection of a clear dict leaves
them alone, saving a clear dict keeps every scheme in `dict` clear, and
creating a collection succeeds only under a name apart from them.  A scheme
is kept as its JSON with its id under `_id`, and reads back with its id and
engine.
-/

namespace Document

/-- The names of the collections the document engine keeps for itself. -/
def ownName (name : String) : Bool :=
  Engine.document.ownName name

theorem ownName_eq_false {name : String} (apart : ownName name = false) :
    name ≠ "dict" ∧ name ≠ "version_scheme" := by
  simpa [ownName, Engine.ownName] using apart

namespace Store

/-- The collections the engine keeps for itself. -/
def ownCollections (s : Store) : Option (List Json) × Option (List Json) :=
  (s.collection? "dict", s.collection? "version_scheme")

/-- Putting back a collection leaves the collections of other names alone. -/
theorem put_collection? (s : Store) {name other : String} (apart : name ≠ other)
    (docs : List Json) : (s.put name docs).collection? other = s.collection? other := by
  unfold put collection?
  dsimp only
  induction s.collections with
  | nil => rfl
  | cons entry rest ih =>
    obtain ⟨n, old⟩ := entry
    by_cases chosen : n = name
    · subst chosen
      have differ : (other == n) = false := by simpa using Ne.symm apart
      simp only [List.map_cons, beq_self_eq_true, if_true, List.lookup, differ]
      exact ih
    · have unchosen : (n == name) = false := by simpa using chosen
      simp only [List.map_cons, unchosen, Bool.false_eq_true, if_false, List.lookup]
      split <;> simp_all

/-- A collection put back is found under its name. -/
theorem put_collection?_self {s : Store} {name : String} {old : List Json}
    (found : s.collection? name = some old) (docs : List Json) :
    (s.put name docs).collection? name = some docs := by
  unfold put collection? at *
  dsimp only
  generalize s.collections = collections at found ⊢
  induction collections with
  | nil => cases found
  | cons entry rest ih =>
    obtain ⟨n, kept⟩ := entry
    by_cases same : n = name
    · subst same
      simp
    · have differ : (name == n) = false := by simpa using Ne.symm same
      have unchosen : (n == name) = false := by simpa using same
      simp only [List.lookup, differ] at found
      simp only [List.map_cons, unchosen, Bool.false_eq_true, if_false, List.lookup, differ]
      exact ih found

theorem put_ownCollections (s : Store) {name : String} (apart : ownName name = false)
    (docs : List Json) : (s.put name docs).ownCollections = s.ownCollections := by
  obtain ⟨dicts, versions⟩ := ownName_eq_false apart
  unfold ownCollections
  rw [put_collection? s dicts, put_collection? s versions]

/-- A collection created is added after the others. -/
theorem create_collection? (s : Store) {name other : String} (apart : name ≠ other) :
    (s.create name).collection? other = s.collection? other := by
  unfold create
  split
  · rfl
  · have unchosen : (other == name) = false := by simpa using Ne.symm apart
    simp [collection?, List.lookup_append, List.lookup, unchosen]

theorem create_ownCollections (s : Store) {name : String} (apart : ownName name = false) :
    (s.create name).ownCollections = s.ownCollections := by
  obtain ⟨dicts, versions⟩ := ownName_eq_false apart
  unfold ownCollections
  rw [create_collection? s dicts, create_collection? s versions]

end Store

/-- A replace that ends put back the collection it found, changed at one
place, or changed nothing. -/
theorem replaceOne_ok {name : String} {filter document : Json} {s s' : Store} {n : Nat}
    (ran : (replaceOne name filter document).run.run s = (.ok n, s')) :
    ∃ docs, s.collection? name = some docs ∧
      (s' = s ∨ ∃ i, s' = s.put name (docs.set i document)) := by
  unfold replaceOne at ran
  rcases (documents_stateless name).bind_run ran with ⟨_, h, -⟩ | ⟨docs, listed, rest⟩
  · cases h
  obtain ⟨found, -⟩ := documents_ok listed
  refine ⟨docs, found, ?_⟩
  rw [runState_bind] at rest
  cases matched : firstMatch docs filter with
  | error e =>
    simp only [matched, liftExcept_run] at rest
    cases rest
  | ok place =>
    simp only [matched, liftExcept_run] at rest
    split at rest
    · rw [runState_bind_ok (runState_modify _ s)] at rest
      cases rest
      exact Or.inr ⟨_, rfl⟩
    · cases rest
      exact Or.inl rfl

/-! ## Work on the collection of a clear dict -/

/-- Work made atomic leaves the engine's own collections alone when the
work does: a failure puts back the store it started from. -/
theorem untouched_atomically {α : Type} {act : StoreM α} (inner : Leaves Store.ownCollections act) :
    Leaves Store.ownCollections (atomically act) := by
  intro own
  refine Keeps.intro fun s r s' kept ran => ?_
  unfold atomically at ran
  rw [runState_bind_ok (runState_get s), runState_tryCatch] at ran
  rcases worked : act.run.run s with ⟨result, s₁⟩
  rw [worked] at ran
  cases result with
  | ok a =>
    cases ran
    exact (inner own).run kept worked
  | error e =>
    dsimp only at ran
    rw [runState_bind_ok (runState_set s₁ s)] at ran
    cases ran
    exact ⟨kept, rfl, fun _ same => by cases same⟩

section Apart

variable {name : String} (apart : ownName name = false)
include apart

theorem untouched_put (docs : List Json) :
    Leaves Store.ownCollections (modify fun s => s.put name docs : StoreM PUnit) :=
  Leaves.modify fun s => s.put_ownCollections apart docs

theorem insertOne_untouched (document : Json) :
    Leaves Store.ownCollections (insertOne name document) := by
  intro own
  refine Keeps.intro fun s r s' kept ran => ?_
  cases r with
  | ok u =>
    obtain ⟨docs, -, rfl⟩ := insertOne_ok ran
    exact ⟨(s.put_ownCollections apart _).trans kept, rfl, fun _ _ => trivial⟩
  | error e =>
    rw [insertOne_error ran]
    exact ⟨kept, rfl, fun _ same => by cases same⟩

theorem replaceOne_untouched (filter document : Json) :
    Leaves Store.ownCollections (replaceOne name filter document) := by
  intro own
  refine Keeps.intro fun s r s' kept ran => ?_
  rcases replaceOne_kept ran with rfl | rfl
  · obtain ⟨docs, -, rfl | ⟨i, rfl⟩⟩ := replaceOne_ok ran
    · exact ⟨kept, rfl, fun _ _ => trivial⟩
    · exact ⟨(s.put_ownCollections apart _).trans kept, rfl, fun _ _ => trivial⟩
  · exact ⟨kept, rfl, fun _ _ => trivial⟩

theorem renameKey_untouched (source target : String) :
    Leaves Store.ownCollections (renameKey name source target) := by
  unfold renameKey
  intro own
  exact Runs.seq (Runs.of_stateless (documents_stateless name)) fun docs =>
    untouched_put apart _ own

theorem unsetKey_untouched (key : String) :
    Leaves Store.ownCollections (unsetKey name key) := by
  unfold unsetKey
  intro own
  exact Runs.seq (Runs.of_stateless (documents_stateless name)) fun docs =>
    untouched_put apart _ own

end Apart

theorem insertItem_untouched {d : Dict} (apart : ownName d.id = false) (item : Item) :
    Leaves Store.ownCollections (insertItem d item) := by
  unfold insertItem
  refine untouched_atomically fun own => ?_
  refine Runs.seq (Runs.of_stateless (checkUnique_stateless d item)) fun _ => ?_
  exact Runs.seq (Runs.of_stateless (liftExcept_stateless _)) fun document =>
    insertOne_untouched apart document own

theorem renameField_untouched {d : Dict} (apart : ownName d.id = false) (source target : String) :
    Leaves Store.ownCollections (renameField d source target) :=
  renameKey_untouched apart source target

/-- Bringing a collection to a new scheme removes keys from its documents
only. -/
theorem updateScheme_untouched (previous : Dict) {current : Dict}
    (apart : ownName current.id = false) :
    Leaves Store.ownCollections (updateScheme previous current) := by
  unfold updateScheme
  intro own
  refine Runs.seq (Runs.forIn fun f _ _ => ?_) fun _ => Runs.pure trivial
  split
  · exact Runs.seq (unsetKey_untouched apart f.id own) fun _ => Runs.pure trivial
  · split
    · exact Runs.throw trivial
    · exact Runs.pure trivial

/-- Changing a stored record touches the dict's collection only: the
change replaces one document of it. -/
theorem modifyItem_untouched {α : Type} {d : Dict} (apart : ownName d.id = false) (id : String)
    (expected : Option Int) (change : Item → Except Error (Item × α)) :
    Leaves Store.ownCollections (modifyItem d id expected change) := by
  unfold modifyItem
  apply untouched_atomically
  refine fun own => Runs.seq (Runs.of_stateless (getItem_stateless d id)) fun found => ?_
  extract_lets checked
  have afterRead : ∀ stored, Leaves Store.ownCollections (checked stored) := by
    intro stored
    simp -zeta only [checked]
    extract_lets filter changed
    have write : ∀ u, Leaves Store.ownCollections (changed u) := by
      intro u own
      simp -zeta only [changed]
      refine Runs.seq (Runs.of_stateless (liftExcept_stateless _)) fun p => ?_
      refine Runs.seq (Runs.of_stateless (checkUnique_stateless _ _)) fun _ => ?_
      refine Runs.seq (Runs.of_stateless (liftExcept_stateless _)) fun document => ?_
      refine Runs.seq (replaceOne_untouched apart _ _ own) fun replaced => ?_
      extract_lets answered
      split
      · exact Runs.seq (Runs.of_stateless (getItem_stateless _ _)) fun _ => Runs.throw_bind trivial _
      · exact Runs.pure trivial
    split
    · split
      · exact fun own => Runs.throw_bind trivial _
      · exact write ()
    · exact write ()
  split
  · exact Runs.seq (Runs.pure trivial) fun stored => afterRead stored own
  · exact Runs.throw_bind trivial _

/-! ## The collection of dict schemes stays clear -/

/-- A dict scheme kept as a document reads, if at all, as a dict clear of
the engine's own collections. -/
def ClearDocument (doc : Json) : Prop :=
  ∀ d, dictOfDocument doc = .ok d → Clear .document d

/-- The engine's own collections stand: the dict schemes, all clear, and
the applied migrations. -/
def Sound (s : Store) : Prop :=
  (∃ docs, s.collection? "dict" = some docs ∧ ∀ doc ∈ docs, ClearDocument doc) ∧
    (s.collection? "version_scheme").isSome

/-- The applied migrations, as the engine keeps them. -/
def history (s : Store) : Option (List Json) :=
  s.collection? "version_scheme"

theorem untouched_keeps {α : Type} {act : StoreM α} (untouched : Leaves Store.ownCollections act) :
    Keeps Sound history (fun _ => True) act := by
  refine untouched.keeps fun s s' same sound => ?_
  simp only [Store.ownCollections, Prod.mk.injEq] at same
  refine ⟨?_, same.2⟩
  unfold Sound
  rw [same.1, same.2]
  exact sound

/-- An `_id` set on an object without one is taken off again by
`withoutId`. -/
theorem withoutId_withId {entries : List (String × Json)} (absent : entries.lookup "_id" = none)
    (id : String) : withoutId (withId id (.object entries)) = .object entries := by
  have other : ∀ entry ∈ entries, (entry.1 == "_id") = false := by
    intro entry mem
    have differ := List.lookup_eq_none_iff.mp absent entry mem
    by_cases same : entry.1 = "_id"
    · rw [same] at differ
      simp at differ
    · simp [same]
  have fresh : entries.any (fun entry => entry.1 == "_id") = false :=
    List.any_eq_false.mpr fun entry mem same => by rw [other entry mem] at same; cases same
  have last : (entries ++ [("_id", Json.string id)]).findIdx? (fun entry => entry.1 == "_id") =
      some entries.length := by
    rw [List.findIdx?_append, List.findIdx?_eq_none_iff.mpr other]
    simp
  simp [withId, withoutId, Fields.set, fresh, Fields.swapRemove, last]

/-- A dict scheme kept as its JSON under its id reads back with its id and
engine. -/
theorem dictOfDocument_withId {d d' : Dict} (read : dictOfDocument (withId d.id d.toJson) = .ok d') :
    d'.id = d.id ∧ d'.engine = d.engine := by
  obtain ⟨entries, spelled, -, id, engine, absent⟩ := Dict.toJson_keys d
  unfold dictOfDocument at read
  rw [spelled, withoutId_withId absent] at read
  split at read
  next d₀ decoded =>
    cases read
    exact Dict.ofJson_of_lookups id engine decoded
  next => cases read

theorem clearDocument_withId {d : Dict} (clear : Clear .document d) :
    ClearDocument (withId d.id d.toJson) := by
  intro d' read
  obtain ⟨id, engine⟩ := dictOfDocument_withId read
  unfold Clear
  rw [id, engine]
  exact clear

/-- The documents of the collection of dict schemes are clear. -/
theorem documents_dict :
    Keeps Sound history (fun docs => ∀ doc ∈ docs, ClearDocument doc) (documents "dict") := by
  unfold documents
  refine Runs.bind Runs.get fun s sound => ?_
  split
  next docs found =>
    obtain ⟨docs₀, kept, clear⟩ := sound.1
    rw [kept] at found
    cases found
    exact Runs.pure clear
  next => exact Runs.throw trivial

/-- What a search of the collection of dict schemes finds is clear. -/
theorem find_dict (filter : Json) (lookups : List Lookup) :
    Keeps Sound history (fun found => ∀ doc ∈ found, ClearDocument doc) (find "dict" filter lookups) := by
  unfold find
  refine Runs.bind documents_dict fun docs clear => ?_
  refine Runs.seq (Runs.of_stateless Runs.get) fun s => ?_
  refine Runs.mono (Runs.filterM fun doc => ?_) fun found kept doc mem => clear doc (kept doc mem)
  split
  · exact Runs.pure trivial
  · exact Runs.throw trivial

/-- A dict scheme read from the engine is clear of its own collections. -/
theorem getDict_clear (id : String) :
    Keeps Sound history (fun found => ∀ d ∈ found, Clear .document d) (getDict id) := by
  unfold getDict
  refine Runs.bind (find_dict _ _) fun found clear => ?_
  split
  next doc first =>
    refine Runs.mono (liftExcept_runs (fun _ found => found) fun _ _ => trivial) fun read decoded d mem => ?_
    obtain ⟨d₀, decoded₀, rfl⟩ := Except.ok_of_map decoded
    cases mem
    exact clear doc (List.mem_of_mem_head? first) d decoded₀
  next => exact Runs.pure (by simp)

/-- Putting back the collection of dict schemes with clear documents keeps
it clear and leaves the applied migrations alone. -/
theorem put_dict_keeps {docs : List Json} (clear : ∀ doc ∈ docs, ClearDocument doc) :
    Keeps Sound history (fun _ => True) (modify fun s => s.put "dict" docs : StoreM PUnit) := by
  refine Keeps.intro fun s r s' sound ran => ?_
  rw [runState_modify] at ran
  cases ran
  obtain ⟨docs₀, found, -⟩ := sound.1
  have same : history (s.put "dict" docs) = history s := s.put_collection? (by decide) docs
  refine ⟨⟨⟨docs, Store.put_collection?_self found docs, clear⟩, ?_⟩, same, fun _ _ => trivial⟩
  rw [← history, same]
  exact sound.2

theorem insertOne_dict_keeps {doc : Json} (clear : ClearDocument doc) :
    Keeps Sound history (fun _ => True) (insertOne "dict" doc) := by
  unfold insertOne
  refine Runs.bind documents_dict fun docs kept => ?_
  have grown : ∀ d ∈ docs ++ [doc], ClearDocument d := by
    intro d mem
    rcases List.mem_append.mp mem with old | new
    · exact kept d old
    · rw [List.mem_singleton.mp new]
      exact clear
  split
  · exact Runs.throw trivial
  · split
    · exact Runs.throw trivial
    · exact put_dict_keeps grown

theorem replaceOne_dict_keeps {doc : Json} (clear : ClearDocument doc) (filter : Json) :
    Keeps Sound history (fun _ => True) (replaceOne "dict" filter doc) := by
  unfold replaceOne
  refine Runs.bind documents_dict fun docs kept => ?_
  refine Runs.bind (P := fun _ => True) ?_ fun place _ => ?_
  · exact Runs.of_stateless (liftExcept_stateless _)
  · split
    · refine Runs.seq (put_dict_keeps fun d mem => ?_) fun _ => Runs.pure trivial
      rcases List.mem_or_eq_of_mem_set mem with old | rfl
      · exact kept d old
      · exact clear
    · exact Runs.pure trivial

/-- Saving a clear dict scheme keeps the engine's own collections sound and
the applied migrations as they were. -/
theorem saveDict_keeps {d : Dict} (clear : Clear .document d) :
    Keeps Sound history (fun _ => True) (saveDict d) := by
  unfold saveDict
  have kept := clearDocument_withId clear
  refine Runs.seq (replaceOne_dict_keeps kept _) fun replaced => ?_
  split
  · exact insertOne_dict_keeps kept
  · exact Runs.pure trivial

/-- Creating a dict's collection, when it succeeds, shows the dict's id
apart from the engine's own collections. -/
theorem createScheme_keeps (d : Dict) :
    Keeps Sound history (fun _ => ownName d.id = false) (createScheme d) := by
  unfold createScheme
  refine Runs.bind Runs.get fun s sound => ?_
  split
  · exact Runs.throw trivial
  · rename_i absent
    have apart : ownName d.id = false := by
      obtain ⟨docs, dicts, -⟩ := sound.1
      obtain ⟨versions, found⟩ := Option.isSome_iff_exists.mp sound.2
      have new : s.collection? d.id = none := by simpa [Store.contains] using absent
      have notDict : d.id ≠ "dict" := fun same => by rw [same, dicts] at new; cases new
      have notVersions : d.id ≠ "version_scheme" := fun same => by rw [same, found] at new; cases new
      simp [ownName, Engine.ownName, notDict, notVersions]
    exact Runs.mono (untouched_keeps (Leaves.modify fun s => s.create_ownCollections apart))
      fun _ _ => apart

end Document

end Refbook
