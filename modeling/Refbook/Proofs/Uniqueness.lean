import Refbook.Store.Records

namespace Refbook

/-!
# What the uniqueness checks look at

A unique constraint lists field names, and a dict's scheme accepts them in
any ASCII case.  Record values, once normalized, are keyed by the fields'
declared ids.  Both checks made before a record is stored, the one of the
record service and the one of the document engine, look each constraint
field up in the record's values under the constraint's own spelling.  A
constraint whose first field is spelled otherwise than it is keyed therefore
never applies: the checks pass whatever records the dict already holds.
-/

/-- The first field a constraint names is absent, under that spelling, from
the values. -/
def FirstFieldAbsent (data : Data) (c : Constraint) : Prop :=
  ∃ first rest, c.fields = first :: rest ∧ data.lookup first = none

section

variable {m : Type -> Type} [Monad m] [LawfulMonad m]

/-- A loop whose every round does nothing and goes on does nothing. -/
theorem forIn_yield_unit {α : Type} {xs : List α}
    {body : α -> PUnit -> m (ForInStep PUnit)}
    (idle : ∀ x ∈ xs, body x ⟨⟩ = pure (.yield ⟨⟩)) : forIn xs ⟨⟩ body = pure ⟨⟩ := by
  induction xs with
  | nil => rfl
  | cons x rest ih =>
    rw [List.forIn_cons, idle x List.mem_cons_self, pure_bind]
    exact ih fun y mem => idle y (List.mem_cons_of_mem x mem)

end

namespace Records

/-- The service's check finds no condition for a constraint whose first
field is absent, and searches nothing. -/
theorem checkUnique_of_absent {d : Dict} {itemId : String} {data : Data}
    (absent : ∀ c ∈ d.constraints, FirstFieldAbsent data c) :
    checkUnique d itemId data = (engine d >>= fun _ => pure ()) := by
  unfold checkUnique
  congr 1
  funext e
  rw [forIn_yield_unit, pure_bind]
  intro c listed
  obtain ⟨first, rest, named, missing⟩ := absent c listed
  simp [named, missing]

end Records

namespace Document

/-- A fold that gives up for good gives up. -/
theorem foldlM_none_stays {α β ε : Type} {f : Option α -> β -> Except ε (Option α)}
    (stays : ∀ b, f none b = .ok none) (xs : List β) : xs.foldlM f none = .ok none := by
  induction xs with
  | nil => rfl
  | cons x rest ih =>
    rw [List.foldlM_cons, stays]
    exact ih

/-- The document engine's check finds no condition for a constraint whose
first field is absent, and searches nothing. -/
theorem checkUnique_of_absent {d : Dict} {item : Item}
    (absent : ∀ c ∈ d.constraints, FirstFieldAbsent item.data c) :
    checkUnique d item = pure () := by
  unfold checkUnique
  split
  · rfl
  · rw [forIn_yield_unit, pure_bind]
    intro c listed
    obtain ⟨first, rest, named, missing⟩ := absent c listed
    rw [named, List.foldlM_cons]
    simp only [missing]
    cases d.field? first <;>
    · simp only [bind, Except.bind]
      rw [foldlM_none_stays]
      · rfl
      · intro _
        rfl

end Document

/-- Both uniqueness checks pass a record none of whose constraints has its
first field keyed in the record's values under the constraint's spelling,
whatever the dict holds: the service's check only resolves the dict's
engine, the document engine's check does nothing. -/
theorem unique_checks_skip_unkeyed_fields {d : Dict} {item : Item}
    (absent : ∀ c ∈ d.constraints, FirstFieldAbsent item.data c) :
    Records.checkUnique d item.id item.data = (Records.engine d >>= fun _ => pure ()) ∧
      Document.checkUnique d item = pure () :=
  ⟨Records.checkUnique_of_absent absent, Document.checkUnique_of_absent absent⟩

/-- A constraint on `NAME` over a field declared `name`: a record holding a
name passes both checks, whichever other records hold the same name. -/
theorem name_constraint_in_capitals_never_applies :
    Records.checkUnique
        { id := "m", fields := [{ id := "name", fieldType := .string }],
          constraints := [{ id := "u", fields := ["NAME"] }] }
        "y" [("name", .string "a")] =
      (Records.engine
          { id := "m", fields := [{ id := "name", fieldType := .string }],
            constraints := [{ id := "u", fields := ["NAME"] }] } >>= fun _ => pure ()) ∧
    Document.checkUnique
        { id := "m", fields := [{ id := "name", fieldType := .string }],
          constraints := [{ id := "u", fields := ["NAME"] }] }
        { id := "y", data := [("name", .string "a")], version := 1, created := default,
          updated := default } = pure () :=
  @unique_checks_skip_unkeyed_fields
    { id := "m", fields := [{ id := "name", fieldType := .string }],
      constraints := [{ id := "u", fields := ["NAME"] }] }
    { id := "y", data := [("name", .string "a")], version := 1, created := default,
      updated := default }
    (by
      intro c listed
      simp only [List.mem_singleton] at listed
      subst listed
      exact ⟨"NAME", [], rfl, by decide⟩)

end Refbook
