import Refbook.Proofs.SqlParams
import Refbook.Dict.Validate

namespace Refbook
namespace Sql

/-!
# Compiled filters carry no constants

A compiled filter is safe to run: every constant it compares reaches the
database as a parameter, never as text.  Put together, the lemmas of
`SqlText` and `SqlParams` say that for a catalog whose dict and field ids
are identifiers,

* the parameters are the compared constants, numbered from one and named
  after their field and their place, so their names do not repeat;
* the database, reading the text for placeholders, finds exactly the
  parameters' names, in order;
* the text is the text of the predicate's pieces, whose identifiers are
  ids of the catalog or service fields.

Nothing here assumes that the database quotes identifiers: the pieces are
only required not to hold a colon, which identifiers of the catalog do not.
-/

open Query

/-! ## Identifiers of the catalog -/

/-- A word of a catalog: the id of one of its dicts or of a field one of
them declares, or the name of a service field. -/
def CatalogWord (catalog : List Dict) (w : String) : Prop :=
  (∃ d ∈ catalog, w = d.id ∨ ∃ f ∈ d.fields, w = f.id) ∨ (serviceFieldType? w).isSome

/-- A catalog whose dict and field ids are identifiers, as validation
requires of every dict. -/
def IdentifierCatalog (catalog : List Dict) : Prop :=
  ∀ d ∈ catalog, isIdentifier d.id = true ∧ ∀ f ∈ d.fields, isIdentifier f.id = true

instance : DecidablePred IdentifierCatalog := fun catalog => by
  unfold IdentifierCatalog
  infer_instance

/-- A resolved field names a dict of the catalog and one of its fields or a
service field. -/
theorem resolve_catalogWords {ctx : Context} {field : FieldRef} {r : ResolvedField}
    (found : ctx.resolve field = .ok r) :
    CatalogWord ctx.catalog r.dictId ∧ CatalogWord ctx.catalog r.id := by
  unfold Context.resolve at found
  dsimp only at found
  split at found
  · rename_i known catalogued
    cases found
    unfold catalogField? at catalogued
    obtain ⟨d, finding, declared⟩ := Option.bind_eq_some_iff.mp catalogued
    have listed := List.mem_of_find?_eq_some finding
    have named : d.id = field.dict.getD ctx.dictId := by simpa using List.find?_some finding
    refine ⟨Or.inl ⟨d, listed, Or.inl named.symm⟩, ?_⟩
    split at declared
    · rename_i fieldType service
      cases declared
      right
      split <;> simp_all [serviceFieldType?]
    · obtain ⟨f, finding, built⟩ := Option.bind_eq_some_iff.mp declared
      cases built
      exact Or.inl ⟨d, listed, Or.inr ⟨f, List.mem_of_find?_eq_some finding, rfl⟩⟩
  · cases found

theorem colon_not_mem_of_isIdentifier {w : String} (ident : isIdentifier w = true) :
    ':' ∉ w.toList := by
  unfold isIdentifier at ident
  split at ident
  · cases ident
  · rename_i c cs spelled
    rw [spelled]
    simp only [Bool.and_eq_true, List.all_eq_true] at ident
    intro mem
    rcases List.mem_cons.mp mem with first | later
    · have leading := ident.1
      rw [← first] at leading
      exact absurd leading (by decide)
    · have inner := ident.2 ':' later
      exact absurd inner (by decide)

theorem colon_not_mem_of_service {w : String} (service : (serviceFieldType? w).isSome) :
    ':' ∉ w.toList := by
  unfold serviceFieldType? at service
  split at service <;> first | decide | cases service

/-- No word of a catalog of identifiers holds a colon. -/
theorem CatalogWord.colon_not_mem {catalog : List Dict} {w : String}
    (identifiers : IdentifierCatalog catalog) (word : CatalogWord catalog w) : ':' ∉ w.toList := by
  rcases word with ⟨d, listed, rfl | ⟨f, declared, rfl⟩⟩ | service
  · exact colon_not_mem_of_isIdentifier (identifiers d listed).1
  · exact colon_not_mem_of_isIdentifier ((identifiers d listed).2 f declared)
  · exact colon_not_mem_of_service service

/-! ## The text of a compiled filter -/

/-- Every piece of a compiled filter's text reads as itself: identifiers of
a catalog of identifiers and parameter names hold no colon, and names hold
only characters a placeholder may hold. -/
theorem compiled_pieces_clean {ctx : Context} {e : Expression} {p : Compiled}
    (identifiers : IdentifierCatalog ctx.catalog) (compiled : compile ctx e = .ok p) :
    ∀ x ∈ p.pred.pieces, x.Clean := by
  obtain ⟨slots, -, params, named, resolved⟩ := compile_emits compiled
  intro x mem
  cases x with
  | word w =>
    have listed : w ∈ p.pred.words := List.mem_filterMap.mpr ⟨_, mem, rfl⟩
    obtain ⟨field, r, found, spelled⟩ := resolved w listed
    have words := resolve_catalogWords found
    rcases spelled with rfl | rfl
    · exact words.1.colon_not_mem identifiers
    · exact words.2.colon_not_mem identifiers
  | placeholder name =>
    have listed : name ∈ p.pred.paramNames := List.mem_filterMap.mpr ⟨_, mem, rfl⟩
    rw [named, params] at listed
    obtain ⟨r, k, -, rfl⟩ := mem_numbered_names listed
    exact paramName_nameChars r k
  | fixed f => trivial
  | count n => trivial

/-- A compiled filter carries no constant in its text.  Over a catalog of
identifiers, compiling any filter successfully gives parameters that are
the constants the filter compares, numbered from one (`numbered` names the
`k`-th after its dict, its field and `k`), with pairwise distinct names; the
placeholders a database reads from the text are these names, each once and
in order; and the text is made of the predicate's pieces, whose identifiers
are words of the catalog. -/
theorem compiled_filter_binds_constants {ctx : Context} {e : Expression} {p : Compiled}
    (identifiers : IdentifierCatalog ctx.catalog) (compiled : compile ctx e = .ok p) :
    ∃ slots, comparedConstants ctx e = .ok slots ∧ p.params = numbered 0 slots ∧
      (p.params.map Prod.fst).Nodup ∧ placeholders p.sql = p.params.map Prod.fst ∧
      p.sql = Piece.join p.pred.pieces ∧ ∀ w ∈ p.pred.words, CatalogWord ctx.catalog w := by
  obtain ⟨slots, compared, params, named, resolved⟩ := compile_emits compiled
  refine ⟨slots, compared, params, ?_, ?_, (Pred.join_pieces p.pred).symm, ?_⟩
  · rw [params]
    exact nodup_numbered_names 0 slots
  · rw [Compiled.sql, placeholders_render p.pred (compiled_pieces_clean identifiers compiled), named]
  · intro w listed
    obtain ⟨field, r, found, spelled⟩ := resolved w listed
    rcases spelled with rfl | rfl
    · exact (resolve_catalogWords found).1
    · exact (resolve_catalogWords found).2

/-- A name compared with a text that holds a colon: the text of the
compiled filter names one placeholder, and the constant stays out of it. -/
theorem name_filter_reads_one_placeholder :
    IdentifierCatalog [{ id := "person", fields := [{ id := "name", fieldType := .string }] }] ∧
    compile ⟨"person", [{ id := "person", fields := [{ id := "name", fieldType := .string }] }]⟩
        (.compare ⟨none, "name"⟩ .eq (.constant ⟨.string, some "a :b"⟩)) =
      .ok { pred := .compare .eq (.column "person" "name") (.param "person__name_1"),
            params := [("person__name_1", .string "a :b")], participants := ["person"] } ∧
    placeholders "person.name = :person__name_1" = ["person__name_1"] := by
  have identifiers : IdentifierCatalog
      [{ id := "person", fields := [{ id := "name", fieldType := .string }] }] := by decide
  have compiled : compile ⟨"person", [{ id := "person", fields := [{ id := "name", fieldType := .string }] }]⟩
        (.compare ⟨none, "name"⟩ .eq (.constant ⟨.string, some "a :b"⟩)) =
      .ok { pred := .compare .eq (.column "person" "name") (.param "person__name_1"),
            params := [("person__name_1", .string "a :b")], participants := ["person"] } := rfl
  obtain ⟨slots, -, -, -, read, -⟩ := compiled_filter_binds_constants identifiers compiled
  have text : (Pred.compare .eq (.column "person" "name") (.param "person__name_1")).render =
      "person.name = :person__name_1" := by decide
  rw [Compiled.sql, text] at read
  exact ⟨identifiers, compiled, read⟩

end Sql
end Refbook
