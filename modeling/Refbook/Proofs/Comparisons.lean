import Mathlib
import Refbook.Relational.Engine
import Refbook.Document.Compile
import Refbook.Document.Filter

namespace Refbook

/-!
# How each engine compares a stored value with a constant

A filter constant reaches the relational engine as a bound parameter, which
has no affinity, and meets a column that has the affinity of its declared
type.  Under text affinity a number is turned into its decimal text before
the comparison, so a text field equals a whole number whose digits it
spells.  The document engine compares extended-JSON scalars by kind, and a
string never equals a number.  The filter `name = 5` on a text field
therefore selects a record holding the text `5` on one engine and not on the
other (`text_field_equals_whole_number`, from the compiled filters).

The document engine also tests a condition on every candidate of a path,
and the candidates of a path holding an array are its elements as well as
the array.  A field that is not multivalued but holds an array, as a JSON
field may, therefore equals each of its elements.
-/

namespace Relational

/-- Text compares with text by its characters. -/
theorem order_text_beq (a b : String) :
    ((Value.text a).order (.text b) == .eq) = decide (a = b) := by
  unfold Value.order
  by_cases same : a = b
  · subst same
    simp
  · by_cases less : a < b
    · simp [less, same]
    · simp [less, same]

/-- Under text affinity a whole number meets text as its decimal text. -/
theorem compareUnder_text_integer (s : String) (n : Int) (op : Query.CompareOp) :
    compareUnder .text op (.text s) (.integer n) =
      some (holds op ((Value.text s).order (.text (toString n)))) := rfl

end Relational

namespace Document

/-- A string is never equal to a number. -/
theorem string_never_equals_number (s : String) (n : JsonNumber) :
    equals [.string s] (.number n) = false := by
  show ((Scalar.string s).equal (Scalar.of (.number n)) || false) = false
  cases read : decimalOf (Json.numberText n) <;> simp [Scalar.of, read, Scalar.equal]

end Document

namespace Document

/-- Every element of an array found at a path is a candidate there. -/
theorem mem_candidates_of_array {document : Json} {path : String} {items : List Json}
    {item : Json} (stored : Json.array items ∈ lookup document path) (mem : item ∈ items) :
    item ∈ candidates document path := by
  unfold candidates
  split
  · rename_i empty
    rw [empty] at stored
    cases stored
  · exact List.mem_flatMap.mpr ⟨_, stored, List.mem_append_left _ mem⟩

/-- A condition that is no object of operators is a value to equal. -/
theorem fieldMatches_plain {fuel : Nat} {cands : List Json} {c : Json}
    (plain : isOperatorObject c = false) :
    fieldMatches (fuel + 1) cands c = .ok (equals cands c) := by
  unfold fieldMatches
  simp [plain]

/-- A filter of one field and a plain value holds of a document exactly
when the value equals one of the field's candidates. -/
theorem satisfies_single_plain {document c : Json} {path : String}
    (plain : isOperatorObject c = false) (field : path ≠ "$and" ∧ path ≠ "$or" ∧ path ≠ "$nor") :
    satisfies document (.object [(path, c)]) = .ok (equals (candidates document path) c) := by
  obtain ⟨notAnd, notOr, notNor⟩ := field
  unfold satisfies
  simp only [Json.depth, matchesWith, List.allM]
  unfold entryHolds
  split
  · contradiction
  · contradiction
  · contradiction
  · rw [fieldMatches_plain plain]
    cases equals (candidates document path) c <;> rfl

/-- A path that holds an array satisfies an equality with any of the
array's elements, whatever the array as a whole is. -/
theorem array_element_satisfies_equality {document : Json} {path : String} {items : List Json}
    {item c : Json} (stored : Json.array items ∈ lookup document path) (mem : item ∈ items)
    (plain : isOperatorObject c = false) (equal : (Scalar.of item).equal (Scalar.of c) = true)
    (field : path ≠ "$and" ∧ path ≠ "$or" ∧ path ≠ "$nor") :
    satisfies document (.object [(path, c)]) = .ok true := by
  have found : equals (candidates document path) c = true :=
    List.any_eq_true.mpr ⟨item, mem_candidates_of_array stored mem, equal⟩
  rw [satisfies_single_plain plain field, found]

/-- A field holding the array of one and two equals one. -/
theorem array_field_equals_element :
    satisfies (.object [("j", .array [.ofInt 1, .ofInt 2])]) (.object [("j", .ofInt 1)]) =
      .ok true :=
  @array_element_satisfies_equality (.object [("j", .array [.ofInt 1, .ofInt 2])]) "j"
    [.ofInt 1, .ofInt 2] (.ofInt 1) (.ofInt 1)
    (by rw [show lookup _ "j" = [.array [.ofInt 1, .ofInt 2]] by cbv]; simp) (by simp) rfl rfl
    (by decide)

end Document

/-! ## The filter `name = n` on a text field -/

/-- A text field. -/
def nameField : Field := { id := "name", fieldType := .string }

/-- A dict of one text field. -/
def textDict : Dict := { id := "c", fields := [nameField] }

/-- The filter `name = r`, for the text `r` of a whole number. -/
def nameEquals (r : String) : Query.Expression :=
  .compare ⟨none, "name"⟩ .eq (.constant ⟨.integer, some r⟩)

/-- A whole-number constant keeps its value against a text field. -/
theorem Query.operandValue_whole {ctx : Query.Context} {r : String} {n : Int}
    (whole : Query.readInt64 r = some n) {f : Query.ResolvedField} (text : f.fieldType = .string) :
    ctx.operandValue f (.constant ⟨.integer, some r⟩) = .ok (.integer n) := by
  simp [Query.Context.operandValue, Query.Operand.castTarget?, Query.Operand.value,
    Query.Constant.value, whole, text]

/-- The filter `name = r`, for a whole number `n` written `r`, compiled by
each engine and tested on a record whose text field holds `s`.  The
relational engine binds `n` as a parameter and compares it with the column
under the text affinity the engine declares for a text field, so the record
is selected exactly when `s` is the decimal text of `n`; the document engine
compares the string with the number and never selects it. -/
theorem text_field_equals_whole_number {r : String} {n : Int}
    (whole : Query.readInt64 r = some n) {s : String} {t : Relational.Table}
    {cells : Relational.Row} (named : t.name = "c")
    (declared : (t.column? "name").map Relational.Column.declared =
      some (Relational.columnType nameField))
    (stored : t.valueIn cells "name" = .text s) {document : Json}
    (kept : Document.candidates document "name" = [.string s]) :
    ∃ sql mongo, Sql.compile ⟨"c", [textDict]⟩ (nameEquals r) = .ok sql ∧
      (Relational.Scope.mk [(t, some cells)]
          (sql.params.map (Prod.map id Relational.bindValue))).eval .null sql.pred =
        .ok (some (decide (s = toString n))) ∧
      Document.compile ⟨"c", [textDict]⟩ (nameEquals r) = .ok mongo ∧
      Document.satisfies document mongo.document = .ok false := by
  have resolved : Query.Context.resolve ⟨"c", [textDict]⟩ ⟨none, "name"⟩ =
      .ok ⟨"c", "name", .string, false, false⟩ := rfl
  have value := @Query.operandValue_whole ⟨"c", [textDict]⟩ r n whole
    ⟨"c", "name", .string, false, false⟩ rfl
  refine ⟨{ pred := .compare .eq (.column "c" "name") (.param "c__name_1"),
            params := [("c__name_1", .integer n)], participants := ["c"] },
    { document := .object [("name", .ofInt n)], participants := ["c"] },
    ?sql, ?selected, ?mongo, ?refused⟩
  case sql =>
    simp [Sql.compile, nameEquals, Sql.predicate, Sql.column, Sql.lift, resolved, value, Sql.bind]
    rfl
  case selected =>
    obtain ⟨column, found, text⟩ := Option.map_eq_some_iff.mp declared
    have affinity : column.affinity = .text := by
      rw [Relational.Column.affinity, text]
      rfl
    have same : Relational.sameName "c" "c" = true := rfl
    simp only [Relational.Scope.eval, Relational.Scope.term, Relational.Scope.entry?, List.find?,
      named, same, found, affinity, stored, Option.map_some, Option.getD_some]
    show Except.ok (Relational.compareUnder .text .eq (.text s) (.integer n)) = _
    rw [Relational.compareUnder_text_integer, Relational.holds, Relational.order_text_beq]
  case mongo =>
    have pathed : (Document.path ⟨"c", [textDict]⟩ ⟨none, "name"⟩).run [] =
        pure (("name", ⟨"c", "name", .string, false, false⟩), ["c"]) := rfl
    simp [Document.compile, nameEquals, Document.filter, pathed, value, Document.lift]
    rfl
  case refused =>
    rw [Document.satisfies_single_plain rfl (by decide), kept]
    exact congrArg Except.ok (Document.string_never_equals_number s _)

/-- The filter `name = 5` on a record whose text field holds `5`, in a
table the relational engine declares for `textDict`: the relational engine
selects the record and the document engine does not. -/
theorem text_field_equals_five :
    ∃ sql mongo, Sql.compile ⟨"c", [textDict]⟩ (nameEquals "5") = .ok sql ∧
      (Relational.Scope.mk [(⟨"c", Relational.itemColumns textDict, []⟩, some [.text "x", .text "5"])]
          (sql.params.map (Prod.map id Relational.bindValue))).eval .null sql.pred =
        .ok (some true) ∧
      Document.compile ⟨"c", [textDict]⟩ (nameEquals "5") = .ok mongo ∧
      Document.satisfies (.object [("_id", .string "x"), ("name", .string "5")]) mongo.document =
        .ok false := by
  obtain ⟨sql, mongo, compiled, selected, compiled', refused⟩ :=
    @text_field_equals_whole_number "5" 5 rfl "5" ⟨"c", Relational.itemColumns textDict, []⟩
      [.text "x", .text "5"] rfl rfl rfl (.object [("_id", .string "x"), ("name", .string "5")])
      (by cbv)
  exact ⟨sql, mongo, compiled, selected.trans rfl, compiled', refused⟩

end Refbook
