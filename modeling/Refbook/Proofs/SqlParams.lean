import Mathlib
import Refbook.Proofs.SqlText
import Refbook.Sql.Compile

namespace Refbook
namespace Sql

/-!
# The parameters of a compiled filter

Compiling a filter binds every constant it compares a field with as a
parameter, and writes only the parameter's placeholder into the text.  The
`k`-th parameter is named after the dict and the field it meets and after
`k` (`person__age_3`), so the names never repeat.

What is bound is said here without the compiler: `comparedConstants` walks
the filter from left to right and lists, with the field each meets, the
operands read for their field; null is left out, the lists of `all` and
`any` lose their repeats, and a predicate that null or an empty list
decides binds nothing.

The main statement puts this together with the reading of the text: the
parameters are exactly the compared constants, numbered, their names do not
repeat, the text names each of them once and in order, and apart from the
placeholders the text is made of the dialect's fragments, identifiers of
the catalog and counts.
-/

open Query

/-! ## What a filter binds -/

/-- The name of the `k`-th parameter of a filter, bound for a field. -/
def paramName (r : ResolvedField) (k : Nat) : String :=
  sanitize r.dictId ++ "__" ++ sanitize r.id ++ "_" ++ toString k

/-- Parameters for constants meeting fields, numbered on after `n` others. -/
def numbered : Nat -> List (ResolvedField × Value) -> List (String × Value)
  | _, [] => []
  | n, (r, v) :: rest => (paramName r (n + 1), v) :: numbered (n + 1) rest

/-- The constants a filter compares its fields with, left to right, each
with the field it meets: operands read for their field, null left out, the
lists of `all` and `any` without repeats (the first of equal values kept),
and nothing for a predicate that null or an empty list decides. -/
def comparedConstants (ctx : Context) : Expression -> Except Error (List (ResolvedField × Value))
  | .empty => pure []
  | .compare field _ operand => do
    let r ← ctx.resolve field
    let v ← ctx.operandValue r operand
    pure (if v = .null then [] else [(r, v)])
  | .inList field operands _ => do
    let r ← ctx.resolve field
    let vs ← operands.mapM (ctx.operandValue r)
    pure ((vs.filter (· ≠ .null)).map (r, ·))
  | .quantified field quantifier operands => do
    let r ← ctx.resolve field
    let vs ← operands.mapM (ctx.operandValue r)
    let present := (vs.filter (· ≠ .null)).eraseDups
    pure (if present = [] ∨ (.null ∈ vs ∧ quantifier = .all) then [] else present.map (r, ·))
  | .like field pattern _ => do
    let r ← ctx.resolve field
    pure [(r, .string pattern)]
  | .between field low high => do
    let r ← ctx.resolve field
    let lo ← ctx.operandValue r low
    let hi ← ctx.operandValue r high
    pure (if lo = .null ∨ hi = .null then [] else [(r, lo), (r, hi)])
  | .not inner => comparedConstants ctx inner
  | .and left right | .or left right => do
    pure ((← comparedConstants ctx left) ++ (← comparedConstants ctx right))

@[simp] theorem numbered_nil (n : Nat) : numbered n [] = [] := rfl

theorem numbered_append (n : Nat) (first rest : List (ResolvedField × Value)) :
    numbered n (first ++ rest) = numbered n first ++ numbered (n + first.length) rest := by
  induction first generalizing n with
  | nil => rfl
  | cons slot first ih =>
    obtain ⟨r, v⟩ := slot
    simp only [List.cons_append, numbered, ih, List.length_cons]
    rw [Nat.add_assoc, Nat.add_comm 1]

@[simp] theorem numbered_eq_nil (n : Nat) (slots : List (ResolvedField × Value)) :
    numbered n slots = [] ↔ slots = [] := by
  cases slots with
  | nil => simp
  | cons slot rest =>
    obtain ⟨r, v⟩ := slot
    simp [numbered]

@[simp] theorem length_numbered (n : Nat) (slots : List (ResolvedField × Value)) :
    (numbered n slots).length = slots.length := by
  induction slots generalizing n with
  | nil => rfl
  | cons slot rest ih => simp [numbered, ih]

/-! ## Parameter names -/

theorem isAlphanum_toLower {c : Char} (alnum : c.isAlphanum) : c.toLower.isAlphanum := by
  unfold Char.toLower
  split
  · rename_i upper
    simp only [Char.isAlphanum, Char.isAlpha, Char.isLower, Char.isUpper, Bool.or_eq_true,
      decide_eq_true_eq]
    left; right
    have range : 65 ≤ c.toNat ∧ c.toNat ≤ 90 := upper
    simp only [ge_iff_le, UInt32.le_iff_toNat_le, Bool.and_eq_true, decide_eq_true_eq,
      UInt32.toNat_add]
    constructor <;> simp <;> omega
  · exact alnum

theorem toList_toString (k : Nat) : (toString k).toList = Nat.toDigits 10 k := by
  simp [Nat.toString_eq_repr, Nat.toList_repr]

/-- A parameter name is made of characters a placeholder may hold. -/
theorem paramName_nameChars (r : ResolvedField) (k : Nat) :
    ∀ c ∈ (paramName r k).toList, isNameChar c = true := by
  have sanitized : ∀ w, ∀ c ∈ (sanitize w).toList, isNameChar c = true := by
    intro w c mem
    simp only [sanitize, String.toList_ofList, List.mem_map] at mem
    obtain ⟨c', -, rfl⟩ := mem
    split
    · simp [isNameChar, isAlphanum_toLower, *]
    · simp [isNameChar]
  intro c mem
  simp only [paramName, String.toList_append, List.mem_append, toList_toString] at mem
  rcases mem with (((mem | mem) | mem) | mem) | mem
  · exact sanitized _ c mem
  · simp_all [isNameChar]
  · exact sanitized _ c mem
  · simp_all [isNameChar]
  · have digit := Nat.isDigit_of_mem_toDigits (by decide) (by decide) mem
    simp [isNameChar, Char.isAlphanum, digit]

/-- The place of a parameter is the text after the last underscore of its
name. -/
theorem paramName_place (r : ResolvedField) (k : Nat) :
    (paramName r k).toList.reverse.takeWhile (· != '_') = (toString k).toList.reverse := by
  have digits : ∀ c ∈ (toString k).toList.reverse, (c != '_') = true := by
    intro c mem
    rw [List.mem_reverse, toList_toString] at mem
    have apart : c ≠ '_' := fun same => Nat.underscore_not_in_toDigits (same ▸ mem)
    simpa using apart
  simp only [paramName, String.toList_append, List.reverse_append]
  rw [List.takeWhile_append_of_pos digits]
  simp

/-- Parameters named after different places have different names. -/
theorem paramName_place_eq {r r' : ResolvedField} {k k' : Nat}
    (same : paramName r k = paramName r' k') : k = k' := by
  have places := congrArg (fun s => s.toList.reverse.takeWhile (· != '_')) same
  simp only [paramName_place, List.reverse_inj, toList_toString] at places
  rw [← @Nat.ofDigitChars_ten_toDigits k, places, Nat.ofDigitChars_ten_toDigits]

theorem mem_numbered_names {n : Nat} {slots : List (ResolvedField × Value)} {name : String}
    (mem : name ∈ (numbered n slots).map Prod.fst) : ∃ r k, n < k ∧ name = paramName r k := by
  induction slots generalizing n with
  | nil => simp at mem
  | cons slot rest ih =>
    obtain ⟨r, v⟩ := slot
    simp only [numbered, List.map_cons, List.mem_cons] at mem
    rcases mem with rfl | mem
    · exact ⟨r, n + 1, by omega, rfl⟩
    · obtain ⟨r', k, later, rfl⟩ := ih mem
      exact ⟨r', k, by omega, rfl⟩

/-- Numbered parameters have pairwise distinct names. -/
theorem nodup_numbered_names (n : Nat) (slots : List (ResolvedField × Value)) :
    ((numbered n slots).map Prod.fst).Nodup := by
  induction slots generalizing n with
  | nil => simp
  | cons slot rest ih =>
    obtain ⟨r, v⟩ := slot
    simp only [numbered, List.map_cons, List.nodup_cons]
    refine ⟨fun mem => ?_, ih (n + 1)⟩
    obtain ⟨r', k, later, same⟩ := mem_numbered_names mem
    have := paramName_place_eq same
    omega

@[simp] theorem except_ok_bind {ε α β : Type} (a : α) (f : α -> Except ε β) :

    (Except.ok a >>= f) = f a := rfl

@[simp] theorem except_map_ok {ε α β : Type} (f : α -> β) (a : α) :
    (f <$> (Except.ok a : Except ε α)) = .ok (f a) := rfl

/-! ## Running compilation steps -/

theorem run_bind_ok {α β : Type} {x : Step α} {f : α -> Step β} {b b' : Binding} {r : β}
    (ran : (x >>= f).run b = .ok (r, b')) :
    ∃ a b₁, x.run b = .ok (a, b₁) ∧ (f a).run b₁ = .ok (r, b') := by
  simp only [StateT.run_bind] at ran
  cases first : x.run b with
  | error e =>
    rw [first] at ran
    cases ran
  | ok p =>
    rw [first] at ran
    exact ⟨p.1, p.2, rfl, ran⟩

theorem run_pure_ok {α : Type} {a r : α} {b b' : Binding}
    (ran : (pure a : Step α).run b = .ok (r, b')) : r = a ∧ b' = b := by
  cases ran
  exact ⟨rfl, rfl⟩

theorem lift_run_ok {α : Type} {e : Except Error α} {a : α} {b b' : Binding}
    (ran : (lift e).run b = .ok (a, b')) : e = .ok a ∧ b' = b := by
  cases e with
  | ok x =>
    cases ran
    exact ⟨rfl, rfl⟩
  | error err => cases ran

/-- Resolving a field names its column and binds nothing. -/
theorem column_run_ok {ctx : Context} {field : FieldRef} {col : Term} {r : ResolvedField}
    {b b' : Binding} (ran : (column ctx field).run b = .ok ((col, r), b')) :
    ctx.resolve field = .ok r ∧ col = .column r.dictId r.id ∧ b'.params = b.params := by
  unfold column at ran
  cases found : ctx.resolve field with
  | error err =>
    rw [found] at ran
    cases ran
  | ok r' =>
    rw [found] at ran
    cases ran
    exact ⟨rfl, rfl, rfl⟩

/-- Binding a value names it after its field and its place. -/
theorem bind_run (r : ResolvedField) (v : Value) (b : Binding) :
    (bind r v).run b =
      .ok (.param (paramName r (b.params.size + 1)),
        { b with params := b.params.push (paramName r (b.params.size + 1), v) }) := rfl

/-- Binding values one after another names each after its field and its
place. -/
theorem mapM_bind_run (r : ResolvedField) (values : List Value) (b : Binding) :
    ∃ b', (values.mapM (bind r)).run b =
        .ok ((numbered b.params.size (values.map (r, ·))).map fun p => Term.param p.1, b') ∧
      b'.params.toList = b.params.toList ++ numbered b.params.size (values.map (r, ·)) := by
  induction values generalizing b with
  | nil => exact ⟨b, rfl, by simp⟩
  | cons v rest ih =>
    obtain ⟨b', ran, bound⟩ :=
      ih { b with params := b.params.push (paramName r (b.params.size + 1), v) }
    refine ⟨b', ?_, ?_⟩
    · simp only [List.mapM_cons, StateT.run_bind, bind_run, except_ok_bind, ran,
        Array.size_push]
      rfl
    · simp [bound, numbered]

/-- One operand of a list: read for its field, and bound unless it is
null. -/
def bindOperand (ctx : Context) (r : ResolvedField) (acc : List Term × Bool)
    (operand : Operand) : Step (List Term × Bool) := do
  let value ← lift (ctx.operandValue r operand)
  if value = .null then pure (acc.1, true)
  else
    let p ← bind r value
    pure (acc.1 ++ [p], acc.2)

/-- The operands of a list bind their non-null values, in order. -/
theorem foldlM_bindOperand_run_ok {ctx : Context} {r : ResolvedField} {operands : List Operand}
    {acc result : List Term × Bool} {b b' : Binding}
    (ran : (operands.foldlM (bindOperand ctx r) acc).run b = .ok (result, b')) :
    ∃ vs, operands.mapM (ctx.operandValue r) = .ok vs ∧
      result.1 = acc.1 ++
        (numbered b.params.size ((vs.filter (· ≠ .null)).map (r, ·))).map (fun p => Term.param p.1) ∧
      b'.params.toList = b.params.toList ++ numbered b.params.size ((vs.filter (· ≠ .null)).map (r, ·)) := by
  induction operands generalizing acc b with
  | nil =>
    cases ran
    exact ⟨[], rfl, by simp, by simp⟩
  | cons operand rest ih =>
    rw [List.foldlM_cons] at ran
    obtain ⟨acc₁, b₁, first, ran⟩ := run_bind_ok ran
    obtain ⟨vs, reading, result_eq, bound⟩ := ih ran
    unfold bindOperand at first
    obtain ⟨v, b₂, lifting, deciding⟩ := run_bind_ok first
    obtain ⟨value, rfl⟩ := lift_run_ok lifting
    refine ⟨v :: vs, by simp [List.mapM_cons, value, reading], ?_⟩
    by_cases null : v = .null
    · rw [if_pos null] at deciding
      obtain ⟨rfl, rfl⟩ := run_pure_ok deciding
      simp only at result_eq
      simpa [null] using And.intro result_eq bound
    · rw [if_neg null] at deciding
      obtain ⟨p, b₃, binding, deciding⟩ := run_bind_ok deciding
      rw [bind_run] at binding
      cases binding
      obtain ⟨rfl, rfl⟩ := run_pure_ok deciding
      simp only [Array.toList_push, Array.size_push] at result_eq bound
      refine ⟨?_, ?_⟩
      · simp [result_eq, null, numbered]
      · simp [bound, null, numbered]

theorem except_bind_ok {ε α β : Type} {x : Except ε α} {f : α -> Except ε β} {r : β}
    (ran : (x >>= f) = .ok r) : ∃ a, x = .ok a ∧ f a = .ok r := by
  cases x with
  | ok a => exact ⟨a, rfl, ran⟩
  | error e => cases ran

theorem eraseDups_append_singleton (l : List Value) (v : Value) :
    (l ++ [v]).eraseDups = if v ∈ l then l.eraseDups else l.eraseDups ++ [v] := by
  rw [List.eraseDups_append]
  split <;> simp [List.removeAll, List.eraseDups_cons, *]

/-- One operand of an `all` or `any` list: read for its field, and kept
unless it is null or a repeat. -/
def keepOperand (ctx : Context) (r : ResolvedField) (acc : List Value × Bool)
    (operand : Operand) : Except Error (List Value × Bool) := do
  let value ← ctx.operandValue r operand
  if value = .null then pure (acc.1, true)
  else if acc.1.contains value then pure acc
  else pure (acc.1 ++ [value], acc.2)

/-- The operands of an `all` or `any` list keep their first non-null
occurrences; the flag records a null among them.  The invariant is that the
values kept so far are those of the operands read so far, `pre`. -/
theorem foldlM_keepOperand_ok {ctx : Context} {r : ResolvedField} {operands : List Operand}
    {acc result : List Value × Bool} (pre : List Value)
    (kept : acc.1 = (pre.filter (· ≠ .null)).eraseDups)
    (ran : operands.foldlM (keepOperand ctx r) acc = .ok result) :
    ∃ vs, operands.mapM (ctx.operandValue r) = .ok vs ∧
      result.1 = ((pre ++ vs).filter (· ≠ .null)).eraseDups ∧
      (result.2 = true ↔ acc.2 = true ∨ .null ∈ vs) := by
  induction operands generalizing acc pre with
  | nil =>
    cases ran
    exact ⟨[], rfl, by simpa using kept, by simp⟩
  | cons operand rest ih =>
    rw [List.foldlM_cons] at ran
    obtain ⟨acc₁, first, ran⟩ := except_bind_ok ran
    unfold keepOperand at first
    obtain ⟨v, value, deciding⟩ := except_bind_ok first
    have step : acc₁.1 = ((pre ++ [v]).filter (· ≠ .null)).eraseDups ∧
        (acc₁.2 = true ↔ acc.2 = true ∨ v = .null) := by
      by_cases null : v = .null
      · rw [if_pos null] at deciding
        cases deciding
        simp [kept, null]
      · rw [if_neg null] at deciding
        have seen : acc.1.contains v = true ↔ v ∈ pre := by
          rw [List.contains_iff_mem, kept, List.mem_eraseDups]
          simp [null]
        by_cases repeated : acc.1.contains v
        · rw [if_pos repeated] at deciding
          cases deciding
          rw [seen] at repeated
          simp [List.filter_append, null, eraseDups_append_singleton, repeated, kept]
        · rw [if_neg repeated] at deciding
          cases deciding
          rw [seen] at repeated
          simp [List.filter_append, null, eraseDups_append_singleton, repeated, kept]
    obtain ⟨vs, reading, result_eq, flagged⟩ := ih (pre ++ [v]) step.1 ran
    refine ⟨v :: vs, by simp [List.mapM_cons, value, reading], by simpa using result_eq, ?_⟩
    rw [flagged, step.2, List.mem_cons]
    grind

/-- The values of an `all` or `any` list are its non-null operands without
repeats, the first of equal values kept; the flag says whether one was null. -/
theorem elementValues_ok {ctx : Context} {r : ResolvedField} {operands : List Operand}
    {values : List Value} {withNull : Bool}
    (ran : ctx.elementValues r operands = .ok (values, withNull)) :
    ∃ vs, operands.mapM (ctx.operandValue r) = .ok vs ∧
      values = (vs.filter (· ≠ .null)).eraseDups ∧ (withNull = true ↔ .null ∈ vs) := by
  obtain ⟨vs, reading, values_eq, flagged⟩ :=
    @foldlM_keepOperand_ok ctx r operands ([], false) (values, withNull) [] rfl ran
  exact ⟨vs, reading, by simpa using values_eq, by simpa using flagged⟩

/-! ## What each step of compilation binds -/

/- In the lemmas for single predicates, the compiler's clause and the clause
of `comparedConstants` are unfolded definitionally (`whnf`, or by matching
the run against a bind) rather than by their equations, which all of these
lemmas would otherwise ask for at once. -/

/-- A word of a predicate naming the dict or the id of a field the context
resolves. -/
def ResolvedWord (ctx : Context) (w : String) : Prop :=
  ∃ field r, ctx.resolve field = .ok r ∧ (w = r.dictId ∨ w = r.id)

/-- Compiling from binding `b` to `b'` bound the constants `slots`, numbered
on after the parameters bound before, and gave a predicate whose
placeholders are the new parameters, in order, and whose identifiers name
resolved fields. -/
structure Emits (ctx : Context) (b b' : Binding) (pred : Pred)
    (slots : List (ResolvedField × Value)) : Prop where
  bound : b'.params.toList = b.params.toList ++ numbered b.params.size slots
  named : pred.paramNames = (numbered b.params.size slots).map Prod.fst
  resolved : ∀ w ∈ pred.words, ResolvedWord ctx w

theorem filterMap_listPieces {g : Piece -> Option String} (fixed : ∀ f, g (.fixed f) = none) :
    (items : List Term) -> (listPieces items).filterMap g = items.flatMap fun t => t.pieces.filterMap g := by
  intro items
  induction items with
  | nil => rfl
  | cons t rest ih =>
    cases rest with
    | nil => simp [listPieces]
    | cons u rest =>
      simp only [listPieces, List.filterMap_append, List.filterMap_cons, fixed, ih,
        List.flatMap_cons]

theorem filterMap_allPieces {g : Piece -> Option String} (fixed : ∀ f, g (.fixed f) = none) :
    (ps : List Pred) -> (Pred.pieces.allPieces ps).filterMap g = ps.flatMap fun p => p.pieces.filterMap g := by
  intro ps
  induction ps with
  | nil => rfl
  | cons p rest ih =>
    cases rest with
    | nil => simp [Pred.pieces.allPieces]
    | cons q rest =>
      simp only [Pred.pieces.allPieces, List.filterMap_append, List.filterMap_cons, fixed, ih,
        List.flatMap_cons]

/-- Compiling a comparison binds its operand unless it is null. -/
theorem predicate_compare_emits {ctx : Context} {field : FieldRef} {op : CompareOp}
    {operand : Operand} {b b' : Binding} {pred : Pred}
    (ran : (predicate ctx (.compare field op operand)).run b = .ok (pred, b')) :
    ∃ slots, comparedConstants ctx (.compare field op operand) = .ok slots ∧
      Emits ctx b b' pred slots := by
  obtain ⟨⟨col, r⟩, b₁, resolving, afterColumn⟩ := run_bind_ok ran
  obtain ⟨found, rfl, same⟩ := column_run_ok resolving
  obtain ⟨v, b₂, lifting, afterValue⟩ := run_bind_ok afterColumn
  obtain ⟨value, rfl⟩ := lift_run_ok lifting
  clear ran resolving lifting
  have word : ∀ w, w = r.dictId ∨ w = r.id -> ResolvedWord ctx w :=
    fun w named => ⟨field, r, found, named⟩
  by_cases null : v = .null
  · rw [if_pos null] at afterValue
    obtain ⟨rfl, rfl⟩ := run_pure_ok afterValue
    refine ⟨[], by (conv => lhs; whnf); simp [found, value, null], ⟨by simp [same], ?_, ?_⟩⟩
    · cases op <;> simp [Pred.paramNames, Pred.pieces, Term.pieces, List.filterMap_cons]
    · intro w mem
      apply word
      cases op <;> simp [Pred.words, Pred.pieces, Term.pieces, List.filterMap_cons] at mem <;> grind
  · rw [if_neg null] at afterValue
    obtain ⟨p, b₃, binding, afterBind⟩ := run_bind_ok afterValue
    rw [bind_run] at binding
    cases binding
    obtain ⟨rfl, rfl⟩ := run_pure_ok afterBind
    refine ⟨[(r, v)], by (conv => lhs; whnf); simp [found, value, null], ⟨?_, ?_, ?_⟩⟩
    · simp [same, numbered]
    · cases multi : r.multivalued <;> cases op <;>
        simp [Pred.paramNames, Pred.pieces, Term.pieces, List.filterMap_cons, anyElement, elementOf, numbered, same]
    · intro w mem
      apply word
      cases multi : r.multivalued <;> cases op <;>
        simp [Pred.words, Pred.pieces, Term.pieces, List.filterMap_cons, anyElement, elementOf, multi] at mem <;> grind

/-- The placeholders of a list of bound parameters are their names. -/
theorem placeholders_listPieces (slots : List (String × Value)) :
    (listPieces (slots.map fun p => Term.param p.1)).filterMap Piece.placeholder? =
      slots.map Prod.fst := by
  rw [filterMap_listPieces (fun _ => rfl)]
  induction slots with
  | nil => rfl
  | cons p rest ih =>
    rw [List.map_cons, List.flatMap_cons, ih]
    rfl

/-- A list of bound parameters names no identifier. -/
theorem words_listPieces (slots : List (String × Value)) :
    (listPieces (slots.map fun p => Term.param p.1)).filterMap Piece.word? = [] := by
  rw [filterMap_listPieces (fun _ => rfl)]
  induction slots with
  | nil => rfl
  | cons p rest ih =>
    rw [List.map_cons, List.flatMap_cons, ih]
    rfl

/-- A conjunction of equalities with bound parameters names the
parameters, in order. -/
theorem placeholders_allEqual (d f : String) (slots : List (String × Value)) :
    (Pred.andAll ((slots.map fun p => Term.param p.1).map fun t => .compare .eq (.column d f) t)).paramNames =
      slots.map Prod.fst := by
  simp only [Pred.paramNames, Pred.pieces, List.filterMap_cons, List.filterMap_append,
    Piece.placeholder?_fixed, List.filterMap_nil, List.append_nil]
  rw [filterMap_allPieces (fun _ => rfl)]
  induction slots with
  | nil => rfl
  | cons p rest ih =>
    rw [List.map_cons, List.map_cons, List.flatMap_cons, ih]
    rfl

/-- A conjunction of equalities with bound parameters names only the
column's dict and field. -/
theorem words_allEqual {d f w : String} {slots : List (String × Value)}
    (mem : w ∈ (Pred.andAll ((slots.map fun p => Term.param p.1).map
      fun t => .compare .eq (.column d f) t)).words) : w = d ∨ w = f := by
  simp only [Pred.words, Pred.pieces, List.filterMap_cons, List.filterMap_append,
    Piece.word?_fixed, List.filterMap_nil, List.append_nil] at mem
  rw [filterMap_allPieces (fun _ => rfl), List.mem_flatMap] at mem
  obtain ⟨q, listed, mem⟩ := mem
  simp only [List.mem_map] at listed
  obtain ⟨t, ⟨p, -, rfl⟩, rfl⟩ := listed
  simpa [Pred.pieces, Term.pieces, List.filterMap_cons] using mem

/-- Compiling a list binds its non-null operands, in order. -/

theorem predicate_inList_emits {ctx : Context} {field : FieldRef} {operands : List Operand}
    {negated : Bool} {b b' : Binding} {pred : Pred}
    (ran : (predicate ctx (.inList field operands negated)).run b = .ok (pred, b')) :
    ∃ slots, comparedConstants ctx (.inList field operands negated) = .ok slots ∧
      Emits ctx b b' pred slots := by
  obtain ⟨⟨col, r⟩, b₁, resolving, afterColumn⟩ := run_bind_ok ran
  obtain ⟨found, rfl, same⟩ := column_run_ok resolving
  obtain ⟨⟨params, withNull⟩, b₂, folding, afterFold⟩ := run_bind_ok afterColumn
  obtain ⟨vs, reading, params_eq, bound⟩ :=
    @foldlM_bindOperand_run_ok ctx r operands ([], false) _ _ _ folding
  obtain ⟨rfl, rfl⟩ := run_pure_ok afterFold
  clear ran resolving afterColumn folding afterFold
  simp only [List.nil_append] at params_eq
  subst params_eq
  have word : ∀ w, w = r.dictId ∨ w = r.id -> ResolvedWord ctx w :=
    fun w named => ⟨field, r, found, named⟩
  refine ⟨(vs.filter (· ≠ .null)).map (r, ·), by (conv => lhs; whnf); simp [found, reading], ?_⟩
  rw [same] at bound ⊢
  generalize (vs.filter (· ≠ .null)).map (r, ·) = slots at bound ⊢
  refine ⟨bound, ?_, ?_⟩
  · cases multi : r.multivalued <;> cases negated <;> cases withNull <;>
      by_cases none_bound : slots = [] <;>
      simp [Pred.paramNames, Pred.pieces, Term.pieces, List.filterMap_cons, anyElement, elementOf,
        placeholders_listPieces, none_bound]
  · intro w mem
    apply word
    cases multi : r.multivalued <;> cases negated <;> cases withNull <;>
      by_cases none_bound : slots = [] <;>
      simp [Pred.words, Pred.pieces, Term.pieces, List.filterMap_cons, anyElement, elementOf,
        words_listPieces, none_bound, multi] at mem <;> grind

/-- Compiling an `all` or `any` list binds its values without repeats, or
nothing when null or emptiness decides it. -/
theorem predicate_quantified_emits {ctx : Context} {field : FieldRef} {quantifier : Quantifier}
    {operands : List Operand} {b b' : Binding} {pred : Pred}
    (ran : (predicate ctx (.quantified field quantifier operands)).run b = .ok (pred, b')) :
    ∃ slots, comparedConstants ctx (.quantified field quantifier operands) = .ok slots ∧
      Emits ctx b b' pred slots := by
  obtain ⟨⟨col, r⟩, b₁, resolving, afterColumn⟩ := run_bind_ok ran
  obtain ⟨found, rfl, same⟩ := column_run_ok resolving
  obtain ⟨⟨values, withNull⟩, b₂, lifting, afterValues⟩ := run_bind_ok afterColumn
  obtain ⟨listing, rfl⟩ := lift_run_ok lifting
  obtain ⟨vs, reading, rfl, flagged⟩ := elementValues_ok listing
  clear ran resolving afterColumn lifting listing
  dsimp only at afterValues
  have word : ∀ w, w = r.dictId ∨ w = r.id -> ResolvedWord ctx w :=
    fun w named => ⟨field, r, found, named⟩
  have compared : comparedConstants ctx (.quantified field quantifier operands) =
      .ok (if (vs.filter (· ≠ .null)).eraseDups.isEmpty ∨ (withNull ∧ quantifier = .all) then []
        else (vs.filter (· ≠ .null)).eraseDups.map (r, ·)) := by
    conv => lhs; whnf
    simp only [found, reading, except_ok_bind, flagged, List.isEmpty_iff]
    rfl
  by_cases decided : (vs.filter (· ≠ .null)).eraseDups.isEmpty ∨ (withNull ∧ quantifier = .all)
  · rw [if_pos decided] at afterValues compared
    obtain ⟨rfl, rfl⟩ := run_pure_ok afterValues
    refine ⟨[], compared, ⟨by simp [same], by simp [Pred.paramNames, Pred.pieces], ?_⟩⟩
    simp [Pred.words, Pred.pieces]
  · rw [if_neg decided] at afterValues compared
    obtain ⟨params, b₃, binding, afterBind⟩ := run_bind_ok afterValues
    obtain ⟨b₄, binding', bound⟩ := mapM_bind_run r (vs.filter (· ≠ .null)).eraseDups b₂
    rw [binding'] at binding
    cases binding
    obtain ⟨rfl, rfl⟩ := run_pure_ok afterBind
    refine ⟨_, compared, ⟨by rw [bound, same], ?_, ?_⟩⟩ <;> rw [same] <;>
      generalize numbered b.params.size (((vs.filter (· ≠ .null)).eraseDups).map (r, ·)) = slots
    · cases quantifier <;> cases multi : r.multivalued <;> dsimp only
      case all.false =>
        split
        case h_1 p single =>
          obtain ⟨s, rfl, rfl⟩ := List.map_eq_singleton_iff.mp single
          simp [Pred.paramNames, Pred.pieces, Term.pieces, List.filterMap_cons]
        case h_2 => exact placeholders_allEqual _ _ _
      all_goals simp [Pred.paramNames, Pred.pieces, Term.pieces, List.filterMap_cons, anyElement,
        elementOf, placeholders_listPieces]
    · cases quantifier <;> cases multi : r.multivalued <;> dsimp only <;> intro w mem <;> apply word

      case all.false =>
        split at mem
        case h_1 p single =>
          obtain ⟨s, rfl, rfl⟩ := List.map_eq_singleton_iff.mp single
          simpa [Pred.words, Pred.pieces, Term.pieces, List.filterMap_cons] using mem
        case h_2 => exact words_allEqual mem
      all_goals
        simp [Pred.words, Pred.pieces, Term.pieces, List.filterMap_cons, anyElement, elementOf,
          words_listPieces] at mem
        grind

/-- Compiling a pattern binds the pattern. -/
theorem predicate_like_emits {ctx : Context} {field : FieldRef} {pattern : String}
    {noCase : Bool} {b b' : Binding} {pred : Pred}
    (ran : (predicate ctx (.like field pattern noCase)).run b = .ok (pred, b')) :
    ∃ slots, comparedConstants ctx (.like field pattern noCase) = .ok slots ∧
      Emits ctx b b' pred slots := by
  obtain ⟨⟨col, r⟩, b₁, resolving, afterColumn⟩ := run_bind_ok ran
  obtain ⟨found, rfl, same⟩ := column_run_ok resolving
  obtain ⟨p, b₂, binding, afterBind⟩ := run_bind_ok afterColumn
  rw [bind_run] at binding
  cases binding
  have word : ∀ w, w = r.dictId ∨ w = r.id -> ResolvedWord ctx w :=
    fun w named => ⟨field, r, found, named⟩
  refine ⟨[(r, .string pattern)], by (conv => lhs; whnf); simp only [found]; rfl, ?_⟩
  split at afterBind <;> obtain ⟨rfl, rfl⟩ := run_pure_ok afterBind <;> cases noCase <;>
    refine ⟨by simp [same, numbered], by simp [Pred.paramNames, Pred.pieces, Term.pieces,
      List.filterMap_cons, anyElement, elementOf, numbered, same], fun w mem => word w ?_⟩ <;>
    simp [Pred.words, Pred.pieces, Term.pieces, List.filterMap_cons, anyElement, elementOf] at mem <;>
    grind

/-- Compiling a range binds its two ends, or nothing when one is null. -/
theorem predicate_between_emits {ctx : Context} {field : FieldRef} {low high : Operand}
    {b b' : Binding} {pred : Pred}
    (ran : (predicate ctx (.between field low high)).run b = .ok (pred, b')) :
    ∃ slots, comparedConstants ctx (.between field low high) = .ok slots ∧
      Emits ctx b b' pred slots := by
  obtain ⟨⟨col, r⟩, b₁, resolving, afterColumn⟩ := run_bind_ok ran
  obtain ⟨found, rfl, same⟩ := column_run_ok resolving
  obtain ⟨lo, b₂, lifting, afterLow⟩ := run_bind_ok afterColumn
  obtain ⟨lowValue, rfl⟩ := lift_run_ok lifting
  obtain ⟨hi, b₃, lifting, afterHigh⟩ := run_bind_ok afterLow
  obtain ⟨highValue, rfl⟩ := lift_run_ok lifting
  have word : ∀ w, w = r.dictId ∨ w = r.id -> ResolvedWord ctx w :=
    fun w named => ⟨field, r, found, named⟩
  by_cases null : lo = .null ∨ hi = .null
  · rw [if_pos null] at afterHigh
    obtain ⟨rfl, rfl⟩ := run_pure_ok afterHigh
    refine ⟨[], by (conv => lhs; whnf); simp [found, lowValue, highValue, null], ?_⟩
    exact ⟨by simp [same], by simp [Pred.paramNames, Pred.pieces], by simp [Pred.words, Pred.pieces]⟩
  · rw [if_neg null] at afterHigh
    obtain ⟨p, b₄, binding, afterLowBind⟩ := run_bind_ok afterHigh
    rw [bind_run] at binding
    cases binding
    obtain ⟨q, b₅, binding, afterHighBind⟩ := run_bind_ok afterLowBind
    rw [bind_run] at binding
    cases binding
    refine ⟨[(r, lo), (r, hi)], ?_, ?_⟩
    · conv => lhs; whnf
      simp only [found, lowValue, highValue, except_ok_bind, if_neg null]
      rfl
    split at afterHighBind <;> obtain ⟨rfl, rfl⟩ := run_pure_ok afterHighBind <;>
      refine ⟨by simp [same, numbered], by simp [Pred.paramNames, Pred.pieces, Term.pieces,
        List.filterMap_cons, anyElement, elementOf, numbered, same], fun w mem => word w ?_⟩ <;>
      simp [Pred.words, Pred.pieces, Term.pieces, List.filterMap_cons, anyElement, elementOf] at mem <;>
      grind

/-! ## Compiling a whole filter -/

namespace Pred

@[simp] theorem paramNames_notCoalesce (p : Pred) : (notCoalesce p).paramNames = p.paramNames := by
  simp [paramNames, pieces, List.filterMap_cons]

@[simp] theorem words_notCoalesce (p : Pred) : (notCoalesce p).words = p.words := by
  simp [words, pieces, List.filterMap_cons]

@[simp] theorem paramNames_and (l r : Pred) : (and l r).paramNames = l.paramNames ++ r.paramNames := by
  simp [paramNames, pieces, List.filterMap_cons]

@[simp] theorem words_and (l r : Pred) : (and l r).words = l.words ++ r.words := by
  simp [words, pieces, List.filterMap_cons]

@[simp] theorem paramNames_or (l r : Pred) : (or l r).paramNames = l.paramNames ++ r.paramNames := by
  simp [paramNames, pieces, List.filterMap_cons]

@[simp] theorem words_or (l r : Pred) : (or l r).words = l.words ++ r.words := by
  simp [words, pieces, List.filterMap_cons]

end Pred

namespace Emits

variable {ctx : Context} {b b₁ b' : Binding}

theorem size_params {pred : Pred} {slots : List (ResolvedField × Value)}
    (e : Emits ctx b b' pred slots) : b'.params.size = b.params.size + slots.length := by
  have lengths := congrArg List.length e.bound
  simpa using lengths

theorem notCoalesce {pred : Pred} {slots : List (ResolvedField × Value)}
    (e : Emits ctx b b' pred slots) : Emits ctx b b' (.notCoalesce pred) slots where
  bound := e.bound
  named := by rw [Pred.paramNames_notCoalesce, e.named]
  resolved := by simpa using e.resolved

/-- Two parts compiled one after the other and joined: the second numbers
its parameters on after the first's. -/
theorem join {l r : Pred} {first second : List (ResolvedField × Value)}
    {joined : Pred -> Pred -> Pred}
    (names : ∀ l r, (joined l r).paramNames = l.paramNames ++ r.paramNames)
    (words : ∀ l r, (joined l r).words = l.words ++ r.words)
    (left : Emits ctx b b₁ l first) (right : Emits ctx b₁ b' r second) :
    Emits ctx b b' (joined l r) (first ++ second) where
  bound := by
    rw [right.bound, left.bound, left.size_params, numbered_append, List.append_assoc]
  named := by
    rw [names, left.named, right.named, left.size_params, numbered_append, List.map_append]
  resolved := by
    intro w mem
    rw [words, List.mem_append] at mem
    exact mem.elim (left.resolved w) (right.resolved w)

end Emits

/-- Compiling a filter binds, one after another, the constants it
compares, and gives a predicate that names exactly the new parameters and
only resolved fields.  The induction follows the filter; each comparison
is one of the lemmas above. -/
theorem predicate_emits {ctx : Context} :
    ∀ (e : Expression) {b b' : Binding} {pred : Pred},
      (predicate ctx e).run b = .ok (pred, b') ->
        ∃ slots, comparedConstants ctx e = .ok slots ∧ Emits ctx b b' pred slots
  | .empty, _, _, _, ran => by
    rw [predicate] at ran
    obtain ⟨rfl, rfl⟩ := run_pure_ok ran
    exact ⟨[], rfl, ⟨by simp, by simp [Pred.paramNames, Pred.pieces],
      by simp [Pred.words, Pred.pieces]⟩⟩
  | .compare .., _, _, _, ran => predicate_compare_emits ran
  | .inList .., _, _, _, ran => predicate_inList_emits ran
  | .quantified .., _, _, _, ran => predicate_quantified_emits ran
  | .like .., _, _, _, ran => predicate_like_emits ran
  | .between .., _, _, _, ran => predicate_between_emits ran
  | .not inner, _, _, _, ran => by
    rw [predicate] at ran
    obtain ⟨p, b₁, inner_ran, after⟩ := run_bind_ok ran
    obtain ⟨rfl, rfl⟩ := run_pure_ok after
    obtain ⟨slots, compared, emits⟩ := predicate_emits inner inner_ran
    exact ⟨slots, by rw [comparedConstants, compared], emits.notCoalesce⟩
  | .and left right, _, _, _, ran => by
    rw [predicate] at ran
    obtain ⟨l, b₁, left_ran, after⟩ := run_bind_ok ran
    obtain ⟨r, b₂, right_ran, after⟩ := run_bind_ok after
    obtain ⟨rfl, rfl⟩ := run_pure_ok after
    obtain ⟨first, first_compared, first_emits⟩ := predicate_emits left left_ran
    obtain ⟨second, second_compared, second_emits⟩ := predicate_emits right right_ran
    refine ⟨first ++ second, by simp [comparedConstants, first_compared, second_compared], ?_⟩
    exact first_emits.join Pred.paramNames_and Pred.words_and second_emits
  | .or left right, _, _, _, ran => by
    rw [predicate] at ran
    obtain ⟨l, b₁, left_ran, after⟩ := run_bind_ok ran
    obtain ⟨r, b₂, right_ran, after⟩ := run_bind_ok after
    obtain ⟨rfl, rfl⟩ := run_pure_ok after
    obtain ⟨first, first_compared, first_emits⟩ := predicate_emits left left_ran
    obtain ⟨second, second_compared, second_emits⟩ := predicate_emits right right_ran
    refine ⟨first ++ second, by simp [comparedConstants, first_compared, second_compared], ?_⟩
    exact first_emits.join Pred.paramNames_or Pred.words_or second_emits

/-- A compiled filter binds, numbered from one, the constants it compares;
its predicate names exactly these parameters, in order, and only resolved
fields. -/
theorem compile_emits {ctx : Context} {e : Expression} {p : Compiled}
    (compiled : compile ctx e = .ok p) :
    ∃ slots, comparedConstants ctx e = .ok slots ∧ p.params = numbered 0 slots ∧
      p.pred.paramNames = p.params.map Prod.fst ∧ ∀ w ∈ p.pred.words, ResolvedWord ctx w := by
  unfold compile at compiled
  split at compiled
  · rename_i pred b ran
    cases compiled
    obtain ⟨slots, compared, emits⟩ := predicate_emits e ran
    have params : b.params.toList = numbered 0 slots := by simpa using emits.bound
    refine ⟨slots, compared, params, ?_, emits.resolved⟩
    rw [emits.named, params]
    rfl
  · cases compiled

end Sql
end Refbook
