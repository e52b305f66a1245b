import Refbook.Sql.Compile
import Refbook.Document.Compile
import Mathlib.Data.String.Basic

/-!
# When compiling a filter fails

A filter is compiled twice: to an SQL predicate and to a document filter.
The two compilers are separate recursions over the filter, with their own
order of work inside each predicate: lists are a loop in one and a traversal
in the other, `all` and `any` lists lose their repeats first, null operands
cut the output short only after they are read, and the document compiler
flattens chains of `and` and `or`.

Their failures are nevertheless those of one *reference check*, stated here
without either compiler: visit the predicates of the filter in the order its
text names them; for each, resolve its field, then read its operands for that
field in order (`between` its low bound before its high one, a list in its
own order, nothing for `like`); stop at the first failure.

Main statement (`compilers_fail_as_check`): each compiler fails exactly when
the check fails, with the check's error; when the check passes both succeed,
and each reports as participants, sorted and without repeats, exactly the
dicts its fields resolve to.

The proof reads each compiler as a run over its state that *follows* a check
(`Follows`): it fails as the check does and otherwise changes the recorded
participants in a known way.  Following is closed under the steps the
compilers are made of, so each predicate is one short chain of such steps.
-/

namespace Refbook

open Query

/-! ## The reference check -/

namespace Query

namespace Expression

/-- The predicates of a filter, in the order its text names them. -/
def predicates : Expression -> List Expression
  | empty => []
  | not inner => inner.predicates
  | and left right | or left right => left.predicates ++ right.predicates
  | p@(compare ..) | p@(inList ..) | p@(quantified ..) | p@(like ..) | p@(between ..) => [p]

/-- The field a predicate names. -/
def field? : Expression -> Option FieldRef
  | compare field .. | inList field .. | quantified field .. | like field .. | between field .. =>
    some field
  | _ => none

end Expression

namespace Context

/-- What compiling one predicate reads, in order: its field, then its
operands (`between` its low bound before its high one, a list in its order,
nothing for `like`). -/
def checkPredicate (ctx : Context) : Expression -> Except Error Unit
  | .compare field _ operand => do
    let r ← ctx.resolve field
    let _ ← ctx.operandValue r operand
    pure ()
  | .inList field operands _ | .quantified field _ operands => do
    let r ← ctx.resolve field
    forM operands fun operand => do
      let _ ← ctx.operandValue r operand
      pure ()
  | .like field _ _ => do
    let _ ← ctx.resolve field
    pure ()
  | .between field low high => do
    let r ← ctx.resolve field
    let _ ← ctx.operandValue r low
    let _ ← ctx.operandValue r high
    pure ()
  | _ => pure ()

/-- The reference check of a filter: its predicates in text order, stopping
at the first that fails. -/
def check (ctx : Context) (e : Expression) : Except Error Unit :=
  forM e.predicates ctx.checkPredicate

/-- The dicts of a filter's fields, left to right: a field named alone
belongs to the queried dict. -/
def fieldDicts (ctx : Context) (e : Expression) : List String :=
  e.fields.map fun field => field.dict.getD ctx.dictId

/-- The participants a compiled filter reports: sorted without repeats, and
exactly the dicts that the filter's fields resolve to. -/
def Participants (ctx : Context) (e : Expression) (ps : List String) : Prop :=
  ps.Pairwise (· < ·) ∧
    ∀ d, d ∈ ps ↔ ∃ field ∈ e.fields, ∃ r, ctx.resolve field = .ok r ∧ r.dictId = d

variable {ctx : Context}

/-- The check of a single predicate is that predicate's check. -/
theorem check_single {e : Expression} (single : e.predicates = [e]) :
    ctx.check e = ctx.checkPredicate e := by
  rw [check, single, List.forM_cons, List.forM_nil, bind_pure_unit]

/-- Two filters joined are checked left, then right. -/
theorem check_append {e left right : Expression}
    (joined : e.predicates = left.predicates ++ right.predicates) :
    ctx.check e = (ctx.check left >>= fun _ => ctx.check right) := by
  rw [check, joined, List.forM_append]
  rfl

theorem fieldDicts_append {e left right : Expression}
    (joined : e.fields = left.fields ++ right.fields) :
    ctx.fieldDicts e = ctx.fieldDicts left ++ ctx.fieldDicts right := by
  simp [fieldDicts, joined]

/-- A resolved field belongs to the dict that qualifies it, or else to the
queried dict. -/
theorem resolve_dictId {field : FieldRef} {r : ResolvedField}
    (found : ctx.resolve field = .ok r) : r.dictId = field.dict.getD ctx.dictId := by
  unfold resolve at found
  dsimp only at found
  split at found
  · cases found; rfl
  · cases found

/-- A predicate's check starts by resolving its field. -/
theorem checkPredicate_resolves_first {p : Expression} {field : FieldRef}
    (named : p.field? = some field) :
    ∃ rest, ctx.checkPredicate p = (ctx.resolve field >>= rest) := by
  cases p <;> simp only [Expression.field?, Option.some.injEq, reduceCtorEq] at named <;>
    subst named <;> exact ⟨_, rfl⟩

/-- A predicate whose check passes resolves its field. -/
theorem resolves_of_leaf {p : Expression} {field : FieldRef} (leaf : p.predicates = [p])
    (named : p.field? = some field) (passes : ctx.check p = .ok ()) :
    ∃ r, ctx.resolve field = .ok r := by
  rw [check_single leaf] at passes
  obtain ⟨rest, starts⟩ := checkPredicate_resolves_first named
  rw [starts] at passes
  cases found : ctx.resolve field with
  | error e => rw [found] at passes; cases passes
  | ok r => exact ⟨r, rfl⟩

/-- When the check passes, every field of the filter resolves. -/
theorem resolves_of_check {e : Expression} (passes : ctx.check e = .ok ()) :
    ∀ field ∈ e.fields, ∃ r, ctx.resolve field = .ok r := by
  induction e with
  | empty => simp [Expression.fields]
  | not inner ih => exact ih passes
  | and left right ihl ihr | or left right ihl ihr =>
    rw [check_append rfl] at passes
    cases first : ctx.check left with
    | error e => rw [first] at passes; cases passes
    | ok u =>
      rw [first] at passes
      intro field mem
      rcases List.mem_append.mp mem with inLeft | inRight
      · exact ihl first field inLeft
      · exact ihr passes field inRight
  | compare field op operand =>
    exact fun named mem => List.mem_singleton.mp mem ▸ resolves_of_leaf rfl rfl passes
  | inList field operands negated =>
    exact fun named mem => List.mem_singleton.mp mem ▸ resolves_of_leaf rfl rfl passes
  | quantified field quantifier operands =>
    exact fun named mem => List.mem_singleton.mp mem ▸ resolves_of_leaf rfl rfl passes
  | like field pattern noCase =>
    exact fun named mem => List.mem_singleton.mp mem ▸ resolves_of_leaf rfl rfl passes
  | between field low high =>
    exact fun named mem => List.mem_singleton.mp mem ▸ resolves_of_leaf rfl rfl passes

theorem forM_except_eq_ok {ε α : Type} {xs : List α} {g : α -> Except ε Unit} :
    forM xs g = .ok () ↔ ∀ x ∈ xs, g x = .ok () := by
  induction xs with
  | nil => simp [pure, Except.pure]
  | cons x rest ih =>
    rw [List.forM_cons, List.forall_mem_cons, ← ih]
    cases g x with
    | error e => exact ⟨fun h => (by cases h), fun h => (by cases h.1)⟩
    | ok u => exact ⟨fun h => ⟨rfl, h⟩, fun h => h.2⟩

/-- A field that the catalog does not know fails the check at its predicate,
once the predicates before it have passed. -/
theorem check_unknownField {e p : Expression} {pre post : List Expression} {field : FieldRef}
    (order : e.predicates = pre ++ p :: post)
    (earlier : ∀ q ∈ pre, ctx.checkPredicate q = .ok ()) (named : p.field? = some field)
    (unknown : catalogField? ctx.catalog (field.dict.getD ctx.dictId) field.name = none) :
    ctx.check e = .error (.unknownField (field.dict.getD ctx.dictId) field.name) := by
  have refused :
      ctx.resolve field = .error (.unknownField (field.dict.getD ctx.dictId) field.name) := by
    simp [resolve, unknown]
  obtain ⟨rest, starts⟩ := checkPredicate_resolves_first named
  rw [check, order, List.forM_append, forM_except_eq_ok.mpr earlier, List.forM_cons, starts,
    refused]
  rfl

/-- A loop in `Except` whose every round fails as a check does, whatever it
returns, fails as the checks of the elements in order. -/
theorem foldlM_then_unit {ε α β : Type} {F : α -> β -> Except ε α} {c : β -> Except ε Unit}
    (round : ∀ acc b, (F acc b >>= fun _ => pure ()) = c b) :
    ∀ (bs : List β) (acc : α), (bs.foldlM F acc >>= fun _ => pure ()) = forM bs c
  | [], _ => rfl
  | b :: bs, acc => by
    rw [List.foldlM_cons, List.forM_cons, ← round acc b, bind_assoc, bind_assoc]
    cases F acc b with
    | error e => rfl
    | ok a => exact foldlM_then_unit round bs a

/-- The values of an `all` or `any` list are read as the reference check
reads them: the list's operands in order, stopping at the first that fails. -/
theorem elementValues_check (r : ResolvedField) (operands : List Operand) :
    (ctx.elementValues r operands >>= fun _ => pure ()) =
      forM operands fun operand => ctx.operandValue r operand >>= fun _ => pure () := by
  refine foldlM_then_unit (fun acc operand => ?_) operands _
  cases ctx.operandValue r operand with
  | error e => rfl
  | ok v =>
    show (if v = .null then _ else _) >>= _ = _
    split
    · rfl
    · split <;> rfl

end Context

end Query

/-! ## Participants, kept sorted -/

/-- The participants after the dicts `ds` are named in order, starting from
`p`. -/
def insertAll (ds p : List String) : List String :=
  ds.foldl (fun acc d => insertSorted d acc) p

theorem insertAll_append (ds ds' p : List String) :
    insertAll (ds ++ ds') p = insertAll ds' (insertAll ds p) :=
  List.foldl_append ..

theorem mem_insertSorted {x y : String} {ps : List String} :
    y ∈ insertSorted x ps ↔ y = x ∨ y ∈ ps := by
  induction ps with
  | nil => simp [insertSorted]
  | cons z zs ih =>
    unfold insertSorted
    split
    · subst z; simp
    · split
      · simp
      · simp only [List.mem_cons, ih]
        tauto

/-- Inserting keeps a list sorted without repeats. -/
theorem pairwise_insertSorted (x : String) {ps : List String} (sorted : ps.Pairwise (· < ·)) :
    (insertSorted x ps).Pairwise (· < ·) := by
  induction ps with
  | nil => simp [insertSorted]
  | cons y ys ih =>
    rw [List.pairwise_cons] at sorted
    unfold insertSorted
    split
    · exact List.pairwise_cons.mpr sorted
    · split
      · rename_i before
        refine List.pairwise_cons.mpr ⟨?_, List.pairwise_cons.mpr sorted⟩
        intro z mem
        rcases List.mem_cons.mp mem with rfl | later
        · exact before
        · exact lt_trans before (sorted.1 z later)
      · rename_i apart notBefore
        have after : y < x := lt_of_le_of_ne (not_lt.mp notBefore) (Ne.symm apart)
        refine List.pairwise_cons.mpr ⟨fun z mem => ?_, ih sorted.2⟩
        rcases mem_insertSorted.mp mem with rfl | later
        · exact after
        · exact sorted.1 z later

theorem mem_insertAll {x : String} (ds p : List String) :
    x ∈ insertAll ds p ↔ x ∈ p ∨ x ∈ ds := by
  induction ds generalizing p with
  | nil => simp [insertAll]
  | cons d rest ih =>
    rw [show insertAll (d :: rest) p = insertAll rest (insertSorted d p) from rfl, ih,
      mem_insertSorted]
    simp only [List.mem_cons]
    tauto

theorem pairwise_insertAll (ds : List String) {p : List String} (sorted : p.Pairwise (· < ·)) :
    (insertAll ds p).Pairwise (· < ·) := by
  induction ds generalizing p with
  | nil => exact sorted
  | cons d rest ih => exact ih (pairwise_insertSorted d sorted)

/-- Once the check passes, naming the dicts of the fields in order gives the
participants. -/
theorem participants_of_check {ctx : Context} {e : Expression} (passes : ctx.check e = .ok ()) :
    ctx.Participants e (insertAll (ctx.fieldDicts e) []) := by
  refine ⟨pairwise_insertAll _ List.Pairwise.nil, fun d => ?_⟩
  rw [mem_insertAll]
  simp only [List.not_mem_nil, false_or, Context.fieldDicts, List.mem_map]
  constructor
  · rintro ⟨field, mem, rfl⟩
    obtain ⟨r, found⟩ := Context.resolves_of_check passes field mem
    exact ⟨field, mem, r, found, Context.resolve_dictId found⟩
  · rintro ⟨field, mem, r, found, rfl⟩
    exact ⟨field, mem, (Context.resolve_dictId found).symm⟩

/-! ## Following a check -/

section Follows

variable {σ α β γ δ : Type} (part : σ -> List String)

/-- A run over states `σ`, whose participants `part` reads, runs as the
check `c` does: it fails exactly when `c` fails, with the same error, and
when it succeeds its result reads (by `val`) as the value of `c` and it has
turned the participants `p` into `f p`. -/
def Follows (x : StateT σ (Except Error) α) (c : Except Error γ) (val : α -> γ)
    (f : List String -> List String) : Prop :=
  ∀ s, ((x.run s).map fun r => (val r.1, part r.2)) = c.map fun v => (v, f (part s))

variable {part}

theorem Follows.pure (val : α -> γ) (a : α) :
    Follows part (Pure.pure a : StateT σ (Except Error) α) (Pure.pure (val a)) val id :=
  fun _ => rfl

theorem Follows.bind {x : StateT σ (Except Error) α} {g : α -> StateT σ (Except Error) β}
    {c : Except Error γ} {c' : γ -> Except Error δ} {val : α -> γ} {val' : β -> δ}
    {f f' : List String -> List String}
    (first : Follows part x c val f) (rest : ∀ a, Follows part (g a) (c' (val a)) val' f') :
    Follows part (x >>= g) (c >>= c') val' (f' ∘ f) := by
  intro s
  have ran := first s
  rw [StateT.run_bind]
  cases hx : x.run s with
  | error e =>
    rw [hx] at ran
    cases c with
    | error e' => cases ran; rfl
    | ok v => cases ran
  | ok p =>
    rw [hx] at ran
    cases c with
    | error e' => cases ran
    | ok v =>
      obtain ⟨a, s'⟩ := p
      simp only [Except.map, Except.ok.injEq, Prod.mk.injEq] at ran
      obtain ⟨rfl, kept⟩ := ran
      have later := rest a s'
      simp only [kept] at later
      exact later

/-- `bind` with a tail that changes no participants. -/
theorem Follows.then {x : StateT σ (Except Error) α} {g : α -> StateT σ (Except Error) β}
    {c : Except Error γ} {c' : γ -> Except Error δ} {val : α -> γ} {val' : β -> δ}
    {f : List String -> List String}
    (first : Follows part x c val f) (rest : ∀ a, Follows part (g a) (c' (val a)) val' id) :
    Follows part (x >>= g) (c >>= c') val' f :=
  (Follows.bind first rest : Follows part (x >>= g) (c >>= c') val' (id ∘ f))

/-- Two runs in a row, each following a check of its own. -/
theorem Follows.seq {x : StateT σ (Except Error) α} {g : α -> StateT σ (Except Error) β}
    {c c' : Except Error Unit} {f f' : List String -> List String}
    (first : Follows part x c (fun _ => ()) f)
    (rest : ∀ a, Follows part (g a) c' (fun _ => ()) f') :
    Follows part (x >>= g) (c >>= fun _ => c') (fun _ => ()) (f' ∘ f) :=
  Follows.bind first rest

/-- A run followed by building a result from what it returned. -/
theorem Follows.build {x : StateT σ (Except Error) α} {c : Except Error Unit}
    {f : List String -> List String} (h : α -> β) (follows : Follows part x c (fun _ => ()) f) :
    Follows part (x >>= fun a => Pure.pure (h a)) c (fun _ => ()) f := by
  have composed := Follows.then follows fun a => Follows.pure (fun _ => ()) (h a)
  rw [bind_pure_unit] at composed
  exact composed

/-- Following is kept when the check and the change of participants are
replaced by equal ones. -/
theorem Follows.congr {x : StateT σ (Except Error) α} {c c' : Except Error γ} {val : α -> γ}
    {f f' : List String -> List String} (follows : Follows part x c val f) (same : c = c')
    (sameChange : ∀ p, f p = f' p) : Follows part x c' val f' := by
  intro s
  rw [follows s, same, sameChange]

/-- A run that only reads a check fails as the check does and changes no
participants. -/
theorem Follows.ofExcept {e : Except Error α} {x : StateT σ (Except Error) α}
    (runs : ∀ s, x.run s = e.map fun a => (a, s)) : Follows part x e id id := by
  intro s
  rw [runs s]
  cases e <;> rfl

/-- A loop over a list whose every round follows its check, changing no
participants, follows the checks of the elements in order. -/
theorem Follows.foldlM {F : α -> β -> StateT σ (Except Error) α} {c : β -> Except Error Unit}
    (round : ∀ acc b, Follows part (F acc b) (c b) (fun _ => ()) id) :
    ∀ (bs : List β) (acc : α), Follows part (bs.foldlM F acc) (forM bs c) (fun _ => ()) id
  | [], acc => fun _ => rfl
  | b :: bs, acc => by
    rw [List.foldlM_cons, List.forM_cons]
    exact Follows.seq (round acc b) fun acc' => Follows.foldlM round bs acc'

/-- The same for a traversal of a list. -/
theorem Follows.mapM {F : β -> StateT σ (Except Error) α} {c : β -> Except Error Unit}
    (round : ∀ b, Follows part (F b) (c b) (fun _ => ()) id) :
    ∀ bs : List β, Follows part (bs.mapM F) (forM bs c) (fun _ => ()) id
  | [] => fun _ => rfl
  | b :: bs => by
    rw [List.mapM_cons, List.forM_cons]
    exact Follows.seq (round b) fun a => Follows.build (a :: ·) (Follows.mapM round bs)

/-- A predicate that follows its own check follows, as a filter, the
reference check, naming the dict of its field. -/
theorem Follows.leaf {ctx : Context} {e : Expression} {x : StateT σ (Except Error) α}
    {d : String} (leaf : e.predicates = [e]) (dicts : ctx.fieldDicts e = [d])
    (follows : Follows part x (ctx.checkPredicate e) (fun _ => ()) (insertSorted d)) :
    Follows part x (ctx.check e) (fun _ => ()) (insertAll (ctx.fieldDicts e)) :=
  follows.congr (Context.check_single leaf).symm fun p => by rw [dicts]; rfl

/-- Two filters joined: the left one's run, then the right one's. -/
theorem Follows.join {ctx : Context} {e left right : Expression}
    {x : StateT σ (Except Error) α} {g : α -> StateT σ (Except Error) β}
    (joined : e.predicates = left.predicates ++ right.predicates)
    (joinedFields : e.fields = left.fields ++ right.fields)
    (first : Follows part x (ctx.check left) (fun _ => ()) (insertAll (ctx.fieldDicts left)))
    (rest : ∀ a, Follows part (g a) (ctx.check right) (fun _ => ())
      (insertAll (ctx.fieldDicts right))) :
    Follows part (x >>= g) (ctx.check e) (fun _ => ()) (insertAll (ctx.fieldDicts e)) :=
  (Follows.seq first rest).congr (Context.check_append joined).symm fun p => by
    rw [Context.fieldDicts_append joinedFields, insertAll_append]
    rfl

/-- What a run that follows a check leaves of the participants. -/
theorem Follows.participants {x : StateT σ (Except Error) α} {c : Except Error γ}
    {val : α -> γ} {f : List String -> List String} (follows : Follows part x c val f) (s : σ) :
    ((x.run s).map fun r => part r.2) = c.map fun _ => f (part s) := by
  have projected := congrArg (Except.map Prod.snd) (follows s)
  cases ran : x.run s <;> cases c <;> simp_all [Except.map]

end Follows

/-! ## The SQL compiler -/

namespace Sql

theorem lift_follows {α : Type} (e : Except Error α) :
    Follows Binding.participants (lift e) e id id :=
  Follows.ofExcept fun _ => by cases e <;> rfl

theorem bind_follows (r : ResolvedField) (v : Value) :
    Follows Binding.participants (bind r v) (pure ()) (fun _ => ()) id :=
  fun _ => rfl

/-- Binding values one after another never fails and names no dict. -/
theorem mapM_bind_follows (r : ResolvedField) :
    ∀ values : List Value,
      Follows Binding.participants (values.mapM (bind r)) (pure ()) (fun _ => ()) id
  | [] => fun _ => rfl
  | v :: rest => by
    rw [List.mapM_cons]
    exact Follows.then (bind_follows r v) fun p => Follows.build _ (mapM_bind_follows r rest)

/-- Resolving a field fails as resolving does, and names the field's dict. -/
theorem column_follows (ctx : Context) (field : FieldRef) :
    Follows Binding.participants (column ctx field) (ctx.resolve field) Prod.snd
      (insertSorted (field.dict.getD ctx.dictId)) := by
  intro b
  cases found : ctx.resolve field with
  | error e => rw [column, found]; rfl
  | ok r => rw [column, found, ← Context.resolve_dictId found]; rfl

section Predicates

/- Each clause of the compiler is reached by unfolding it definitionally: the
runs below are matched against the clause's body directly, with no rewriting
by its equations. -/

variable (ctx : Context) (field : FieldRef)

theorem predicate_compare_follows (op : CompareOp) (operand : Operand) :
    Follows Binding.participants (predicate ctx (.compare field op operand))
      (ctx.checkPredicate (.compare field op operand)) (fun _ => ())
      (insertSorted (field.dict.getD ctx.dictId)) := by
  refine Follows.then (column_follows ctx field) fun ⟨col, r⟩ => ?_
  refine Follows.then (lift_follows _) fun value => ?_
  split
  · exact Follows.pure (fun _ => ()) _
  · exact Follows.then (bind_follows r value) fun p => Follows.pure (fun _ => ()) _

theorem predicate_inList_follows (operands : List Operand) (negated : Bool) :
    Follows Binding.participants (predicate ctx (.inList field operands negated))
      (ctx.checkPredicate (.inList field operands negated)) (fun _ => ())
      (insertSorted (field.dict.getD ctx.dictId)) := by
  refine Follows.then (column_follows ctx field) fun ⟨col, r⟩ => ?_
  refine Follows.build _ (Follows.foldlM (fun acc operand => ?_) operands _)
  refine Follows.then (lift_follows _) fun value => ?_
  split
  · exact Follows.pure (fun _ => ()) _
  · exact Follows.build _ (bind_follows r value)

theorem predicate_quantified_follows (quantifier : Quantifier) (operands : List Operand) :
    Follows Binding.participants (predicate ctx (.quantified field quantifier operands))
      (ctx.checkPredicate (.quantified field quantifier operands)) (fun _ => ())
      (insertSorted (field.dict.getD ctx.dictId)) := by
  refine Follows.then (column_follows ctx field) fun ⟨col, r⟩ => ?_
  refine (Follows.then (lift_follows _) fun read => ?_).congr
    (ctx.elementValues_check r operands) fun _ => rfl
  obtain ⟨values, withNull⟩ := read
  dsimp only
  split
  · exact Follows.pure (fun _ => ()) _
  · exact Follows.build _ (mapM_bind_follows r values)

theorem predicate_like_follows (pattern : String) (noCase : Bool) :
    Follows Binding.participants (predicate ctx (.like field pattern noCase))
      (ctx.checkPredicate (.like field pattern noCase)) (fun _ => ())
      (insertSorted (field.dict.getD ctx.dictId)) := by
  refine Follows.then (column_follows ctx field) fun ⟨col, r⟩ => ?_
  refine Follows.then (bind_follows r _) fun p => ?_
  split
  · exact Follows.pure (fun _ => ()) _
  · exact Follows.pure (fun _ => ()) _

theorem predicate_between_follows (low high : Operand) :
    Follows Binding.participants (predicate ctx (.between field low high))
      (ctx.checkPredicate (.between field low high)) (fun _ => ())
      (insertSorted (field.dict.getD ctx.dictId)) := by
  refine Follows.then (column_follows ctx field) fun ⟨col, r⟩ => ?_
  refine Follows.then (lift_follows _) fun lowValue => ?_
  refine Follows.then (lift_follows _) fun highValue => ?_
  split
  · exact Follows.pure (fun _ => ()) _
  · refine Follows.then (bind_follows r lowValue) fun lo => ?_
    refine Follows.then (bind_follows r highValue) fun hi => ?_
    split
    · exact Follows.pure (fun _ => ()) _
    · exact Follows.pure (fun _ => ()) _

end Predicates

/-- Compiling a filter to SQL fails exactly as the reference check does,
and otherwise names the dicts of its fields, in order. -/
theorem predicate_follows (ctx : Context) (e : Expression) :
    Follows Binding.participants (predicate ctx e) (ctx.check e) (fun _ => ())
      (insertAll (ctx.fieldDicts e)) := by
  induction e with
  | empty => exact Follows.pure (fun _ => ()) _
  | compare field op operand =>
    exact Follows.leaf rfl rfl (predicate_compare_follows ctx field op operand)
  | inList field operands negated =>
    exact Follows.leaf rfl rfl (predicate_inList_follows ctx field operands negated)
  | quantified field quantifier operands =>
    exact Follows.leaf rfl rfl (predicate_quantified_follows ctx field quantifier operands)
  | like field pattern noCase =>
    exact Follows.leaf rfl rfl (predicate_like_follows ctx field pattern noCase)
  | between field low high =>
    exact Follows.leaf rfl rfl (predicate_between_follows ctx field low high)
  | not inner ih =>
    rw [predicate]
    exact Follows.build _ ih
  | and left right ihl ihr =>
    rw [predicate]
    exact Follows.join rfl rfl ihl fun l => Follows.build (Pred.and l) ihr
  | or left right ihl ihr =>
    rw [predicate]
    exact Follows.join rfl rfl ihl fun l => Follows.build (Pred.or l) ihr

/-- Compiling to SQL fails as the check does, and otherwise names the dicts
of the filter's fields. -/
theorem compile_participants (ctx : Context) (e : Expression) :
    (compile ctx e).map Compiled.participants =
      (ctx.check e).map fun _ => insertAll (ctx.fieldDicts e) [] := by
  rw [← (predicate_follows ctx e).participants {}]
  unfold compile
  cases (predicate ctx e).run {} <;> rfl

end Sql

/-! ## The document compiler -/

namespace Document

theorem lift_follows {α : Type} (e : Except Error α) : Follows id (lift e) e id id :=
  Follows.ofExcept fun _ => by cases e <;> rfl

/-- Resolving a field fails as resolving does, and names the field's dict. -/
theorem path_follows (ctx : Context) (field : FieldRef) :
    Follows id (path ctx field) (ctx.resolve field) Prod.snd
      (insertSorted (field.dict.getD ctx.dictId)) := by
  intro ps
  cases found : ctx.resolve field with
  | error e => rw [path, found]; rfl
  | ok r => rw [path, found, ← Context.resolve_dictId found]; rfl

section Predicates

-- As for the SQL compiler, each clause is unfolded definitionally.

variable (ctx : Context) (field : FieldRef)

theorem filter_compare_follows (op : CompareOp) (operand : Operand) :
    Follows id (filter ctx (.compare field op operand))
      (ctx.checkPredicate (.compare field op operand)) (fun _ => ())
      (insertSorted (field.dict.getD ctx.dictId)) := by
  refine Follows.then (path_follows ctx field) fun ⟨p, r⟩ => ?_
  exact Follows.then (lift_follows _) fun value => Follows.pure (fun _ => ()) _

theorem filter_inList_follows (operands : List Operand) (negated : Bool) :
    Follows id (filter ctx (.inList field operands negated))
      (ctx.checkPredicate (.inList field operands negated)) (fun _ => ())
      (insertSorted (field.dict.getD ctx.dictId)) := by
  refine Follows.then (path_follows ctx field) fun ⟨p, r⟩ => ?_
  refine Follows.build _ (Follows.mapM (fun operand => ?_) operands)
  exact Follows.then (lift_follows _) fun value => Follows.pure (fun _ => ()) _

theorem filter_quantified_follows (quantifier : Quantifier) (operands : List Operand) :
    Follows id (filter ctx (.quantified field quantifier operands))
      (ctx.checkPredicate (.quantified field quantifier operands)) (fun _ => ())
      (insertSorted (field.dict.getD ctx.dictId)) := by
  refine Follows.then (path_follows ctx field) fun ⟨p, r⟩ => ?_
  refine (Follows.then (lift_follows _) fun read => ?_).congr
    (ctx.elementValues_check r operands) fun _ => rfl
  obtain ⟨values, withNull⟩ := read
  exact Follows.pure (fun _ => ()) _

theorem filter_like_follows (pattern : String) (noCase : Bool) :
    Follows id (filter ctx (.like field pattern noCase))
      (ctx.checkPredicate (.like field pattern noCase)) (fun _ => ())
      (insertSorted (field.dict.getD ctx.dictId)) := by
  exact Follows.then (path_follows ctx field) fun _ => Follows.pure (fun _ => ()) _

theorem filter_between_follows (low high : Operand) :
    Follows id (filter ctx (.between field low high))
      (ctx.checkPredicate (.between field low high)) (fun _ => ())
      (insertSorted (field.dict.getD ctx.dictId)) := by
  refine Follows.then (path_follows ctx field) fun ⟨p, r⟩ => ?_
  refine Follows.then (lift_follows _) fun lowValue => ?_
  refine Follows.then (lift_follows _) fun highValue => ?_
  dsimp only
  split
  · exact Follows.pure (fun _ => ()) _
  · exact Follows.pure (fun _ => ()) _
  · split
    · exact Follows.pure (fun _ => ()) _
    · exact Follows.pure (fun _ => ()) _

end Predicates

/-- Compiling a filter to a document filter fails exactly as the reference
check does, and otherwise names the dicts of its fields, in order. -/
theorem filter_follows (ctx : Context) (e : Expression) :
    Follows id (filter ctx e) (ctx.check e) (fun _ => ()) (insertAll (ctx.fieldDicts e)) := by
  induction e with
  | empty => exact Follows.pure (fun _ => ()) _
  | compare field op operand =>
    exact Follows.leaf rfl rfl (filter_compare_follows ctx field op operand)
  | inList field operands negated =>
    exact Follows.leaf rfl rfl (filter_inList_follows ctx field operands negated)
  | quantified field quantifier operands =>
    exact Follows.leaf rfl rfl (filter_quantified_follows ctx field quantifier operands)
  | like field pattern noCase =>
    exact Follows.leaf rfl rfl (filter_like_follows ctx field pattern noCase)
  | between field low high =>
    exact Follows.leaf rfl rfl (filter_between_follows ctx field low high)
  | not inner ih =>
    rw [filter]
    exact Follows.build _ ih
  | and left right ihl ihr =>
    rw [filter]
    exact Follows.join rfl rfl ihl fun l =>
      Follows.build (fun r => single "$and" (.array (flatten "$and" l ++ flatten "$and" r))) ihr
  | or left right ihl ihr =>
    rw [filter]
    exact Follows.join rfl rfl ihl fun l =>
      Follows.build (fun r => single "$or" (.array (flatten "$or" l ++ flatten "$or" r))) ihr

/-- Compiling to a document filter fails as the check does, and otherwise
names the dicts of the filter's fields. -/
theorem compile_participants (ctx : Context) (e : Expression) :
    (compile ctx e).map Compiled.participants =
      (ctx.check e).map fun _ => insertAll (ctx.fieldDicts e) [] := by
  have follows := (filter_follows ctx e).participants []
  simp only [id] at follows
  rw [← follows]
  unfold compile
  cases (filter ctx e).run [] <;> rfl

end Document

/-! ## Both compilers against the check -/

section MapEq

variable {ε α β γ : Type} {x : Except ε α} {y : Except ε β} {f : α -> γ} {g : β -> γ}

theorem error_iff_of_map_eq (same : x.map f = y.map g) (err : ε) :
    x = .error err ↔ y = .error err := by
  cases x <;> cases y <;> simp_all [Except.map]

theorem ok_of_map_eq (same : x.map f = y.map g) {a : α} (ok : x = .ok a) :
    ∃ b, y = .ok b ∧ f a = g b := by
  subst ok
  cases y <;> simp_all [Except.map]

end MapEq

/-- A compilation that reads, through its participants, as the check does:
when it succeeds the check passes and the participants are the dicts of the
fields, named in order. -/
theorem named_of_map_eq {β : Type} {ctx : Context} {e : Expression} {t : β} {x : Except Error β}
    {participants : β -> List String}
    (same : x.map participants = (ctx.check e).map fun _ => insertAll (ctx.fieldDicts e) [])
    (compiled : x = .ok t) :
    participants t = insertAll (ctx.fieldDicts e) [] ∧ ctx.check e = .ok () := by
  obtain ⟨u, passes, named⟩ := ok_of_map_eq same compiled
  exact ⟨named, passes⟩

/-- Both compilers of filters, to SQL and to document filters, fail exactly
when the reference check fails, with its error: the first predicate, in text
order, whose field does not resolve or one of whose operands cannot be read
for that field.  So a field the catalog does not know is refused at its
predicate once the predicates before it pass.  When the check passes both
succeed, and each reports as participants, sorted and without repeats,
exactly the dicts its fields resolve to; so the two report the same
participants. -/
theorem compilers_fail_as_check (ctx : Context) (e : Expression) :
    (∀ err, Sql.compile ctx e = .error err ↔ ctx.check e = .error err) ∧
    (∀ err, Document.compile ctx e = .error err ↔ ctx.check e = .error err) ∧
    (∀ t, Sql.compile ctx e = .ok t -> ctx.Participants e t.participants) ∧
    (∀ t, Document.compile ctx e = .ok t -> ctx.Participants e t.participants) ∧
    (∀ t t', Sql.compile ctx e = .ok t -> Document.compile ctx e = .ok t' ->
      t.participants = t'.participants) ∧
    (ctx.check e = .ok () ->
      (∃ t, Sql.compile ctx e = .ok t) ∧ ∃ t, Document.compile ctx e = .ok t) ∧
    (∀ pre p post field, e.predicates = pre ++ p :: post ->
      (∀ q ∈ pre, ctx.checkPredicate q = .ok ()) -> p.field? = some field ->
      catalogField? ctx.catalog (field.dict.getD ctx.dictId) field.name = none ->
      Sql.compile ctx e = .error (.unknownField (field.dict.getD ctx.dictId) field.name) ∧
      Document.compile ctx e = .error (.unknownField (field.dict.getD ctx.dictId) field.name)) := by
  have sql := Sql.compile_participants ctx e
  have document := Document.compile_participants ctx e
  refine ⟨error_iff_of_map_eq sql, error_iff_of_map_eq document, ?_, ?_, ?_, ?_, ?_⟩
  · intro t compiled
    obtain ⟨named, passes⟩ := named_of_map_eq sql compiled
    exact named ▸ participants_of_check passes
  · intro t compiled
    obtain ⟨named, passes⟩ := named_of_map_eq document compiled
    exact named ▸ participants_of_check passes
  · intro t t' compiled compiled'
    rw [(named_of_map_eq sql compiled).1, (named_of_map_eq document compiled').1]
  · intro passes
    constructor
    · cases compiled : Sql.compile ctx e with
      | ok t => exact ⟨t, rfl⟩
      | error err => rw [(error_iff_of_map_eq sql err).mp compiled] at passes; cases passes
    · cases compiled : Document.compile ctx e with
      | ok t => exact ⟨t, rfl⟩
      | error err => rw [(error_iff_of_map_eq document err).mp compiled] at passes; cases passes
  · intro pre p post field order earlier named unknown
    have refused := Context.check_unknownField order earlier named unknown
    exact ⟨(error_iff_of_map_eq sql _).mpr refused, (error_iff_of_map_eq document _).mpr refused⟩

end Refbook
