import Refbook.Proofs.FilterTrees
import Refbook.Proofs.CompileFailures

namespace Refbook
namespace Query

open Peg

/-!
# Reading an accepted filter

The builder of filters has error branches for trees the grammar never
builds: an unexpected rule, a missing field, operand or bound, an empty chain.
On a formed tree (`Formed`) none of them is taken.  Reading a filter the
grammar accepts either gives an expression or refuses it for one of three
reasons (`Refusal`): a cast to an unsupported type, a literal the cast cannot
read, or a `like` pattern ending in an escape that escapes nothing.

The expression read has the shape of the tree (`ReadsAs`): an `or` chain is
folded to the left over its conjunctions, an `and` chain over its negations,
and each `not` of a negation wraps the operand once.  Its predicates are the
predicate nodes of the tree, in the order the text writes them, each read on
its own (`LeafOf`), so the fields of the filter are the fields those nodes
name, left to right.

The main statement is `accepted_filter_reads`.
-/

/-- The errors reading an accepted filter may still give. -/
inductive Refusal : Error -> Prop
  | unsupportedCast (target : String) : Refusal (.unsupportedCast target)
  | cast (literal target : String) : Refusal (.cast literal target)
  | likeEscape (position : Nat) (pattern : String) : endsWithEscape pattern = true ->
      Refusal (.querySyntax position (String.ofList (pattern.toList.take fragmentLength))
        "like pattern must not end with the escape character")

/-- A reading answers a value with property `P`, or refuses: every value it
gives has `P`, and every error it gives is a refusal. -/
def Answers {α : Type} (P : α -> Prop) (x : Except Error α) : Prop :=
  (∀ a, x = .ok a -> P a) ∧ ∀ e, x = .error e -> Refusal e

section Answers

variable {α β : Type} {P : α -> Prop} {Q : β -> Prop}

theorem Answers.ok {a : α} (holds : P a) : Answers P (.ok a) := by
  refine ⟨fun _ read => ?_, fun _ read => ?_⟩
  · cases read
    exact holds
  · cases read

theorem Answers.refused {e : Error} (refusal : Refusal e) : Answers P (.error e) := by
  refine ⟨fun _ read => ?_, fun _ read => ?_⟩
  · cases read
  · cases read
    exact refusal

theorem Answers.bind {x : Except Error α} {f : α -> Except Error β} (first : Answers P x)
    (next : ∀ a, P a -> Answers Q (f a)) : Answers Q (x >>= f) := by
  cases x with
  | error e => exact Answers.refused (first.2 e rfl)
  | ok a => exact next a (first.1 a rfl)

theorem Answers.ok_bind {a : α} {f : α -> Except Error β} (next : Answers Q (f a)) :
    Answers Q (.ok a >>= f) :=
  next

theorem Answers.map {x : Except Error α} {f : α -> β} (answers : Answers P x)
    (holds : ∀ a, P a -> Q (f a)) : Answers Q (x.map f) := by
  cases x with
  | error e => exact Answers.refused (answers.2 e rfl)
  | ok a => exact Answers.ok (holds a (answers.1 a rfl))

theorem Answers.mapM {γ : Type} {xs : List γ} {f : γ -> Except Error α}
    (each : ∀ x ∈ xs, Answers P (f x)) :
    Answers (fun ys => ys.length = xs.length ∧ ∀ y ∈ ys, P y) (xs.mapM f) := by
  induction xs with
  | nil => exact .ok ⟨rfl, fun y mem => by cases mem⟩
  | cons x xs ih =>
    rw [List.mapM_cons]
    refine (each x List.mem_cons_self).bind fun y holds => ?_
    refine (ih fun x' mem => each x' (List.mem_cons_of_mem _ mem)).bind fun ys ⟨length, all⟩ => ?_
    refine .ok ⟨by rw [List.length_cons, List.length_cons, length], fun y' mem => ?_⟩
    rcases List.mem_cons.mp mem with rfl | mem
    · exact holds
    · exact all y' mem

theorem Answers.of_ok {x : Except Error α} {P' : α -> Prop} (answers : Answers P x)
    (ok : ∀ a, x = .ok a -> P a -> P' a) : Answers P' x :=
  ⟨fun a read => ok a read (answers.1 a read), answers.2⟩

/-- An answer is a value with the property or a refusal. -/
theorem Answers.cases {x : Except Error α} (answers : Answers P x) :
    (∃ a, x = .ok a ∧ P a) ∨ ∃ e, x = .error e ∧ Refusal e := by
  cases x with
  | error e => exact .inr ⟨e, rfl, answers.2 e rfl⟩
  | ok a => exact .inl ⟨a, rfl, answers.1 a rfl⟩

end Answers

/-! ## Operands -/

theorem CastTarget.ofName_answers (target : String) :
    Answers (fun _ => True) (CastTarget.ofName target) := by
  unfold CastTarget.ofName
  split
  · exact .ok trivial
  · exact .ok trivial
  · exact .refused (.unsupportedCast target)

theorem parseDate_answers (raw : String) : Answers (fun _ => True) (parseDate raw) := by
  unfold parseDate
  split
  · exact .ok trivial
  · exact .refused (.cast raw "date")

theorem parseTimestamp_answers (raw : String) : Answers (fun _ => True) (parseTimestamp raw) := by
  unfold parseTimestamp
  split
  · exact .ok trivial
  · exact .refused (.cast raw "timestamp")

/-- A cast fails only as a refusal. -/
theorem Cast.make_answers (source : Constant) (target : String) :
    Answers (fun _ => True) (Cast.make source target) := by
  unfold Cast.make
  refine (CastTarget.ofName_answers target).bind fun castTarget _ => ?_
  cases castTarget with
  | date =>
    have value : Answers (fun _ => True) ((parseDate (source.raw.getD "")).map Value.date) :=
      (parseDate_answers _).map fun _ _ => trivial
    exact value.bind fun _ _ => .ok trivial
  | timestamp =>
    have value : Answers (fun _ => True)
        ((parseTimestamp (source.raw.getD "")).map Value.timestamp) :=
      (parseTimestamp_answers _).map fun _ _ => trivial
    exact value.bind fun _ _ => .ok trivial

theorem constantOf_ok (chars : Array Char) {literal : Tree}
    (rule : literal.rule ∈ [Rule.null, .boolean, .decimal, .integer, .string]) :
    ∃ c, constantOf chars literal = .ok c := by
  obtain ⟨r, p, q, children⟩ := literal
  simp only [Node.rule, List.mem_cons, List.not_mem_nil, or_false] at rule
  rcases rule with rfl | rfl | rfl | rfl | rfl <;> exact ⟨_, rfl⟩

/-- A formed operand is read, or refused for its cast. -/
theorem operandOf_answers (chars : Array Char) {node : Tree} (formed : FormedOperand node) :
    Answers (fun _ => True) (operandOf chars node) := by
  cases formed with
  | @cast p q p' q' source target sourceRule =>
    have literal : source.rule ∈ [Rule.null, .boolean, .decimal, .integer, .string] :=
      (by decide : ∀ r ∈ [Rule.string, .decimal, .integer],
        r ∈ [Rule.null, .boolean, .decimal, .integer, .string]) _ sourceRule
    obtain ⟨c, read⟩ := constantOf_ok chars literal
    simp only [operandOf, Node.rule, Node.children, read, pure_bind, ↓reduceIte]
    exact Answers.ok_bind ((Cast.make_answers c _).bind fun _ _ => .ok trivial)
  | @literal p q node literal =>
    obtain ⟨c, read⟩ := constantOf_ok chars literal
    obtain ⟨r, p', q', children⟩ := node
    have notCast : r ≠ .cast := by
      simp only [Node.rule, List.mem_cons, List.not_mem_nil, or_false] at literal
      rcases literal with rfl | rfl | rfl | rfl | rfl <;> decide
    simp only [operandOf, Node.rule, Node.children, read, pure_bind, ↓reduceIte, notCast]
    exact Answers.ok_bind (.ok trivial)

/-! ## Predicates -/

/-- Operands after the field and keywords of a list are read in order, and
leave what was collected before them. -/
theorem listParts_values (chars : Array Char) {values : List Tree}
    (formed : ∀ v ∈ values, FormedOperand v) (parts : ListParts) :
    Answers (fun parts' => parts'.field = parts.field ∧ parts'.quantifier = parts.quantifier)
      (listParts chars values parts) := by
  induction values generalizing parts with
  | nil =>
    rw [listParts]
    exact .ok ⟨rfl, rfl⟩
  | cons v vs ih =>
    rw [listParts, (formed v List.mem_cons_self).rule]
    exact (operandOf_answers chars (formed v List.mem_cons_self)).bind fun _ _ =>
      ih (fun w mem => formed w (List.mem_cons_of_mem _ mem)) _

/-- `not` keywords only mark a list negated. -/
theorem listParts_nots (chars : Array Char) {nots : List Tree} {P : ListParts -> Prop}
    (notRules : ∀ n ∈ nots, n.rule = .notOp) (rest : List Tree) (parts : ListParts)
    (next : ∀ parts', parts'.field = parts.field -> Answers P (listParts chars rest parts')) :
    Answers P (listParts chars (nots ++ rest) parts) := by
  induction nots generalizing parts with
  | nil => exact next parts rfl
  | cons n ns ih =>
    rw [List.cons_append, listParts, notRules n List.mem_cons_self]
    exact ih (fun n' mem => notRules n' (List.mem_cons_of_mem _ mem)) _ fun parts' kept =>
      next parts' kept

/-- The field a predicate node names: that of its first child. -/
def predicateField (chars : Array Char) (node : Tree) : FieldRef :=
  fieldOf chars (node.children.headD default)

section Leaves

variable {chars : Array Char} {p q : Nat}

theorem comparison_answers {field op value : Tree}
    (symbol : (CompareOp.ofSymbol? (op.text chars)).isSome) (formed : FormedOperand value) :
    Answers (fun e => e.field? = some (fieldOf chars field))
      (build chars (.mk .comparison p q [field, op, value])) := by
  obtain ⟨compare, found⟩ := Option.isSome_iff_exists.mp symbol
  rw [build]
  simp only [comparisonOf, found]
  exact (operandOf_answers chars formed).bind fun _ _ => .ok rfl

theorem like_answers {field op literal : Tree} :
    Answers (fun e => e.field? = some (fieldOf chars field))
      (build chars (.mk .like p q [field, op, literal])) := by
  rw [build]
  simp only [likeOf]
  split
  · exact .refused (.likeEscape _ _ ‹_›)
  · exact .ok rfl

theorem between_answers {field op low andOp high : Tree} (fieldRule : field.rule = .field)
    (opRule : op.rule = .betweenOp) (andRule : andOp.rule = .andOp) (lowFormed : FormedOperand low)
    (highFormed : FormedOperand high) :
    Answers (fun e => e.field? = some (fieldOf chars field))
      (build chars (.mk .between p q [field, op, low, andOp, high])) := by
  have bounds := Answers.mapM (fun v mem => operandOf_answers chars (by
    simp only [List.mem_cons, List.not_mem_nil, or_false] at mem
    rcases mem with rfl | rfl
    · exact lowFormed
    · exact highFormed) : ∀ v ∈ [low, high], Answers (fun _ => True) (operandOf chars v))
  have found : [field, op, low, andOp, high].find? (·.rule = .field) = some field := by
    simp [fieldRule]
  have operands : [field, op, low, andOp, high].filter (·.rule = .operand) = [low, high] := by
    simp [fieldRule, opRule, andRule, lowFormed.rule, highFormed.rule]
  rw [build]
  simp only [betweenOf, found, operands, Option.map_some]
  refine bounds.bind fun read ⟨length, _⟩ => ?_
  obtain ⟨l, h, rfl⟩ := List.length_eq_two.mp length
  exact .ok rfl

theorem inList_answers {field inOp : Tree} {nots values : List Tree}
    (fieldRule : field.rule = .field) (notRules : ∀ n ∈ nots, n.rule = .notOp)
    (inRule : inOp.rule = .inOp) (formed : ∀ v ∈ values, FormedOperand v) :
    Answers (fun e => e.field? = some (fieldOf chars field))
      (build chars (.mk .inList p q (field :: nots ++ inOp :: values))) := by
  have collected : Answers (fun parts => parts.field = some (fieldOf chars field))
      (listParts chars (field :: nots ++ inOp :: values) {}) := by
    rw [List.cons_append, listParts, fieldRule]
    refine listParts_nots chars notRules (inOp :: values) _ fun parts kept => ?_
    rw [listParts, inRule]
    exact (listParts_values chars formed parts).of_ok fun _ _ ⟨same, _⟩ => same.trans kept
  rw [build]
  simp only [inListOf]
  exact collected.bind fun parts named => by
    simp only [named]
    exact .ok rfl

theorem quantified_answers {field quantifier : Tree} {values : List Tree}
    (fieldRule : field.rule = .field) (quantifierRule : quantifier.rule = .quantifier)
    (word : asciiLower (quantifier.text chars) ∈ ["all", "any"])
    (formed : ∀ v ∈ values, FormedOperand v) :
    Answers (fun e => e.field? = some (fieldOf chars field))
      (build chars (.mk .quantified p q (field :: quantifier :: values))) := by
  have collected : Answers (fun parts => parts.field = some (fieldOf chars field) ∧
      parts.quantifier.isSome) (listParts chars (field :: quantifier :: values) {}) := by
    simp only [listParts, fieldRule, quantifierRule]
    simp only [List.mem_cons, List.not_mem_nil, or_false] at word
    rcases word with word | word
    all_goals
      simp only [word]
      exact (listParts_values chars formed _).of_ok fun _ _ ⟨named, kept⟩ =>
        ⟨named, by rw [kept]; rfl⟩
  rw [build]
  simp only [quantifiedOf]
  refine collected.bind fun parts ⟨named, quantified⟩ => ?_
  obtain ⟨quantifier, found⟩ := Option.isSome_iff_exists.mp quantified
  simp only [named, found]
  exact .ok rfl

end Leaves

/-! ## Reading a tree -/

/-- The predicate nodes of a tree, in the order the text writes them. -/
def predicateNodes : Tree -> List Tree
  | .mk rule p q children =>
    if rule ∈ predicateRules then [.mk rule p q children] else children.flatMap predicateNodes

/-- `leaf` is what a predicate node builds on its own, naming the node's field. -/
def LeafOf (chars : Array Char) (leaf : Expression) (node : Tree) : Prop :=
  node.rule ∈ predicateRules ∧ build chars node = .ok leaf ∧
    leaf.field? = some (predicateField chars node)

/-- How a tree reads as a filter: a query as its expression, or as the empty
filter; an `or` or `and` chain as the left fold of its operands, keywords
left out; a negation as its operand under one `not` for each keyword; a
predicate node as what it builds on its own. -/
inductive ReadsAs (chars : Array Char) : Tree -> Expression -> Prop
  | emptyQuery {p q : Nat} {children : List Tree} :
      children.filter (·.rule != .eoi) = [] -> ReadsAs chars (.mk .query p q children) .empty
  | query {p q : Nat} {children : List Tree} {inner : Tree} {e : Expression} :
      children.filter (·.rule != .eoi) = [inner] -> ReadsAs chars inner e ->
      ReadsAs chars (.mk .query p q children) e
  | expression {p q : Nat} {children : List Tree} {first : Tree} {e : Expression}
      {rest : List (Tree × Expression)} :
      children.filter (·.rule != .orOp) = first :: rest.map Prod.fst -> ReadsAs chars first e ->
      (∀ y ∈ rest, ReadsAs chars y.1 y.2) ->
      ReadsAs chars (.mk .expression p q children) (rest.foldl (fun acc y => .or acc y.2) e)
  | conjunction {p q : Nat} {children : List Tree} {first : Tree} {e : Expression}
      {rest : List (Tree × Expression)} :
      children.filter (·.rule != .andOp) = first :: rest.map Prod.fst -> ReadsAs chars first e ->
      (∀ y ∈ rest, ReadsAs chars y.1 y.2) ->
      ReadsAs chars (.mk .conjunction p q children) (rest.foldl (fun acc y => .and acc y.2) e)
  | negation {p q : Nat} {children : List Tree} {inner : Tree} {e : Expression} :
      children.filter (·.rule != .notOp) = [inner] -> ReadsAs chars inner e ->
      ReadsAs chars (.mk .negation p q children)
        (Nat.repeat .not (children.countP (·.rule == .notOp)) e)
  | predicate {node : Tree} {e : Expression} :
      node.rule ∈ predicateRules -> build chars node = .ok e -> ReadsAs chars node e

/-- What reading a tree gives: an expression of the tree's shape whose
predicates are read from the tree's predicate nodes, in order. -/
def Reading (chars : Array Char) (node : Tree) (e : Expression) : Prop :=
  ReadsAs chars node e ∧ List.Forall₂ (LeafOf chars) e.predicates (predicateNodes node)

theorem predicateNodes_of_mem {node : Tree} (leaf : node.rule ∈ predicateRules) :
    predicateNodes node = [node] := by
  obtain ⟨rule, p, q, children⟩ := node
  rw [predicateNodes]
  exact if_pos leaf

theorem predicateNodes_of_not_mem {rule : Rule} {p q : Nat} {children : List Tree}
    (inner : rule ∉ predicateRules) :
    predicateNodes (.mk rule p q children) = children.flatMap predicateNodes := by
  rw [predicateNodes, if_neg inner]

theorem predicateNodes_operator {r : Rule} {node : Tree} (operator : OperatorNode r node)
    (inner : r ∉ predicateRules) : predicateNodes node = [] := by
  obtain ⟨rule, p, q, children⟩ := node
  obtain ⟨named, empty⟩ := operator
  simp only [Node.rule, Node.children] at named empty
  subst named empty
  rw [predicateNodes_of_not_mem inner, List.flatMap_nil]

theorem Expression.predicates_of_field? {e : Expression} {field : FieldRef}
    (named : e.field? = some field) : e.predicates = [e] := by
  cases e <;> first | rfl | cases named

theorem Expression.predicates_repeat_not (count : Nat) (e : Expression) :
    (Nat.repeat Expression.not count e).predicates = e.predicates := by
  induction count with
  | zero => rfl
  | succ count ih => exact ih

theorem Expression.predicates_foldl {α : Type} {f : Expression -> Expression -> Expression}
    (joins : ∀ a b, (f a b).predicates = a.predicates ++ b.predicates)
    (ys : List (α × Expression)) (e : Expression) :
    (ys.foldl (fun acc y => f acc y.2) e).predicates = e.predicates ++ ys.flatMap (·.2.predicates) := by
  induction ys generalizing e with
  | nil => simp
  | cons y ys ih => rw [List.foldl_cons, ih, joins, List.flatMap_cons, List.append_assoc]

/-- Every field a filter names is the field of one of its predicates, in order. -/
theorem Expression.fields_eq_filterMap (e : Expression) :
    e.fields = e.predicates.filterMap Expression.field? := by
  induction e with
  | not inner ih => exact ih
  | and left right ihl ihr | or left right ihl ihr =>
    rw [Expression.fields, Expression.predicates, List.filterMap_append, ihl, ihr]
  | _ => rfl

theorem forall₂_flatMap {α β γ : Type} {R : α -> β -> Prop} {ys : List γ} {f : γ -> List α}
    {g : γ -> List β} (each : ∀ y ∈ ys, List.Forall₂ R (f y) (g y)) :
    List.Forall₂ R (ys.flatMap f) (ys.flatMap g) := by
  induction ys with
  | nil => exact .nil
  | cons y ys ih =>
    rw [List.flatMap_cons, List.flatMap_cons]
    exact List.rel_append (each y List.mem_cons_self)
      (ih fun y' mem => each y' (List.mem_cons_of_mem _ mem))

/-- A predicate node that builds a leaf naming its field reads as that leaf. -/
theorem leaf_reading {chars : Array Char} {node : Tree} (leaf : node.rule ∈ predicateRules)
    (answers : Answers (fun e => e.field? = some (predicateField chars node)) (build chars node)) :
    Answers (Reading chars node) (build chars node) := by
  refine answers.of_ok fun e read named => ⟨.predicate leaf read, ?_⟩
  rw [Expression.predicates_of_field? named, predicateNodes_of_mem leaf]
  exact .cons ⟨leaf, read, named⟩ .nil

/-! ## Chains and negations -/

section Chains

variable (chars : Array Char) (op : Rule) (disjunction : Bool) {R : Tree -> Expression -> Prop}

/-- After its first operand, a chain reads each later operand and folds it
in, skipping the keyword before it. -/
theorem foldChildren_pairs {rest : List (Tree × Tree)} (ops : ∀ x ∈ rest, x.1.rule = op)
    (subs : ∀ x ∈ rest, x.2.rule ≠ op) (each : ∀ x ∈ rest, Answers (R x.2) (build chars x.2))
    (acc : Expression) :
    Answers (fun result => ∃ ys : List (Tree × Expression), ys.map Prod.fst = rest.map Prod.snd ∧
        (∀ y ∈ ys, R y.1 y.2) ∧
        result = ys.foldl (fun acc y => if disjunction then .or acc y.2 else .and acc y.2) acc)
      (foldChildren chars op disjunction (some acc) (rest.flatMap fun x => [x.1, x.2])) := by
  induction rest generalizing acc with
  | nil =>
    rw [List.flatMap_nil, foldChildren]
    exact .ok ⟨[], rfl, (fun y mem => by cases mem), rfl⟩
  | cons x rest ih =>
    have here : x ∈ x :: rest := List.mem_cons_self
    rw [List.flatMap_cons, List.cons_append, foldChildren, if_pos (ops x here), List.cons_append,
      List.nil_append, foldChildren, if_neg (subs x here)]
    cases read : build chars x.2 with
    | error e => exact .refused ((each x here).2 e read)
    | ok e =>
      dsimp only
      have later := ih (fun x' mem => ops x' (List.mem_cons_of_mem _ mem))
        (fun x' mem => subs x' (List.mem_cons_of_mem _ mem))
        (fun x' mem => each x' (List.mem_cons_of_mem _ mem))
        (if disjunction then .or acc e else .and acc e)
      refine later.of_ok fun result _ ⟨ys, same, all, folded⟩ => ⟨(x.2, e) :: ys, ?_, ?_, folded⟩
      · rw [List.map_cons, List.map_cons, same]
      · intro y mem
        rcases List.mem_cons.mp mem with rfl | mem
        · exact (each x here).1 e read
        · exact all y mem

/-- A chain reads its first operand, then folds in the others from the left. -/
theorem foldChildren_chain {first : Tree} {rest : List (Tree × Tree)} (firstRule : first.rule ≠ op)
    (ops : ∀ x ∈ rest, x.1.rule = op) (subs : ∀ x ∈ rest, x.2.rule ≠ op)
    (firstAnswers : Answers (R first) (build chars first))
    (each : ∀ x ∈ rest, Answers (R x.2) (build chars x.2)) :
    Answers (fun result => ∃ (e : Expression) (ys : List (Tree × Expression)), R first e ∧
        ys.map Prod.fst = rest.map Prod.snd ∧ (∀ y ∈ ys, R y.1 y.2) ∧
        result = ys.foldl (fun acc y => if disjunction then .or acc y.2 else .and acc y.2) e)
      (foldChildren chars op disjunction none (first :: rest.flatMap fun x => [x.1, x.2])) := by
  rw [foldChildren, if_neg firstRule]
  cases read : build chars first with
  | error e => exact .refused (firstAnswers.2 e read)
  | ok e =>
    dsimp only
    exact (foldChildren_pairs chars op disjunction ops subs each e).of_ok
      fun _ _ ⟨ys, same, all, folded⟩ => ⟨e, ys, firstAnswers.1 e read, same, all, folded⟩

omit disjunction in
/-- Leaving the keywords out of a chain leaves its operands. -/
theorem chain_filter {first : Tree} {rest : List (Tree × Tree)} {ys : List (Tree × Expression)}
    (firstRule : first.rule ≠ op) (ops : ∀ x ∈ rest, x.1.rule = op)
    (subs : ∀ x ∈ rest, x.2.rule ≠ op) (same : ys.map Prod.fst = rest.map Prod.snd) :
    (first :: rest.flatMap fun x => [x.1, x.2]).filter (·.rule != op) = first :: ys.map Prod.fst := by
  rw [same, List.filter_cons_of_pos (by simpa using firstRule)]
  congr 1
  clear same
  induction rest with
  | nil => rfl
  | cons x rest ih =>
    have here : x ∈ x :: rest := List.mem_cons_self
    rw [List.flatMap_cons, List.filter_append, ih (fun x' mem => ops x' (List.mem_cons_of_mem _ mem))
      (fun x' mem => subs x' (List.mem_cons_of_mem _ mem))]
    simp [ops x here, subs x here]

omit disjunction in
/-- The predicates of a folded chain are those of its operands, in order. -/
theorem chain_leaves {f : Expression -> Expression -> Expression}
    (joins : ∀ a b, (f a b).predicates = a.predicates ++ b.predicates) {first : Tree} {e : Expression}
    {rest : List (Tree × Tree)} {ys : List (Tree × Expression)}
    (opNodes : ∀ x ∈ rest, OperatorNode op x.1) (opInner : op ∉ predicateRules)
    (same : ys.map Prod.fst = rest.map Prod.snd)
    (firstLeaves : List.Forall₂ (LeafOf chars) e.predicates (predicateNodes first))
    (leaves : ∀ y ∈ ys, List.Forall₂ (LeafOf chars) y.2.predicates (predicateNodes y.1)) :
    List.Forall₂ (LeafOf chars) (ys.foldl (fun acc y => f acc y.2) e).predicates
      ((first :: rest.flatMap fun x => [x.1, x.2]).flatMap predicateNodes) := by
  have skipped : (rest.flatMap fun x => [x.1, x.2]).flatMap predicateNodes =
      (rest.map Prod.snd).flatMap predicateNodes := by
    clear same
    induction rest with
    | nil => rfl
    | cons x rest ih =>
      rw [List.flatMap_cons, List.flatMap_append,
        ih fun x' mem => opNodes x' (List.mem_cons_of_mem _ mem), List.map_cons, List.flatMap_cons]
      simp [predicateNodes_operator (opNodes x List.mem_cons_self) opInner]
  rw [Expression.predicates_foldl joins, List.flatMap_cons, skipped, ← same, List.flatMap_map]
  exact List.rel_append firstLeaves (forall₂_flatMap leaves)

end Chains

/-- The `not` keywords in front of a negation only count. -/
theorem negateChildren_nots (chars : Array Char) {nots : List Tree}
    (notRules : ∀ n ∈ nots, n.rule = .notOp) (count : Nat) (acc : Option Expression)
    (rest : List Tree) :
    negateChildren chars count acc (nots ++ rest) = negateChildren chars (count + nots.length) acc rest := by
  induction nots generalizing count with
  | nil => rfl
  | cons n ns ih =>
    rw [List.cons_append, negateChildren, if_pos (notRules n List.mem_cons_self),
      ih (fun n' mem => notRules n' (List.mem_cons_of_mem _ mem)), List.length_cons]
    congr 1
    omega

/-- A negation's operand is read and wrapped once per `not`. -/
theorem negateChildren_inner (chars : Array Char) {inner : Tree} (innerRule : inner.rule ≠ .notOp)
    (count : Nat) :
    negateChildren chars count none [inner] = (build chars inner).map (Nat.repeat .not count) := by
  rw [negateChildren, if_neg innerRule]
  cases build chars inner <;> rfl

/-! ## Reading formed trees -/

/-- Every formed node other than a query is read, with the tree's shape and
predicates, or refused. -/
theorem Formed.answers {chars : Array Char} {r : Rule} {node : Tree} (formed : Formed chars r node)
    (notQuery : r ≠ .query) : Answers (Reading chars node) (build chars node) := by
  induction formed with
  | query => exact absurd rfl notQuery
  | queryExpression => exact absurd rfl notQuery
  | @expression p q first rest firstFormed ops subs ihFirst ihSubs =>
    have firstRule : first.rule ≠ .orOp := by rw [firstFormed.rule]; decide
    have subRules : ∀ x ∈ rest, x.2.rule ≠ .orOp := fun x mem => by rw [(subs x mem).rule]; decide
    rw [build]
    refine (foldChildren_chain chars .orOp true firstRule (fun x mem => (ops x mem).1) subRules
      (ihFirst (by decide)) (fun x mem => ihSubs x mem (by decide))).of_ok
      fun _ _ ⟨e, ys, firstReading, same, all, folded⟩ => ?_
    subst folded
    simp only [↓reduceIte]
    refine ⟨.expression (chain_filter .orOp firstRule (fun x mem => (ops x mem).1) subRules same)
      firstReading.1 fun y mem => (all y mem).1, ?_⟩
    rw [predicateNodes_of_not_mem (by decide)]
    exact chain_leaves chars .orOp (fun _ _ => rfl) ops (by decide) same firstReading.2
      fun y mem => (all y mem).2
  | @conjunction p q first rest firstFormed ops subs ihFirst ihSubs =>
    have firstRule : first.rule ≠ .andOp := by rw [firstFormed.rule]; decide
    have subRules : ∀ x ∈ rest, x.2.rule ≠ .andOp := fun x mem => by rw [(subs x mem).rule]; decide
    rw [build]
    refine (foldChildren_chain chars .andOp false firstRule (fun x mem => (ops x mem).1) subRules
      (ihFirst (by decide)) (fun x mem => ihSubs x mem (by decide))).of_ok
      fun _ _ ⟨e, ys, firstReading, same, all, folded⟩ => ?_
    subst folded
    simp only [Bool.false_eq_true, ↓reduceIte]
    refine ⟨.conjunction (chain_filter .andOp firstRule (fun x mem => (ops x mem).1) subRules same)
      firstReading.1 fun y mem => (all y mem).1, ?_⟩
    rw [predicateNodes_of_not_mem (by decide)]
    exact chain_leaves chars .andOp (fun _ _ => rfl) ops (by decide) same firstReading.2
      fun y mem => (all y mem).2
  | @negation p q nots r inner notNodes rules innerFormed ih =>
    have operand : r ≠ .query ∧ r ≠ .notOp := by
      rcases rules with rfl | leaf
      · decide
      · constructor <;> (intro same; rw [same] at leaf; exact absurd leaf (by decide))
    have innerRule : inner.rule ≠ .notOp := by rw [innerFormed.rule]; exact operand.2
    have notRules : ∀ n ∈ nots, n.rule = .notOp := fun n mem => (notNodes n mem).1
    rw [build, negateChildren_nots chars notRules, negateChildren_inner chars innerRule]
    refine (ih operand.1).map fun e reading => ⟨?_, ?_⟩
    · have filtered : (nots ++ [inner]).filter (·.rule != .notOp) = [inner] := by
        rw [List.filter_append, List.filter_eq_nil_iff.mpr fun n mem => by simp [notRules n mem]]
        simp [innerRule]
      have counted : (nots ++ [inner]).countP (·.rule == .notOp) = 0 + nots.length := by
        rw [List.countP_append, List.countP_eq_length.mpr fun n mem => by simp [notRules n mem]]
        simp [innerRule]
      rw [← counted]
      exact .negation filtered reading.1
    · have keywords : nots.flatMap predicateNodes = [] :=
        List.flatMap_eq_nil_iff.mpr fun n mem => predicateNodes_operator (notNodes n mem) (by decide)
      rw [Expression.predicates_repeat_not, predicateNodes_of_not_mem (by decide), List.flatMap_append,
        keywords, List.nil_append, List.flatMap_cons, List.flatMap_nil, List.append_nil]
      exact reading.2
  | comparison symbol value => exact leaf_reading (show Rule.comparison ∈ predicateRules by decide) (comparison_answers symbol value)
  | like => exact leaf_reading (show Rule.like ∈ predicateRules by decide) like_answers
  | inList fieldRule notRules inRule values =>
    exact leaf_reading (show Rule.inList ∈ predicateRules by decide) (inList_answers fieldRule notRules inRule values)
  | quantified fieldRule quantifierRule word values =>
    exact leaf_reading (show Rule.quantified ∈ predicateRules by decide)
      (quantified_answers fieldRule quantifierRule word values)
  | between fieldRule opRule andRule low high =>
    exact leaf_reading (show Rule.between ∈ predicateRules by decide)
      (between_answers fieldRule opRule andRule low high)

/-! ## Reading an accepted filter -/

/-- The fields of leaves read from predicate nodes are the fields the nodes
name, in order. -/
theorem leaves_fields {chars : Array Char} {leaves : List Expression} {nodes : List Tree}
    (read : List.Forall₂ (LeafOf chars) leaves nodes) :
    leaves.filterMap Expression.field? = nodes.map (predicateField chars) := by
  induction read with
  | nil => rfl
  | cons leaf _ ih => rw [List.filterMap_cons_some leaf.2.2, List.map_cons, ih]

/-- Reading the text of a formed query reads its expression, or the empty
filter when it has none. -/
theorem parse_reads {text : String} {tree : Tree}
    (accepted : grammar.parse .query text.toList.toArray = .ok [tree])
    (formed : Formed text.toList.toArray .query tree) :
    Answers (Reading text.toList.toArray tree) (Expression.parse text) := by
  rw [Expression.parse, accepted]
  cases formed with
  | @query p q eoi eoiNode =>
    have none : [eoi].find? (·.rule = .expression) = none := by simp [eoiNode.1]
    simp only [Node.children, none]
    refine .ok ⟨.emptyQuery (by simp [eoiNode.1]), ?_⟩
    rw [predicateNodes_of_not_mem (by decide), List.flatMap_cons,
      predicateNodes_operator eoiNode (by decide)]
    exact .nil
  | @queryExpression p q expression eoi expressionFormed eoiNode =>
    have found : [expression, eoi].find? (·.rule = .expression) = some expression := by
      simp [expressionFormed.rule]
    simp only [Node.children, found]
    refine (expressionFormed.answers (by decide)).of_ok fun e _ reading =>
      ⟨.query (by simp [expressionFormed.rule, eoiNode.1]) reading.1, ?_⟩
    rw [predicateNodes_of_not_mem (by decide), List.flatMap_cons, List.flatMap_cons,
      predicateNodes_operator eoiNode (by decide), List.flatMap_nil, List.append_nil,
      List.append_nil]
    exact reading.2

/-- Every filter the grammar accepts is read or refused for a reason of its
own: a cast to an unsupported type or of an unreadable literal, or a `like`
pattern ending in a lone escape.  What is read has the shape of the tree, one
leaf for each predicate node in the order of the text, and the fields those
nodes name, left to right. -/
theorem accepted_filter_reads (text : String) (nodes : List Tree)
    (accepted : grammar.parse .query text.toList.toArray = .ok nodes) :
    ∃ tree, nodes = [tree] ∧
      ((∃ e, Expression.parse text = .ok e ∧ ReadsAs text.toList.toArray tree e ∧
          List.Forall₂ (LeafOf text.toList.toArray) e.predicates (predicateNodes tree) ∧
          e.fields = (predicateNodes tree).map (predicateField text.toList.toArray)) ∨
        ∃ err, Expression.parse text = .error err ∧ Refusal err) := by
  obtain ⟨tree, rfl, formed⟩ := parse_query_formed accepted
  refine ⟨tree, rfl, ?_⟩
  rcases (parse_reads accepted formed).cases with ⟨e, read, reads, leaves⟩ | refused
  · refine .inl ⟨e, read, reads, leaves, ?_⟩
    rw [Expression.fields_eq_filterMap, leaves_fields leaves]
  · exact .inr refused

theorem comparison_filter_reads :
    Expression.parse "a = 1" = .ok (.compare ⟨none, "a"⟩ .eq (.constant ⟨.integer, some "1"⟩)) ∧
      ∃ tree, ReadsAs "a = 1".toList.toArray tree
        (.compare ⟨none, "a"⟩ .eq (.constant ⟨.integer, some "1"⟩)) := by
  have parsed : Expression.parse "a = 1" =
      .ok (.compare ⟨none, "a"⟩ .eq (.constant ⟨.integer, some "1"⟩)) := rfl
  have accepted : grammar.parse .query "a = 1".toList.toArray =
      .ok [.mk .query 0 5 [.mk .expression 0 5 [.mk .conjunction 0 5 [.mk .negation 0 5
        [.mk .comparison 0 5 [.mk .field 0 1 [.mk .ident 0 1 []], .mk .comparisonOp 2 3 [],
          .mk .operand 4 5 [.mk .integer 4 5 []]]]]], .mk .eoi 5 5 []]] := rfl
  obtain ⟨tree, -, result⟩ := accepted_filter_reads "a = 1" _ accepted
  rcases result with ⟨e, read, reads, -⟩ | ⟨err, read, -⟩
  · rw [parsed] at read
    cases read
    exact ⟨parsed, tree, reads⟩
  · rw [parsed] at read
    cases read

end Query
end Refbook
