import Refbook.Proofs.ParseTrees
import Refbook.Query.Parse

namespace Refbook
namespace Query

open Peg

/-!
# The trees the filter grammar builds

The builder of filters walks a parse tree trusting that each rule hands it
its parts in a fixed order and number.  `Formed` writes that shape down for
every node the builder reads: a query holds its expression (if any) and the
end of input; an `or` chain alternates conjunctions with `or` keywords, an
`and` chain negations with `and` keywords; a negation is a run of `not`
keywords and then one parenthesized expression or one predicate; and each
predicate holds its field, operator and operands as its rule lists them.

`parse_query_formed` shows every tree the grammar accepts is formed.  The
proof reads each rule's body backwards through `Yields`.  Expressions nest
only inside brackets, so a nested expression spans fewer characters than the
one around it, and induction on the span covers them all.
-/

/-- The rules of a filter's predicates, in the order the grammar tries them. -/
def predicateRules : List Rule :=
  [.between, .inList, .quantified, .like, .comparison]

/-- An operand node holds a cast of a string or number literal, or a literal. -/
inductive FormedOperand : Tree -> Prop
  | cast {p q p' q' : Nat} {source target : Tree} :
      source.rule ∈ [Rule.string, .decimal, .integer] ->
      FormedOperand (.mk .operand p q [.mk .cast p' q' [source, target]])
  | literal {p q : Nat} {literal : Tree} :
      literal.rule ∈ [Rule.null, .boolean, .decimal, .integer, .string] ->
      FormedOperand (.mk .operand p q [literal])

/-- A keyword or end-of-input node: its rule, and no children. -/
def OperatorNode (r : Rule) (node : Tree) : Prop :=
  node.rule = r ∧ node.children = []

/-- The shape of the nodes of rule `r` that the builder reads. -/
inductive Formed (chars : Array Char) : Rule -> Tree -> Prop
  | query {p q : Nat} {eoi : Tree} :
      OperatorNode .eoi eoi -> Formed chars .query (.mk .query p q [eoi])
  | queryExpression {p q : Nat} {expression eoi : Tree} :
      Formed chars .expression expression -> OperatorNode .eoi eoi ->
      Formed chars .query (.mk .query p q [expression, eoi])
  | expression {p q : Nat} {first : Tree} {rest : List (Tree × Tree)} :
      Formed chars .conjunction first ->
      (∀ x ∈ rest, OperatorNode .orOp x.1) -> (∀ x ∈ rest, Formed chars .conjunction x.2) ->
      Formed chars .expression (.mk .expression p q (first :: rest.flatMap fun x => [x.1, x.2]))
  | conjunction {p q : Nat} {first : Tree} {rest : List (Tree × Tree)} :
      Formed chars .negation first ->
      (∀ x ∈ rest, OperatorNode .andOp x.1) -> (∀ x ∈ rest, Formed chars .negation x.2) ->
      Formed chars .conjunction (.mk .conjunction p q (first :: rest.flatMap fun x => [x.1, x.2]))
  | negation {p q : Nat} {nots : List Tree} {r : Rule} {inner : Tree} :
      (∀ n ∈ nots, OperatorNode .notOp n) -> r = .expression ∨ r ∈ predicateRules ->
      Formed chars r inner -> Formed chars .negation (.mk .negation p q (nots ++ [inner]))
  | comparison {p q : Nat} {field op value : Tree} :
      (CompareOp.ofSymbol? (op.text chars)).isSome -> FormedOperand value ->
      Formed chars .comparison (.mk .comparison p q [field, op, value])
  | like {p q : Nat} {field op literal : Tree} :
      Formed chars .like (.mk .like p q [field, op, literal])
  | inList {p q : Nat} {field inOp : Tree} {nots values : List Tree} :
      field.rule = .field -> (∀ n ∈ nots, n.rule = .notOp) -> inOp.rule = .inOp ->
      (∀ v ∈ values, FormedOperand v) ->
      Formed chars .inList (.mk .inList p q (field :: nots ++ inOp :: values))
  | quantified {p q : Nat} {field quantifier : Tree} {values : List Tree} :
      field.rule = .field -> quantifier.rule = .quantifier ->
      asciiLower (quantifier.text chars) ∈ ["all", "any"] -> (∀ v ∈ values, FormedOperand v) ->
      Formed chars .quantified (.mk .quantified p q (field :: quantifier :: values))
  | between {p q : Nat} {field op low andOp high : Tree} :
      field.rule = .field -> op.rule = .betweenOp -> andOp.rule = .andOp ->
      FormedOperand low -> FormedOperand high ->
      Formed chars .between (.mk .between p q [field, op, low, andOp, high])

theorem FormedOperand.rule {node : Tree} (formed : FormedOperand node) : node.rule = .operand := by
  cases formed <;> rfl

theorem Formed.rule {chars : Array Char} {r : Rule} {node : Tree} (formed : Formed chars r node) :
    node.rule = r := by
  cases formed <;> rfl

/-- Parts that each build one shape `f x` build, together, the shapes of a
list of such `x`. -/
theorem flatten_of_each {α β : Type} {parts : List (List α)} {f : β -> List α} {P : β -> Prop}
    (each : ∀ part ∈ parts, ∃ x, part = f x ∧ P x) :
    ∃ xs : List β, parts.flatten = xs.flatMap f ∧ ∀ x ∈ xs, P x := by
  induction parts with
  | nil => exact ⟨[], rfl, fun x mem => by cases mem⟩
  | cons part parts ih =>
    obtain ⟨x, rfl, holds⟩ := each part List.mem_cons_self
    obtain ⟨xs, flat, all⟩ := ih fun part mem => each part (List.mem_cons_of_mem _ mem)
    refine ⟨x :: xs, by rw [List.flatten_cons, flat, List.flatMap_cons], ?_⟩
    intro y mem
    rcases List.mem_cons.mp mem with rfl | mem
    · exact holds
    · exact all y mem

/-- A keyword operator's body builds nothing when run atomically. -/
theorem keywordOp_quiet (words : List String) : Quiet grammar (Rule.keywordOp words) := by
  refine .seq (Quiet.firstOf fun e mem => ?_) .notAhead
  obtain ⟨word, -, rfl⟩ := List.mem_map.mp mem
  exact .textNoCase

section Building

variable {chars : Array Char} {m : Mode} (builds : m.Builds) {p q : Nat} {nodes : List Tree}
include builds

/-- A rule that is neither hidden nor trivia builds one node of that rule. -/
theorem rule_node {r : Rule} (shown : r.kind ≠ .hidden ∧ r.kind ≠ .trivia)
    (yields : YieldsIn grammar chars m (.call r) p q nodes) : ∃ t, nodes = [t] ∧ t.rule = r := by
  obtain ⟨p', q', -, -, yields⟩ := yields
  obtain ⟨children, rfl⟩ := yields.call_node builds shown
  exact ⟨_, rfl, rfl⟩

/-- A choice among rules that each build one node builds one node of one of
them. -/
theorem choice_node (rules : List Rule) (nonempty : rules ≠ [])
    (shown : ∀ r ∈ rules, r.kind ≠ .hidden ∧ r.kind ≠ .trivia)
    (yields : Yields grammar chars m (Expr.firstOf (rules.map .call)) p q nodes) :
    ∃ t, nodes = [t] ∧ t.rule ∈ rules := by
  obtain ⟨e, mem, found⟩ := yields.firstOf_inv (by simpa using nonempty)
  obtain ⟨r, member, rfl⟩ := List.mem_map.mp mem
  obtain ⟨t, rfl, rule⟩ := rule_node builds (shown r member) found.yieldsIn
  exact ⟨t, rfl, rule ▸ member⟩

/-- A keyword operator builds one node without children. -/
theorem operator_node {r : Rule} (kind : r.kind = .token) (words : List String)
    (body : grammar.body r = Rule.keywordOp words) (yields : YieldsIn grammar chars m (.call r) p q nodes) :
    ∃ t, nodes = [t] ∧ OperatorNode r t := by
  obtain ⟨p', q', -, -, yields⟩ := yields
  have leaf := yields.token_leaf builds kind (body ▸ keywordOp_quiet words)
  exact ⟨_, leaf, rfl, rfl⟩

/-- A comparison operator's node reads as one of the comparison symbols. -/
theorem comparisonOp_node (yields : YieldsIn grammar chars m (.call .comparisonOp) p q nodes) :
    ∃ t, nodes = [t] ∧ (CompareOp.ofSymbol? (t.text chars)).isSome := by
  obtain ⟨p', q', -, -, yields⟩ := yields
  obtain ⟨inner, body, rfl⟩ := yields.token_inv rfl
  obtain ⟨e, mem, found⟩ := body.firstOf_inv (by simp)
  obtain ⟨symbol, symbols, rfl⟩ := List.mem_map.mp mem
  obtain ⟨textFound, rfl, -⟩ := Yields.text_inv found
  refine ⟨_, built_of_builds builds _ _ _ _, ?_⟩
  rw [Node.text_of_textAt _ textFound, String.ofList_toList]
  simp only [List.mem_cons, List.not_mem_nil, or_false] at symbols
  rcases symbols with rfl | rfl | rfl | rfl | rfl | rfl | rfl <;> rfl

/-- A quantifier's node reads as `all` or `any`, in some case. -/
theorem quantifier_node (yields : YieldsIn grammar chars m (.call .quantifier) p q nodes) :
    ∃ t, nodes = [t] ∧ t.rule = .quantifier ∧ asciiLower (t.text chars) ∈ ["all", "any"] := by
  obtain ⟨p', q', -, -, yields⟩ := yields
  obtain ⟨inner, body, rfl⟩ := yields.token_inv rfl
  obtain ⟨q₁, nodes₁, nodes₂, word, boundary, -⟩ := Yields.seq_inv body
  obtain ⟨rfl, -⟩ := boundary.notAhead_inv
  obtain ⟨e, mem, found⟩ := word.firstOf_inv (by simp)
  obtain ⟨name, names, rfl⟩ := List.mem_map.mp mem
  obtain ⟨textFound, rfl, -⟩ := Yields.textNoCase_inv found
  refine ⟨_, built_of_builds builds _ _ _ _, rfl, ?_⟩
  rw [asciiLower, Node.lower_text_of_textNoCaseAt _ textFound]
  simp only [List.mem_cons, List.not_mem_nil, or_false] at names
  rcases names with rfl | rfl <;> decide

/-- An operand builds one formed operand node. -/
theorem operand_node (yields : YieldsIn grammar chars m (.call .operand) p q nodes) :
    ∃ t, nodes = [t] ∧ FormedOperand t := by
  obtain ⟨p', q', -, -, yields⟩ := yields
  obtain ⟨children, rfl, body⟩ := yields.plain_node builds rfl
  refine ⟨_, rfl, ?_⟩
  rcases Yields.alt_inv body with cast | literal
  · obtain ⟨parts, rfl, castBody⟩ := cast.compound_node builds rfl
    obtain ⟨pieces, rfl, each⟩ := castBody.seqOf_inv (by simp)
    obtain _ | ⟨⟨_, _, -, -, source⟩, _ | ⟨⟨_, _, -, -, colons⟩, _ | ⟨target, _ | _⟩⟩⟩ := each
    obtain ⟨s, rfl, sourceRule⟩ :=
      choice_node builds.compound [.string, .decimal, .integer] (by simp) (by decide) source
    obtain ⟨-, -, rfl⟩ := Yields.text_inv colons
    obtain ⟨t, rfl, -⟩ := rule_node builds.compound (by decide) target
    exact .cast sourceRule
  · obtain ⟨l, rfl, literalRule⟩ :=
      choice_node builds [.null, .boolean, .decimal, .integer, .string] (by simp) (by decide)
        (literal.hidden_inv rfl)
    exact .literal literalRule

/-- A bracketed list of operands builds one formed operand node per operand. -/
theorem operands_nodes {opening closing : String} {pieces : List (List Tree)}
    (each : List.Forall₂ (fun e piece => YieldsIn grammar chars m e p q piece)
      (Rule.operands opening closing) pieces) :
    ∃ values, pieces.flatten = values ∧ ∀ v ∈ values, FormedOperand v := by
  obtain _ | ⟨⟨_, _, -, -, opened⟩, _ | ⟨first, _ | ⟨later, _ | ⟨⟨_, _, -, -, closed⟩, _ | _⟩⟩⟩⟩ :=
    each
  obtain ⟨-, -, rfl⟩ := Yields.text_inv opened
  obtain ⟨-, -, rfl⟩ := Yields.text_inv closed
  obtain ⟨v, rfl, formed⟩ := operand_node builds first
  obtain ⟨p', q', -, -, later⟩ := later
  obtain ⟨parts, rfl, repeated⟩ := later.many_inv
  have singles : ∀ part ∈ parts, ∃ v', part = [v'] ∧ FormedOperand v' := by
    intro part mem
    obtain ⟨_, _, -, -, repetition⟩ := repeated part mem
    obtain ⟨pieces, rfl, each⟩ := repetition.seqOf_inv (by simp)
    obtain _ | ⟨⟨_, _, -, -, comma⟩, _ | ⟨operand, _ | _⟩⟩ := each
    obtain ⟨-, -, rfl⟩ := Yields.text_inv comma
    obtain ⟨v', rfl, formed'⟩ := operand_node builds operand
    exact ⟨v', rfl, formed'⟩
  obtain ⟨vs, flat, all⟩ := flatten_of_each singles
  refine ⟨v :: vs, by simp [flat], ?_⟩
  intro x mem
  rcases List.mem_cons.mp mem with rfl | mem
  · exact formed
  · exact all x mem

/-- An optional call of a rule builds at most one node of that rule. -/
theorem optional_node {r : Rule} (shown : r.kind ≠ .hidden ∧ r.kind ≠ .trivia)
    (yields : YieldsIn grammar chars m (.opt (.call r)) p q nodes) :
    ∃ ts : List Tree, nodes = ts ∧ ∀ t ∈ ts, t.rule = r := by
  obtain ⟨p', q', left, right, yields⟩ := yields
  rcases yields.opt_inv with ⟨-, rfl⟩ | some
  · exact ⟨[], rfl, fun t mem => by cases mem⟩
  · obtain ⟨t, rfl, rule⟩ := rule_node builds shown (some.yieldsIn.widen left right)
    exact ⟨[t], rfl, by simpa using rule⟩

/-! ### Predicates -/

variable {children : List Tree}

theorem comparison_formed (body : Yields grammar chars m (grammar.body .comparison) p q children) :
    Formed chars .comparison (.mk .comparison p q children) := by
  obtain ⟨pieces, rfl, each⟩ := body.seqOf_inv (by simp)
  obtain _ | ⟨field, _ | ⟨op, _ | ⟨value, _ | _⟩⟩⟩ := each
  obtain ⟨f, rfl, -⟩ := rule_node builds (by decide) field
  obtain ⟨o, rfl, symbol⟩ := comparisonOp_node builds op
  obtain ⟨v, rfl, formed⟩ := operand_node builds value
  exact .comparison symbol formed

theorem like_formed (body : Yields grammar chars m (grammar.body .like) p q children) :
    Formed chars .like (.mk .like p q children) := by
  obtain ⟨pieces, rfl, each⟩ := body.seqOf_inv (by simp)
  obtain _ | ⟨field, _ | ⟨op, _ | ⟨literal, _ | _⟩⟩⟩ := each
  obtain ⟨f, rfl, -⟩ := rule_node builds (by decide) field
  obtain ⟨o, rfl, -⟩ := rule_node builds (by decide) op
  obtain ⟨l, rfl, -⟩ := rule_node builds (by decide) literal
  exact .like

theorem inList_formed (body : Yields grammar chars m (grammar.body .inList) p q children) :
    Formed chars .inList (.mk .inList p q children) := by
  obtain ⟨pieces, rfl, each⟩ := body.seqOf_inv (by simp)
  obtain _ | ⟨field, _ | ⟨negated, _ | ⟨inOp, rest⟩⟩⟩ := each
  obtain ⟨f, rfl, fieldRule⟩ := rule_node builds (by decide) field
  obtain ⟨nots, rfl, notRules⟩ := optional_node builds (by decide) negated
  obtain ⟨i, rfl, inRule⟩ := rule_node builds (by decide) inOp
  obtain ⟨values, flat, formed⟩ := operands_nodes builds rest
  simpa [flat] using Formed.inList fieldRule notRules inRule formed

theorem quantified_formed (body : Yields grammar chars m (grammar.body .quantified) p q children) :
    Formed chars .quantified (.mk .quantified p q children) := by
  obtain ⟨pieces, rfl, each⟩ := body.seqOf_inv (by simp)
  obtain _ | ⟨field, _ | ⟨quantifier, rest⟩⟩ := each
  obtain ⟨f, rfl, fieldRule⟩ := rule_node builds (by decide) field
  obtain ⟨t, rfl, quantifierRule, word⟩ := quantifier_node builds quantifier
  obtain ⟨values, flat, formed⟩ := operands_nodes builds rest
  simpa [flat] using Formed.quantified fieldRule quantifierRule word formed

theorem between_formed (body : Yields grammar chars m (grammar.body .between) p q children) :
    Formed chars .between (.mk .between p q children) := by
  obtain ⟨pieces, rfl, each⟩ := body.seqOf_inv (by simp)
  obtain _ | ⟨field, _ | ⟨op, _ | ⟨low, _ | ⟨andOp, _ | ⟨high, _ | _⟩⟩⟩⟩⟩ := each
  obtain ⟨f, rfl, fieldRule⟩ := rule_node builds (by decide) field
  obtain ⟨o, rfl, opRule⟩ := rule_node builds (by decide) op
  obtain ⟨l, rfl, lowFormed⟩ := operand_node builds low
  obtain ⟨a, rfl, andRule⟩ := rule_node builds (by decide) andOp
  obtain ⟨h, rfl, highFormed⟩ := operand_node builds high
  exact .between fieldRule opRule andRule lowFormed highFormed

omit builds in
theorem predicate_plain : ∀ r ∈ predicateRules, grammar.kind r = .plain := by
  decide

theorem leaf_formed {r : Rule} (leaf : r ∈ predicateRules)
    (body : Yields grammar chars m (grammar.body r) p q children) :
    Formed chars r (.mk r p q children) := by
  simp only [predicateRules, List.mem_cons, List.not_mem_nil, or_false] at leaf
  rcases leaf with rfl | rfl | rfl | rfl | rfl
  · exact between_formed builds body
  · exact inList_formed builds body
  · exact quantified_formed builds body
  · exact like_formed builds body
  · exact comparison_formed builds body

/-- A predicate builds one formed node of one of the predicate rules. -/
theorem predicate_formed (yields : Yields grammar chars m (.call .predicate) p q nodes) :
    ∃ t r, nodes = [t] ∧ r ∈ predicateRules ∧ Formed chars r t := by
  have body : Yields grammar chars m (Expr.firstOf (predicateRules.map .call)) p q nodes :=
    yields.hidden_inv rfl
  obtain ⟨e, mem, found⟩ := body.firstOf_inv (by simp [predicateRules])
  obtain ⟨r, leaf, rfl⟩ := List.mem_map.mp mem
  obtain ⟨children, rfl, ruleBody⟩ := found.plain_node builds (predicate_plain r leaf)
  exact ⟨_, r, rfl, leaf, leaf_formed builds leaf ruleBody⟩

/-! ### Expressions -/

variable (chars m) in
/-- Every expression spanning fewer than `span` characters builds one formed
node. -/
def FormsBelow (span : Nat) : Prop :=
  ∀ p q nodes, q - p < span -> Yields grammar chars m (.call .expression) p q nodes ->
    ∃ t, nodes = [t] ∧ Formed chars .expression t

omit builds in
theorem FormsBelow.mono {span span' : Nat} (below : FormsBelow chars m span) (le : span' ≤ span) :
    FormsBelow chars m span' :=
  fun p q nodes shorter yields => below p q nodes (Nat.lt_of_lt_of_le shorter le) yields

/-- A primary builds one node: a bracketed expression, which spans less than
the primary, or a predicate. -/
theorem primary_formed (below : FormsBelow chars m (q - p))
    (yields : YieldsIn grammar chars m (.call .primary) p q nodes) :
    ∃ t r, nodes = [t] ∧ (r = .expression ∨ r ∈ predicateRules) ∧ Formed chars r t := by
  obtain ⟨p', q', left, right, yields⟩ := yields
  obtain ⟨e, mem, found⟩ := (yields.hidden_inv rfl).firstOf_inv (by simp)
  simp only [List.mem_cons, List.not_mem_nil, or_false] at mem
  rcases mem with rfl | rfl
  · obtain ⟨q₁, q₂, n₁, rest, opening, skipped, restYields, rfl⟩ := Yields.andThen_inv found
    obtain ⟨q₃, q₄, n₂, n₃, inner, skipped', closing, rfl⟩ := Yields.andThen_inv restYields
    obtain ⟨-, opened, rfl⟩ := Yields.text_inv opening
    obtain ⟨-, closed, rfl⟩ := Yields.text_inv closing
    simp at opened closed
    have within := inner.le
    obtain ⟨t, rfl, formed⟩ := below q₂ q₃ n₂ (by omega) inner
    exact ⟨t, .expression, rfl, .inl rfl, formed⟩
  · obtain ⟨t, r, rfl, leaf, formed⟩ := predicate_formed builds found
    exact ⟨t, r, rfl, .inr leaf, formed⟩

theorem negation_formed (below : FormsBelow chars m (q - p))
    (body : Yields grammar chars m (grammar.body .negation) p q children) :
    Formed chars .negation (.mk .negation p q children) := by
  obtain ⟨pieces, rfl, each⟩ := body.seqOf_inv (by simp)
  obtain _ | ⟨nots, _ | ⟨primary, _ | _⟩⟩ := each
  obtain ⟨_, _, left, right, nots⟩ := nots
  obtain ⟨parts, rfl, repeated⟩ := nots.many_inv
  have singles : ∀ part ∈ parts, ∃ n, part = [n] ∧ OperatorNode .notOp n :=
    fun part mem => operator_node builds rfl ["not"] rfl ((repeated part mem).widen left right)
  obtain ⟨ns, flat, notNodes⟩ := flatten_of_each singles
  obtain ⟨t, r, rfl, rules, formed⟩ := primary_formed builds below primary
  simpa [flat] using Formed.negation notNodes rules formed

/-- An `or` or `and` chain builds its operands with the operator between
each two. -/
theorem chain_formed (op sub : Rule) (opKind : grammar.kind op = .token) (words : List String)
    (opBody : grammar.body op = Rule.keywordOp words)
    (subFormed : ∀ {nodes}, YieldsIn grammar chars m (.call sub) p q nodes ->
      ∃ t, nodes = [t] ∧ Formed chars sub t)
    (body : Yields grammar chars m
      (Expr.seqOf [.call sub, Expr.many (Expr.seqOf [.call op, .call sub])]) p q children) :
    ∃ (first : Tree) (rest : List (Tree × Tree)), children = first :: rest.flatMap (fun x => [x.1, x.2]) ∧
      Formed chars sub first ∧ (∀ x ∈ rest, OperatorNode op x.1) ∧
      ∀ x ∈ rest, Formed chars sub x.2 := by
  obtain ⟨pieces, rfl, each⟩ := body.seqOf_inv (by simp)
  obtain _ | ⟨first, _ | ⟨later, _ | _⟩⟩ := each
  obtain ⟨f, rfl, formedFirst⟩ := subFormed first
  obtain ⟨_, _, left, right, later⟩ := later
  obtain ⟨parts, rfl, repeated⟩ := later.many_inv
  have pairs : ∀ part ∈ parts, ∃ x : Tree × Tree, part = [x.1, x.2] ∧
      (OperatorNode op x.1 ∧ Formed chars sub x.2) := by
    intro part mem
    obtain ⟨_, _, left', right', repetition⟩ := (repeated part mem).widen left right
    obtain ⟨pieces, rfl, each⟩ := repetition.seqOf_inv (by simp)
    obtain _ | ⟨opIn, _ | ⟨subIn, _ | _⟩⟩ := each
    obtain ⟨o, rfl, opNode⟩ := operator_node builds opKind words opBody (opIn.widen left' right')
    obtain ⟨s, rfl, formedSub⟩ := subFormed (subIn.widen left' right')
    exact ⟨(o, s), rfl, opNode, formedSub⟩
  obtain ⟨rest, flat, all⟩ := flatten_of_each pairs
  exact ⟨f, rest, by simp [flat], formedFirst, fun x mem => (all x mem).1,
    fun x mem => (all x mem).2⟩

theorem conjunction_formed (below : FormsBelow chars m (q - p))
    (body : Yields grammar chars m (grammar.body .conjunction) p q children) :
    Formed chars .conjunction (.mk .conjunction p q children) := by
  have negations : ∀ {nodes}, YieldsIn grammar chars m (.call .negation) p q nodes ->
      ∃ t, nodes = [t] ∧ Formed chars .negation t := by
    intro nodes yields
    obtain ⟨p', q', left, right, yields⟩ := yields
    obtain ⟨cs, rfl, negationBody⟩ := yields.plain_node builds rfl
    exact ⟨_, rfl, negation_formed builds (below.mono (by omega)) negationBody⟩
  obtain ⟨first, rest, rfl, formedFirst, ops, subs⟩ :=
    chain_formed builds .andOp .negation rfl ["and"] rfl negations body
  exact .conjunction formedFirst ops subs

theorem expression_formed (below : FormsBelow chars m (q - p))
    (body : Yields grammar chars m (grammar.body .expression) p q children) :
    Formed chars .expression (.mk .expression p q children) := by
  have conjunctions : ∀ {nodes}, YieldsIn grammar chars m (.call .conjunction) p q nodes ->
      ∃ t, nodes = [t] ∧ Formed chars .conjunction t := by
    intro nodes yields
    obtain ⟨p', q', left, right, yields⟩ := yields
    obtain ⟨cs, rfl, conjunctionBody⟩ := yields.plain_node builds rfl
    exact ⟨_, rfl, conjunction_formed builds (below.mono (by omega)) conjunctionBody⟩
  obtain ⟨first, rest, rfl, formedFirst, ops, subs⟩ :=
    chain_formed builds .orOp .conjunction rfl ["or"] rfl conjunctions body
  exact .expression formedFirst ops subs

/-- Every expression builds one formed node, by induction on its span. -/
theorem formsBelow (span : Nat) : FormsBelow chars m span := by
  induction span with
  | zero => intro p q nodes shorter; omega
  | succ span ih =>
    intro p q nodes shorter yields
    obtain ⟨children, rfl, body⟩ := yields.plain_node builds rfl
    exact ⟨_, rfl, expression_formed builds (ih.mono (by omega)) body⟩

end Building

/-- A query builds one formed node. -/
theorem query_formed {chars : Array Char} {p q : Nat} {nodes : List Tree}
    (yields : Yields grammar chars Mode.initial (.call .query) p q nodes) :
    ∃ t, nodes = [t] ∧ Formed chars .query t := by
  have builds : Mode.initial.Builds := ⟨rfl, by decide⟩
  obtain ⟨children, rfl, body⟩ := yields.plain_node builds rfl
  obtain ⟨pieces, rfl, each⟩ := body.seqOf_inv (by simp)
  obtain _ | ⟨⟨_, _, -, -, start⟩, _ | ⟨expression, _ | ⟨⟨pe, qe, -, -, eoi⟩, _ | _⟩⟩⟩ := each
  obtain rfl := start.start_inv
  obtain ⟨eoiChildren, rfl, eoiBody⟩ := eoi.plain_node builds rfl
  have eoiNode : OperatorNode .eoi (.mk .eoi pe qe eoiChildren) := ⟨rfl, eoiBody.finish_inv⟩
  obtain ⟨_, _, -, -, expression⟩ := expression
  rcases expression.opt_inv with ⟨-, rfl⟩ | some
  · exact ⟨_, rfl, .query eoiNode⟩
  · obtain ⟨t, rfl, formed⟩ := formsBelow builds _ _ _ _ (Nat.lt_succ_self _) some
    exact ⟨_, rfl, .queryExpression formed eoiNode⟩

/-- Every text the filter grammar accepts parses to one formed query node. -/
theorem parse_query_formed {chars : Array Char} {nodes : List Tree}
    (accepted : grammar.parse .query chars = .ok nodes) :
    ∃ t, nodes = [t] ∧ Formed chars .query t := by
  simp only [Grammar.parse] at accepted
  split at accepted
  · rename_i q f found
    cases accepted
    exact query_formed (run_yields found)
  · cases accepted
  · cases accepted

end Query
end Refbook
