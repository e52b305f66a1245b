import Mathlib.Data.List.Forall2
import Refbook.Peg.Run

namespace Refbook
namespace Peg

/-!
# The trees a grammar builds

A run of a grammar answers the nodes it built, but what they look like is
decided by the grammar: a plain rule builds one node over the span it
matched, holding the nodes its body built; a hidden rule hands its body's
nodes up; a token rule matches its body atomically and builds a node without
children; a compound rule builds a node whose body runs without trivia.
Nothing built inside a lookahead or an atomic rule survives.

`Yields g input m e p q nodes` says this as a relation: in mode `m`,
expression `e` can match the input from `p` to `q` and build `nodes`.  It
keeps what a node's span and a token's text depend on (the characters each
text, range or `any` matched) and forgets why an alternative was taken.
`run_yields` shows that every match of a run is one the relation allows, so
that facts about the trees of a grammar follow from its rules alone.
-/

variable {R : Type} (g : Grammar R) (input : Array Char)

/-- What a rule entered in mode `m` hands up: a node over its span holding
`nodes` when the mode builds nodes, else `nodes` themselves. -/
def built (m : Mode) (r : R) (p q : Nat) (nodes : List (Node R)) : List (Node R) :=
  if m.lookahead = .none ∧ m.atomicity ≠ .atomic then [Node.mk r p q nodes] else nodes

/-- In mode `m`, expression `e` can match the input from `p` to `q` and
build `nodes`. -/
inductive Yields : Mode -> Expr R -> Nat -> Nat -> List (Node R) -> Prop
  | text {m : Mode} {chars : List Char} {p : Nat} :
      textAt input p chars = true -> Yields m (.text chars) p (p + chars.length) []
  | textNoCase {m : Mode} {chars : List Char} {p : Nat} :
      textNoCaseAt input p chars = true -> Yields m (.textNoCase chars) p (p + chars.length) []
  | range {m : Mode} {lo hi c : Char} {p : Nat} :
      input[p]? = some c -> lo ≤ c ∧ c ≤ hi -> Yields m (.range lo hi) p (p + 1) []
  | any {m : Mode} {p : Nat} : p < input.size -> Yields m .any p (p + 1) []
  | start {m : Mode} : Yields m .start 0 0 []
  | finish {m : Mode} : Yields m .finish input.size input.size []
  | trivia {m : Mode} {p q : Nat} {nodes : List (Node R)} :
      m.atomicity = .nonAtomic -> Yields m g.blanks p q nodes -> Yields m .trivia p q []
  | triviaSkip {m : Mode} {p : Nat} : Yields m .trivia p p []
  | hidden {m : Mode} {r : R} {p q : Nat} {nodes : List (Node R)} :
      g.kind r = .hidden -> Yields m (g.body r) p q nodes -> Yields m (.call r) p q nodes
  | triviaRule {m : Mode} {r : R} {p q : Nat} {nodes : List (Node R)} :
      g.kind r = .trivia -> Yields { m with atomicity := .atomic } (g.body r) p q nodes ->
      Yields m (.call r) p q nodes
  | plain {m : Mode} {r : R} {p q : Nat} {nodes : List (Node R)} :
      g.kind r = .plain -> Yields m (g.body r) p q nodes ->
      Yields m (.call r) p q (built m r p q nodes)
  | token {m : Mode} {r : R} {p q : Nat} {nodes : List (Node R)} :
      g.kind r = .token -> Yields { m with atomicity := .atomic } (g.body r) p q nodes ->
      Yields m (.call r) p q (built m r p q nodes)
  | compound {m : Mode} {r : R} {p q : Nat} {nodes : List (Node R)} :
      g.kind r = .compound -> Yields { m with atomicity := .compound } (g.body r) p q nodes ->
      Yields m (.call r) p q (built { m with atomicity := .compound } r p q nodes)
  | seq {m : Mode} {first second : Expr R} {p q q' : Nat} {nodes nodes' : List (Node R)} :
      Yields m first p q nodes -> Yields m second q q' nodes' ->
      Yields m (.seq first second) p q' (nodes ++ nodes')
  | altFirst {m : Mode} {first second : Expr R} {p q : Nat} {nodes : List (Node R)} :
      Yields m first p q nodes -> Yields m (.alt first second) p q nodes
  | altSecond {m : Mode} {first second : Expr R} {p q : Nat} {nodes : List (Node R)} :
      Yields m second p q nodes -> Yields m (.alt first second) p q nodes
  | optSome {m : Mode} {body : Expr R} {p q : Nat} {nodes : List (Node R)} :
      Yields m body p q nodes -> Yields m (.opt body) p q nodes
  | optNone {m : Mode} {body : Expr R} {p : Nat} : Yields m (.opt body) p p []
  | starNil {m : Mode} {body : Expr R} {p : Nat} : Yields m (.star body) p p []
  | starCons {m : Mode} {body : Expr R} {p q q' : Nat} {nodes nodes' : List (Node R)} :
      Yields m body p q nodes -> Yields m (.star body) q q' nodes' ->
      Yields m (.star body) p q' (nodes ++ nodes')
  | ahead {m : Mode} {body : Expr R} {p : Nat} : Yields m (.ahead body) p p []
  | notAhead {m : Mode} {body : Expr R} {p : Nat} : Yields m (.notAhead body) p p []

variable {g input}

/-- A rule closed after its body matched hands up what `built` says. -/
theorem closeRule_matched {r : R} {m : Mode} {p : Nat} {f : Frontier R} {outcome : Outcome R}
    {q : Nat} {f' : Frontier R} {nodes : List (Node R)}
    (closed : closeRule r m p f outcome = .matched q f' nodes) :
    ∃ f'' inner, outcome = .matched q f'' inner ∧ nodes = built m r p q inner := by
  cases outcome with
  | matched q' f'' inner =>
    simp only [closeRule, Outcome.matched.injEq] at closed
    obtain ⟨rfl, -, rfl⟩ := closed
    exact ⟨f'', inner, rfl, rfl⟩
  | failed f'' => cases closed
  | exhausted => cases closed

/-- Every match of a run is one the grammar's rules allow. -/
theorem run_yields {fuel : Nat} {m : Mode} {e : Expr R} {p : Nat} {f : Frontier R} {q : Nat}
    {f' : Frontier R} {nodes : List (Node R)}
    (ran : run g input fuel m e p f = .matched q f' nodes) : Yields g input m e p q nodes := by
  induction fuel generalizing m e p f q f' nodes with
  | zero => cases ran
  | succ fuel ih =>
    cases e with
    | text chars =>
      simp only [run] at ran
      split at ran
      · cases ran
        exact Yields.text ‹_›
      · cases ran
    | textNoCase chars =>
      simp only [run] at ran
      split at ran
      · cases ran
        exact Yields.textNoCase ‹_›
      · cases ran
    | range lo hi =>
      simp only [run] at ran
      split at ran
      · rename_i c found
        split at ran
        · cases ran
          exact Yields.range found ‹_›
        · cases ran
      · cases ran
    | any =>
      simp only [run] at ran
      split at ran
      · cases ran
        exact Yields.any ‹_›
      · cases ran
    | start =>
      simp only [run] at ran
      split at ran
      · rename_i zero
        cases ran
        subst zero
        exact Yields.start
      · cases ran
    | finish =>
      simp only [run] at ran
      split at ran
      · rename_i finished
        cases ran
        subst finished
        exact Yields.finish
      · cases ran
    | trivia =>
      simp only [run] at ran
      split at ran
      · rename_i nonAtomic
        split at ran
        · rename_i q₁ f₁ skipped blanksRan
          cases ran
          exact Yields.trivia nonAtomic (ih blanksRan)
        · cases ran
          exact Yields.triviaSkip
        · cases ran
      · cases ran
        exact Yields.triviaSkip
    | call r =>
      simp only [run] at ran
      split at ran
      · rename_i kind
        exact Yields.hidden kind (ih ran)
      · rename_i kind
        exact Yields.triviaRule kind (ih ran)
      · rename_i kind
        obtain ⟨f'', inner, body, rfl⟩ := closeRule_matched ran
        exact Yields.plain kind (ih body)
      · rename_i kind
        obtain ⟨f'', inner, body, rfl⟩ := closeRule_matched ran
        exact Yields.token kind (ih body)
      · rename_i kind
        obtain ⟨f'', inner, body, rfl⟩ := closeRule_matched ran
        exact Yields.compound kind (ih body)
    | seq first second =>
      simp only [run] at ran
      split at ran
      · rename_i q₁ f₁ nodes₁ firstRan
        split at ran
        · rename_i q₂ f₂ nodes₂ secondRan
          cases ran
          exact Yields.seq (ih firstRan) (ih secondRan)
        · cases ran
        · cases ran
      · cases ran
      · cases ran
    | alt first second =>
      simp only [run] at ran
      split at ran
      · exact Yields.altSecond (ih ran)
      · exact Yields.altFirst (ih ran)
    | opt body =>
      simp only [run] at ran
      split at ran
      · cases ran
        exact Yields.optNone
      · exact Yields.optSome (ih ran)
    | star body =>
      simp only [run] at ran
      split at ran
      · rename_i q₁ f₁ nodes₁ bodyRan
        split at ran
        · rename_i q₂ f₂ nodes₂ restRan
          cases ran
          exact Yields.starCons (ih bodyRan) (ih restRan)
        · cases ran
        · cases ran
      · cases ran
        exact Yields.starNil
      · cases ran
    | ahead body =>
      simp only [run] at ran
      split at ran
      · cases ran
        exact Yields.ahead
      · cases ran
      · cases ran
    | notAhead body =>
      simp only [run] at ran
      split at ran
      · cases ran
      · cases ran
        exact Yields.notAhead
      · cases ran

/-- A match never moves backwards. -/
theorem Yields.le {m : Mode} {e : Expr R} {p q : Nat} {nodes : List (Node R)}
    (yields : Yields g input m e p q nodes) : p ≤ q := by
  induction yields <;> omega

variable (g input) in
/-- `e` matches somewhere inside `[p, q]`, building `nodes`. -/
def YieldsIn (m : Mode) (e : Expr R) (p q : Nat) (nodes : List (Node R)) : Prop :=
  ∃ p' q', p ≤ p' ∧ q' ≤ q ∧ Yields g input m e p' q' nodes

theorem Yields.yieldsIn {m : Mode} {e : Expr R} {p q : Nat} {nodes : List (Node R)}
    (yields : Yields g input m e p q nodes) : YieldsIn g input m e p q nodes :=
  ⟨p, q, Nat.le_refl p, Nat.le_refl q, yields⟩

theorem YieldsIn.widen {m : Mode} {e : Expr R} {p q p' q' : Nat} {nodes : List (Node R)}
    (inside : YieldsIn g input m e p' q' nodes) (left : p ≤ p') (right : q' ≤ q) :
    YieldsIn g input m e p q nodes := by
  obtain ⟨p'', q'', left', right', yields⟩ := inside
  exact ⟨p'', q'', Nat.le_trans left left', Nat.le_trans right' right, yields⟩

/-! ## Reading a match back -/

section Inversion

variable {m : Mode} {p q : Nat} {nodes : List (Node R)}

theorem Yields.seq_inv {first second : Expr R}
    (yields : Yields g input m (.seq first second) p q nodes) :
    ∃ q' nodes₁ nodes₂, Yields g input m first p q' nodes₁ ∧
      Yields g input m second q' q nodes₂ ∧ nodes = nodes₁ ++ nodes₂ := by
  cases yields with
  | seq first second => exact ⟨_, _, _, first, second, rfl⟩

theorem Yields.alt_inv {first second : Expr R}
    (yields : Yields g input m (.alt first second) p q nodes) :
    Yields g input m first p q nodes ∨ Yields g input m second p q nodes := by
  cases yields with
  | altFirst first => exact .inl first
  | altSecond second => exact .inr second

theorem Yields.opt_inv {body : Expr R} (yields : Yields g input m (.opt body) p q nodes) :
    (q = p ∧ nodes = []) ∨ Yields g input m body p q nodes := by
  cases yields with
  | optSome body => exact .inr body
  | optNone => exact .inl ⟨rfl, rfl⟩

theorem Yields.trivia_inv (yields : Yields g input m .trivia p q nodes) : nodes = [] := by
  cases yields <;> rfl

theorem Yields.start_inv (yields : Yields g input m .start p q nodes) : nodes = [] := by
  cases yields
  rfl

theorem Yields.finish_inv (yields : Yields g input m .finish p q nodes) : nodes = [] := by
  cases yields
  rfl

theorem Yields.text_inv {chars : List Char} (yields : Yields g input m (.text chars) p q nodes) :
    textAt input p chars = true ∧ q = p + chars.length ∧ nodes = [] := by
  cases yields with
  | text found => exact ⟨found, rfl, rfl⟩

theorem Yields.textNoCase_inv {chars : List Char}
    (yields : Yields g input m (.textNoCase chars) p q nodes) :
    textNoCaseAt input p chars = true ∧ q = p + chars.length ∧ nodes = [] := by
  cases yields with
  | textNoCase found => exact ⟨found, rfl, rfl⟩

theorem Yields.notAhead_inv {body : Expr R} (yields : Yields g input m (.notAhead body) p q nodes) :
    q = p ∧ nodes = [] := by
  cases yields
  exact ⟨rfl, rfl⟩

/-- A star builds, one after the other, what matches of its body inside its
span build. -/
theorem Yields.star_inv {body : Expr R} (yields : Yields g input m (.star body) p q nodes) :
    ∃ parts : List (List (Node R)), nodes = parts.flatten ∧
      ∀ part ∈ parts, YieldsIn g input m body p q part := by
  generalize looped : Expr.star body = e at yields
  induction yields with
  | starNil => exact ⟨[], rfl, fun part mem => by cases mem⟩
  | starCons first rest _ ih =>
    cases looped
    obtain ⟨parts, rfl, each⟩ := ih rfl
    refine ⟨_ :: parts, rfl, fun part mem => ?_⟩
    rcases List.mem_cons.mp mem with rfl | mem
    · exact first.yieldsIn.widen (Nat.le_refl _) rest.le
    · exact (each part mem).widen first.le (Nat.le_refl _)
  | _ => cases looped

/-- A sequence with trivia between its parts builds what its parts build;
the second part starts where the skipped trivia ends. -/
theorem Yields.andThen_inv {first second : Expr R}
    (yields : Yields g input m (Expr.andThen first second) p q nodes) :
    ∃ q₁ q₂ nodes₁ nodes₂, Yields g input m first p q₁ nodes₁ ∧ q₁ ≤ q₂ ∧
      Yields g input m second q₂ q nodes₂ ∧ nodes = nodes₁ ++ nodes₂ := by
  obtain ⟨q₁, nodes₁, rest, firstYields, restYields, rfl⟩ := yields.seq_inv
  obtain ⟨q₂, skipped, nodes₂, skipping, secondYields, rfl⟩ := restYields.seq_inv
  rw [skipping.trivia_inv, List.nil_append]
  exact ⟨q₁, q₂, nodes₁, nodes₂, firstYields, skipping.le, secondYields, rfl⟩

/-- `many` builds, one after the other, what matches of its body inside its
span build. -/
theorem Yields.many_inv {body : Expr R} (yields : Yields g input m (Expr.many body) p q nodes) :
    ∃ parts : List (List (Node R)), nodes = parts.flatten ∧
      ∀ part ∈ parts, YieldsIn g input m body p q part := by
  rcases yields.opt_inv with ⟨-, rfl⟩ | some
  · exact ⟨[], rfl, fun part mem => by cases mem⟩
  · obtain ⟨q₁, first, later, firstYields, laterYields, rfl⟩ := some.seq_inv
    obtain ⟨parts, rfl, each⟩ := laterYields.star_inv
    refine ⟨first :: parts, rfl, fun part mem => ?_⟩
    rcases List.mem_cons.mp mem with rfl | mem
    · exact firstYields.yieldsIn.widen (Nat.le_refl _) laterYields.le
    · obtain ⟨p', q', left, right, repeated⟩ := each part mem
      obtain ⟨q'', skipped, rest, skipping, restYields, rfl⟩ := repeated.seq_inv
      rw [skipping.trivia_inv, List.nil_append]
      exact restYields.yieldsIn.widen (by have := firstYields.le; have := skipping.le; omega) right

/-- A sequence of parts builds, one after the other, what each part builds
inside the sequence's span. -/
theorem Yields.seqOf_inv {parts : List (Expr R)} (nonempty : parts ≠ [])
    (yields : Yields g input m (Expr.seqOf parts) p q nodes) :
    ∃ pieces : List (List (Node R)), nodes = pieces.flatten ∧
      List.Forall₂ (fun e piece => YieldsIn g input m e p q piece) parts pieces := by
  induction parts generalizing p nodes with
  | nil => exact absurd rfl nonempty
  | cons part parts ih =>
    cases parts with
    | nil => exact ⟨[nodes], by simp, .cons yields.yieldsIn .nil⟩
    | cons next parts =>
      obtain ⟨q₁, q₂, first, rest, firstYields, skipped, restYields, rfl⟩ :=
        Yields.andThen_inv yields
      obtain ⟨pieces, rfl, each⟩ := ih (List.cons_ne_nil _ _) restYields
      refine ⟨first :: pieces, rfl, .cons (firstYields.yieldsIn.widen (Nat.le_refl _) ?_) ?_⟩
      · exact Nat.le_trans skipped restYields.le
      · exact each.imp fun _ _ inside => inside.widen (Nat.le_trans firstYields.le skipped)
          (Nat.le_refl _)

/-- A choice builds what one of its alternatives builds. -/
theorem Yields.firstOf_inv {choices : List (Expr R)} (nonempty : choices ≠ [])
    (yields : Yields g input m (Expr.firstOf choices) p q nodes) :
    ∃ e ∈ choices, Yields g input m e p q nodes := by
  induction choices with
  | nil => exact absurd rfl nonempty
  | cons choice choices ih =>
    cases choices with
    | nil => exact ⟨choice, List.mem_singleton_self _, yields⟩
    | cons next choices =>
      rcases Yields.alt_inv yields with first | later
      · exact ⟨choice, List.mem_cons_self, first⟩
      · obtain ⟨e, mem, found⟩ := ih (List.cons_ne_nil _ _) later
        exact ⟨e, List.mem_cons_of_mem _ mem, found⟩

theorem Yields.hidden_inv {r : R} (kind : g.kind r = .hidden)
    (yields : Yields g input m (.call r) p q nodes) : Yields g input m (g.body r) p q nodes := by
  cases yields with
  | hidden _ body => exact body
  | triviaRule other => rw [kind] at other; cases other
  | plain other => rw [kind] at other; cases other
  | token other => rw [kind] at other; cases other
  | compound other => rw [kind] at other; cases other

theorem Yields.plain_inv {r : R} (kind : g.kind r = .plain)
    (yields : Yields g input m (.call r) p q nodes) :
    ∃ inner, Yields g input m (g.body r) p q inner ∧ nodes = built m r p q inner := by
  cases yields with
  | plain _ body => exact ⟨_, body, rfl⟩
  | hidden other => rw [kind] at other; cases other
  | triviaRule other => rw [kind] at other; cases other
  | token other => rw [kind] at other; cases other
  | compound other => rw [kind] at other; cases other

theorem Yields.token_inv {r : R} (kind : g.kind r = .token)
    (yields : Yields g input m (.call r) p q nodes) :
    ∃ inner, Yields g input { m with atomicity := .atomic } (g.body r) p q inner ∧
      nodes = built m r p q inner := by
  cases yields with
  | token _ body => exact ⟨_, body, rfl⟩
  | hidden other => rw [kind] at other; cases other
  | triviaRule other => rw [kind] at other; cases other
  | plain other => rw [kind] at other; cases other
  | compound other => rw [kind] at other; cases other

theorem Yields.compound_inv {r : R} (kind : g.kind r = .compound)
    (yields : Yields g input m (.call r) p q nodes) :
    ∃ inner, Yields g input { m with atomicity := .compound } (g.body r) p q inner ∧
      nodes = built { m with atomicity := .compound } r p q inner := by
  cases yields with
  | compound _ body => exact ⟨_, body, rfl⟩
  | hidden other => rw [kind] at other; cases other
  | triviaRule other => rw [kind] at other; cases other
  | plain other => rw [kind] at other; cases other
  | token other => rw [kind] at other; cases other

end Inversion

/-! ## Modes that build nodes -/

/-- A mode builds nodes outside lookaheads and atomic rules. -/
def Mode.Builds (m : Mode) : Prop :=
  m.lookahead = .none ∧ m.atomicity ≠ .atomic

theorem Mode.Builds.compound {m : Mode} (builds : m.Builds) :
    ({ m with atomicity := .compound } : Mode).Builds :=
  ⟨builds.1, by simp⟩

theorem built_of_builds {m : Mode} (builds : m.Builds) (r : R) (p q : Nat)
    (nodes : List (Node R)) : built m r p q nodes = [Node.mk r p q nodes] :=
  if_pos builds

theorem built_atomic {m : Mode} (atomic : m.atomicity = .atomic) (r : R) (p q : Nat)
    (nodes : List (Node R)) : built m r p q nodes = nodes := by
  simp [built, atomic]

section Building

variable {m : Mode} (builds : m.Builds) {p q : Nat} {nodes : List (Node R)}
include builds

/-- A rule that is neither hidden nor trivia builds one node over its span. -/
theorem Yields.call_node {r : R} (shown : g.kind r ≠ .hidden ∧ g.kind r ≠ .trivia)
    (yields : Yields g input m (.call r) p q nodes) : ∃ children, nodes = [Node.mk r p q children] := by
  cases yields with
  | hidden kind => exact absurd kind shown.1
  | triviaRule kind => exact absurd kind shown.2
  | plain => exact ⟨_, built_of_builds builds _ _ _ _⟩
  | token => exact ⟨_, built_of_builds builds _ _ _ _⟩
  | compound => exact ⟨_, built_of_builds builds.compound _ _ _ _⟩

/-- A plain rule builds one node holding what its body builds. -/
theorem Yields.plain_node {r : R} (kind : g.kind r = .plain)
    (yields : Yields g input m (.call r) p q nodes) :
    ∃ children, nodes = [Node.mk r p q children] ∧ Yields g input m (g.body r) p q children := by
  obtain ⟨inner, body, rfl⟩ := yields.plain_inv kind
  exact ⟨inner, built_of_builds builds _ _ _ _, body⟩

/-- A compound rule builds one node holding what its body builds without
trivia. -/
theorem Yields.compound_node {r : R} (kind : g.kind r = .compound)
    (yields : Yields g input m (.call r) p q nodes) :
    ∃ children, nodes = [Node.mk r p q children] ∧
      Yields g input { m with atomicity := .compound } (g.body r) p q children := by
  obtain ⟨inner, body, rfl⟩ := yields.compound_inv kind
  exact ⟨inner, built_of_builds builds.compound _ _ _ _, body⟩

end Building

/-! ## Expressions that build nothing -/

/-- An expression that builds no node in an atomic mode: it calls no
compound rule outside a lookahead, and the rules it calls are quiet too. -/
inductive Quiet (g : Grammar R) : Expr R -> Prop
  | text {chars : List Char} : Quiet g (.text chars)
  | textNoCase {chars : List Char} : Quiet g (.textNoCase chars)
  | range {lo hi : Char} : Quiet g (.range lo hi)
  | any : Quiet g .any
  | start : Quiet g .start
  | finish : Quiet g .finish
  | trivia : Quiet g .trivia
  | call {r : R} : g.kind r ≠ .compound -> Quiet g (g.body r) -> Quiet g (.call r)
  | seq {first second : Expr R} : Quiet g first -> Quiet g second -> Quiet g (.seq first second)
  | alt {first second : Expr R} : Quiet g first -> Quiet g second -> Quiet g (.alt first second)
  | opt {body : Expr R} : Quiet g body -> Quiet g (.opt body)
  | star {body : Expr R} : Quiet g body -> Quiet g (.star body)
  | ahead {body : Expr R} : Quiet g (.ahead body)
  | notAhead {body : Expr R} : Quiet g (.notAhead body)

theorem Quiet.firstOf {choices : List (Expr R)} (each : ∀ e ∈ choices, Quiet g e) :
    Quiet g (Expr.firstOf choices) := by
  induction choices with
  | nil => exact .notAhead
  | cons choice choices ih =>
    cases choices with
    | nil => exact each choice (List.mem_singleton_self _)
    | cons next choices =>
      exact .alt (each choice List.mem_cons_self)
        (ih fun e mem => each e (List.mem_cons_of_mem _ mem))

/-- A quiet expression matched in an atomic mode builds nothing. -/
theorem Yields.quiet_nil {m : Mode} {e : Expr R} {p q : Nat} {nodes : List (Node R)}
    (yields : Yields g input m e p q nodes) (atomic : m.atomicity = .atomic) (quiet : Quiet g e) :
    nodes = [] := by
  induction yields with
  | hidden _ _ ih =>
    cases quiet with
    | call _ body => exact ih atomic body
  | triviaRule _ _ ih =>
    cases quiet with
    | call _ body => exact ih rfl body
  | plain _ _ ih =>
    cases quiet with
    | call _ body => rw [built_atomic atomic, ih atomic body]
  | token _ _ ih =>
    cases quiet with
    | call _ body => rw [built_atomic atomic, ih rfl body]
  | compound kind _ _ =>
    cases quiet with
    | call other _ => exact absurd kind other
  | seq _ _ ih₁ ih₂ =>
    cases quiet with
    | seq first second => rw [ih₁ atomic first, ih₂ atomic second, List.nil_append]
  | altFirst _ ih =>
    cases quiet with
    | alt first _ => exact ih atomic first
  | altSecond _ ih =>
    cases quiet with
    | alt _ second => exact ih atomic second
  | optSome _ ih =>
    cases quiet with
    | opt body => exact ih atomic body
  | starCons _ _ ih₁ ih₂ =>
    rw [ih₁ atomic (by cases quiet with | star body => exact body), ih₂ atomic quiet,
      List.nil_append]
  | _ => rfl

/-- A token rule with a quiet body builds a node without children. -/
theorem Yields.token_leaf {m : Mode} (builds : m.Builds) {r : R} {p q : Nat}
    {nodes : List (Node R)} (kind : g.kind r = .token) (quiet : Quiet g (g.body r))
    (yields : Yields g input m (.call r) p q nodes) : nodes = [Node.mk r p q []] := by
  obtain ⟨inner, body, rfl⟩ := yields.token_inv kind
  rw [body.quiet_nil rfl quiet, built_of_builds builds]

/-! ## The text a match covers -/

/-- Text found at a position is what the input holds there. -/
theorem textAt_take {p : Nat} {chars : List Char} (found : textAt input p chars = true) :
    (input.toList.drop p).take chars.length = chars := by
  induction chars generalizing p with
  | nil => rfl
  | cons c cs ih =>
    simp only [textAt, Bool.and_eq_true, beq_iff_eq] at found
    obtain ⟨here, rest⟩ := found
    have inside : p < input.toList.length := by
      rw [Array.length_toList]
      exact (Array.getElem?_eq_some_iff.mp here).1
    rw [List.drop_eq_getElem_cons inside, List.length_cons, List.take_succ_cons, ih rest]
    simp only [Array.getElem_toList]
    rw [(Array.getElem?_eq_some_iff.mp here).2]

/-- Text found at a position up to ASCII case is what the input holds there,
up to case. -/
theorem textNoCaseAt_take {p : Nat} {chars : List Char}
    (found : textNoCaseAt input p chars = true) :
    ((input.toList.drop p).take chars.length).map Char.toLower = chars.map Char.toLower := by
  induction chars generalizing p with
  | nil => rfl
  | cons c cs ih =>
    simp only [textNoCaseAt, Bool.and_eq_true] at found
    obtain ⟨here, rest⟩ := found
    split at here
    · rename_i d read
      have inside : p < input.toList.length := by
        rw [Array.length_toList]
        exact (Array.getElem?_eq_some_iff.mp read).1
      rw [List.drop_eq_getElem_cons inside, List.length_cons, List.take_succ_cons, List.map_cons,
        ih rest, List.map_cons]
      simp only [Array.getElem_toList]
      rw [(Array.getElem?_eq_some_iff.mp read).2]
      exact congrArg (· :: _) (beq_iff_eq.mp here)
    · cases here

theorem Node.toList_text (r : R) (p q : Nat) (children : List (Node R)) :
    ((Node.mk r p q children).text input).toList = (input.toList.drop p).take (q - p) := by
  simp only [Node.text, Node.start, Node.stop, String.toList_ofList, Array.toList_extract,
    List.extract_eq_take_drop]

/-- A node over text found at its start reads as that text. -/
theorem Node.text_of_textAt {r : R} {p : Nat} {chars : List Char}
    (children : List (Node R)) (found : textAt input p chars = true) :
    (Node.mk r p (p + chars.length) children).text input = String.ofList chars := by
  rw [← String.ofList_toList (s := Node.text _ _), Node.toList_text, Nat.add_sub_cancel_left,
    textAt_take found]

/-- A node over text found at its start up to case reads as that text, up to
case. -/
theorem Node.lower_text_of_textNoCaseAt {r : R} {p : Nat} {chars : List Char}
    (children : List (Node R)) (found : textNoCaseAt input p chars = true) :
    ((Node.mk r p (p + chars.length) children).text input).toList.map Char.toLower =
      chars.map Char.toLower := by
  rw [Node.toList_text, Nat.add_sub_cancel_left, textNoCaseAt_take found]

end Peg
end Refbook
