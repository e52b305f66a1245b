import Refbook.Peg.Frontier

namespace Refbook
namespace Peg

/-!
# Running a grammar

`run` evaluates a parsing expression at a position of the input, threading
the frontier of the furthest failure.  It is total: every step spends one
unit of fuel, and `Grammar.parse` gives enough for any grammar without left
recursion (the input length times the grammar's budget).
-/

/-- What running an expression gives. -/
inductive Outcome (R : Type) where
  | matched (pos : Nat) (frontier : Frontier R) (nodes : List (Node R))
  | failed (frontier : Frontier R)
  | exhausted
  deriving Repr

variable {R : Type}

/-- `chars` stands at position `p` of the input. -/
def textAt (input : Array Char) (p : Nat) : List Char -> Bool
  | [] => true
  | c :: cs => input[p]? == some c && textAt input (p + 1) cs

/-- `chars` stands at position `p`, up to ASCII case. -/
def textNoCaseAt (input : Array Char) (p : Nat) : List Char -> Bool
  | [] => true
  | c :: cs =>
    (match input[p]? with
      | some d => d.toLower == c.toLower
      | none => false) && textNoCaseAt input (p + 1) cs

/-- Close a rule entered at `p` in mode `m` with frontier `f`: build its
node and report it as the rule's kind and the mode ask. -/
def closeRule (r : R) (m : Mode) (p : Nat) (f : Frontier R) : Outcome R -> Outcome R
  | .matched q f' nodes =>
    let f'' := if m.lookahead = .negative then f'.record r m p (f.markAt p) (f.countAt p) else f'
    let nodes' :=
      if m.lookahead = .none ∧ m.atomicity ≠ .atomic then [Node.mk r p q nodes] else nodes
    .matched q f'' nodes'
  | .failed f' =>
    .failed (if m.lookahead = .negative then f' else f'.record r m p (f.markAt p) (f.countAt p))
  | .exhausted => .exhausted

/-- Run expression `e` at position `p` in mode `m`. -/
def run (g : Grammar R) (input : Array Char) : Nat -> Mode -> Expr R -> Nat -> Frontier R -> Outcome R
  | 0, _, _, _, _ => .exhausted
  | fuel + 1, m, e, p, f =>
    match e with
    | .text chars => if textAt input p chars then .matched (p + chars.length) f [] else .failed f
    | .textNoCase chars =>
      if textNoCaseAt input p chars then .matched (p + chars.length) f [] else .failed f
    | .range lo hi =>
      match input[p]? with
      | some c => if lo ≤ c ∧ c ≤ hi then .matched (p + 1) f [] else .failed f
      | none => .failed f
    | .any => if p < input.size then .matched (p + 1) f [] else .failed f
    | .start => if p = 0 then .matched p f [] else .failed f
    | .finish => if p = input.size then .matched p f [] else .failed f
    | .trivia =>
      if m.atomicity = .nonAtomic then
        match run g input fuel m g.blanks p f with
        | .matched q f' _ => .matched q f' []
        | .failed f' => .matched p f' []
        | .exhausted => .exhausted
      else .matched p f []
    | .call r =>
      match g.kind r with
      | .hidden => run g input fuel m (g.body r) p f
      | .trivia => run g input fuel { m with atomicity := .atomic } (g.body r) p f
      | .plain => closeRule r m p f (run g input fuel m (g.body r) p f)
      | .token => closeRule r m p f (run g input fuel { m with atomicity := .atomic } (g.body r) p f)
      | .compound =>
        let m' := { m with atomicity := .compound }
        closeRule r m' p f (run g input fuel m' (g.body r) p f)
    | .seq first second =>
      match run g input fuel m first p f with
      | .matched q f' nodes =>
        match run g input fuel m second q f' with
        | .matched q' f'' nodes' => .matched q' f'' (nodes ++ nodes')
        | .failed f'' => .failed f''
        | .exhausted => .exhausted
      | .failed f' => .failed f'
      | .exhausted => .exhausted
    | .alt first second =>
      match run g input fuel m first p f with
      | .failed f' => run g input fuel m second p f'
      | done => done
    | .opt body =>
      match run g input fuel m body p f with
      | .failed f' => .matched p f' []
      | done => done
    | .star body =>
      match run g input fuel m body p f with
      | .matched q f' nodes =>
        match run g input fuel m (.star body) q f' with
        | .matched q' f'' nodes' => .matched q' f'' (nodes ++ nodes')
        | .failed f'' => .failed f''
        | .exhausted => .exhausted
      | .failed f' => .matched p f' []
      | .exhausted => .exhausted
    | .ahead body =>
      let inner := if m.lookahead = .negative then Lookahead.negative else .positive
      match run g input fuel { m with lookahead := inner } body p f with
      | .matched _ f' _ => .matched p f' []
      | .failed f' => .failed f'
      | .exhausted => .exhausted
    | .notAhead body =>
      let inner := if m.lookahead = .negative then Lookahead.positive else .negative
      match run g input fuel { m with lookahead := inner } body p f with
      | .matched _ f' _ => .failed f'
      | .failed f' => .matched p f' []
      | .exhausted => .exhausted

/-- Parse the whole of `input` with rule `top`: the nodes it builds, or the
furthest failure. -/
def Grammar.parse [DecidableEq R] (g : Grammar R) (top : R) (input : Array Char) :
    Except (Failure R) (List (Node R)) :=
  let fuel := (input.size + 1) * g.budget
  match run g input fuel Mode.initial (.call top) 0 Frontier.initial with
  | .matched _ _ nodes => .ok nodes
  | .failed f =>
    .error { pos := f.pos, expected := settle g.rules f.expected,
             unexpected := settle g.rules f.unexpected }
  | .exhausted => .error { pos := 0, expected := [], unexpected := [] }

end Peg
end Refbook
