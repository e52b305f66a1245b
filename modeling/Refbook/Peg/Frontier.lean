import Refbook.Peg.Expr

namespace Refbook
namespace Peg

/-!
# The furthest failure

While a grammar runs, it keeps its *frontier*: the furthest position at which
a reported rule failed, with the rules that failed there (`expected`) and
the rules that matched there inside a negative lookahead (`unexpected`).
A failed parse is reported at that position, with those rules.

A rule is reported only at its own start.  A failure of a rule whose parts
added exactly one rule at that position is left out, since the part says
more than the whole; otherwise the rule replaces what its parts recorded
there.
-/

/-- Whether the rules entered now build nodes, are reported, and skip
trivia. -/
inductive Atomicity where
  | nonAtomic
  | compound
  | atomic
  deriving DecidableEq, Repr

/-- Whether evaluation is inside a lookahead, and of which polarity. -/
inductive Lookahead where
  | none
  | positive
  | negative
  deriving DecidableEq, Repr

/-- The context in which an expression runs. -/
structure Mode where
  atomicity : Atomicity
  lookahead : Lookahead
  deriving DecidableEq, Repr

/-- The mode at the start of a parse. -/
def Mode.initial : Mode :=
  { atomicity := .nonAtomic, lookahead := .none }

/-- The furthest failure seen so far. -/
structure Frontier (R : Type) where
  pos : Nat
  expected : Array R
  unexpected : Array R
  deriving Repr

namespace Frontier

variable {R : Type}

/-- No failure yet. -/
def initial : Frontier R :=
  { pos := 0, expected := #[], unexpected := #[] }

/-- How many rules are recorded at `p`. -/
def countAt (f : Frontier R) (p : Nat) : Nat :=
  if f.pos = p then f.expected.size + f.unexpected.size else 0

/-- Where the records at `p` end now, so that a rule starting at `p` can
later drop what its parts add. -/
def markAt (f : Frontier R) (p : Nat) : Nat × Nat :=
  if f.pos = p then (f.expected.size, f.unexpected.size) else (0, 0)

/-- Record that rule `r`, entered at `p` in mode `m`, failed (or, inside a
negative lookahead, matched).  `mark` and `before` are `markAt p` and
`countAt p` taken when the rule was entered. -/
def record (f : Frontier R) (r : R) (m : Mode) (p : Nat) (mark : Nat × Nat)
    (before : Nat) : Frontier R :=
  if m.atomicity = .atomic then f
  else
    let now := f.countAt p
    if before < now ∧ now - before = 1 then f
    else
      let f :=
        if p = f.pos then
          { f with expected := f.expected.extract 0 mark.1,
                   unexpected := f.unexpected.extract 0 mark.2 }
        else f
      let f := if f.pos < p then { pos := p, expected := #[], unexpected := #[] } else f
      if p = f.pos then
        if m.lookahead = .negative then { f with unexpected := f.unexpected.push r }
        else { f with expected := f.expected.push r }
      else f

end Frontier

/-- A failed parse: where, and which rules were expected or unexpected there,
each list in declaration order without repeats. -/
structure Failure (R : Type) where
  pos : Nat
  expected : List R
  unexpected : List R
  deriving Repr

/-- Sort by declaration order and drop repeats. -/
def settle {R : Type} [DecidableEq R] (rules : List R) (found : Array R) : List R :=
  rules.filter fun rule => found.contains rule

/-- `a`, `a or b`, `a, b, or c`. -/
def enumerate (names : List String) : String :=
  match names with
  | [] => ""
  | [one] => one
  | [one, two] => one ++ " or " ++ two
  | _ =>
    let front := String.intercalate ", " names.dropLast
    let last := names.getLast?.getD ""
    front ++ ", or " ++ last

/-- The report of a failed parse, in words. -/
def Failure.message {R : Type} (name : R -> String) (fail : Failure R) : String :=
  let wanted := enumerate (fail.expected.map name)
  let refused := enumerate (fail.unexpected.map name)
  match fail.unexpected.isEmpty, fail.expected.isEmpty with
  | false, false => "unexpected " ++ refused ++ "; expected " ++ wanted
  | false, true => "unexpected " ++ refused
  | true, false => "expected " ++ wanted
  | true, true => "unknown parsing error"

end Peg
end Refbook
