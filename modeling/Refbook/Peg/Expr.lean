namespace Refbook
namespace Peg

/-!
# Parsing expressions with implicit trivia

A grammar here is a family of rules named by some type `R`, each with a body
built from parsing expressions.  Besides the usual PEG operators there is one
expression `trivia` that skips the grammar's blanks and comments, but only
while no enclosing rule is atomic.  The combinators `seqOf`, `many` and
`many1` place it the way a grammar with implicit whitespace expects: between
the parts of a sequence and between the repetitions of a loop, never in front
of the first part.

A rule has one of five kinds.  A plain rule builds a node and is reported
when it fails.  A hidden rule is inlined.  A token rule builds a node without
children and runs its body atomically.  A compound rule runs its body without
trivia but keeps the nodes of its parts.  A trivia rule is hidden and atomic;
blanks and comments are made of such rules.
-/

/-- A parsing expression over rules named by `R`. -/
inductive Expr (R : Type) where
  | text (chars : List Char)
  | textNoCase (chars : List Char)
  | range (lo hi : Char)
  | any
  | start
  | finish
  | trivia
  | call (rule : R)
  | seq (first second : Expr R)
  | alt (first second : Expr R)
  | opt (body : Expr R)
  | star (body : Expr R)
  | ahead (body : Expr R)
  | notAhead (body : Expr R)
  deriving Repr, Inhabited

/-- How a rule takes part in the tree and in error reports. -/
inductive RuleKind where
  | plain
  | hidden
  | token
  | compound
  | trivia
  deriving DecidableEq, Repr

/-- A grammar: the kind and body of every rule, the rules in declaration order
(error reports list rules in that order), their names, and the blanks and
comments that `trivia` skips. -/
structure Grammar (R : Type) where
  rules : List R
  kind : R -> RuleKind
  body : R -> Expr R
  name : R -> String
  blanks : Expr R

/-- A node of the parse tree: its rule, the span of characters it covers and
the nodes built inside it. -/
inductive Node (R : Type) where
  | mk (rule : R) (start stop : Nat) (children : List (Node R))
  deriving Repr, Inhabited

namespace Node

variable {R : Type}

def rule : Node R -> R
  | mk rule _ _ _ => rule

def start : Node R -> Nat
  | mk _ start _ _ => start

def stop : Node R -> Nat
  | mk _ _ stop _ => stop

def children : Node R -> List (Node R)
  | mk _ _ _ children => children

/-- The characters a node covers. -/
def text (input : Array Char) (node : Node R) : String :=
  String.ofList (input.extract node.start node.stop).toList

end Node

namespace Expr

variable {R : Type}

/-- The number of operators in an expression; a grammar's budget of nested
steps is measured by it. -/
def size : Expr R -> Nat
  | seq first second => first.size + second.size + 1
  | alt first second => first.size + second.size + 1
  | opt body => body.size + 1
  | star body => body.size + 1
  | ahead body => body.size + 1
  | notAhead body => body.size + 1
  | _ => 1

/-- Exact text. -/
def lit (text : String) : Expr R :=
  .text text.toList

/-- Text compared without regard to ASCII case. -/
def litNoCase (text : String) : Expr R :=
  .textNoCase text.toList

/-- `first`, then trivia, then `second`. -/
def andThen (first second : Expr R) : Expr R :=
  .seq first (.seq .trivia second)

/-- The parts one after the other, with trivia between them. -/
def seqOf : List (Expr R) -> Expr R
  | [] => .opt .finish
  | [part] => part
  | part :: parts => andThen part (seqOf parts)

/-- The first alternative that matches. -/
def firstOf : List (Expr R) -> Expr R
  | [] => .notAhead (.opt .finish)
  | [choice] => choice
  | choice :: choices => .alt choice (firstOf choices)

/-- Zero or more repetitions, with trivia between them. -/
def many (body : Expr R) : Expr R :=
  .opt (.seq body (.star (.seq .trivia body)))

/-- One or more repetitions, with trivia between them. -/
def many1 (body : Expr R) : Expr R :=
  andThen body (many body)

def asciiDigit : Expr R :=
  .range '0' '9'

def asciiAlpha : Expr R :=
  .alt (.range 'a' 'z') (.range 'A' 'Z')

def asciiAlphanumeric : Expr R :=
  .alt (.range 'a' 'z') (.alt (.range 'A' 'Z') (.range '0' '9'))

/-- A line break: LF, CR LF or CR. -/
def newline : Expr R :=
  firstOf [lit "\n", lit "\r\n", lit "\r"]

end Expr

namespace Grammar

variable {R : Type}

/-- A bound on how deeply evaluation nests while no character is consumed:
no rule can call itself at the same position, so a chain of calls visits
each body at most once. -/
def budget (g : Grammar R) : Nat :=
  g.rules.foldl (fun total rule => total + (g.body rule).size) 0 + g.blanks.size + 2

end Grammar

end Peg
end Refbook
