import Refbook.Regex.Hir
import Refbook.Regex.Property

namespace Refbook
namespace Regex

open Text

/-!
# Searching text

A pattern runs as a program of steps over the characters of a text: take a
character of a class, fork, test a zero-width assertion, jump, or accept.
`Program.ofHir` lays the steps out from the end of the pattern back to its
start, each piece given the step that follows it; repetitions are written
out copy by copy, and an unbounded one ends in a fork that loops back.

`Program.isMatch` asks whether the pattern matches anywhere in the text.
It keeps the set of steps reached after each character and adds the first
step at every position, so every starting point is tried at once; a step
is visited once per position, so the search takes time proportional to the
text times the program.
-/

/-- A step of a program. -/
inductive Step where
  | consume (ranges : Array CodeRange) (next : Nat)
  | fork (first second : Nat)
  | test (look : Look) (next : Nat)
  | goto (next : Nat)
  | accept
  deriving Inhabited

/-- A program and the step it starts at. -/
structure Program where
  steps : Array Step
  start : Nat

/-- Laying out steps. -/
abbrev LayoutM := StateM (Array Step)

/-- Add a step; its number comes back. -/
def addStep (s : Step) : LayoutM Nat :=
  modifyGet fun steps => (steps.size, steps.push s)

/-- A fork into each of the given starts. -/
def forkAll : List Nat -> LayoutM Nat
  | [] => addStep (.consume #[] 0)
  | [s] => pure s
  | s :: rest => do
    let other ← forkAll rest
    addStep (.fork s other)

/-- Copies of a piece, each leading to the next and the last to `next`;
they are laid out from the last. -/
def copies (piece : Nat -> LayoutM Nat) : Nat -> Nat -> LayoutM Nat
  | 0, next => pure next
  | k + 1, next => do
    let start ← piece next
    copies piece k start

/-- Optional copies: each may be skipped to `next`, and skipping one skips
those after it; they are laid out from the last, `after` being what the
copy laid out next leads to. -/
def optionalCopies (piece : Nat -> LayoutM Nat) (next : Nat) : Nat -> Nat -> LayoutM Nat
  | 0, after => pure after
  | k + 1, after => do
    let body ← piece after
    let start ← addStep (.fork body next)
    optionalCopies piece next k start

/-- A loop: a fork into a copy that comes back to it, or on to `next`. -/
def loop (piece : Nat -> LayoutM Nat) (next : Nat) : LayoutM Nat := do
  let here ← addStep (.goto next)
  let body ← piece here
  modify fun steps => steps.set! here (.fork body next)
  return here

mutual

/-- Lay out a pattern before the step `next`; its first step comes back. -/
def layout : Hir -> Nat -> LayoutM Nat
  | .empty, next => pure next
  | .literal cs, next =>
    cs.foldr (fun c acc => do addStep (.consume #[⟨c.toNat, c.toNat⟩] (← acc))) (pure next)
  | .cls c, next => addStep (.consume c.set.ranges.toArray next)
  | .look l, next => addStep (.test l next)
  | .repetition m n _ sub, next => do
    let tail ←
      match n with
      | none => loop (layout sub) next
      | some k => optionalCopies (layout sub) next (k - m) next
    copies (layout sub) m tail
  | .capture _ _ sub, next => layout sub next
  | .concat items, next => layoutConcat items next
  | .alternation items, next => do
    let starts ← layoutBranches items next
    forkAll starts

/-- Lay out a concatenation, its last item first. -/
def layoutConcat : List Hir -> Nat -> LayoutM Nat
  | [], next => pure next
  | h :: rest, next => do
    let after ← layoutConcat rest next
    layout h after

/-- Lay out the branches of an alternation, each before `next`. -/
def layoutBranches : List Hir -> Nat -> LayoutM (List Nat)
  | [], _ => pure []
  | h :: rest, next => do
    let first ← layout h next
    let others ← layoutBranches rest next
    return first :: others

end

/-- The program of a pattern. -/
def Program.ofHir (h : Hir) : Program :=
  let (start, steps) := (do
    let done ← addStep .accept
    layout h done).run #[]
  { steps, start }

/-- The ranges of word characters. -/
def wordRanges : Array CodeRange :=
  wordSet.ranges.toArray

/-- Whether a character is a word character of Unicode. -/
def isWordChar (c : Option Char) : Bool :=
  match c with
  | some c => CodeSet.containsIn wordRanges c.toNat 0 wordRanges.size
  | none => false

/-- Whether a character is an ASCII letter, digit or underscore. -/
def isWordAscii (c : Option Char) : Bool :=
  match c with
  | some c => c.toNat < 0x80 && (c.isAlphanum || c = '_')
  | none => false

/-- Whether an assertion holds between the characters before and after a
position of a text of `size` characters. -/
def Look.holds (l : Look) (pos size : Nat) (before after : Option Char) : Bool :=
  match l with
  | .start => pos = 0
  | .finish => pos = size
  | .startLF => pos = 0 || before == some '\n'
  | .endLF => pos = size || after == some '\n'
  | .startCRLF => pos = 0 || before == some '\n' || (before == some '\r' && after != some '\n')
  | .endCRLF => pos = size || after == some '\r' || (after == some '\n' && before != some '\r')
  | .wordAscii => isWordAscii before != isWordAscii after
  | .wordAsciiNegate => isWordAscii before == isWordAscii after
  | .wordUnicode => isWordChar before != isWordChar after
  | .wordUnicodeNegate => isWordChar before == isWordChar after
  | .wordStartAscii => !isWordAscii before && isWordAscii after
  | .wordEndAscii => isWordAscii before && !isWordAscii after
  | .wordStartUnicode => !isWordChar before && isWordChar after
  | .wordEndUnicode => isWordChar before && !isWordChar after
  | .wordStartHalfAscii => !isWordAscii before
  | .wordEndHalfAscii => !isWordAscii after
  | .wordStartHalfUnicode => !isWordChar before
  | .wordEndHalfUnicode => !isWordChar after

/-- The steps reached from a stack of steps without taking a character:
the marks of visited steps (stamped with `stamp`), the steps that take a
character, and whether the program accepts.  Each step is visited once, so
`fuel` of twice the program's size and the stack suffices. -/
def Program.reach (p : Program) (holds : Look -> Bool) (stamp : Nat) :
    Nat -> List Nat -> Array Nat -> List Nat -> Array Nat × List Nat × Bool
  | 0, _, marks, found => (marks, found, false)
  | _ + 1, [], marks, found => (marks, found, false)
  | fuel + 1, s :: rest, marks, found =>
    if marks.getD s 0 == stamp then p.reach holds stamp fuel rest marks found
    else
      let marks := marks.set! s stamp
      match p.steps.getD s .accept with
      | .consume _ _ => p.reach holds stamp fuel rest marks (s :: found)
      | .fork a b => p.reach holds stamp fuel (a :: b :: rest) marks found
      | .test l next =>
        if holds l then p.reach holds stamp fuel (next :: rest) marks found
        else p.reach holds stamp fuel rest marks found
      | .goto next => p.reach holds stamp fuel (next :: rest) marks found
      | .accept => (marks, found, true)

/-- The steps a character leads to from the steps that take one. -/
def Program.advance (p : Program) (c : Char) (found : List Nat) : List Nat :=
  found.filterMap fun s =>
    match p.steps.getD s .accept with
    | .consume ranges next =>
      if CodeSet.containsIn ranges c.toNat 0 ranges.size then some next else none
    | _ => none

/-- Search from position `pos` on, with the steps reached so far. -/
def Program.searchFrom (p : Program) (chars : Array Char) :
    Nat -> Nat -> List Nat -> Array Nat -> Bool
  | 0, _, _, _ => false
  | fuel + 1, pos, current, marks =>
    let before := if pos = 0 then none else chars[pos - 1]?
    let after := chars[pos]?
    let holds := fun l => l.holds pos chars.size before after
    let stack := p.start :: current
    let (marks, found, accepted) :=
      p.reach holds (pos + 1) (2 * p.steps.size + stack.length + 1) stack marks []
    if accepted then true
    else
      match after with
      | none => false
      | some c => p.searchFrom chars fuel (pos + 1) (p.advance c found) marks

/-- Whether the pattern matches somewhere in the text. -/
def Program.isMatch (p : Program) (text : String) : Bool :=
  let chars := text.toList.toArray
  p.searchFrom chars (chars.size + 1) 0 [] (Array.replicate p.steps.size 0)

end Regex
end Refbook
