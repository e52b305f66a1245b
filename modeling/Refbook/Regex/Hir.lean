import Refbook.Text.CodeSet

namespace Refbook
namespace Regex

open Text

/-!
# The meaning of a pattern

A translated pattern is a `Hir`: the empty pattern, a string of literal
characters, a class of characters, a zero-width test, a repetition, a
capturing group, a concatenation and an alternation.  Flags are gone: case
insensitivity has become classes, and each `^`, `$`, `.` and `\b` has
become the test or class its flags select.

The constructors `Hir.concatOf`, `Hir.alternationOf`, `Hir.repeatOf` and
`Hir.ofClass` keep a pattern in a normal form: adjacent literals are one
literal, nested concatenations and alternations are flattened, an
alternation of classes and single characters is one class, the common
leading items of an alternation of concatenations are taken out of it, a
class of one character is a literal, and an empty class is the pattern that
never matches.  The sizes of the automata built from a pattern depend on
this form.

`Hir.minLen` and `Hir.maxLen` bound the length in bytes (UTF-8) of what a
pattern matches; `Hir.anchoredStart` and `Hir.anchoredEnd` say whether
every match must begin at the start, or end at the end, of the text.
-/

/-- A zero-width test. -/
inductive Look where
  | start
  | finish
  | startLF
  | endLF
  | startCRLF
  | endCRLF
  | wordAscii
  | wordAsciiNegate
  | wordUnicode
  | wordUnicodeNegate
  | wordStartAscii
  | wordEndAscii
  | wordStartUnicode
  | wordEndUnicode
  | wordStartHalfAscii
  | wordEndHalfAscii
  | wordStartHalfUnicode
  | wordEndHalfUnicode
  deriving DecidableEq, Repr, Inhabited

/-- A class of characters; `bytes` marks a class of bytes, written outside
Unicode mode, whose members are all ASCII here. -/
structure CharClass where
  set : CodeSet
  bytes : Bool
  deriving DecidableEq, Repr, Inhabited

/-- A translated pattern. -/
inductive Hir where
  | empty
  | literal (chars : List Char)
  | cls (c : CharClass)
  | look (l : Look)
  | repetition (min : Nat) (max : Option Nat) (greedy : Bool) (sub : Hir)
  | capture (index : Nat) (name : Option String) (sub : Hir)
  | concat (items : List Hir)
  | alternation (items : List Hir)
  deriving Repr, Inhabited

/-- The largest machine word: lengths beyond it are unknown. -/
def wordMax : Nat := Nat.pow 2 64 - 1

/-- A sum of lengths, unknown when it passes a machine word. -/
def checkedAdd (a b : Nat) : Option Nat :=
  if a + b ≤ wordMax then some (a + b) else none

/-- A product of lengths, unknown when it passes a machine word. -/
def checkedMul (a b : Nat) : Option Nat :=
  if a * b ≤ wordMax then some (a * b) else none

/-- The number of bytes of a character in UTF-8. -/
def utf8Width (c : Nat) : Nat :=
  if c < 0x80 then 1 else if c < 0x800 then 2 else if c < 0x10000 then 3 else 4

/-- The number of bytes of a string of characters in UTF-8. -/
def literalWidth (cs : List Char) : Nat :=
  cs.foldl (fun n c => n + c.utf8Size) 0

namespace CharClass

/-- The shortest member's width in bytes, if there is a member. -/
def minLen (c : CharClass) : Option Nat :=
  match c.set.ranges with
  | [] => none
  | r :: _ => some (if c.bytes then 1 else utf8Width r.lo)

/-- The longest member's width in bytes, if there is a member. -/
def maxLen (c : CharClass) : Option Nat :=
  match c.set.ranges.getLast? with
  | none => none
  | some r => some (if c.bytes then 1 else utf8Width r.hi)

end CharClass

namespace Hir

mutual

/-- Structural equality of patterns. -/
def beq : Hir -> Hir -> Bool
  | .empty, .empty => true
  | .literal a, .literal b => a == b
  | .cls a, .cls b => a == b
  | .look a, .look b => a == b
  | .repetition m1 n1 g1 s1, .repetition m2 n2 g2 s2 => m1 == m2 && n1 == n2 && g1 == g2 && beq s1 s2
  | .capture i1 n1 s1, .capture i2 n2 s2 => i1 == i2 && n1 == n2 && beq s1 s2
  | .concat a, .concat b => beqList a b
  | .alternation a, .alternation b => beqList a b
  | _, _ => false

/-- Structural equality of lists of patterns. -/
def beqList : List Hir -> List Hir -> Bool
  | [], [] => true
  | a :: as, b :: bs => beq a b && beqList as bs
  | _, _ => false

end

instance : BEq Hir := ⟨beq⟩

mutual

/-- The number of nodes of a pattern. -/
def size : Hir -> Nat
  | .repetition _ _ _ sub => size sub + 1
  | .capture _ _ sub => size sub + 1
  | .concat items => sizeList items + 1
  | .alternation items => sizeList items + 1
  | _ => 1

/-- The number of nodes of a list of patterns. -/
def sizeList : List Hir -> Nat
  | [] => 0
  | h :: rest => size h + sizeList rest

end

mutual

/-- The fewest bytes a match takes; none when nothing matches. -/
def minLen : Hir -> Option Nat
  | .empty => some 0
  | .literal cs => some (literalWidth cs)
  | .cls c => c.minLen
  | .look _ => some 0
  | .repetition m _ _ sub => (minLen sub).map fun n => Nat.min (n * m) wordMax
  | .capture _ _ sub => minLen sub
  | .concat items => minLenConcat items (some 0)
  | .alternation items => minLenAlt items none

/-- The fewest bytes of a concatenation, the items before counted in `acc`. -/
def minLenConcat : List Hir -> Option Nat -> Option Nat
  | [], acc => acc
  | h :: rest, acc =>
    match acc, minLen h with
    | some a, some n => minLenConcat rest (some (Nat.min (a + n) wordMax))
    | _, _ => minLenConcat rest none

/-- The fewest bytes of an alternation: the least over its branches, none
as soon as a branch matches nothing. -/
def minLenAlt : List Hir -> Option Nat -> Option Nat
  | [], acc => acc
  | h :: rest, acc =>
    match minLen h with
    | none => none
    | some n =>
      match acc with
      | some a => minLenAlt rest (some (Nat.min a n))
      | none => minLenAlt rest (some n)

end

mutual

/-- The most bytes a match takes; none when unbounded or when nothing
matches. -/
def maxLen : Hir -> Option Nat
  | .empty => some 0
  | .literal cs => some (literalWidth cs)
  | .cls c => c.maxLen
  | .look _ => some 0
  | .repetition _ n _ sub =>
    match n, maxLen sub with
    | some k, some len => checkedMul len k
    | _, _ => none
  | .capture _ _ sub => maxLen sub
  | .concat items => maxLenConcat items (some 0)
  | .alternation items => maxLenAlt items none

/-- The most bytes of a concatenation, the items before counted in `acc`. -/
def maxLenConcat : List Hir -> Option Nat -> Option Nat
  | [], acc => acc
  | h :: rest, acc =>
    match acc, maxLen h with
    | some a, some n => maxLenConcat rest (checkedAdd a n)
    | _, _ => maxLenConcat rest none

/-- The most bytes of an alternation: the greatest over its branches, none
as soon as a branch has no bound. -/
def maxLenAlt : List Hir -> Option Nat -> Option Nat
  | [], acc => acc
  | h :: rest, acc =>
    match maxLen h with
    | none => none
    | some n =>
      match acc with
      | some a => maxLenAlt rest (some (Nat.max a n))
      | none => maxLenAlt rest (some n)

end

/-- Whether a pattern takes no bytes whatever it matches. -/
def isZeroWidth (h : Hir) : Bool :=
  h.maxLen == some 0

mutual

/-- Whether every match begins with the test `look`, before any byte. -/
def leads (look : Look) : Hir -> Bool
  | .look l => l == look
  | .repetition m _ _ sub => 0 < m && leads look sub
  | .capture _ _ sub => leads look sub
  | .concat items => leadsConcat look items
  | .alternation items => leadsAlt look items
  | _ => false

/-- Whether one of the leading zero-width items of a concatenation, up to
and including the first that may take bytes, begins with `look`. -/
def leadsConcat (look : Look) : List Hir -> Bool
  | [] => false
  | h :: rest => leads look h || (h.isZeroWidth && leadsConcat look rest)

/-- Whether every branch begins with `look`. -/
def leadsAlt (look : Look) : List Hir -> Bool
  | [] => true
  | h :: rest => leads look h && leadsAlt look rest

end

mutual

/-- Whether every match ends with the test `look`, after every byte. -/
def trails (look : Look) : Hir -> Bool
  | .look l => l == look
  | .repetition m _ _ sub => 0 < m && trails look sub
  | .capture _ _ sub => trails look sub
  | .concat items => trailsConcat look items
  | .alternation items => trailsAlt look items
  | _ => false

/-- Whether one of the trailing items of a concatenation, from its end back
to and including the last that may take bytes, ends with `look`. -/
def trailsConcat (look : Look) : List Hir -> Bool
  | [] => false
  | h :: rest => trailsConcat look rest || (rest.all isZeroWidth && trails look h)

/-- Whether every branch ends with `look`. -/
def trailsAlt (look : Look) : List Hir -> Bool
  | [] => true
  | h :: rest => trails look h && trailsAlt look rest

end

/-- Whether every match begins at the start of the text. -/
def anchoredStart (h : Hir) : Bool :=
  leads .start h

/-- Whether every match ends at the end of the text. -/
def anchoredEnd (h : Hir) : Bool :=
  trails .finish h

/-- The pattern that never matches: the empty class of bytes. -/
def fail : Hir :=
  .cls ⟨CodeSet.empty, true⟩

/-- A string of characters; the empty one is the empty pattern. -/
def literalOf (cs : List Char) : Hir :=
  if cs.isEmpty then .empty else .literal cs

/-- A class; an empty one never matches and one of a single character is a
literal. -/
def ofClass (c : CharClass) : Hir :=
  match c.set.ranges with
  | [] => fail
  | [r] => if r.lo = r.hi then .literal [Char.ofNat r.lo] else .cls c
  | _ => .cls c

/-- Add an item to a concatenation being built (items last first, pending
literal characters last first): literals join, empty patterns vanish. -/
def pushConcat (acc : List Hir × List Char) (h : Hir) : List Hir × List Char :=
  let (out, pending) := acc
  match h with
  | .literal cs => (out, cs.reverse ++ pending)
  | .empty => (out, pending)
  | h => (h :: (if pending.isEmpty then out else .literal pending.reverse :: out), [])

/-- A concatenation in normal form. -/
def concatOf (items : List Hir) : Hir :=
  let (out, pending) := items.foldl (fun acc h =>
    match h with
    | .concat inner => inner.foldl pushConcat acc
    | h => pushConcat acc h) ([], [])
  let out := if pending.isEmpty then out else .literal pending.reverse :: out
  match out.reverse with
  | [] => .empty
  | [h] => h
  | items => .concat items

/-- The single characters of an alternation, if every branch is one. -/
def singleChars : List Hir -> Option (List Char)
  | [] => some []
  | .literal [c] :: rest => (singleChars rest).map (c :: ·)
  | _ => none

/-- The union of the classes of an alternation, if every branch is a class. -/
def classUnion : List Hir -> Option CodeSet
  | [] => some CodeSet.empty
  | .cls c :: rest => (classUnion rest).map c.set.union
  | _ => none

/-- The number of equal leading items of two lists. -/
def commonLength : List Hir -> List Hir -> Nat
  | a :: as, b :: bs => if a == b then commonLength as bs + 1 else 0
  | _, _ => 0

/-- The length of the leading items all concatenations share, if every
branch is a concatenation and they share some. -/
def sharedLead (first : List Hir) : List Hir -> Option Nat
  | [] => if first.isEmpty then none else some first.length
  | .concat items :: rest =>
    let k := commonLength first items
    if k = 0 then none else sharedLead (first.take k) rest
  | _ :: _ => none

/-- An alternation in normal form; `fuel` bounds the nested alternations
built when a shared lead is taken out. -/
def alternationWith : Nat -> List Hir -> Hir
  | 0, items => .alternation items
  | fuel + 1, items =>
    let flat := items.flatMap fun h =>
      match h with
      | .alternation inner => inner
      | h => [h]
    match flat with
    | [] => fail
    | [h] => h
    | first :: rest =>
      match singleChars flat with
      | some cs => ofClass ⟨CodeSet.ofRanges (cs.map fun c => ⟨c.toNat, c.toNat⟩), false⟩
      | none =>
        match classUnion flat with
        | some set => ofClass ⟨set, false⟩
        | none =>
          match first with
          | .concat lead =>
            match sharedLead lead rest with
            | some k =>
              let tails := flat.map fun h =>
                match h with
                | .concat items => concatOf (items.drop k)
                | h => h
              concatOf (lead.take k ++ [alternationWith fuel tails])
            | none => .alternation flat
          | _ => .alternation flat

/-- An alternation in normal form. -/
def alternationOf (items : List Hir) : Hir :=
  alternationWith (sizeList items + 1) items

/-- A repetition in normal form: a pattern that takes no bytes is repeated
at most once, `{0}` is the empty pattern and `{1}` the pattern itself. -/
def repeatOf (min : Nat) (max : Option Nat) (greedy : Bool) (sub : Hir) : Hir :=
  let (min, max) :=
    if sub.maxLen == some 0 then (Nat.min min 1, some ((max.map (Nat.min · 1)).getD 1))
    else (min, max)
  if min = 0 && max == some 0 then .empty
  else if min = 1 && max == some 1 then sub
  else .repetition min max greedy sub

end Hir

end Regex
end Refbook
