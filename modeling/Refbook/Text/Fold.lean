import Refbook.Text.CodeSet
import Refbook.Text.Unicode.FoldData

namespace Refbook
namespace Text

/-!
# Simple case folding of sets

Two code points are equal up to case when simple case folding maps them to
the same code point.  The classes of such code points are in the table of
the standard; `CodeSet.caseFold` adds to a set every code point equal up to
case to one of its members.
-/

/-- The classes of code points equal up to case, each in increasing order. -/
def foldClassList : Array (List Nat) :=
  (CodeSet.words Unicode.foldClasses).toArray.map fun word =>
    ((String.ofList word).splitOn ",").map fun part => CodeSet.hexValue part.toList

/-- Every code point in some class, with the index of its class, in
increasing order. -/
def foldIndex : Array (Nat × Nat) :=
  let entries := (List.range foldClassList.size).flatMap fun k =>
    (foldClassList.getD k []).map fun c => (c, k)
  (entries.mergeSort fun a b => a.1 ≤ b.1).toArray

/-- The class index of a code point, by halving the index between `lo` and `hi`. -/
def foldClassAt (c : Nat) (lo hi : Nat) : Option Nat :=
  if _h : lo < hi then
    let mid := (lo + hi) / 2
    let (code, k) := foldIndex.getD mid (0, 0)
    if c < code then foldClassAt c lo mid
    else if code < c then foldClassAt c (mid + 1) hi
    else some k
  else none
termination_by hi - lo
decreasing_by
  all_goals omega

/-- The code points equal up to case to `c`, itself included. -/
def caseClass (c : Nat) : List Nat :=
  match foldClassAt c 0 foldIndex.size with
  | some k => foldClassList.getD k [c]
  | none => [c]

/-- Whether some other code point is equal up to case to `c`. -/
def hasCaseVariant (c : Nat) : Bool :=
  (foldClassAt c 0 foldIndex.size).isSome

namespace CodeSet

/-- The set with every code point equal up to case to one of its members. -/
def caseFold (s : CodeSet) : CodeSet :=
  let ranges := s.ranges.toArray
  let extra := foldClassList.toList.flatMap fun members =>
    if members.any (fun c => containsIn ranges c 0 ranges.size) then
      members.map fun c => CodeRange.mk c c
    else []
  ofRanges (s.ranges ++ extra)

end CodeSet

end Text
end Refbook
