namespace Refbook
namespace Text

/-!
# Sets of code points

A `CodeSet` is a set of code points kept as closed ranges in increasing
order that neither overlap nor touch.  Union, intersection, difference,
symmetric difference and complement keep that form.

The surrogates `D800`–`DFFF` are not characters: a range may run across
them, and they are never members of anything a text holds.  Where an
operation needs the code point just after or just before another, it skips
them (`nextCode`, `prevCode`), so the complement of a set never lists them
on its own.

Tables of the standard are written as text: ranges in hex, `lo-hi` or a
single code point, separated by blanks (`CodeSet.ofText`).
-/

/-- A closed range of code points. -/
structure CodeRange where
  lo : Nat
  hi : Nat
  deriving DecidableEq, Repr, Inhabited

/-- The largest code point. -/
def maxCode : Nat := 0x10FFFF

/-- The code point after `c`, skipping the surrogates. -/
def nextCode (c : Nat) : Nat :=
  if c = 0xD7FF then 0xE000 else c + 1

/-- The code point before `c`, skipping the surrogates. -/
def prevCode (c : Nat) : Nat :=
  if c = 0xE000 then 0xD7FF else c - 1

namespace CodeRange

/-- The range between two code points, in whichever order they come. -/
def make (a b : Nat) : CodeRange :=
  if a ≤ b then ⟨a, b⟩ else ⟨b, a⟩

/-- Whether two ranges overlap or touch, so that their union is one range. -/
def touches (r s : CodeRange) : Bool :=
  max r.lo s.lo ≤ min r.hi s.hi + 1

/-- Ranges in increasing order of their start, then of their end. -/
def before (r s : CodeRange) : Bool :=
  r.lo < s.lo || (r.lo == s.lo && r.hi ≤ s.hi)

end CodeRange

/-- A set of code points as increasing ranges that neither overlap nor touch. -/
structure CodeSet where
  ranges : List CodeRange
  deriving DecidableEq, Repr, Inhabited

namespace CodeSet

/-- The empty set. -/
def empty : CodeSet := ⟨[]⟩

/-- Every code point. -/
def full : CodeSet := ⟨[⟨0, maxCode⟩]⟩

/-- The code points from `lo` to `hi`. -/
def range (lo hi : Nat) : CodeSet := ⟨[CodeRange.make lo hi]⟩

/-- Join touching neighbours of ranges sorted by their start, the result
built in reverse. -/
def joinSorted (acc : List CodeRange) : List CodeRange -> List CodeRange
  | [] => acc.reverse
  | r :: rest =>
    match acc with
    | last :: earlier =>
      if last.touches r then joinSorted (⟨min last.lo r.lo, max last.hi r.hi⟩ :: earlier) rest
      else joinSorted (r :: acc) rest
    | [] => joinSorted [r] rest

/-- The set of any ranges: sorted, with touching ranges joined. -/
def ofRanges (rs : List CodeRange) : CodeSet :=
  ⟨joinSorted [] (rs.mergeSort CodeRange.before)⟩

/-- Whether a set has no member. -/
def isEmpty (s : CodeSet) : Bool :=
  s.ranges.isEmpty

/-- Whether a code point is in the set, by halving the ranges. -/
def containsIn (ranges : Array CodeRange) (c : Nat) (lo hi : Nat) : Bool :=
  if _h : lo < hi then
    let mid := (lo + hi) / 2
    match ranges[mid]? with
    | some r =>
      if c < r.lo then containsIn ranges c lo mid
      else if r.hi < c then containsIn ranges c (mid + 1) hi
      else true
    | none => false
  else false
termination_by hi - lo
decreasing_by
  all_goals omega

/-- Whether a code point is in the set. -/
def contains (s : CodeSet) (c : Nat) : Bool :=
  let ranges := s.ranges.toArray
  containsIn ranges c 0 ranges.size

/-- The union of two sets. -/
def union (s t : CodeSet) : CodeSet :=
  ofRanges (s.ranges ++ t.ranges)

/-- The intersection of increasing ranges. -/
def meet : List CodeRange -> List CodeRange -> List CodeRange
  | [], _ => []
  | _, [] => []
  | r :: rs, s :: ss =>
    let lo := max r.lo s.lo
    let hi := min r.hi s.hi
    let here := if lo ≤ hi then [CodeRange.make lo hi] else []
    here ++ (if r.hi < s.hi then meet rs (s :: ss) else meet (r :: rs) ss)
termination_by xs ys => xs.length + ys.length
decreasing_by
  all_goals (simp only [List.length_cons]; omega)

/-- The intersection of two sets. -/
def inter (s t : CodeSet) : CodeSet :=
  ⟨meet s.ranges t.ranges⟩

/-- What is left of one range after taking away increasing ranges, and the
ranges that may still reach past it. -/
def cut (r : CodeRange) : List CodeRange -> List CodeRange × List CodeRange
  | [] => ([r], [])
  | s :: ss =>
    if s.hi < r.lo then cut r ss
    else if r.hi < s.lo then ([r], s :: ss)
    else
      let below := if r.lo < s.lo then [CodeRange.make r.lo (prevCode s.lo)] else []
      if s.hi < r.hi then
        let (rest, left) := cut (CodeRange.make (nextCode s.hi) r.hi) ss
        (below ++ rest, left)
      else (below, s :: ss)

/-- Increasing ranges without the code points of other increasing ranges. -/
def without : List CodeRange -> List CodeRange -> List CodeRange
  | [], _ => []
  | r :: rs, ss =>
    let (kept, left) := cut r ss
    kept ++ without rs left

/-- The code points of the first set that are not in the second. -/
def diff (s t : CodeSet) : CodeSet :=
  ⟨without s.ranges t.ranges⟩

/-- The code points in exactly one of two sets. -/
def symmDiff (s t : CodeSet) : CodeSet :=
  (s.union t).diff (s.inter t)

/-- The gaps after each range up to the next one. -/
def gaps : List CodeRange -> List CodeRange
  | r :: s :: rest => CodeRange.make (nextCode r.hi) (prevCode s.lo) :: gaps (s :: rest)
  | [r] => if r.hi < maxCode then [CodeRange.make (nextCode r.hi) maxCode] else []
  | [] => []

/-- Every code point not in the set. -/
def complement (s : CodeSet) : CodeSet :=
  match s.ranges with
  | [] => full
  | first :: rest =>
    let head := if 0 < first.lo then [CodeRange.make 0 (prevCode first.lo)] else []
    ⟨head ++ gaps (first :: rest)⟩

/-- Whether every member is an ASCII character. -/
def isAscii (s : CodeSet) : Bool :=
  s.ranges.all fun r => r.hi ≤ 0x7F

/-- The value of a hex digit. -/
def hexDigit (c : Char) : Nat :=
  if c.isDigit then c.toNat - 48
  else if 'a' ≤ c ∧ c ≤ 'f' then c.toNat - 87
  else if 'A' ≤ c ∧ c ≤ 'F' then c.toNat - 55
  else 0

/-- A hex number. -/
def hexValue (cs : List Char) : Nat :=
  cs.foldl (fun acc c => acc * 16 + hexDigit c) 0

/-- One range of a table: `lo-hi` or a single code point. -/
def rangeOfText (word : List Char) : CodeRange :=
  match word.span (· ≠ '-') with
  | (lo, _ :: hi) => ⟨hexValue lo, hexValue hi⟩
  | (lo, []) => ⟨hexValue lo, hexValue lo⟩

/-- Words separated by blanks. -/
def words (text : String) : List (List Char) :=
  ((text.splitOn " ").filter (· ≠ "")).map String.toList

/-- A set written as a table: increasing ranges separated by blanks. -/
def ofText (text : String) : CodeSet :=
  ⟨(words text).map rangeOfText⟩

end CodeSet

end Text
end Refbook
