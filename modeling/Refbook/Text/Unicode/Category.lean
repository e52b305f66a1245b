import Refbook.Text.CodeSet
import Refbook.Text.Unicode.CategoryData

namespace Refbook
namespace Text
namespace Unicode

/-!
# The general category of a code point

`Category.of` finds the general category of a code point in the table of
runs, by halving; `Category.members` is the set of code points of some
categories.  A text is printable, in the sense of messages that quote it,
when none of its characters is a separator other than the space, a control,
a format character, a surrogate, private use or unassigned.
-/

/-- A general category of the standard. -/
inductive Category where
  | lu | ll | lt | lm | lo
  | mn | mc | me
  | nd | nl | no
  | pc | pd | ps | pe | pi | pf | po
  | sm | sc | sk | so
  | zs | zl | zp
  | cc | cf | cs | co | cn
  deriving DecidableEq, Repr, Inhabited

namespace Category

/-- Every category. -/
def all : List Category :=
  [lu, ll, lt, lm, lo, mn, mc, me, nd, nl, no, pc, pd, ps, pe, pi, pf, po, sm, sc, sk, so,
   zs, zl, zp, cc, cf, cs, co, cn]

/-- The two-letter name of a category. -/
def shortName : Category -> String
  | lu => "Lu" | ll => "Ll" | lt => "Lt" | lm => "Lm" | lo => "Lo"
  | mn => "Mn" | mc => "Mc" | me => "Me"
  | nd => "Nd" | nl => "Nl" | no => "No"
  | pc => "Pc" | pd => "Pd" | ps => "Ps" | pe => "Pe" | pi => "Pi" | pf => "Pf" | po => "Po"
  | sm => "Sm" | sc => "Sc" | sk => "Sk" | so => "So"
  | zs => "Zs" | zl => "Zl" | zp => "Zp"
  | cc => "Cc" | cf => "Cf" | cs => "Cs" | co => "Co" | cn => "Cn"

/-- The category of a two-letter name. -/
def ofAbbrev (name : String) : Option Category :=
  all.find? (·.shortName == name)

/-- The runs of the table: first code point and category, in order. -/
def runs : Array (Nat × Category) :=
  (CodeSet.words categoryRuns).toArray.map fun word =>
    match word.span (· ≠ ':') with
    | (start, _ :: name) => (CodeSet.hexValue start, (ofAbbrev (String.ofList name)).getD cn)
    | (start, []) => (CodeSet.hexValue start, cn)

/-- The index of the last run starting at or before `c`, by halving the
runs between `lo` and `hi`. -/
def runAt (c : Nat) (lo hi : Nat) : Nat :=
  if _h : lo + 1 < hi then
    let mid := (lo + hi) / 2
    if (runs.getD mid (0, cn)).1 ≤ c then runAt c mid hi else runAt c lo mid
  else lo
termination_by hi - lo
decreasing_by
  all_goals omega

/-- The general category of a code point. -/
def of (c : Nat) : Category :=
  (runs.getD (runAt c 0 runs.size) (0, cn)).2

/-- The code points whose category is one of the given ones. -/
def members (cats : List Category) : CodeSet :=
  let starts := runs.toList
  let ends := (starts.drop 1).map (·.1 - 1) ++ [maxCode]
  CodeSet.ofRanges ((starts.zip ends).filterMap fun ((start, cat), stop) =>
    if cats.contains cat then some ⟨start, stop⟩ else none)

/-- The categories of characters a message shows as they are: all but
separators, controls, format characters, surrogates, private use and
unassigned code points. -/
def isPrintable : Category -> Bool
  | zs | zl | zp | cc | cf | cs | co | cn => false
  | _ => true

end Category

end Unicode
end Text
end Refbook
