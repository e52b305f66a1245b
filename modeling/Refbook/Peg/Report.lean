import Refbook.Peg.Expr

namespace Refbook
namespace Peg

/-!
# Where a syntax error points

A parse works on characters, but errors report a byte offset into the
UTF-8 text, with the twenty characters that follow it.
-/

/-- How many characters of text a syntax error quotes. -/
def fragmentLength : Nat := 20

/-- The byte offset of a character position. -/
def byteOffset (chars : Array Char) (p : Nat) : Nat :=
  (chars.extract 0 p).foldl (fun acc c => acc + c.utf8Size) 0

/-- The characters from a position, at most `fragmentLength` of them. -/
def fragmentAt (chars : Array Char) (p : Nat) : String :=
  String.ofList (chars.extract p (p + fragmentLength)).toList

/-- The first `fragmentLength` characters a node covers. -/
def Node.fragment {R : Type} (chars : Array Char) (node : Node R) : String :=
  String.ofList ((node.text chars).toList.take fragmentLength)

end Peg

namespace Text

/-- Replace each occurrence of `pattern`, left to right, without overlaps. -/
def replaceAll (pattern replacement : List Char) : List Char -> List Char
  | [] => []
  | c :: cs =>
    if pattern ≠ [] ∧ pattern.isPrefixOf (c :: cs) then
      replacement ++ replaceAll pattern replacement ((c :: cs).drop pattern.length)
    else c :: replaceAll pattern replacement cs
termination_by cs => cs.length
decreasing_by
  all_goals simp_wf
  · have h : pattern.length ≥ 1 := by
      cases pattern with
      | nil => simp_all
      | cons _ _ => simp
    omega

end Text
end Refbook
