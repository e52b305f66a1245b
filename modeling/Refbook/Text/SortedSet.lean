namespace Refbook

/-!
# Sorted sets of names

Names kept in a list sorted by their characters, each once: the dicts a
query names, the engines a session offers.
-/

/-- Insert a name into a sorted list of distinct names. -/
def insertSorted (x : String) : List String -> List String
  | [] => [x]
  | y :: ys => if x = y then y :: ys else if x < y then x :: y :: ys else y :: insertSorted x ys

/-- A set of names, kept sorted. -/
def sortedSet (names : List String) : List String :=
  names.foldl (fun acc s => insertSorted s acc) []

end Refbook
