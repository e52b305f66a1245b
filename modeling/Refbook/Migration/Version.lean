import Refbook.Error
import Refbook.Text.Blank
import Refbook.Text.Digit

namespace Refbook
namespace Migration

/-!
# Script versions

A migration script's file name starts with its version: `V1_10__add.sql`
is version `1.10`.  Versions compare segment by segment, as numbers, and
trailing zero segments do not count, so `1.0` and `1.0.0` are the same
version.  Scripts are applied in version order; scripts of one version keep
the order they were given in.
-/

/-- The largest segment a version may have. -/
def maxSegment : Nat := Nat.pow 2 64 - 1

/-- Read an unsigned 64-bit number: ASCII digits after an optional `+`. -/
def readSegment (text : List Char) : Except String Nat :=
  match text with
  | [] => .error "cannot parse integer from empty string"
  | ['+'] | ['-'] => .error "invalid digit found in string"
  | '+' :: digits => go digits 0
  | digits => go digits 0
where
  /-- Accumulate digits left to right; each character is checked before the
  value it makes is. -/
  go : List Char -> Nat -> Except String Nat
    | [], acc => .ok acc
    | c :: cs, acc =>
      if '0' ≤ c ∧ c ≤ '9' then
        let next := acc * 10 + (c.toNat - '0'.toNat)
        if next > maxSegment then .error "number too large to fit in target type"
        else go cs next
      else .error "invalid digit found in string"

/-- A version: its segments as written. -/
structure Version where
  segments : List Nat
  deriving DecidableEq, Repr, Inhabited

namespace Version

/-- The segments up to the last that is not zero. -/
def significant (v : Version) : List Nat :=
  (v.segments.reverse.dropWhile (· = 0)).reverse

/-- Lexicographic order of segment lists. -/
def compareSegments : List Nat -> List Nat -> Ordering
  | [], [] => .eq
  | [], _ :: _ => .lt
  | _ :: _, [] => .gt
  | a :: as, b :: bs =>
    match compare a b with
    | .eq => compareSegments as bs
    | other => other

/-- Versions compare by their significant segments. -/
def order (a b : Version) : Ordering :=
  compareSegments a.significant b.significant

/-- Two versions are the same when their significant segments are. -/
def same (a b : Version) : Bool :=
  a.significant == b.significant

/-- The dotted form. -/
def text (v : Version) : String :=
  String.intercalate "." (v.segments.map toString)

/-- Runs of digits after `V`, each but the first after one underscore, as
many as are followed by an underscore. -/
def fileSegments (name : List Char) : Option (List (List Char)) :=
  match name with
  | 'V' :: rest =>
    let first := rest.takeWhile Text.isDecimalDigit
    if first.isEmpty then none
    else
      let (runs, after) := more (rest.drop first.length) [first] rest.length
      match after with
      | '_' :: _ => some runs
      | _ => if runs.length ≥ 2 then some runs.dropLast else none
  | _ => none
where
  /-- Further `_digits` runs, collected in order; `fuel` bounds the count. -/
  more : List Char -> List (List Char) -> Nat -> List (List Char) × List Char
    | after, runs, 0 => (runs, after)
    | after, runs, fuel + 1 =>
      match after with
      | '_' :: rest =>
        let run := rest.takeWhile Text.isDecimalDigit
        if run.isEmpty then (runs, after)
        else more (rest.drop run.length) (runs ++ [run]) fuel
      | _ => (runs, after)

/-- The version a script's file name starts with. -/
def ofFileName (file : String) : Except Error Version :=
  let malformed := fun reason => Error.migrationFileRead file reason
  match fileSegments file.toList with
  | none => .error (malformed "name does not start with V<n>_<n>_..._")
  | some runs =>
    match runs.mapM readSegment with
    | .ok segments => .ok { segments }
    | .error reason => .error (malformed reason)

/-- Read a dotted version; blanks around a segment are ignored. -/
def parse (dotted : String) : Except Error Version :=
  match ((dotted.toList.splitOn '.').map String.ofList).mapM fun segment =>
      readSegment (Text.trim segment).toList with
  | .ok segments => .ok { segments }
  | .error reason =>
    .error (.validation (Error.quoted dotted ++ " is not a version: " ++ reason))

end Version

/-- Sort by version, keeping the given order among equal versions. -/
def orderByVersion {α : Type} (version : α -> Version) (items : List α) : List α :=
  items.mergeSort fun a b => (version a).order (version b) != .gt

end Migration
end Refbook
