import Refbook.Relational.Database
import Refbook.Sql.Predicate
import Refbook.Json.Read
import Refbook.Json.Write

namespace Refbook
namespace Relational

/-!
# Evaluating predicates

A predicate is evaluated on one combination of rows: a row of each table it
reads, or no row for a table that a left join did not match.  Its answer is
true, false or unknown (`none`), as comparisons with null are unknown; a row
is selected when the answer is true.

Columns carry their table's affinities, parameters have none, the elements
of a JSON array have no conversion either, and an element read as a real
number has the real affinity.  A list test `x in (…)` compares under the
affinity of `x` alone.

`like` matches `%` to any run of characters and `_` to one character, with
`\` making the next character plain, and tells cases apart; `lower` lowers
ASCII letters only.
-/

/-- The tables a predicate reads, each with its current row, and the
bound parameters. -/
structure Scope where
  tables : List (Table × Option Row)
  params : List (String × Value)

/-- Match a text against a `like` pattern. -/
def likeMatch : List Char -> List Char -> Bool
  | [], s => s.isEmpty
  | '%' :: p, s => (List.range (s.length + 1)).any fun i => likeMatch p (s.drop i)
  | '\\' :: [], _ => false
  | '\\' :: c :: p, s =>
    match s with
    | x :: rest => c == x && likeMatch p rest
    | [] => false
  | '_' :: p, s =>
    match s with
    | _ :: rest => likeMatch p rest
    | [] => false
  | c :: p, s =>
    match s with
    | x :: rest => c == x && likeMatch p rest
    | [] => false

/-- A value read as a real number; text gives the number at its start. -/
def castReal : Value -> Value
  | .null => .null
  | .integer n => .real (Float.ofInt n)
  | .real f => .real f
  | .text s => .real (readReal s).2

/-- Lower-case ASCII letters of a value's text. -/
def lowerValue (v : Value) : Value :=
  match v.asText? with
  | some s => .text (String.ofList (s.toList.map Char.toLower))
  | none => .null

/-- Where a split of a JSON text at its outer commas stands: the nesting
depth, whether inside a string and just after a backslash there, the part
being read (backwards) and the parts read before it (backwards). -/
structure Splitter where
  depth : Nat := 0
  inString : Bool := false
  escaped : Bool := false
  current : List Char := []
  parts : List (List Char) := []

namespace Splitter

/-- Take one more character of the text. -/
def step (st : Splitter) (c : Char) : Splitter :=
  if st.inString then
    let st := { st with current := c :: st.current }
    if st.escaped then { st with escaped := false }
    else if c = '\\' then { st with escaped := true }
    else if c = '"' then { st with inString := false }
    else st
  else if c = '"' then { st with inString := true, current := c :: st.current }
  else if c = '[' || c = '\x7b' then { st with depth := st.depth + 1, current := c :: st.current }
  else if c = ']' || c = '\x7d' then { st with depth := st.depth - 1, current := c :: st.current }
  else if c = ',' && st.depth = 0 then { st with parts := st.current.reverse :: st.parts, current := [] }
  else { st with current := c :: st.current }

/-- The parts of a text between the commas of its outer level. -/
def split (text : List Char) : List (List Char) :=
  let st := text.foldl step {}
  (st.current.reverse :: st.parts).reverse

end Splitter

/-- A text without the blanks around it. -/
def trimBlanks (cs : List Char) : List Char :=
  ((cs.dropWhile isBlank).reverse.dropWhile isBlank).reverse

/-- The text after a string that opens `cs` (its quote already taken). -/
def afterString : List Char -> List Char
  | '\\' :: _ :: rest => afterString rest
  | '"' :: rest => rest
  | _ :: rest => afterString rest
  | [] => []

/-- The value of an object's entry: what follows its key and colon. -/
def entryValue (entry : List Char) : List Char :=
  match trimBlanks entry with
  | '"' :: rest =>
    match (afterString rest).dropWhile isBlank with
    | ':' :: value => value
    | other => other
  | other => other

/-- The value a JSON number's text is read as: whole when it is written
whole and fits 64 bits (a sign included), otherwise the real the engine
reads from the text, which need not be the double it was written from. -/
def numberOfText (raw : List Char) : Value :=
  let (negative, digits) :=
    match raw with
    | '-' :: rest => (true, rest)
    | rest => (false, rest)
  let whole := digits.foldl (fun n c => n * 10 + Scan.digitValue c) 0
  let real : Value := .real (readReal (String.ofList raw)).2
  if digits.isEmpty || !digits.all Char.isDigit then real
  else if negative then (if whole ≤ Nat.pow 2 63 then .integer (-(whole : Int)) else real)
  else if whole < Nat.pow 2 63 then .integer whole else real

/-- The value of a JSON element as the engine sees it, from the text it is
written with: true and false are 1 and 0, a string its characters, arrays
and objects their text, numbers as `numberOfText` reads them. -/
def elementOfText (raw : List Char) : Value :=
  match raw with
  | '"' :: _ =>
    match Json.read (String.ofList raw) with
    | .ok (.string s) => .text s
    | _ => .text (String.ofList raw)
  | 't' :: _ => .integer 1
  | 'f' :: _ => .integer 0
  | 'n' :: _ => .null
  | '[' :: _ | '\x7b' :: _ => .text (String.ofList raw)
  | _ => numberOfText raw

/-- The elements a JSON text is walked as: an array's items, an object's
values, or the value itself, each read from the text it is written with. -/
def elementsOfText (text : String) : List Value :=
  let body := trimBlanks text.toList
  let inner := (body.drop 1).dropLast
  let parts := if (trimBlanks inner).isEmpty then [] else Splitter.split inner
  match body with
  | '[' :: _ => parts.map fun part => elementOfText (trimBlanks part)
  | '\x7b' :: _ => parts.map fun part => elementOfText (trimBlanks (entryValue part))
  | _ => [elementOfText body]

/-- The elements a value is walked as, when it holds well-formed JSON. -/
def elementsOf (v : Value) : Except String (List Value) :=
  match v with
  | .null => .ok []
  | .integer _ | .real _ => .ok [v]
  | .text s =>
    match Json.read s with
    | .ok _ => .ok (elementsOfText s)
    | .error _ => .error "malformed JSON"

/-- Three-valued conjunction. -/
def both : Option Bool -> Option Bool -> Option Bool
  | some false, _ | _, some false => some false
  | some true, some true => some true
  | _, _ => none

/-- Three-valued disjunction. -/
def either : Option Bool -> Option Bool -> Option Bool
  | some true, _ | _, some true => some true
  | some false, some false => some false
  | _, _ => none

/-- Whether an ordering satisfies a comparison. -/
def holds (op : Query.CompareOp) (o : Ordering) : Bool :=
  match op with
  | .eq => o == .eq
  | .ne => o != .eq
  | .lt => o == .lt
  | .le => o != .gt
  | .gt => o == .gt
  | .ge => o != .lt

/-- Compare two values under an affinity; unknown when either is null. -/
def compareUnder (aff : Affinity) (op : Query.CompareOp) (a b : Value) : Option Bool :=
  let (x, y) := Value.forComparison aff a b
  match x, y with
  | .null, _ | _, .null => none
  | _, _ => some (holds op (x.order y))

namespace Scope

/-- The table a qualifier names. -/
def entry? (s : Scope) (table : String) : Option (Table × Option Row) :=
  s.tables.find? fun (t, _) => sameName t.name table

/-- The value and affinity of a term; `element` is the JSON element being
tested, inside a walk of an array. -/
def term (s : Scope) (element : Value) : Sql.Term -> Value × Affinity
  | .column table field =>
    match s.entry? table with
    | some (t, row) =>
      let aff := ((t.column? field).map Column.affinity).getD .none
      ((row.map fun r => t.valueIn r field).getD .null, aff)
    | none => (.null, .none)
  | .param name => ((s.params.lookup name).getD .null, .none)
  | .element false => (element, .blob)
  | .element true => (castReal element, .real)

/-- Every column a predicate names exists: the first one that does not is
reported as the statement's error. -/
def check (s : Scope) (p : Sql.Pred) : Except String Unit :=
  let columnOk (t : Sql.Term) : Except String Unit :=
    match t with
    | .column table field =>
      match s.entry? table with
      | some (tbl, _) =>
        if (tbl.column? field).isSome then .ok ()
        else .error ("no such column: " ++ table ++ "." ++ field)
      | none => .error ("no such column: " ++ table ++ "." ++ field)
    | _ => .ok ()
  let rec walk : Sql.Pred -> Except String Unit
    | .const _ => .ok ()
    | .isNull t | .isNotNull t => columnOk t
    | .compare _ l r => do columnOk l; columnOk r
    | .member t items _ => do columnOk t; items.forM columnOk
    | .like a b _ => do columnOk a; columnOk b
    | .between a lo hi => do columnOk a; columnOk lo; columnOk hi
    | .anyElement c q => do columnOk c; walk q
    | .coversAll c e items _ => do columnOk c; columnOk e; items.forM columnOk
    | .not q | .notCoalesce q => walk q
    | .and l r | .or l r => do walk l; walk r
    | .andAll ps => ps.attach.forM fun ⟨q, _⟩ => walk q
  walk p

/-- Whether `x in (items)` holds, compared under the affinity of `x`. -/
def member (s : Scope) (element : Value) (t : Sql.Term) (items : List Sql.Term) :
    Option Bool :=
  let (x, aff) := s.term element t
  match x with
  | .null => none
  | _ =>
    let results := items.map fun item => compareUnder aff .eq x (s.term element item).1
    if results.any (· == some true) then some true
    else if results.any (· == none) then none
    else some false

/-- Evaluate a predicate. -/
def eval (s : Scope) (element : Value) : Sql.Pred -> Except String (Option Bool)
  | .const b => .ok (some b)
  | .isNull t =>
    match (s.term element t).1 with
    | .null => .ok (some true)
    | _ => .ok (some false)
  | .isNotNull t =>
    match (s.term element t).1 with
    | .null => .ok (some false)
    | _ => .ok (some true)
  | .compare op l r =>
    let (a, affA) := s.term element l
    let (b, affB) := s.term element r
    .ok (compareUnder (Affinity.comparing affA affB) op a b)
  | .member t items negated =>
    .ok ((s.member element t items).map fun found => found != negated)
  | .like subject pattern noCase =>
    let a := (s.term element subject).1
    let b := (s.term element pattern).1
    let (a, b) := if noCase then (lowerValue a, lowerValue b) else (a, b)
    match a.asText?, b.asText? with
    | some text, some pat => .ok (some (likeMatch pat.toList text.toList))
    | _, _ => .ok none
  | .between subject lo hi =>
    let (x, affX) := s.term element subject
    let (a, affA) := s.term element lo
    let (b, affB) := s.term element hi
    .ok (both (compareUnder (Affinity.comparing affX affA) .ge x a)
      (compareUnder (Affinity.comparing affX affB) .le x b))
  | .anyElement column condition => do
    let items ← elementsOf (s.term element column).1
    let found ← items.anyM fun item => do
      let answer ← s.eval item condition
      pure (answer == some true)
    pure (some found)
  | .coversAll column elementTerm items count => do
    let elements ← elementsOf (s.term element column).1
    let chosen := elements.filter fun item => s.member item elementTerm items == some true
    let values := chosen.map fun item => (s.term item elementTerm).1
    let distinct := values.foldl (fun (seen : List Value) v =>
      match v with
      | .null => seen
      | _ => if seen.any (·.same v) then seen else seen ++ [v]) []
    pure (some (distinct.length == count))
  | .not p => do
    let answer ← s.eval element p
    pure (answer.map (!·))
  | .notCoalesce p => do
    let answer ← s.eval element p
    pure (some !(answer.getD false))
  | .and l r => do
    let a ← s.eval element l
    let b ← s.eval element r
    pure (both a b)
  | .or l r => do
    let a ← s.eval element l
    let b ← s.eval element r
    pure (either a b)
  | .andAll ps =>
    ps.attach.foldlM (fun acc ⟨p, _⟩ => do
      let answer ← s.eval element p
      pure (both acc answer)) (some true)

end Scope

end Relational
end Refbook
