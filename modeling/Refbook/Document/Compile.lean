import Refbook.Document.Like
import Refbook.Query.Catalog
import Refbook.Json.Value
import Refbook.Text.SortedSet

namespace Refbook
namespace Document

/-!
# Filters as document filters

`compile` turns a filter into a document filter: a JSON object of field
paths and operators (`$eq`, `$in`, `$regex`, …).  Fields of joined dicts
are found under `$lookup.<dict>`, and `id` is stored as `_id`.  Decimals
and dates are written in extended form: `{"$numberDecimal": "1.5"}` and
`{"$date": "2024-01-31T00:00:00.000Z"}`.

A condition that nothing satisfies is `{"$in": []}`.  Chains of the same
connective become one array.
-/

open Query

/-- The path of a field in a stored document. -/
def documentPath (dict : Option String) (fieldId : String) : String :=
  let fieldId := if fieldId = "id" then "_id" else fieldId
  match dict with
  | some d => "$lookup." ++ d ++ "." ++ fieldId
  | none => fieldId

/-- A value in extended form. -/
def valueJson : Value -> Json
  | .null => .null
  | .integer n => .ofInt n
  | .decimal d => .object [("$numberDecimal", .string d)]
  | .string s => .string s
  | .boolean b => .bool b
  | .date d => .object [("$date", .string (d.atMidnight.millisText ++ "Z"))]
  | .timestamp t => .object [("$date", .string (t.millisText ++ "Z"))]

/-- An object of one entry. -/
def single (key : String) (value : Json) : Json :=
  .object [(key, value)]

/-- A condition that nothing satisfies. -/
def never : Json :=
  single "$in" (.array [])

/-- A filter compiled to a document filter, and the dicts it names,
sorted. -/
structure Compiled where
  document : Json
  participants : List String
  deriving Repr

/-- Compilation steps: they collect the dicts named and may fail. -/
abbrev Step := StateT (List String) (Except Error)

def lift {α : Type} (e : Except Error α) : Step α :=
  match e with
  | .ok a => pure a
  | .error err => throw err

/-- Resolve a field and give its path. -/
def path (ctx : Context) (field : FieldRef) : Step (String × ResolvedField) := do
  let resolved ← lift (ctx.resolve field)
  modify (insertSorted resolved.dictId)
  let owner := if resolved.joined then some resolved.dictId else none
  pure (documentPath owner resolved.id, resolved)

/-- The operands of a connective, with nested chains of it flattened. -/
def flatten (operator : String) (document : Json) : List Json :=
  match document with
  | .object [(key, .array nested)] => if key = operator then nested else [document]
  | _ => [document]

/-- The filter document of an expression. -/
def filter (ctx : Context) : Expression -> Step Json
  | .empty => pure (.object [])
  | .compare field op operand => do
    let (p, resolved) ← path ctx field
    let value := valueJson (← lift (ctx.operandValue resolved operand))
    let isNull := match value with | .null => true | _ => false
    let condition :=
      match op with
      | .eq => if isNull then single "$eq" .null else value
      | .ne => single "$ne" value
      | .lt => if isNull then never else single "$lt" value
      | .le => if isNull then never else single "$lte" value
      | .gt => if isNull then never else single "$gt" value
      | .ge => if isNull then never else single "$gte" value
    pure (single p condition)
  | .inList field operands negated => do
    let (p, resolved) ← path ctx field
    let values ← operands.mapM fun operand => do
      pure (valueJson (← lift (ctx.operandValue resolved operand)))
    pure (single p (single (if negated then "$nin" else "$in") (.array values)))
  | .quantified field quantifier operands => do
    let (p, resolved) ← path ctx field
    let (values, withNull) ← lift (ctx.elementValues resolved operands)
    let list := Json.array (values.map valueJson)
    let condition :=
      match quantifier with
      | .all => if withNull then never else single "$all" list
      | .any => single "$in" list
    pure (single p condition)
  | .like field pattern noCase => do
    let (p, _) ← path ctx field
    let regex := ("$regex", Json.string (likeToRegex pattern))
    let condition := if noCase then [regex, ("$options", .string "i")] else [regex]
    pure (single p (.object condition))
  | .between field low high => do
    let (p, resolved) ← path ctx field
    let lo := valueJson (← lift (ctx.operandValue resolved low))
    let hi := valueJson (← lift (ctx.operandValue resolved high))
    match lo, hi with
    | .null, _ | _, .null => pure (single p never)
    | _, _ =>
      let range := Json.object [("$gte", lo), ("$lte", hi)]
      if resolved.multivalued then pure (single p (single "$elemMatch" range))
      else pure (single p range)
  | .not inner => do
    let d ← filter ctx inner
    pure (single "$nor" (.array [d]))
  | .and left right => do
    let l ← filter ctx left
    let r ← filter ctx right
    pure (single "$and" (.array (flatten "$and" l ++ flatten "$and" r)))
  | .or left right => do
    let l ← filter ctx left
    let r ← filter ctx right
    pure (single "$or" (.array (flatten "$or" l ++ flatten "$or" r)))

/-- Compile a filter for a dict. -/
def compile (ctx : Context) (e : Expression) : Except Error Compiled :=
  match (filter ctx e).run [] with
  | .ok (document, participants) => .ok { document, participants }
  | .error err => .error err

/-- A compiled filter as `{"document", "participants"}`. -/
def Compiled.toJson (t : Compiled) : Json :=
  .object [("document", t.document), ("participants", .array (t.participants.map .string))]

end Document
end Refbook
