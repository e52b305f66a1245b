import Refbook.Sql.Predicate
import Refbook.Query.Catalog
import Refbook.Query.Encode
import Refbook.Text.SortedSet

namespace Refbook
namespace Sql

/-!
# Filters as SQL

`compile` turns a filter into a predicate over the queried dict's table
and the tables of the dicts it joins.  Each constant is bound as a parameter
named after its dict, its field and its place (`person__age_1`), and the
dicts whose tables are named are collected, sorted.

Null is never bound: `= null` is `is null`, `!= null` is `is not null`, and
any order against null is false.  A negated comparison or list also matches
a null column.  A negation treats unknown as false first.
-/

open Query

/-- A filter compiled to SQL: its predicate, the parameters it binds and
the dicts whose tables it names. -/
structure Compiled where
  pred : Pred
  params : List (String × Value)
  participants : List String
  deriving Repr

/-- The text of a compiled filter. -/
def Compiled.sql (t : Compiled) : String :=
  t.pred.render

/-- Parameters bound and tables named so far. -/
structure Binding where
  params : Array (String × Value) := #[]
  participants : List String := []

/-- Compilation steps: they bind parameters and may fail. -/
abbrev Step := StateT Binding (Except Error)

/-- Lower-case ASCII letters and digits; anything else becomes `_`. -/
def sanitize (word : String) : String :=
  String.ofList (word.toList.map fun c => if c.isAlphanum then c.toLower else '_')

/-- A failing computation as a step. -/
def lift {α : Type} (e : Except Error α) : Step α :=
  match e with
  | .ok a => pure a
  | .error err => throw err

/-- Resolve a field and name its table. -/
def column (ctx : Context) (field : FieldRef) : Step (Term × ResolvedField) := do
  let resolved ← lift (ctx.resolve field)
  modify fun b => { b with participants := insertSorted resolved.dictId b.participants }
  pure (.column resolved.dictId resolved.id, resolved)

/-- Bind a value as the next parameter of a field. -/
def bind (resolved : ResolvedField) (value : Value) : Step Term := do
  let b ← get
  let name := sanitize resolved.dictId ++ "__" ++ sanitize resolved.id ++ "_" ++
    toString (b.params.size + 1)
  set { b with params := b.params.push (name, value) }
  pure (.param name)

/-- The element of a multivalued field's array. -/
def elementOf (resolved : ResolvedField) : Term :=
  .element (resolved.fieldType = .decimal)

/-- Some element of the column's array satisfies the condition. -/
def anyElement (column : Term) (resolved : ResolvedField) (condition : Term -> Pred) : Pred :=
  .anyElement column (condition (elementOf resolved))

/-- The predicate of a filter. -/
def predicate (ctx : Context) : Expression -> Step Pred
  | .empty => pure (.const true)
  | .compare field op operand => do
    let (col, resolved) ← column ctx field
    let value ← lift (ctx.operandValue resolved operand)
    if value = .null then
      pure (match op with
        | .eq => .isNull col
        | .ne => .isNotNull col
        | _ => .const false)
    else
      let p ← bind resolved value
      pure (match op, resolved.multivalued with
        | .ne, true => .not (anyElement col resolved fun e => .compare .eq e p)
        | .ne, false => .or (.compare .ne col p) (.isNull col)
        | op, true => anyElement col resolved fun e => .compare op e p
        | op, false => .compare op col p)
  | .inList field operands negated => do
    let (col, resolved) ← column ctx field
    let (params, withNull) ← operands.foldlM (fun (acc : List Term × Bool) operand => do
      let value ← lift (ctx.operandValue resolved operand)
      if value = .null then pure (acc.1, true)
      else
        let p ← bind resolved value
        pure (acc.1 ++ [p], acc.2)) ([], false)
    let listed : Option Pred :=
      if params.isEmpty then none
      else some (match resolved.multivalued, negated with
        | true, false => anyElement col resolved fun e => .member e params false
        | true, true => .not (anyElement col resolved fun e => .member e params false)
        | false, false => .member col params false
        | false, true => .member col params true)
    pure (match listed, negated, withNull with
      | some l, false, false => l
      | some l, false, true => .or l (.isNull col)
      | some l, true, false => if resolved.multivalued then l else .or l (.isNull col)
      | some l, true, true => .and l (.isNotNull col)
      | none, false, _ => .isNull col
      | none, true, _ => .isNotNull col)
  | .quantified field quantifier operands => do
    let (col, resolved) ← column ctx field
    let (values, withNull) ← lift (ctx.elementValues resolved operands)
    if values.isEmpty ∨ (withNull ∧ quantifier = .all) then pure (.const false)
    else
      let params ← values.mapM (bind resolved)
      pure (match quantifier, resolved.multivalued with
        | .any, true => anyElement col resolved fun e => .member e params false
        | .any, false => .member col params false
        | .all, true => .coversAll col (elementOf resolved) params values.length
        | .all, false =>
          match params with
          | [p] => .compare .eq col p
          | _ => .andAll (params.map fun p => .compare .eq col p))
  | .like field pattern noCase => do
    let (col, resolved) ← column ctx field
    let p ← bind resolved (.string pattern)
    if resolved.multivalued then pure (anyElement col resolved fun e => .like e p noCase)
    else pure (.like col p noCase)
  | .between field low high => do
    let (col, resolved) ← column ctx field
    let lowValue ← lift (ctx.operandValue resolved low)
    let highValue ← lift (ctx.operandValue resolved high)
    if lowValue = .null ∨ highValue = .null then pure (.const false)
    else
      let lo ← bind resolved lowValue
      let hi ← bind resolved highValue
      if resolved.multivalued then pure (anyElement col resolved fun e => .between e lo hi)
      else pure (.between col lo hi)
  | .not inner => do
    let p ← predicate ctx inner
    pure (.notCoalesce p)
  | .and left right => do
    let l ← predicate ctx left
    let r ← predicate ctx right
    pure (.and l r)
  | .or left right => do
    let l ← predicate ctx left
    let r ← predicate ctx right
    pure (.or l r)

/-- Compile a filter for a dict. -/
def compile (ctx : Context) (e : Expression) : Except Error Compiled :=
  match (predicate ctx e).run {} with
  | .ok (pred, b) => .ok { pred, params := b.params.toList, participants := b.participants }
  | .error err => .error err

/-- A compiled filter as `{"sql", "params": [[name, value]…], "participants"}`. -/
def Compiled.toJson (t : Compiled) : Json :=
  .object [("sql", .string t.sql),
    ("params", .array (t.params.map fun (name, value) => .array [.string name, value.toJson])),
    ("participants", .array (t.participants.map .string))]

end Sql
end Refbook
