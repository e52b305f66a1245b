import Refbook.Query.Grammar
import Refbook.Peg.Report
import Refbook.Query.Expression

namespace Refbook
namespace Query

/-!
# Reading a filter

`Expression.parse` runs the filter grammar and builds the expression from
its tree.  `or` and `and` chains fold to the left, each `not` wraps once,
and operands are read as constants or casts (a cast reads its literal at
once).  A syntax error is reported at the byte offset of the furthest
failure, with the twenty characters from there.

A `like` pattern may not end in an escape character that escapes nothing:
an odd run of trailing backslashes is refused, at the pattern's literal.
-/

/-- A parse tree of the filter grammar. -/
abbrev Tree := Peg.Node Rule

open Peg (byteOffset fragmentAt fragmentLength)
open Text (replaceAll)

/-- A syntax error about a node of the tree. -/
def unexpected (chars : Array Char) (node : Tree) : Error :=
  .querySyntax (byteOffset chars node.start) (String.ofList ((node.text chars).toList.take fragmentLength))
    ("unexpected " ++ node.rule.name)

/-- An error for a tree the grammar cannot build. -/
def malformed (what : String) : Error :=
  .querySyntax 0 "" what

/-- The text of a string literal, quotes removed and doubled quotes undone. -/
def stringLiteral (chars : Array Char) (node : Tree) : String :=
  match node.children with
  | body :: _ =>
    let text := (body.text chars).toList
    if body.rule = .doubleQuoted then String.ofList (replaceAll ['"', '"'] ['"'] text)
    else String.ofList (replaceAll ['\'', '\''] ['\''] text)
  | [] => ""

/-- An odd run of trailing backslashes leaves the last one escaping nothing. -/
def endsWithEscape (pattern : String) : Bool :=
  (pattern.toList.reverse.takeWhile (· = '\\')).length % 2 = 1

/-- A field from its identifiers. -/
def fieldOf (chars : Array Char) (node : Tree) : FieldRef :=
  match node.children.map (·.text chars) with
  | [dict, name] => { dict := some dict, name }
  | [name] => { dict := none, name }
  | _ => { dict := none, name := "" }

/-- A constant from its literal. -/
def constantOf (chars : Array Char) (node : Tree) : Except Error Constant :=
  match node.rule with
  | .null => .ok Constant.null
  | .boolean => .ok (Constant.make (asciiLower (node.text chars)) .boolean)
  | .decimal => .ok (Constant.make (node.text chars) .decimal)
  | .integer => .ok (Constant.make (node.text chars) .integer)
  | .string => .ok (Constant.make (stringLiteral chars node) .string)
  | _ => .error (unexpected chars node)

/-- An operand: a constant, or a cast read at once. -/
def operandOf (chars : Array Char) (node : Tree) : Except Error Operand := do
  let inner ←
    if node.rule = .operand then
      match node.children with
      | first :: _ => pure first
      | [] => throw (malformed "empty operand")
    else pure node
  if inner.rule = .cast then
    match inner.children with
    | source :: target :: _ =>
      let constant ← constantOf chars source
      let cast ← Cast.make constant (target.text chars)
      pure (.cast cast)
    | _ => throw (malformed "unexpected end of input")
  else
    let constant ← constantOf chars inner
    pure (.constant constant)

/-- A comparison from its field, operator and operand. -/
def comparisonOf (chars : Array Char) (children : List Tree) : Except Error Expression :=
  match children with
  | field :: symbol :: value :: _ =>
    match CompareOp.ofSymbol? (symbol.text chars) with
    | some op => do
      let operand ← operandOf chars value
      pure (.compare (fieldOf chars field) op operand)
    | none => .error (unexpected chars symbol)
  | _ => .error (malformed "unexpected end of input")

/-- A `like` predicate; its pattern may not end in a lone escape. -/
def likeOf (chars : Array Char) (children : List Tree) : Except Error Expression :=
  match children with
  | field :: op :: literal :: _ =>
    let caseInsensitive := asciiLower (op.text chars) = "ilike"
    let pattern := stringLiteral chars literal
    if endsWithEscape pattern then
      .error (.querySyntax (byteOffset chars literal.start)
        (String.ofList (pattern.toList.take fragmentLength))
        "like pattern must not end with the escape character")
    else .ok (.like (fieldOf chars field) pattern caseInsensitive)
  | _ => .error (malformed "unexpected end of input")

/-- The field and operands of a list predicate, in order, with whether a
`not` was written and the quantifier text. -/
structure ListParts where
  field : Option FieldRef := none
  negated : Bool := false
  quantifier : Option Quantifier := none
  values : List Operand := []

/-- Collect the parts of an `in` or quantified list. -/
def listParts (chars : Array Char) : List Tree -> ListParts -> Except Error ListParts
  | [], parts => .ok { parts with values := parts.values.reverse }
  | child :: rest, parts =>
    match child.rule with
    | .field => listParts chars rest { parts with field := some (fieldOf chars child) }
    | .notOp => listParts chars rest { parts with negated := true }
    | .inOp => listParts chars rest parts
    | .quantifier =>
      let q :=
        match asciiLower (child.text chars) with
        | "all" => some Quantifier.all
        | "any" => some Quantifier.any
        | _ => none
      listParts chars rest { parts with quantifier := q }
    | _ => do
      let value ← operandOf chars child
      listParts chars rest { parts with values := value :: parts.values }

/-- An `in` list. -/
def inListOf (chars : Array Char) (children : List Tree) : Except Error Expression := do
  let parts ← listParts chars children {}
  match parts.field with
  | some field => pure (.inList field parts.values parts.negated)
  | none => throw (malformed "in list without a field")

/-- A quantified list. -/
def quantifiedOf (chars : Array Char) (children : List Tree) : Except Error Expression := do
  let parts ← listParts chars children {}
  match parts.field, parts.quantifier with
  | some field, some q => pure (.quantified field q parts.values)
  | none, _ => throw (malformed "quantified list without a field")
  | _, none => throw (malformed "quantified list without all or any")

/-- A range predicate. -/
def betweenOf (chars : Array Char) (children : List Tree) : Except Error Expression := do
  let field := (children.find? (·.rule = .field)).map (fieldOf chars)
  let bounds ← (children.filter (·.rule = .operand)).mapM (operandOf chars)
  match field, bounds with
  | none, _ => throw (malformed "between without a field")
  | some field, low :: high :: _ => pure (.between field low high)
  | some _, _ => throw (malformed "between needs two bounds")

mutual

/-- The expression a node of the tree stands for. -/
def build (chars : Array Char) : Tree -> Except Error Expression
  | .mk rule start stop children =>
    match rule with
    | .expression => foldChildren chars .orOp true none children
    | .conjunction => foldChildren chars .andOp false none children
    | .negation => negateChildren chars 0 none children
    | .comparison => comparisonOf chars children
    | .like => likeOf chars children
    | .inList => inListOf chars children
    | .quantified => quantifiedOf chars children
    | .between => betweenOf chars children
    | _ => .error (unexpected chars (.mk rule start stop children))

/-- Fold the operands of an `or` (`disjunction`) or `and` chain to the
left, skipping the operator nodes. -/
def foldChildren (chars : Array Char) (operator : Rule) (disjunction : Bool) :
    Option Expression -> List Tree -> Except Error Expression
  | some result, [] => .ok result
  | none, [] => .error (malformed "empty logical expression")
  | acc, child :: rest =>
    if child.rule = operator then foldChildren chars operator disjunction acc rest
    else
      match build chars child with
      | .error e => .error e
      | .ok e =>
        let combined :=
          match acc with
          | some left => if disjunction then Expression.or left e else Expression.and left e
          | none => e
        foldChildren chars operator disjunction (some combined) rest

/-- Count the `not`s before the operand and wrap it once for each. -/
def negateChildren (chars : Array Char) : Nat -> Option Expression -> List Tree ->
    Except Error Expression
  | count, inner, [] =>
    .ok (Nat.repeat Expression.not count (inner.getD .empty))
  | count, inner, child :: rest =>
    if child.rule = .notOp then negateChildren chars (count + 1) inner rest
    else
      match build chars child with
      | .error e => .error e
      | .ok e => negateChildren chars count (some e) rest

end

/-- Read a filter. -/
def Expression.parse (text : String) : Except Error Expression :=
  let chars := text.toList.toArray
  match grammar.parse .query chars with
  | .error failure =>
    .error (.querySyntax (byteOffset chars failure.pos) (fragmentAt chars failure.pos)
      (failure.message Rule.name))
  | .ok nodes =>
    match nodes with
    | [] => .ok .empty
    | query :: _ =>
      match query.children.find? (·.rule = .expression) with
      | some expression => build chars expression
      | none => .ok .empty

end Query
end Refbook
