import Refbook.Ddl.Grammar
import Refbook.Ddl.Statement
import Refbook.Peg.Report
import Refbook.Error

namespace Refbook
namespace Ddl

/-!
# Reading a script

`parseScript` runs the script grammar and builds each statement from its
tree.  Keywords carry no information and are skipped.  A string literal's
doubled quotes are undone; a quoted identifier is kept as written between
its quotes.  A syntax error is reported at the byte offset of the furthest
failure, with the twenty characters from there; a `set` of a parameter
that does not exist is refused at the operation, quoting its own text.
-/

/-- A parse tree of the script grammar. -/
abbrev Tree := Peg.Node Rule

open Peg (byteOffset fragmentAt)

/-- A syntax error about a node of the tree. -/
def refuse (chars : Array Char) (node : Tree) (message : String) : Error :=
  .ddlSyntax (byteOffset chars node.start) (node.fragment chars) message

/-- The children of a node that are not keywords. -/
def significant (node : Tree) : List Tree :=
  node.children.filter fun child => !child.rule.isKeyword

/-- The name an identifier stands for. -/
def identifier (chars : Array Char) (node : Tree) : String :=
  match node.children with
  | inner :: _ => inner.text chars
  | [] => ""

/-- The text of a string literal, quotes removed and doubled quotes undone. -/
def stringText (chars : Array Char) (node : Tree) : String :=
  match node.children with
  | body :: _ => String.ofList (Text.replaceAll ['\'', '\''] ['\''] (body.text chars).toList)
  | [] => ""

/-- The name of a `['Name']` clause. -/
def displayName (chars : Array Char) (node : Tree) : String :=
  match node.children with
  | literal :: _ => stringText chars literal
  | [] => ""

/-- The identifiers among some nodes. -/
def idsOf (chars : Array Char) (nodes : List Tree) : List String :=
  (nodes.filter fun node => node.rule = .id).map (identifier chars)

/-- The first identifier among some nodes. -/
def firstId (chars : Array Char) (nodes : List Tree) : String :=
  (idsOf chars nodes).headD ""

/-- The identifiers of a bracketed list. -/
def idList (chars : Array Char) (node : Tree) : List String :=
  node.children.map (identifier chars)

/-- The first two of some names. -/
def firstTwo (names : List String) : String × String :=
  (names.headD "", (names.drop 1).headD "")

/-- A column definition. -/
def columnOf (chars : Array Char) (node : Tree) : Column :=
  (significant node).foldl (fun column child =>
    match child.rule with
    | .id => { column with id := identifier chars child }
    | .displayName => { column with name := some (displayName chars child) }
    | .columnType => { column with typeToken := firstId chars (significant child) }
    | .multivalued => { column with multivalued := true }
    | .notNull => { column with required := true }
    | .reference => { column with reference := some (firstId chars (significant child)) }
    | _ => column)
    { id := "", name := none, typeToken := "", multivalued := false, required := false,
      reference := none }

mutual

/-- A literal. -/
def literalOf (chars : Array Char) : Tree -> Except Error Literal
  | node@(.mk rule _ _ children) =>
    match rule with
    | .null => .ok .null
    | .number => .ok (.number (node.text chars))
    | .string => .ok (.string (stringText chars node))
    | .boolean =>
      .ok (.boolean ((node.text chars).toList.map Char.toLower = "true".toList))
    | .json =>
      .ok (.json (match children with
        | literal :: _ => stringText chars literal
        | [] => ""))
    | .array => do
      let items ← literalsOf chars children
      pure (.array items)
    | _ => .error (refuse chars node "unexpected value")

/-- The literals among some nodes, in order; keywords are skipped. -/
def literalsOf (chars : Array Char) : List Tree -> Except Error (List Literal)
  | [] => .ok []
  | node :: nodes =>
    if node.rule.isKeyword then literalsOf chars nodes
    else do
      let first ← literalOf chars node
      let rest ← literalsOf chars nodes
      pure (first :: rest)

end

/-- An assignment of an update. -/
def assignmentOf (chars : Array Char) (node : Tree) : Except Error Assignment :=
  match node.children with
  | [] => .ok { column := "", value := .value .null }
  | [target] => .ok { column := identifier chars target, value := .value .null }
  | target :: source :: _ =>
    let column := identifier chars target
    if source.rule = .columnRef then
      .ok { column, value := .column (firstId chars (significant source)) }
    else do
      let literal ← literalOf chars source
      pure { column, value := .value literal }

/-- A `where` clause. -/
def conditionOf (chars : Array Char) (node : Tree) : Except Error Condition :=
  (significant node).foldlM (fun condition child =>
    match child.rule with
    | .id => pure { condition with column := identifier chars child }
    | .comparisonOp =>
      pure { condition with op := (Query.CompareOp.ofSymbol? (child.text chars)).getD .eq }
    | _ => do
      let value ← literalOf chars child
      pure { condition with value })
    { column := "", op := .eq, value := .null }

/-- A change to a table. -/
def alterationOf (chars : Array Char) (node : Tree) : Except Error Alteration :=
  let children := significant node
  match node.rule with
  | .addColumn =>
    match children with
    | definition :: _ => .ok (.addColumn (columnOf chars definition))
    | [] => .error (refuse chars node "missing column definition")
  | .dropColumn => .ok (.dropColumn (firstId chars children))
  | .renameColumn =>
    let (source, target) := firstTwo (idsOf chars children)
    let name := (children.filter fun child => child.rule = .displayName).getLast?.map
      (displayName chars)
    .ok (.renameColumn source target name)
  | .setParameter =>
    let parameterName := (children.head?.map (identifier chars)).getD ""
    match TableParameter.ofName? parameterName with
    | none =>
      .error (refuse chars node ("unknown table parameter " ++ Error.quoted parameterName))
    | some parameter =>
      let value :=
        match children.drop 1 with
        | literal :: _ => if literal.rule = .string then some (stringText chars literal) else none
        | [] => none
      .ok (.setParameter parameter value)
  | .addConstraint =>
    let id := ((idsOf chars children).getLast?).getD ""
    let columns :=
      ((children.filter fun child => child.rule = .idList).getLast?.map (idList chars)).getD []
    .ok (.addConstraint id columns)
  | .dropConstraint => .ok (.dropConstraint (firstId chars children))
  | .addEnumValue =>
    let enumId := ((idsOf chars children).getLast?).getD ""
    let value :=
      ((children.filter fun child => child.rule = .string).getLast?.map (stringText chars)).getD ""
    .ok (.addEnumValue enumId value)
  | .dropEnum => .ok (.dropEnum (firstId chars children))
  | _ => .error (refuse chars node "unexpected alter operation")

/-- The last of the nodes of a rule, read. -/
def lastOf (rule : Rule) (read : Tree -> α) (nodes : List Tree) : Option α :=
  (nodes.filter fun node => node.rule = rule).getLast?.map read

/-- The rows of an insert. -/
def rowsOf (chars : Array Char) (nodes : List Tree) : Except Error (List (List Literal)) :=
  (nodes.filter fun node => node.rule = .row).mapM fun row => literalsOf chars row.children

/-- A statement. -/
def statementOf (chars : Array Char) (node : Tree) : Except Error Statement :=
  let children := significant node
  let table := ((idsOf chars children).getLast?).getD ""
  match node.rule with
  | .createTable =>
    let engine := lastOf .engineClause (fun clause =>
      (significant clause).head?.map (stringText chars)) children
    .ok (.createTable table (lastOf .displayName (displayName chars) children)
      ((children.filter fun child => child.rule = .columnDefinition).map (columnOf chars))
      engine.join)
  | .createIndex =>
    let (id, table) := firstTwo (idsOf chars children)
    .ok (.createIndex id table (children.any fun child => child.rule = .descending)
      ((lastOf .idList (idList chars) children).getD []))
  | .dropIndex =>
    let (id, table) := firstTwo (idsOf chars children)
    .ok (.dropIndex id table)
  | .createEnum =>
    let (id, table) := firstTwo (idsOf chars children)
    .ok (.createEnum id (lastOf .displayName (displayName chars) children) table
      ((children.filter fun child => child.rule = .string).map (stringText chars)))
  | .alterTable =>
    match children with
    | target :: operation :: _ => do
      let alteration ← alterationOf chars operation
      pure (.alterTable (identifier chars target) alteration)
    | _ => .error (refuse chars node "missing alter operation")
  | .dropTable => .ok (.dropTable (firstId chars children))
  | .insert => do
    let rows ← rowsOf chars children
    pure (.insert table ((lastOf .idList (idList chars) children).getD []) rows)
  | .update => do
    let assignments ←
      (children.filter fun child => child.rule = .assignment).mapM (assignmentOf chars)
    let filter ← (lastOf .whereClause (conditionOf chars) children).mapM id
    pure (.update table assignments filter)
  | .delete => do
    let filter ← (lastOf .whereClause (conditionOf chars) children).mapM id
    pure (.delete table filter)
  | _ => .error (refuse chars node "unexpected statement")

/-- Read a script into its statements, in order. -/
def parseScript (text : String) : Except Error (List Statement) :=
  let chars := text.toList.toArray
  match grammar.parse .script chars with
  | .error failure =>
    .error (.ddlSyntax (byteOffset chars failure.pos) (fragmentAt chars failure.pos)
      (failure.message Rule.name))
  | .ok nodes =>
    match nodes with
    | [] => .ok []
    | script :: _ => (script.children.filter fun child => child.rule ≠ .eoi).mapM (statementOf chars)

end Ddl
end Refbook
