import Refbook.Peg.Run

namespace Refbook
namespace Ddl

/-!
# The grammar of schema scripts

A script is a sequence of statements, each ended by `;`: statements that
create, change and drop tables (dicts), indexes and enums, and statements
that insert, update and delete rows.  Keywords are case-insensitive and are
not reserved: a keyword is a word not followed by a character of an
identifier.  Blanks, `--` line comments and `/* */` block comments separate
tokens.

The rules are listed in declaration order, end of input first: a syntax
error names the rules it expected in that order.
-/

/-- The rules of the script grammar. -/
inductive Rule where
  | eoi
  | whitespace
  | comment
  | script
  | statement
  | createTable
  | engineClause
  | columnDefinition
  | columnType
  | multivalued
  | notNull
  | reference
  | displayName
  | createIndex
  | descending
  | dropIndex
  | createEnum
  | alterTable
  | alterOperation
  | addColumn
  | dropColumn
  | renameColumn
  | setParameter
  | addConstraint
  | dropConstraint
  | addEnumValue
  | dropEnum
  | dropTable
  | insert
  | row
  | update
  | assignment
  | columnRef
  | delete
  | whereClause
  | comparisonOp
  | value
  | scalar
  | json
  | array
  | number
  | boolean
  | null
  | string
  | stringBody
  | idList
  | id
  | quotedName
  | ident
  | identChar
  | kwAdd
  | kwAlter
  | kwArray
  | kwAs
  | kwColumn
  | kwConstraint
  | kwCreate
  | kwDelete
  | kwDesc
  | kwDrop
  | kwEngine
  | kwEnum
  | kwFor
  | kwFrom
  | kwIndex
  | kwInsert
  | kwInto
  | kwOn
  | kwReferences
  | kwRename
  | kwSet
  | kwTable
  | kwTo
  | kwUnique
  | kwUpdate
  | kwValue
  | kwValues
  | kwWhere
  deriving DecidableEq, Repr, Inhabited

namespace Rule

/-- The keyword rules, in declaration order, with their words. -/
def keywords : List (Rule × String) :=
  [(kwAdd, "add"), (kwAlter, "alter"), (kwArray, "array"), (kwAs, "as"), (kwColumn, "column"),
   (kwConstraint, "constraint"), (kwCreate, "create"), (kwDelete, "delete"), (kwDesc, "desc"),
   (kwDrop, "drop"), (kwEngine, "engine"), (kwEnum, "enum"), (kwFor, "for"), (kwFrom, "from"),
   (kwIndex, "index"), (kwInsert, "insert"), (kwInto, "into"), (kwOn, "on"),
   (kwReferences, "references"), (kwRename, "rename"), (kwSet, "set"), (kwTable, "table"),
   (kwTo, "to"), (kwUnique, "unique"), (kwUpdate, "update"), (kwValue, "value"),
   (kwValues, "values"), (kwWhere, "where")]

/-- Every rule, in declaration order. -/
def all : List Rule :=
  [eoi, whitespace, comment, script, statement, createTable, engineClause, columnDefinition,
   columnType, multivalued, notNull, reference, displayName, createIndex, descending, dropIndex,
   createEnum, alterTable, alterOperation, addColumn, dropColumn, renameColumn, setParameter,
   addConstraint, dropConstraint, addEnumValue, dropEnum, dropTable, insert, row, update,
   assignment, columnRef, delete, whereClause, comparisonOp, value, scalar, json, array, number,
   boolean, null, string, stringBody, idList, id, quotedName, ident, identChar] ++
  keywords.map Prod.fst

/-- Whether a rule is a keyword. -/
def isKeyword (r : Rule) : Bool :=
  keywords.any fun (k, _) => k = r

/-- The word of a keyword rule. -/
def word (r : Rule) : String :=
  ((keywords.find? fun (k, _) => k = r).map Prod.snd).getD ""

/-- The name a syntax error uses for a rule. -/
def name : Rule -> String
  | eoi => "EOI"
  | whitespace => "WHITESPACE"
  | comment => "COMMENT"
  | script => "script"
  | statement => "statement"
  | createTable => "create_table"
  | engineClause => "engine_clause"
  | columnDefinition => "column_definition"
  | columnType => "column_type"
  | multivalued => "multivalued"
  | notNull => "not_null"
  | reference => "reference"
  | displayName => "display_name"
  | createIndex => "create_index"
  | descending => "descending"
  | dropIndex => "drop_index"
  | createEnum => "create_enum"
  | alterTable => "alter_table"
  | alterOperation => "alter_operation"
  | addColumn => "add_column"
  | dropColumn => "drop_column"
  | renameColumn => "rename_column"
  | setParameter => "set_parameter"
  | addConstraint => "add_constraint"
  | dropConstraint => "drop_constraint"
  | addEnumValue => "add_enum_value"
  | dropEnum => "drop_enum"
  | dropTable => "drop_table"
  | insert => "insert"
  | row => "row"
  | update => "update"
  | assignment => "assignment"
  | columnRef => "column_ref"
  | delete => "delete"
  | whereClause => "where_clause"
  | comparisonOp => "comparison_op"
  | value => "value"
  | scalar => "scalar"
  | json => "json"
  | array => "array"
  | number => "number"
  | boolean => "boolean"
  | null => "null"
  | string => "string"
  | stringBody => "string_body"
  | idList => "id_list"
  | id => "id"
  | quotedName => "quoted_name"
  | ident => "ident"
  | identChar => "ident_char"
  | r => "kw_" ++ r.word

/-- How each rule takes part in the tree. -/
def kind (r : Rule) : Peg.RuleKind :=
  match r with
  | whitespace | comment => .trivia
  | statement | alterOperation | value | scalar | identChar => .hidden
  | json | string | id => .compound
  | notNull | comparisonOp | number | boolean | null | stringBody | quotedName | ident => .token
  | r => if r.isKeyword then .token else .plain

open Peg.Expr in
/-- A list of `item`s between brackets, separated by commas. -/
def commaList (opening closing : String) (item : Peg.Expr Rule) : Peg.Expr Rule :=
  seqOf [lit opening, item, many (seqOf [lit ",", item]), lit closing]

open Peg.Expr in
/-- The body of each rule. -/
def body : Rule -> Peg.Expr Rule
  | eoi => .finish
  | whitespace => firstOf [lit " ", lit "\t", lit "\r", lit "\n"]
  | comment =>
    .alt (seqOf [lit "--", .star (.seq (.notAhead newline) .any)])
      (seqOf [lit "/*", .star (.seq (.notAhead (lit "*/")) .any), lit "*/"])
  | script => seqOf [.start, many (seqOf [.call statement, lit ";"]), .call eoi]
  | statement =>
    firstOf ([createTable, createIndex, createEnum, dropIndex, alterTable, dropTable, insert,
      update, delete].map .call)
  | createTable =>
    seqOf [.call kwCreate, .call kwTable, .call id, .opt (.call displayName), lit "(",
      .call columnDefinition, many (seqOf [lit ",", .call columnDefinition]), lit ")",
      .opt (.call engineClause)]
  | engineClause => seqOf [.call kwEngine, lit "=", .call string]
  | columnDefinition =>
    seqOf [.call id, .opt (.call displayName), .call columnType, .opt (.call multivalued),
      .opt (.call notNull), .opt (.call reference)]
  | columnType => .call id
  | multivalued => lit "[]"
  | notNull =>
    seqOf [litNoCase "not", many1 (firstOf [lit " ", lit "\t", newline]), litNoCase "null",
      .notAhead (.call identChar)]
  | reference => seqOf [.call kwReferences, .call id]
  | displayName => seqOf [lit "[", .call string, lit "]"]
  | createIndex =>
    seqOf [.call kwCreate, .call kwIndex, .call id, .call kwOn, .call id, .opt (.call idList),
      .opt (.call descending)]
  | descending => .call kwDesc
  | dropIndex => seqOf [.call kwDrop, .call kwIndex, .call id, .call kwOn, .call id]
  | createEnum =>
    seqOf [.call kwCreate, .call kwEnum, .call id, .opt (.call displayName), .call kwFor,
      .call id, .call kwAs, commaList "(" ")" (.call string)]
  | alterTable => seqOf [.call kwAlter, .call kwTable, .call id, .call alterOperation]
  | alterOperation =>
    firstOf ([addColumn, addConstraint, dropColumn, dropConstraint, dropEnum, renameColumn,
      setParameter, addEnumValue].map .call)
  | addColumn => seqOf [.call kwAdd, .call kwColumn, .call columnDefinition]
  | dropColumn => seqOf [.call kwDrop, .call kwColumn, .call id]
  | renameColumn =>
    seqOf [.call kwRename, .call kwColumn, .call id, .call kwTo, .call id,
      .opt (.call displayName)]
  | setParameter => seqOf [.call kwSet, .call id, lit "=", .alt (.call string) (.call null)]
  | addConstraint =>
    seqOf [.call kwAdd, .call kwConstraint, .call id, .call kwUnique, .opt (.call idList)]
  | dropConstraint => seqOf [.call kwDrop, .call kwConstraint, .call id]
  | addEnumValue =>
    seqOf [.call kwAlter, .call kwEnum, .call id, .call kwAdd, .call kwValue, .call string]
  | dropEnum => seqOf [.call kwDrop, .call kwEnum, .call id]
  | dropTable => seqOf [.call kwDrop, .call kwTable, .call id]
  | insert =>
    seqOf [.call kwInsert, .call kwInto, .call id, .opt (.call idList), .call kwValues,
      .call row, many (seqOf [lit ",", .call row])]
  | row => commaList "(" ")" (.call value)
  | update =>
    seqOf [.call kwUpdate, .call id, .call kwSet, .call assignment,
      many (seqOf [lit ",", .call assignment]), .opt (.call whereClause)]
  | assignment => seqOf [.call id, lit "=", .alt (.call value) (.call columnRef)]
  | columnRef => .call id
  | delete => seqOf [.call kwDelete, .call kwFrom, .call id, .opt (.call whereClause)]
  | whereClause => seqOf [.call kwWhere, .call id, .call comparisonOp, .call value]
  | comparisonOp => firstOf ([ "<=", ">=", "<>", "!=", "=", "<", ">"].map lit)
  | value => firstOf ([json, array, number, string, boolean, null].map .call)
  | scalar => firstOf ([json, number, string, boolean, null].map .call)
  | json => seqOf [.call string, lit "::", .call ident]
  | array =>
    seqOf [.call kwArray,
      .opt (seqOf [lit "[", .opt (seqOf [.call scalar, many (seqOf [lit ",", .call scalar])]),
        lit "]"])]
  | number =>
    seqOf [.opt (lit "-"), many1 asciiDigit, .opt (seqOf [lit ".", many1 asciiDigit]),
      .opt (seqOf [litNoCase "e", .opt (.alt (lit "+") (lit "-")), many1 asciiDigit])]
  | boolean => seqOf [.alt (litNoCase "true") (litNoCase "false"), .notAhead (.call identChar)]
  | null => seqOf [litNoCase "null", .notAhead (.call identChar)]
  | string => seqOf [lit "'", .call stringBody, lit "'"]
  | stringBody => many (.alt (lit "''") (.seq (.notAhead (lit "'")) .any))
  | idList => commaList "(" ")" (.call id)
  | id => .alt (seqOf [lit "\"", .call quotedName, lit "\""]) (.call ident)
  | quotedName => many1 (.seq (.notAhead (lit "\"")) .any)
  | ident => seqOf [.alt asciiAlpha (lit "_"), many (.call identChar)]
  | identChar => .alt asciiAlphanumeric (lit "_")
  | r => seqOf [litNoCase r.word, .notAhead (.call identChar)]

end Rule

/-- The script grammar.  Between tokens it skips blanks, then comments each
followed by blanks. -/
def grammar : Peg.Grammar Rule :=
  { rules := Rule.all, kind := Rule.kind, body := Rule.body, name := Rule.name,
    blanks := .seq (.star (.call Rule.whitespace))
      (.star (.seq (.call Rule.comment) (.star (.call Rule.whitespace)))) }

end Ddl
end Refbook
