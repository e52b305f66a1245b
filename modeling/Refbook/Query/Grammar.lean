import Refbook.Peg.Run

namespace Refbook
namespace Query

/-!
# The grammar of filter expressions

A filter is a boolean combination of predicates on fields.  `and` binds
tighter than `or`, and `not` tighter than both; keywords are
case-insensitive and cannot be used as identifiers.  Blanks separate tokens.

The rules are listed in declaration order, end of input first: a syntax error
names the rules it expected in that order.
-/

/-- The rules of the filter grammar. -/
inductive Rule where
  | eoi
  | whitespace
  | query
  | expression
  | conjunction
  | negation
  | primary
  | predicate
  | comparison
  | quantified
  | like
  | inList
  | between
  | field
  | ident
  | identChar
  | keyword
  | comparisonOp
  | orOp
  | andOp
  | notOp
  | inOp
  | likeOp
  | betweenOp
  | quantifier
  | operand
  | cast
  | castType
  | literal
  | null
  | boolean
  | decimal
  | exponent
  | integer
  | string
  | singleQuoted
  | doubleQuoted
  deriving DecidableEq, Repr, Inhabited

namespace Rule

/-- Every rule, in declaration order. -/
def all : List Rule :=
  [eoi, whitespace, query, expression, conjunction, negation, primary, predicate,
   comparison, quantified, like, inList, between, field, ident, identChar, keyword,
   comparisonOp, orOp, andOp, notOp, inOp, likeOp, betweenOp, quantifier, operand, cast,
   castType, literal, null, boolean, decimal, exponent, integer, string, singleQuoted,
   doubleQuoted]

/-- The name a syntax error uses for a rule. -/
def name : Rule -> String
  | eoi => "EOI"
  | whitespace => "WHITESPACE"
  | query => "query"
  | expression => "expression"
  | conjunction => "conjunction"
  | negation => "negation"
  | primary => "primary"
  | predicate => "predicate"
  | comparison => "comparison"
  | quantified => "quantified"
  | like => "like"
  | inList => "in_list"
  | between => "between"
  | field => "field"
  | ident => "ident"
  | identChar => "ident_char"
  | keyword => "keyword"
  | comparisonOp => "comparison_op"
  | orOp => "or_op"
  | andOp => "and_op"
  | notOp => "not_op"
  | inOp => "in_op"
  | likeOp => "like_op"
  | betweenOp => "between_op"
  | quantifier => "quantifier"
  | operand => "operand"
  | cast => "cast"
  | castType => "cast_type"
  | literal => "literal"
  | null => "null"
  | boolean => "boolean"
  | decimal => "decimal"
  | exponent => "exponent"
  | integer => "integer"
  | string => "string"
  | singleQuoted => "single_quoted"
  | doubleQuoted => "double_quoted"

/-- How each rule takes part in the tree. -/
def kind : Rule -> Peg.RuleKind
  | whitespace => .trivia
  | primary | predicate | identChar | keyword | literal | exponent => .hidden
  | field | cast | string => .compound
  | ident | comparisonOp | orOp | andOp | notOp | inOp | likeOp | betweenOp | quantifier
  | castType | null | boolean | decimal | integer | singleQuoted | doubleQuoted => .token
  | _ => .plain

open Peg.Expr in
/-- A keyword: the word, not followed by a character of an identifier. -/
def keywordOp (words : List String) : Peg.Expr Rule :=
  .seq (firstOf (words.map litNoCase)) (.notAhead (.call identChar))

open Peg.Expr in
/-- A list of operands between brackets, separated by commas. -/
def operands (opening closing : String) : List (Peg.Expr Rule) :=
  [lit opening, .call operand, many (seqOf [lit ",", .call operand]), lit closing]

open Peg.Expr in
/-- The body of each rule. -/
def body : Rule -> Peg.Expr Rule
  | eoi => .finish
  | whitespace => firstOf [lit " ", lit "\t", lit "\r", lit "\n"]
  | query => seqOf [.start, .opt (.call expression), .call eoi]
  | expression => seqOf [.call conjunction, many (seqOf [.call orOp, .call conjunction])]
  | conjunction => seqOf [.call negation, many (seqOf [.call andOp, .call negation])]
  | negation => seqOf [many (.call notOp), .call primary]
  | primary => firstOf [seqOf [lit "(", .call expression, lit ")"], .call predicate]
  | predicate =>
    firstOf [.call between, .call inList, .call quantified, .call like, .call comparison]
  | comparison => seqOf [.call field, .call comparisonOp, .call operand]
  | quantified => seqOf ([.call field, .call quantifier] ++ operands "[" "]")
  | like => seqOf [.call field, .call likeOp, .call string]
  | inList => seqOf ([.call field, .opt (.call notOp), .call inOp] ++ operands "(" ")")
  | between =>
    seqOf [.call field, .call betweenOp, .call operand, .call andOp, .call operand]
  | field => seqOf [.call ident, .opt (seqOf [lit ".", .call ident])]
  | ident =>
    seqOf [.notAhead (seqOf [.call keyword, .notAhead (.call identChar)]),
      .alt asciiAlpha (lit "_"), many (.call identChar)]
  | identChar => .alt asciiAlphanumeric (lit "_")
  | keyword =>
    firstOf ([ "and", "or", "not", "in", "ilike", "like", "between", "true", "false", "null"].map
      litNoCase)
  | comparisonOp => firstOf ([ "<=", ">=", "<>", "!=", "=", "<", ">"].map lit)
  | orOp => keywordOp ["or"]
  | andOp => keywordOp ["and"]
  | notOp => keywordOp ["not"]
  | inOp => keywordOp ["in"]
  | likeOp => keywordOp ["ilike", "like"]
  | betweenOp => keywordOp ["between"]
  | quantifier => keywordOp ["all", "any"]
  | operand => .alt (.call cast) (.call literal)
  | cast => seqOf [firstOf [.call string, .call decimal, .call integer], lit "::", .call castType]
  | castType => many1 asciiAlpha
  | literal => firstOf [.call null, .call boolean, .call decimal, .call integer, .call string]
  | null => keywordOp ["null"]
  | boolean => keywordOp ["true", "false"]
  | decimal =>
    seqOf [.opt (lit "-"), many1 asciiDigit,
      .alt (seqOf [lit ".", many1 asciiDigit, .opt (.call exponent)]) (.call exponent)]
  | exponent => seqOf [litNoCase "e", .opt (.alt (lit "+") (lit "-")), many1 asciiDigit]
  | integer => seqOf [.opt (lit "-"), many1 asciiDigit]
  | string =>
    .alt (seqOf [lit "'", .call singleQuoted, lit "'"])
      (seqOf [lit "\"", .call doubleQuoted, lit "\""])
  | singleQuoted => many (.alt (lit "''") (.seq (.notAhead (lit "'")) .any))
  | doubleQuoted => many (.alt (lit "\"\"") (.seq (.notAhead (lit "\"")) .any))

end Rule

/-- The filter grammar. -/
def grammar : Peg.Grammar Rule :=
  { rules := Rule.all, kind := Rule.kind, body := Rule.body, name := Rule.name,
    blanks := .star (.call Rule.whitespace) }

end Query
end Refbook
