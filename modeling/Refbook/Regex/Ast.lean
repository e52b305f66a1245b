namespace Refbook
namespace Regex

/-!
# The syntax tree of a regular expression

A pattern parses into an `Ast` whose every node carries the span of text it
came from.  Spans are what errors point at: a `Position` knows its byte
offset, its line and its column (both counted from one, columns in
characters).

Literals, `.`, assertions and the classes `\d`, `\pL`, `[…]` are leaves.
Groups, repetitions, alternations and concatenations hold other nodes.  The
inside of brackets is a `ClassTree`: items, unions of items, nested
brackets, and the set operations `&&`, `--` and `~~` on them.

`ErrorKind` names every way a pattern can be refused; `ErrorKind.message`
says it in words.
-/

/-- A place in the pattern. -/
structure Position where
  offset : Nat
  line : Nat
  column : Nat
  deriving DecidableEq, Repr, Inhabited

/-- A stretch of the pattern, from `start` up to but not including `stop`. -/
structure Span where
  start : Position
  stop : Position
  deriving DecidableEq, Repr, Inhabited

/-- A span that lies on one line. -/
def Span.isOneLine (s : Span) : Bool :=
  s.start.line == s.stop.line

/-- A span that starts where another does and ends elsewhere. -/
def Span.withStop (s : Span) (stop : Position) : Span :=
  { s with stop }

/-- A zero-width test. -/
inductive Assertion where
  | startLine
  | endLine
  | startText
  | endText
  | wordBoundary
  | notWordBoundary
  | wordStart
  | wordEnd
  | wordStartHalf
  | wordEndHalf
  deriving DecidableEq, Repr, Inhabited

/-- The classes `\d`, `\s` and `\w`. -/
inductive PerlKind where
  | digit
  | space
  | word
  deriving DecidableEq, Repr, Inhabited

/-- The classes `[:name:]` inside brackets. -/
inductive AsciiKind where
  | alnum | alpha | ascii | blank | cntrl | digit | graph | lower | print | punct | space
  | upper | word | xdigit
  deriving DecidableEq, Repr, Inhabited

/-- The ASCII class of a name. -/
def AsciiKind.ofName : String -> Option AsciiKind
  | "alnum" => some .alnum
  | "alpha" => some .alpha
  | "ascii" => some .ascii
  | "blank" => some .blank
  | "cntrl" => some .cntrl
  | "digit" => some .digit
  | "graph" => some .graph
  | "lower" => some .lower
  | "print" => some .print
  | "punct" => some .punct
  | "space" => some .space
  | "upper" => some .upper
  | "word" => some .word
  | "xdigit" => some .xdigit
  | _ => none

/-- What a `\p` class asks for: one letter, a name, or a name and a value
(`=`, `:` or `!=` between them, the last one negating). -/
inductive Query where
  | oneLetter (c : Char)
  | named (name : String)
  | namedValue (notEqual : Bool) (name value : String)
  deriving DecidableEq, Repr, Inhabited

/-- A character written in the pattern.  `isByte` marks a two-digit `\x`
escape, which outside Unicode mode means a byte. -/
structure Literal where
  span : Span
  c : Char
  isByte : Bool := false
  deriving DecidableEq, Repr, Inhabited

/-- A set operation inside brackets. -/
inductive ClassOp where
  | intersection
  | difference
  | symmetricDifference
  deriving DecidableEq, Repr, Inhabited

/-- The inside of brackets. -/
inductive ClassTree where
  | empty (span : Span)
  | literal (lit : Literal)
  | range (span : Span) (lo hi : Literal)
  | ascii (span : Span) (kind : AsciiKind) (negated : Bool)
  | unicode (span : Span) (query : Query) (negated : Bool)
  | perl (span : Span) (kind : PerlKind) (negated : Bool)
  | bracketed (span : Span) (negated : Bool) (body : ClassTree)
  | union (span : Span) (items : List ClassTree)
  | op (span : Span) (kind : ClassOp) (lhs rhs : ClassTree)
  deriving Repr, Inhabited

/-- The span of an item inside brackets. -/
def ClassTree.span : ClassTree -> Span
  | .empty s | .range s _ _ | .ascii s _ _ | .unicode s _ _ | .perl s _ _ | .bracketed s _ _
  | .union s _ | .op s _ _ _ => s
  | .literal lit => lit.span

/-- A flag of `(?flags)`. -/
inductive Flag where
  | caseInsensitive
  | multiLine
  | dotMatchesNewLine
  | swapGreed
  | unicode
  | crlf
  | ignoreWhitespace
  deriving DecidableEq, Repr, Inhabited

/-- An item of a flag group: a flag, or the `-` that negates those after it. -/
inductive FlagItem where
  | negation
  | flag (f : Flag)
  deriving DecidableEq, Repr, Inhabited

/-- How often a repetition repeats. -/
inductive RepeatKind where
  | zeroOrOne
  | zeroOrMore
  | oneOrMore
  | exactly (n : Nat)
  | atLeast (n : Nat)
  | bounded (m n : Nat)
  deriving DecidableEq, Repr, Inhabited

/-- The kind of a group. -/
inductive GroupKind where
  | capture (index : Nat)
  | named (name : String) (index : Nat)
  | nonCapturing (flags : List FlagItem)
  deriving DecidableEq, Repr, Inhabited

/-- A parsed pattern. -/
inductive Ast where
  | empty (span : Span)
  | flags (span : Span) (items : List FlagItem)
  | literal (lit : Literal)
  | dot (span : Span)
  | assertion (span : Span) (kind : Assertion)
  | unicodeClass (span : Span) (query : Query) (negated : Bool)
  | perlClass (span : Span) (kind : PerlKind) (negated : Bool)
  | bracketed (span : Span) (negated : Bool) (body : ClassTree)
  | repetition (span : Span) (kind : RepeatKind) (greedy : Bool) (sub : Ast)
  | group (span : Span) (kind : GroupKind) (sub : Ast)
  | alternation (span : Span) (items : List Ast)
  | concat (span : Span) (items : List Ast)
  deriving Repr, Inhabited

/-- The span of a node. -/
def Ast.span : Ast -> Span
  | .empty s | .flags s _ | .dot s | .assertion s _ | .unicodeClass s _ _ | .perlClass s _ _
  | .bracketed s _ _ | .repetition s _ _ _ | .group s _ _ | .alternation s _ | .concat s _ => s
  | .literal lit => lit.span

/-- Why a pattern is refused. -/
inductive ErrorKind where
  | classEscapeInvalid
  | classRangeInvalid
  | classRangeLiteral
  | classUnclosed
  | decimalEmpty
  | decimalInvalid
  | escapeHexEmpty
  | escapeHexInvalid
  | escapeHexInvalidDigit
  | escapeUnexpectedEof
  | escapeUnrecognized
  | flagDanglingNegation
  | flagDuplicate
  | flagRepeatedNegation
  | flagUnexpectedEof
  | flagUnrecognized
  | groupNameDuplicate
  | groupNameEmpty
  | groupNameInvalid
  | groupNameUnexpectedEof
  | groupUnclosed
  | groupUnopened
  | nestLimitExceeded (limit : Nat)
  | repetitionCountInvalid
  | repetitionCountDecimalEmpty
  | repetitionCountUnclosed
  | repetitionMissing
  | specialWordBoundaryUnclosed
  | specialWordBoundaryUnrecognized
  | specialWordOrRepetitionUnexpectedEof
  | unicodeClassInvalid
  | unsupportedBackreference
  | unsupportedLookAround
  | unicodeNotAllowed
  | invalidUtf8
  | unicodePropertyNotFound
  | unicodePropertyValueNotFound
  deriving DecidableEq, Repr, Inhabited

/-- The words of an error. -/
def ErrorKind.message : ErrorKind -> String
  | .classEscapeInvalid => "invalid escape sequence found in character class"
  | .classRangeInvalid => "invalid character class range, the start must be <= the end"
  | .classRangeLiteral => "invalid range boundary, must be a literal"
  | .classUnclosed => "unclosed character class"
  | .decimalEmpty => "decimal literal empty"
  | .decimalInvalid => "decimal literal invalid"
  | .escapeHexEmpty => "hexadecimal literal empty"
  | .escapeHexInvalid => "hexadecimal literal is not a Unicode scalar value"
  | .escapeHexInvalidDigit => "invalid hexadecimal digit"
  | .escapeUnexpectedEof => "incomplete escape sequence, reached end of pattern prematurely"
  | .escapeUnrecognized => "unrecognized escape sequence"
  | .flagDanglingNegation => "dangling flag negation operator"
  | .flagDuplicate => "duplicate flag"
  | .flagRepeatedNegation => "flag negation operator repeated"
  | .flagUnexpectedEof => "expected flag but got end of regex"
  | .flagUnrecognized => "unrecognized flag"
  | .groupNameDuplicate => "duplicate capture group name"
  | .groupNameEmpty => "empty capture group name"
  | .groupNameInvalid => "invalid capture group character"
  | .groupNameUnexpectedEof => "unclosed capture group name"
  | .groupUnclosed => "unclosed group"
  | .groupUnopened => "unopened group"
  | .nestLimitExceeded limit =>
    "exceed the maximum number of nested parentheses/brackets (" ++ toString limit ++ ")"
  | .repetitionCountInvalid => "invalid repetition count range, the start must be <= the end"
  | .repetitionCountDecimalEmpty => "repetition quantifier expects a valid decimal"
  | .repetitionCountUnclosed => "unclosed counted repetition"
  | .repetitionMissing => "repetition operator missing expression"
  | .specialWordBoundaryUnclosed =>
    "special word boundary assertion is either unclosed or contains an invalid character"
  | .specialWordBoundaryUnrecognized =>
    "unrecognized special word boundary assertion, valid choices are: start, end, start-half or end-half"
  | .specialWordOrRepetitionUnexpectedEof =>
    "found either the beginning of a special word boundary or a bounded repetition on a \\b with an opening brace, but no closing brace"
  | .unicodeClassInvalid => "invalid Unicode character class"
  | .unsupportedBackreference => "backreferences are not supported"
  | .unsupportedLookAround => "look-around, including look-ahead and look-behind, is not supported"
  | .unicodeNotAllowed => "Unicode not allowed here"
  | .invalidUtf8 => "pattern can match invalid UTF-8"
  | .unicodePropertyNotFound => "Unicode property not found"
  | .unicodePropertyValueNotFound => "Unicode property value not found"

/-- A refused pattern: why, where, and for a duplicate, where the first one is. -/
structure PatternError where
  kind : ErrorKind
  span : Span
  aux : Option Span := none
  deriving Repr, Inhabited

end Regex
end Refbook
