import Refbook.Regex.Ast
import Refbook.Text.Blank
import Refbook.Text.Unicode.Category
import Refbook.Text.Unicode.Binary

namespace Refbook
namespace Regex

/-!
# Parsing a pattern

`parse` reads a pattern into an `Ast`, or says why it cannot.  The reader
walks the pattern once, left to right, keeping the groups and brackets
still open on two stacks: a group holds the concatenation before it, an
alternation the branches so far, an open bracket the union before it, and
a set operation its left side.

Verbose mode (the flag `x`) skips white space and `#` comments between
items, and inside brackets, escapes and counted repetitions; a counted
repetition allows white space around its numbers in any mode.  After the
whole pattern is read, nesting deeper than 250 groups, repetitions,
alternations, concatenations and brackets is refused.
-/

/-- How deep groups, brackets and other compound nodes may nest. -/
def nestLimit : Nat := 250

/-- A concatenation being read: its span so far and its items, last first. -/
structure Concat where
  span : Span
  items : List Ast
  deriving Inhabited

/-- The node of a concatenation: nothing, its one item, or all of them. -/
def Concat.toAst (c : Concat) : Ast :=
  match c.items with
  | [] => .empty c.span
  | [a] => a
  | items => .concat c.span items.reverse

/-- An alternation being read: its span so far and its branches, last first. -/
structure Alternation where
  span : Span
  items : List Ast
  deriving Inhabited

/-- An open group, or the branches of an alternation before the current one. -/
inductive GroupState where
  | group (before : Concat) (span : Span) (kind : GroupKind) (ignoreWhitespace : Bool)
  | alternation (alt : Alternation)
  deriving Inhabited

/-- A union of bracket items being read, last first. -/
structure Union where
  span : Span
  items : List ClassTree
  deriving Inhabited

/-- Add an item to a union, stretching its span over it. -/
def Union.push (u : Union) (item : ClassTree) : Union :=
  let start := if u.items.isEmpty then item.span.start else u.span.start
  { span := ⟨start, item.span.stop⟩, items := item :: u.items }

/-- The item a union stands for: nothing, its one item, or all of them. -/
def Union.toItem (u : Union) : ClassTree :=
  match u.items with
  | [] => .empty u.span
  | [item] => item
  | items => .union u.span items.reverse

/-- An open bracket with the union before it, or the left side of a set
operation. -/
inductive ClassState where
  | opened (before : Union) (span : Span) (negated : Bool)
  | op (kind : ClassOp) (lhs : ClassTree)
  deriving Inhabited

/-- The state of the reader. -/
structure Parser where
  chars : Array Char
  index : Nat
  pos : Position
  ignoreWhitespace : Bool
  captureIndex : Nat
  names : List (String × Span)
  groups : List GroupState
  classes : List ClassState

namespace Parser

/-- The position after a character. -/
def after (pos : Position) (c : Char) : Position :=
  if c = '\n' then ⟨pos.offset + c.utf8Size, pos.line + 1, 1⟩
  else ⟨pos.offset + c.utf8Size, pos.line, pos.column + 1⟩

/-- The character at the cursor. -/
def char? (p : Parser) : Option Char :=
  p.chars[p.index]?

/-- The character at the cursor, or NUL at the end; only read where the
cursor is known to be inside the pattern. -/
def cur (p : Parser) : Char :=
  p.char?.getD '\x00'

/-- Whether the cursor is past the last character. -/
def isEof (p : Parser) : Bool :=
  p.chars.size ≤ p.index

/-- The character after the cursor. -/
def peek? (p : Parser) : Option Char :=
  p.chars[p.index + 1]?

/-- Step over the character at the cursor. -/
def advance (p : Parser) : Parser :=
  match p.char? with
  | some c => { p with index := p.index + 1, pos := after p.pos c }
  | none => p

/-- The empty span at the cursor. -/
def span (p : Parser) : Span :=
  ⟨p.pos, p.pos⟩

/-- The span of the character at the cursor. -/
def spanChar (p : Parser) : Span :=
  match p.char? with
  | some c => ⟨p.pos, after p.pos c⟩
  | none => p.span

/-- Whether the pattern continues with `s` at the cursor. -/
def startsWith (p : Parser) (s : String) : Bool :=
  (List.range s.length).all fun k => p.chars[p.index + k]? == s.toList[k]?

/-- Skip a comment up to and including its line feed. -/
def skipComment (p : Parser) : Nat -> Parser
  | 0 => p
  | fuel + 1 =>
    match p.char? with
    | none => p
    | some c => if c = '\n' then p.advance else p.advance.skipComment fuel

/-- Skip white space and comments. -/
def skipSpace (p : Parser) : Nat -> Parser
  | 0 => p
  | fuel + 1 =>
    match p.char? with
    | none => p
    | some c =>
      if Text.isBlank c then p.advance.skipSpace fuel
      else if c = '#' then (p.advance.skipComment p.chars.size).skipSpace fuel
      else p

/-- Skip white space, whatever the mode. -/
def skipBlanks (p : Parser) : Nat -> Parser
  | 0 => p
  | fuel + 1 =>
    match p.char? with
    | some c => if Text.isBlank c then p.advance.skipBlanks fuel else p
    | none => p

/-- The next character after the cursor that is not white space.  In
verbose mode the first `#` is passed over too, but the next character that
is not blank is the answer even inside the comment; when all the rest is
blank, the character right after the cursor is. -/
def peekSpace (p : Parser) : Option Char :=
  if !p.ignoreWhitespace then p.peek?
  else if p.isEof then none
  else
    let rest := (p.chars.extract (p.index + 1) p.chars.size).toList
    let rec go (inComment : Bool) : List Char -> Option Char
      | [] => none
      | c :: cs =>
        if Text.isBlank c then go inComment cs
        else if !inComment && c = '#' then go true cs
        else some c
    match go false rest with
    | some c => some c
    | none => rest.head?

end Parser

/-- Reading a pattern: the reader's state, or a refusal. -/
abbrev ParseM := StateT Parser (Except PatternError)

/-- Refuse the pattern. -/
def fail {α : Type} (kind : ErrorKind) (span : Span) : ParseM α :=
  throw { kind, span, aux := none }

/-- Refuse the pattern, pointing at two places. -/
def failTwice {α : Type} (kind : ErrorKind) (span original : Span) : ParseM α :=
  throw { kind, span, aux := some original }

/-- Step over one character; whether the pattern goes on after it. -/
def bump : ParseM Bool := do
  if (← get).isEof then return false
  modify Parser.advance
  return !(← get).isEof

/-- In verbose mode, skip white space and comments. -/
def bumpSpace : ParseM Unit := do
  if (← get).ignoreWhitespace then modify fun p => p.skipSpace (p.chars.size + 1)

/-- Step over one character and, in verbose mode, the white space after it;
whether the pattern goes on. -/
def bumpAndBumpSpace : ParseM Bool := do
  if !(← bump) then return false
  bumpSpace
  return !(← get).isEof

/-- Step over `s` if the pattern continues with it. -/
def bumpIf (s : String) : ParseM Bool := do
  if (← get).startsWith s then
    modify fun p => s.toList.foldl (fun q _ => q.advance) p
    return true
  else return false

/-- The current position. -/
def here : ParseM Position := do
  return (← get).pos

/-- Go back to a saved cursor. -/
def restore (index : Nat) (pos : Position) : ParseM Unit :=
  modify fun p => { p with index, pos }

/-- A character of an identifier: letters, digits, underscore and, after the
first, points and square brackets. -/
def isCaptureChar (c : Char) (first : Bool) : Bool :=
  let alphabetic := Text.CodeSet.ofText ((Text.Unicode.binaryProperties.lookup "Alphabetic").getD "")
  let numeric := Text.Unicode.Category.members [.nd, .nl, .no]
  if first then c = '_' || alphabetic.contains c.toNat
  else
    c = '_' || c = '.' || c = '[' || c = ']' || alphabetic.contains c.toNat ||
      numeric.contains c.toNat

/-- Characters with a meaning, which an escape makes literal. -/
def isMetaCharacter (c : Char) : Bool :=
  "\\.+*?()|[]^$#&-~".toList.contains c || c = '\x7b' || c = '\x7d'

/-- Characters that may be escaped though they mean nothing special: ASCII
characters other than letters, digits, `<` and `>`. -/
def isEscapeable (c : Char) : Bool :=
  isMetaCharacter c ||
    (c.toNat < 128 && !c.isAlphanum && c ≠ '<' && c ≠ '>')

/-- Whether a character is a hex digit. -/
def isHexDigit (c : Char) : Bool :=
  c.isDigit || ('a' ≤ c && c ≤ 'f') || ('A' ≤ c && c ≤ 'F')

/-- The value of hex digits. -/
def hexOf (cs : List Char) : Nat :=
  cs.foldl (fun acc c =>
    acc * 16 + (if c.isDigit then c.toNat - 48 else if 'a' ≤ c then c.toNat - 87 else c.toNat - 55)) 0

/-- Whether a number is a character: at most `10FFFF` and not a surrogate. -/
def isScalar (n : Nat) : Bool :=
  n ≤ 0x10FFFF && !(0xD800 ≤ n && n ≤ 0xDFFF)

/-- A leaf read at the cursor. -/
inductive Primitive where
  | literal (lit : Literal)
  | assertion (span : Span) (kind : Assertion)
  | dot (span : Span)
  | perl (span : Span) (kind : PerlKind) (negated : Bool)
  | unicode (span : Span) (query : Query) (negated : Bool)
  deriving Inhabited

namespace Primitive

def span : Primitive -> Span
  | .literal lit => lit.span
  | .assertion s _ | .dot s | .perl s _ _ | .unicode s _ _ => s

def toAst : Primitive -> Ast
  | .literal lit => .literal lit
  | .assertion s k => .assertion s k
  | .dot s => .dot s
  | .perl s k n => .perlClass s k n
  | .unicode s q n => .unicodeClass s q n

/-- The leaf as an item of brackets: a literal or a class. -/
def toClassItem : Primitive -> ParseM ClassTree
  | .literal lit => pure (.literal lit)
  | .perl s k n => pure (.perl s k n)
  | .unicode s q n => pure (.unicode s q n)
  | x => fail .classEscapeInvalid x.span

/-- The leaf as an end of a range: a literal only. -/
def toClassLiteral : Primitive -> ParseM Literal
  | .literal lit => pure lit
  | x => fail .classRangeLiteral x.span

end Primitive

/-- Skip white space whatever the mode. -/
def skipBlanks : ParseM Unit :=
  modify fun p => p.skipBlanks (p.chars.size + 1)

/-- Digits of a counted repetition, the cursor on them. -/
def decimalDigits : Nat -> List Char -> ParseM (List Char)
  | 0, acc => pure acc.reverse
  | fuel + 1, acc => do
    let p ← get
    match p.char? with
    | some c =>
      if c.isDigit then
        discard bumpAndBumpSpace
        decimalDigits fuel (c :: acc)
      else pure acc.reverse
    | none => pure acc.reverse

/-- Skip white space after a number, stepping as verbose mode steps. -/
def trailingBlanks : Nat -> ParseM Unit
  | 0 => pure ()
  | fuel + 1 => do
    match (← get).char? with
    | some c => if Text.isBlank c then do discard bumpAndBumpSpace; trailingBlanks fuel else pure ()
    | none => pure ()

/-- A number of a counted repetition, white space around it allowed. -/
def parseDecimal : ParseM Nat := do
  skipBlanks
  let start ← here
  let digits ← decimalDigits ((← get).chars.size + 1) []
  let span : Span := ⟨start, ← here⟩
  trailingBlanks ((← get).chars.size + 1)
  if digits.isEmpty then fail .repetitionCountDecimalEmpty span
  let value : Nat := digits.foldl (fun acc c => acc * 10 + (c.toNat - 48)) 0
  if value > 4294967295 then fail .decimalInvalid span
  return value

/-- Hex digits after `\x`, `\u` or `\U` without braces: exactly `count` of
them. -/
def hexDigits (count : Nat) : Nat -> List Char -> ParseM (List Char)
  | 0, acc => pure acc.reverse
  | k + 1, acc => do
    if acc.length > 0 then
      if !(← bumpAndBumpSpace) then fail .escapeUnexpectedEof (← get).span
    let p ← get
    if !isHexDigit p.cur then fail .escapeHexInvalidDigit p.spanChar
    let acc := p.cur :: acc
    if acc.length = count then pure acc.reverse else hexDigits count k acc

/-- A fixed number of hex digits, the cursor on the first. -/
def parseHexDigits (count : Nat) (isByte : Bool) : ParseM Literal := do
  let start ← here
  let digits ← hexDigits count count []
  discard bumpAndBumpSpace
  let stop ← here
  let n := hexOf digits
  if !isScalar n then fail .escapeHexInvalid ⟨start, stop⟩
  return { span := ⟨start, stop⟩, c := Char.ofNat n, isByte }

/-- Hex digits up to a closing brace. -/
def braceDigits : Nat -> List Char -> ParseM (List Char)
  | 0, acc => pure acc.reverse
  | fuel + 1, acc => do
    if !(← bumpAndBumpSpace) then return acc.reverse
    let p ← get
    if p.cur = '\x7d' then return acc.reverse
    if !isHexDigit p.cur then fail .escapeHexInvalidDigit p.spanChar
    braceDigits fuel (p.cur :: acc)

/-- Hex digits in braces, the cursor on the opening brace. -/
def parseHexBrace : ParseM Literal := do
  let bracePos ← here
  let start := (← get).spanChar.stop
  let digits ← braceDigits ((← get).chars.size + 1) []
  if (← get).isEof then fail .escapeUnexpectedEof ⟨bracePos, ← here⟩
  let stop ← here
  discard bumpAndBumpSpace
  if digits.isEmpty then fail .escapeHexEmpty ⟨bracePos, ← here⟩
  let n := hexOf digits
  if !isScalar n then fail .escapeHexInvalid ⟨start, stop⟩
  return { span := ⟨start, ← here⟩, c := Char.ofNat n, isByte := false }

/-- A hex escape, the cursor on its `x`, `u` or `U`. -/
def parseHex : ParseM Literal := do
  let kind := (← get).cur
  let count := if kind = 'x' then 2 else if kind = 'u' then 4 else 8
  if !(← bumpAndBumpSpace) then fail .escapeUnexpectedEof (← get).span
  if (← get).cur = '\x7b' then parseHexBrace else parseHexDigits count (kind = 'x')

/-- Characters up to a closing brace. -/
def nameChars : Nat -> List Char -> ParseM (List Char)
  | 0, acc => pure acc.reverse
  | fuel + 1, acc => do
    if !(← bumpAndBumpSpace) then return acc.reverse
    let c := (← get).cur
    if c = '\x7d' then return acc.reverse
    nameChars fuel (c :: acc)

/-- Split a name at the first occurrence of a separator. -/
def splitAt (name : List Char) (sep : List Char) : Option (List Char × List Char) :=
  let rec go (before : List Char) : List Char -> Option (List Char × List Char)
    | [] => none
    | c :: cs =>
      if sep.isPrefixOf (c :: cs) then some (before.reverse, (c :: cs).drop sep.length)
      else go (c :: before) cs
  go [] name

/-- A `\p` or `\P` class, the cursor on its letter. -/
def parseUnicodeClass : ParseM (Span × Query × Bool) := do
  let negated := (← get).cur = 'P'
  if !(← bumpAndBumpSpace) then fail .escapeUnexpectedEof (← get).span
  if (← get).cur = '\x7b' then
    let start := (← get).spanChar.stop
    let name ← nameChars ((← get).chars.size + 1) []
    if (← get).isEof then fail .escapeUnexpectedEof (← get).span
    discard bump
    let query : Query :=
      match splitAt name ['!', '='] with
      | some (a, b) => .namedValue true (String.ofList a) (String.ofList b)
      | none =>
        match splitAt name [':'] with
        | some (a, b) => .namedValue false (String.ofList a) (String.ofList b)
        | none =>
          match splitAt name ['='] with
          | some (a, b) => .namedValue false (String.ofList a) (String.ofList b)
          | none => .named (String.ofList name)
    return (⟨start, ← here⟩, query, negated)
  else
    let start ← here
    let c := (← get).cur
    if c = '\\' then fail .unicodeClassInvalid (← get).spanChar
    discard bumpAndBumpSpace
    return (⟨start, ← here⟩, .oneLetter c, negated)

/-- Letters and hyphens of a special word boundary. -/
def boundaryChars : Nat -> List Char -> ParseM (List Char)
  | 0, acc => pure acc.reverse
  | fuel + 1, acc => do
    let p ← get
    match p.char? with
    | some c =>
      if c.isAlpha || c = '-' then
        discard bumpAndBumpSpace
        boundaryChars fuel (c :: acc)
      else pure acc.reverse
    | none => pure acc.reverse

/-- After `\b`, a special word boundary in braces, if what follows the brace
can begin one; otherwise the cursor goes back to the brace, which then
starts a counted repetition. -/
def maybeSpecialWordBoundary (wbStart : Position) : ParseM (Option Assertion) := do
  let startIndex := (← get).index
  let start ← here
  if !(← bumpAndBumpSpace) then fail .specialWordOrRepetitionUnexpectedEof ⟨wbStart, ← here⟩
  let startContents ← here
  let c := (← get).cur
  if !(c.isAlpha || c = '-') then
    restore startIndex start
    return none
  let word ← boundaryChars ((← get).chars.size + 1) []
  let p ← get
  if p.isEof || p.cur ≠ '\x7d' then fail .specialWordBoundaryUnclosed ⟨start, p.pos⟩
  let stop ← here
  discard bump
  match String.ofList word with
  | "start" => return some .wordStart
  | "end" => return some .wordEnd
  | "start-half" => return some .wordStartHalf
  | "end-half" => return some .wordEndHalf
  | _ => fail .specialWordBoundaryUnrecognized ⟨startContents, stop⟩

/-- An escape, the cursor on its backslash. -/
def parseEscape : ParseM Primitive := do
  let start ← here
  if !(← bump) then fail .escapeUnexpectedEof ⟨start, ← here⟩
  let p ← get
  let c := p.cur
  if c.isDigit then fail .unsupportedBackreference ⟨start, p.spanChar.stop⟩
  if c = 'x' || c = 'u' || c = 'U' then
    let lit ← parseHex
    return .literal { lit with span := ⟨start, lit.span.stop⟩ }
  if c = 'p' || c = 'P' then
    let (span, query, negated) ← parseUnicodeClass
    return .unicode ⟨start, span.stop⟩ query negated
  if "dswDSW".toList.contains c then
    let span := p.spanChar
    discard bump
    let kind : PerlKind := if c = 'd' || c = 'D' then .digit else if c = 's' || c = 'S' then .space else .word
    return .perl ⟨start, span.stop⟩ kind c.isUpper
  discard bump
  let span : Span := ⟨start, ← here⟩
  if isEscapeable c then return .literal { span, c, isByte := false }
  match c with
  | 'a' => return .literal { span, c := '\x07', isByte := false }
  | 'f' => return .literal { span, c := '\x0c', isByte := false }
  | 't' => return .literal { span, c := '\t', isByte := false }
  | 'n' => return .literal { span, c := '\n', isByte := false }
  | 'r' => return .literal { span, c := '\r', isByte := false }
  | 'v' => return .literal { span, c := '\x0b', isByte := false }
  | 'A' => return .assertion span .startText
  | 'z' => return .assertion span .endText
  | 'b' =>
    let q ← get
    if !q.isEof && q.cur = '\x7b' then
      match ← maybeSpecialWordBoundary start with
      | some kind => return .assertion ⟨start, ← here⟩ kind
      | none => return .assertion span .wordBoundary
    else return .assertion span .wordBoundary
  | 'B' => return .assertion span .notWordBoundary
  | '<' => return .assertion span .wordStart
  | '>' => return .assertion span .wordEnd
  | _ => fail .escapeUnrecognized span

/-- A leaf outside brackets, the cursor on it. -/
def parsePrimitive : ParseM Primitive := do
  let p ← get
  match p.cur with
  | '\\' => parseEscape
  | '.' => do discard bump; return .dot p.spanChar
  | '^' => do discard bump; return .assertion p.spanChar .startLine
  | '$' => do discard bump; return .assertion p.spanChar .endLine
  | c => do discard bump; return .literal { span := p.spanChar, c, isByte := false }

/-- The number of the next capturing group. -/
def nextCaptureIndex : ParseM Nat := do
  modify fun p => { p with captureIndex := p.captureIndex + 1 }
  return (← get).captureIndex

/-- The characters of a group name, up to `>`. -/
def nameBody (start : Position) : Nat -> ParseM Unit
  | 0 => pure ()
  | fuel + 1 => do
    let p ← get
    if p.cur = '>' then return
    if !isCaptureChar p.cur (p.pos == start) then fail .groupNameInvalid p.spanChar
    if !(← bump) then return
    nameBody start fuel

/-- The name of a group after `(?P<` or `(?<`, and its closing `>`. -/
def parseCaptureName : ParseM String := do
  if (← get).isEof then fail .groupNameUnexpectedEof (← get).span
  let start ← here
  let startIndex := (← get).index
  nameBody start ((← get).chars.size + 1)
  let stop ← here
  let stopIndex := (← get).index
  if (← get).isEof then fail .groupNameUnexpectedEof (← get).span
  discard bump
  let name := String.ofList ((← get).chars.extract startIndex stopIndex).toList
  if name.isEmpty then fail .groupNameEmpty ⟨start, start⟩
  let span : Span := ⟨start, stop⟩
  match (← get).names.lookup name with
  | some original => failTwice .groupNameDuplicate span original
  | none => modify fun p => { p with names := (name, span) :: p.names }
  return name

/-- The flag of a letter. -/
def flagOf : Char -> Option Flag
  | 'i' => some .caseInsensitive
  | 'm' => some .multiLine
  | 's' => some .dotMatchesNewLine
  | 'U' => some .swapGreed
  | 'u' => some .unicode
  | 'R' => some .crlf
  | 'x' => some .ignoreWhitespace
  | _ => none

/-- Flags up to `:` or `)`: each item with its span, first first. -/
def flagItems : Nat -> List (FlagItem × Span) -> Option Span -> ParseM (List FlagItem)
  | 0, acc, _ => pure (acc.reverse.map (·.1))
  | fuel + 1, acc, lastNegation => do
    let p ← get
    if p.cur = ':' || p.cur = ')' then
      match lastNegation with
      | some s => fail .flagDanglingNegation s
      | none => return acc.reverse.map (·.1)
    let item : FlagItem ←
      if p.cur = '-' then pure .negation
      else
        match flagOf p.cur with
        | some f => pure (.flag f)
        | none => fail .flagUnrecognized p.spanChar
    match acc.find? (·.1 == item) with
    | some (_, original) =>
      if item == .negation then failTwice .flagRepeatedNegation p.spanChar original
      else failTwice .flagDuplicate p.spanChar original
    | none => pure ()
    let lastNegation := if item == .negation then some p.spanChar else none
    if !(← bump) then fail .flagUnexpectedEof (← get).span
    flagItems fuel ((item, p.spanChar) :: acc) lastNegation

/-- What a flag item list says of one flag: set, cleared, or nothing. -/
def flagState (items : List FlagItem) (f : Flag) : Option Bool :=
  let rec go (negated : Bool) : List FlagItem -> Option Bool
    | [] => none
    | .negation :: rest => go true rest
    | .flag g :: rest => if g == f then some (!negated) else go negated rest
  go false items

/-- Step over the opening of a look-ahead or look-behind, if one is here:
`?=`, `?!`, `?<=` or `?<!`. -/
def bumpLookAround : ParseM Bool := do
  if (← bumpIf "?=") then return true
  if (← bumpIf "?!") then return true
  if (← bumpIf "?<=") then return true
  bumpIf "?<!"

/-- What `(` opens: flags for the rest of the group (`(?flags)`), or a group. -/
inductive Opened where
  | setFlags (span : Span) (items : List FlagItem)
  | group (span : Span) (kind : GroupKind)

/-- A group's opening, the cursor on its `(`. -/
def parseGroup : ParseM Opened := do
  let openSpan := (← get).spanChar
  discard bump
  bumpSpace
  if (← bumpLookAround) then
    fail .unsupportedLookAround ⟨openSpan.start, (← get).pos⟩
  let innerSpan := (← get).span
  let named ← do
    if (← bumpIf "?P<") then pure true else bumpIf "?<"
  if named then
    let index ← nextCaptureIndex
    let name ← parseCaptureName
    return .group openSpan (.named name index)
  else if (← bumpIf "?") then
    if (← get).isEof then fail .groupUnclosed innerSpan
    let items ← flagItems ((← get).chars.size + 1) [] none
    let closing := (← get).cur
    discard bump
    if closing = ')' then
      if items.isEmpty then fail .repetitionMissing innerSpan
      return .setFlags ⟨openSpan.start, ← here⟩ items
    else return .group openSpan (.nonCapturing items)
  else
    let index ← nextCaptureIndex
    return .group openSpan (.capture index)

/-- Open a group, or set flags for the rest of the current one. -/
def pushGroup (concat : Concat) : ParseM Concat := do
  match ← parseGroup with
  | .setFlags span items =>
    match flagState items .ignoreWhitespace with
    | some v => modify fun p => { p with ignoreWhitespace := v }
    | none => pure ()
    return { concat with items := .flags span items :: concat.items }
  | .group span kind =>
    let old := (← get).ignoreWhitespace
    let new :=
      match kind with
      | .nonCapturing items => (flagState items .ignoreWhitespace).getD old
      | _ => old
    modify fun p => { p with groups := .group concat span kind old :: p.groups, ignoreWhitespace := new }
    return { span := (← get).span, items := [] }

/-- Close a group, the cursor on its `)`. -/
def popGroup (inner : Concat) : ParseM Concat := do
  let p ← get
  let (before, span, kind, ignore, alt) ←
    match p.groups with
    | .group c s k w :: rest =>
      set { p with groups := rest }
      pure (c, s, k, w, none)
    | .alternation a :: .group c s k w :: rest =>
      set { p with groups := rest }
      pure (c, s, k, w, some a)
    | _ => fail .groupUnopened p.spanChar
  modify fun q => { q with ignoreWhitespace := ignore }
  let inner := { inner with span := inner.span.withStop (← here) }
  discard bump
  let span := span.withStop (← here)
  let sub :=
    match alt with
    | some a =>
      let items := inner.toAst :: a.items
      match items with
      | [x] => x
      | _ => .alternation (a.span.withStop inner.span.stop) items.reverse
    | none => inner.toAst
  return { before with items := .group span kind sub :: before.items }

/-- Start the next branch of an alternation, the cursor on its `|`. -/
def pushAlternate (concat : Concat) : ParseM Concat := do
  let pos ← here
  let concat := { concat with span := concat.span.withStop pos }
  modify fun p =>
    match p.groups with
    | .alternation alt :: rest =>
      { p with groups := .alternation { alt with items := concat.toAst :: alt.items } :: rest }
    | gs =>
      { p with groups := .alternation ⟨⟨concat.span.start, pos⟩, [concat.toAst]⟩ :: gs }
  discard bump
  return { span := (← get).span, items := [] }

/-- The whole pattern once its end is reached: an unclosed group is refused. -/
def popGroupEnd (concat : Concat) : ParseM Ast := do
  let pos ← here
  let concat := { concat with span := concat.span.withStop pos }
  match (← get).groups with
  | [] => return concat.toAst
  | [.alternation alt] => return .alternation ⟨alt.span.start, pos⟩ (concat.toAst :: alt.items).reverse
  | .alternation _ :: .group _ s _ _ :: _ => fail .groupUnclosed s
  | .group _ s _ _ :: _ => fail .groupUnclosed s
  | .alternation _ :: _ => fail .groupUnclosed concat.span

/-- A repetition by `?`, `*` or `+` of the last item. -/
def parseUncountedRepetition (concat : Concat) (kind : RepeatKind) : ParseM Concat := do
  match concat.items with
  | [] => fail .repetitionMissing (← get).span
  | .empty _ :: _ | .flags _ _ :: _ => fail .repetitionMissing (← get).span
  | ast :: rest =>
    let greedy ←
      if (← bump) && (← get).cur = '?' then do discard bump; pure false
      else pure true
    return { concat with items := .repetition (ast.span.withStop (← here)) kind greedy ast :: rest }

/-- A counted repetition `{n}`, `{n,}` or `{n,m}` of the last item. -/
def parseCountedRepetition (concat : Concat) : ParseM Concat := do
  let start ← here
  match concat.items with
  | [] => fail .repetitionMissing (← get).span
  | .empty _ :: _ | .flags _ _ :: _ => fail .repetitionMissing (← get).span
  | ast :: rest =>
    if !(← bumpAndBumpSpace) then fail .repetitionCountUnclosed ⟨start, ← here⟩
    let low ← parseDecimal
    if (← get).isEof then fail .repetitionCountUnclosed ⟨start, ← here⟩
    let kind ←
      if (← get).cur = ',' then do
        if !(← bumpAndBumpSpace) then fail .repetitionCountUnclosed ⟨start, ← here⟩
        if (← get).cur ≠ '\x7d' then
          let high ← parseDecimal
          pure (RepeatKind.bounded low high)
        else pure (RepeatKind.atLeast low)
      else pure (RepeatKind.exactly low)
    let p ← get
    if p.isEof || p.cur ≠ '\x7d' then fail .repetitionCountUnclosed ⟨start, p.pos⟩
    let greedy ←
      if (← bumpAndBumpSpace) && (← get).cur = '?' then do discard bump; pure false
      else pure true
    let opSpan : Span := ⟨start, ← here⟩
    match kind with
    | .bounded m n => if m > n then fail .repetitionCountInvalid opSpan
    | _ => pure ()
    return { concat with items := .repetition (ast.span.withStop (← here)) kind greedy ast :: rest }

/-- The error of an unclosed bracket: at the innermost open one. -/
def unclosedClass {α : Type} : ParseM α := do
  match (← get).classes.find? (fun s => match s with | .opened .. => true | _ => false) with
  | some (.opened _ span _) => fail .classUnclosed span
  | _ => fail .classUnclosed (← get).span

/-- A `[:name:]` class, if one starts at the cursor; otherwise the cursor
stays on the `[`. -/
def maybeAsciiClass : ParseM (Option ClassTree) := do
  let startIndex := (← get).index
  let start ← here
  let back : ParseM (Option ClassTree) := do restore startIndex start; return none
  if !(← bump) || (← get).cur ≠ ':' then return ← back
  if !(← bump) then return ← back
  let negated ←
    if (← get).cur = '^' then do
      if !(← bump) then return ← back
      pure true
    else pure false
  let nameStart := (← get).index
  let rec skipName : Nat -> ParseM Unit
    | 0 => pure ()
    | fuel + 1 => do
      if (← get).cur ≠ ':' then
        if (← bump) then skipName fuel
  skipName ((← get).chars.size + 1)
  if (← get).isEof then return ← back
  let name := String.ofList ((← get).chars.extract nameStart (← get).index).toList
  if !(← bumpIf ":]") then return ← back
  match AsciiKind.ofName name with
  | some kind => return some (.ascii ⟨start, ← here⟩ kind negated)
  | none => back

/-- The opening of brackets, the cursor on `[`: its span, whether it is
negated, and the union started with a leading `-` or `]` taken literally. -/
def parseClassOpen : ParseM (Span × Bool × Union) := do
  let start ← here
  if !(← bumpAndBumpSpace) then fail .classUnclosed ⟨start, ← here⟩
  let negated ←
    if (← get).cur ≠ '^' then pure false
    else do
      if !(← bumpAndBumpSpace) then fail .classUnclosed ⟨start, ← here⟩
      pure true
  let rec dashes : Nat -> Union -> ParseM Union
    | 0, u => pure u
    | fuel + 1, u => do
      let p ← get
      if p.cur = '-' then
        let u := u.push (.literal { span := p.spanChar, c := '-', isByte := false })
        if !(← bumpAndBumpSpace) then fail .classUnclosed ⟨start, start⟩
        dashes fuel u
      else pure u
  let union ← dashes ((← get).chars.size + 1) { span := (← get).span, items := [] }
  let union ←
    if union.items.isEmpty && (← get).cur = ']' then do
      let u := union.push (.literal { span := (← get).spanChar, c := ']', isByte := false })
      if !(← bumpAndBumpSpace) then fail .classUnclosed ⟨start, ← here⟩
      pure u
    else pure union
  return (⟨start, ← here⟩, negated, union)

/-- Open nested brackets inside a class. -/
def pushClassOpen (parent : Union) : ParseM Union := do
  let (span, negated, union) ← parseClassOpen
  modify fun p => { p with classes := .opened parent span negated :: p.classes }
  return union

/-- Close a pending set operation with its right side. -/
def popClassOp (rhs : ClassTree) : ParseM ClassTree := do
  match (← get).classes with
  | .op kind lhs :: rest =>
    modify fun p => { p with classes := rest }
    return .op ⟨lhs.span.start, rhs.span.stop⟩ kind lhs rhs
  | _ => return rhs

/-- Start a set operation, the union so far being its left side. -/
def pushClassOp (kind : ClassOp) (union : Union) : ParseM Union := do
  let lhs ← popClassOp union.toItem
  modify fun p => { p with classes := .op kind lhs :: p.classes }
  return { span := (← get).span, items := [] }

/-- What closing brackets gives: the enclosing union, or the outermost brackets. -/
inductive Closed where
  | inner (union : Union)
  | outer (span : Span) (negated : Bool) (body : ClassTree)

/-- Close brackets, the cursor on `]`. -/
def popClass (union : Union) : ParseM Closed := do
  let body ← popClassOp union.toItem
  match (← get).classes with
  | .opened before span negated :: rest =>
    modify fun p => { p with classes := rest }
    discard bump
    let span := span.withStop (← here)
    if rest.isEmpty then return .outer span negated body
    else return .inner (before.push (.bracketed span negated body))
  | _ => fail .classUnclosed (← get).span

/-- An item inside brackets that is a single leaf. -/
def parseClassItem : ParseM Primitive := do
  let p ← get
  if p.cur = '\\' then parseEscape
  else
    discard bump
    return .literal { span := p.spanChar, c := p.cur, isByte := false }

/-- An item inside brackets: a leaf, or a range of two literals. -/
def parseClassRange : ParseM ClassTree := do
  let first ← parseClassItem
  bumpSpace
  if (← get).isEof then unclosedClass
  let p ← get
  if p.cur ≠ '-' || p.peekSpace == some ']' || p.peekSpace == some '-' then
    return ← first.toClassItem
  if !(← bumpAndBumpSpace) then unclosedClass
  let second ← parseClassItem
  let span : Span := ⟨first.span.start, second.span.stop⟩
  let lo ← first.toClassLiteral
  let hi ← second.toClassLiteral
  if lo.c > hi.c then fail .classRangeInvalid span
  return .range span lo hi

/-- The items of brackets up to the closing of the outermost ones. -/
def classItems : Nat -> Union -> ParseM (Span × Bool × ClassTree)
  | 0, _ => fail .classUnclosed default
  | fuel + 1, union => do
    bumpSpace
    if (← get).isEof then unclosedClass
    let p ← get
    match p.cur with
    | '[' =>
      if !p.classes.isEmpty then
        match ← maybeAsciiClass with
        | some item => return ← classItems fuel (union.push item)
        | none => pure ()
      classItems fuel (← pushClassOpen union)
    | ']' =>
      match ← popClass union with
      | .inner u => classItems fuel u
      | .outer span negated body => return (span, negated, body)
    | '&' =>
      if p.peek? == some '&' then
        discard (bumpIf "&&")
        classItems fuel (← pushClassOp .intersection union)
      else classItems fuel (union.push (← parseClassRange))
    | '-' =>
      if p.peek? == some '-' then
        discard (bumpIf "--")
        classItems fuel (← pushClassOp .difference union)
      else classItems fuel (union.push (← parseClassRange))
    | '~' =>
      if p.peek? == some '~' then
        discard (bumpIf "~~")
        classItems fuel (← pushClassOp .symmetricDifference union)
      else classItems fuel (union.push (← parseClassRange))
    | _ => classItems fuel (union.push (← parseClassRange))

/-- Brackets, the cursor on their `[`. -/
def parseClass : ParseM Ast := do
  let (span, negated, body) ← classItems (2 * (← get).chars.size + 2) { span := (← get).span, items := [] }
  return .bracketed span negated body

/-- The items of the pattern up to its end. -/
def items : Nat -> Concat -> ParseM Concat
  | 0, concat => pure concat
  | fuel + 1, concat => do
    bumpSpace
    let p ← get
    if p.isEof then return concat
    match p.cur with
    | '(' => items fuel (← pushGroup concat)
    | ')' => items fuel (← popGroup concat)
    | '|' => items fuel (← pushAlternate concat)
    | '[' =>
      let cls ← parseClass
      items fuel { concat with items := cls :: concat.items }
    | '?' => items fuel (← parseUncountedRepetition concat .zeroOrOne)
    | '*' => items fuel (← parseUncountedRepetition concat .zeroOrMore)
    | '+' => items fuel (← parseUncountedRepetition concat .oneOrMore)
    | '\x7b' => items fuel (← parseCountedRepetition concat)
    | _ =>
      let prim ← parsePrimitive
      items fuel { concat with items := prim.toAst :: concat.items }

mutual

/-- The span of the first node, in reading order, that nests deeper than
`limit`, given the depth of its parent. -/
def Ast.tooDeep (limit depth : Nat) : Ast -> Option Span
  | .bracketed s _ body => if depth + 1 > limit then some s else ClassTree.tooDeep limit (depth + 1) body
  | .repetition s _ _ sub => if depth + 1 > limit then some s else Ast.tooDeep limit (depth + 1) sub
  | .group s _ sub => if depth + 1 > limit then some s else Ast.tooDeep limit (depth + 1) sub
  | .alternation s subs => if depth + 1 > limit then some s else Ast.tooDeepList limit (depth + 1) subs
  | .concat s subs => if depth + 1 > limit then some s else Ast.tooDeepList limit (depth + 1) subs
  | _ => none

/-- The first node of a list that nests too deep. -/
def Ast.tooDeepList (limit depth : Nat) : List Ast -> Option Span
  | [] => none
  | a :: rest =>
    match Ast.tooDeep limit depth a with
    | some s => some s
    | none => Ast.tooDeepList limit depth rest

/-- The first item inside brackets that nests too deep. -/
def ClassTree.tooDeep (limit depth : Nat) : ClassTree -> Option Span
  | .bracketed s _ body => if depth + 1 > limit then some s else ClassTree.tooDeep limit (depth + 1) body
  | .union s subs => if depth + 1 > limit then some s else ClassTree.tooDeepList limit (depth + 1) subs
  | .op s _ lhs rhs =>
    if depth + 1 > limit then some s
    else
      match ClassTree.tooDeep limit (depth + 1) lhs with
      | some sp => some sp
      | none => ClassTree.tooDeep limit (depth + 1) rhs
  | _ => none

/-- The first of a list of items inside brackets that nests too deep. -/
def ClassTree.tooDeepList (limit depth : Nat) : List ClassTree -> Option Span
  | [] => none
  | a :: rest =>
    match ClassTree.tooDeep limit depth a with
    | some s => some s
    | none => ClassTree.tooDeepList limit depth rest

end

/-- The reader at the start of a pattern. -/
def Parser.start (pattern : String) : Parser :=
  { chars := pattern.toList.toArray, index := 0, pos := ⟨0, 1, 1⟩, ignoreWhitespace := false,
    captureIndex := 0, names := [], groups := [], classes := [] }

/-- Read a whole pattern. -/
def parseAll : ParseM Ast := do
  let concat ← items ((← get).chars.size + 2) { span := (← get).span, items := [] }
  let ast ← popGroupEnd concat
  match Ast.tooDeep nestLimit 0 ast with
  | some span => fail (.nestLimitExceeded nestLimit) span
  | none => return ast

/-- Parse a pattern. -/
def parse (pattern : String) : Except PatternError Ast :=
  (parseAll.run (Parser.start pattern)).map (·.1)

end Regex
end Refbook
