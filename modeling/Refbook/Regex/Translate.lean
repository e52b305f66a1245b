import Refbook.Regex.Ast
import Refbook.Regex.Hir
import Refbook.Regex.Property
import Refbook.Text.Fold

namespace Refbook
namespace Regex

open Text

/-!
# From syntax to meaning

`translate` turns a parsed pattern into a `Hir` under the flags in force.
Flags set by `(?flags)` hold to the end of the enclosing group, later
branches of an alternation included; `(?flags:…)` sets them for its inside
only.

Case insensitivity makes each character with other cases a class of all of
them, and closes every class under case before it is negated.  Outside
Unicode mode (flag `u` off) classes are of bytes and fold only ASCII
letters; as the text searched is always valid UTF-8, a class of bytes or a
`.` that could match a byte outside ASCII is refused, and so is a
character outside ASCII inside a class of bytes or a `\p` class.  An empty
match is only ever found between two characters, never inside one, so the
ASCII word tests need no such care.
-/

/-- The flags in force. -/
structure Flags where
  caseInsensitive : Bool
  multiLine : Bool
  dotMatchesNewLine : Bool
  swapGreed : Bool
  unicode : Bool
  crlf : Bool
  deriving DecidableEq, Repr, Inhabited

/-- Set or clear one flag. -/
def Flags.set (flags : Flags) (f : Flag) (on : Bool) : Flags :=
  match f with
  | .caseInsensitive => { flags with caseInsensitive := on }
  | .multiLine => { flags with multiLine := on }
  | .dotMatchesNewLine => { flags with dotMatchesNewLine := on }
  | .swapGreed => { flags with swapGreed := on }
  | .unicode => { flags with unicode := on }
  | .crlf => { flags with crlf := on }
  | .ignoreWhitespace => flags

/-- The flags after the items of a flag group: those after `-` are cleared. -/
def Flags.apply (flags : Flags) (items : List FlagItem) : Flags :=
  (items.foldl (fun (acc : Flags × Bool) item =>
    match item with
    | .negation => (acc.1, true)
    | .flag f => (acc.1.set f (!acc.2), acc.2)) (flags, false)).1

/-- Refuse a pattern at a span. -/
def refuse {α : Type} (kind : ErrorKind) (span : Span) : Except PatternError α :=
  .error { kind, span, aux := none }

/-- Every byte. -/
def allBytes : CodeSet :=
  CodeSet.range 0 0xFF

/-- The ASCII letters of a set of bytes with their other case added. -/
def asciiFold (s : CodeSet) : CodeSet :=
  let extra := s.ranges.flatMap fun r =>
    let lower :=
      if r.lo ≤ 0x7A && 0x61 ≤ r.hi then [CodeRange.mk (Nat.max r.lo 0x61 - 32) (Nat.min r.hi 0x7A - 32)]
      else []
    let upper :=
      if r.lo ≤ 0x5A && 0x41 ≤ r.hi then [CodeRange.mk (Nat.max r.lo 0x41 + 32) (Nat.min r.hi 0x5A + 32)]
      else []
    lower ++ upper
  CodeSet.ofRanges (s.ranges ++ extra)

/-- A Unicode class closed under case when case is ignored, then negated. -/
def foldNegate (flags : Flags) (negated : Bool) (s : CodeSet) : CodeSet :=
  let s := if flags.caseInsensitive then s.caseFold else s
  if negated then s.complement else s

/-- A class of bytes closed under ASCII case when case is ignored, then
negated; refused when it holds a byte outside ASCII. -/
def foldNegateBytes (flags : Flags) (span : Span) (negated : Bool) (s : CodeSet) :
    Except PatternError CodeSet := do
  let s := if flags.caseInsensitive then asciiFold s else s
  let s := if negated then allBytes.diff s else s
  if !s.isAscii then refuse .invalidUtf8 span
  return s

/-- The character a literal stands for; a two-digit hex escape outside
Unicode mode is a byte, refused outside ASCII. -/
def literalChar (flags : Flags) (lit : Literal) : Except PatternError Char :=
  if !flags.unicode && lit.isByte && lit.c.toNat > 0x7F then refuse .invalidUtf8 lit.span
  else .ok lit.c

/-- A literal as an item of a class of bytes: refused outside ASCII. -/
def literalByte (flags : Flags) (lit : Literal) : Except PatternError Nat := do
  let c ← literalChar flags lit
  if c.toNat ≤ 0x7F then return c.toNat
  refuse .unicodeNotAllowed lit.span

/-- A `\p` class, negated as written. -/
def unicodeClass (flags : Flags) (span : Span) (query : Query) (negated : Bool) :
    Except PatternError CodeSet := do
  if !flags.unicode then refuse .unicodeNotAllowed span
  match query.set with
  | .ok s =>
    let negated :=
      match query with
      | .namedValue true _ _ => !negated
      | _ => negated
    return foldNegate flags negated s
  | .error e => refuse e.kind span

/-- A `\d`, `\s` or `\w` class of bytes, refused when negated (it would
hold bytes outside ASCII). -/
def perlBytes (span : Span) (kind : PerlKind) (negated : Bool) : Except PatternError CodeSet := do
  let s := kind.asciiSet
  let s := if negated then allBytes.diff s else s
  if !s.isAscii then refuse .invalidUtf8 span
  return s

mutual

/-- The code points of the inside of Unicode brackets. -/
def ClassTree.unicodeSet (flags : Flags) : ClassTree -> Except PatternError CodeSet
  | .empty _ => .ok CodeSet.empty
  | .literal lit => .ok (CodeSet.range lit.c.toNat lit.c.toNat)
  | .range _ lo hi => .ok (CodeSet.range lo.c.toNat hi.c.toNat)
  | .ascii _ kind negated => .ok (foldNegate flags negated kind.set)
  | .unicode span query negated => unicodeClass flags span query negated
  | .perl _ kind negated => .ok (if negated then kind.set.complement else kind.set)
  | .bracketed _ negated body => do
    return foldNegate flags negated (← ClassTree.unicodeSet flags body)
  | .union _ items => ClassTree.unicodeUnion flags CodeSet.empty items
  | .op _ kind lhs rhs => do
    let l ← ClassTree.unicodeSet flags lhs
    let r ← ClassTree.unicodeSet flags rhs
    let (l, r) := if flags.caseInsensitive then (l.caseFold, r.caseFold) else (l, r)
    return match kind with
      | .intersection => l.inter r
      | .difference => l.diff r
      | .symmetricDifference => l.symmDiff r

/-- The union of items inside Unicode brackets, added to `acc` in order. -/
def ClassTree.unicodeUnion (flags : Flags) (acc : CodeSet) : List ClassTree -> Except PatternError CodeSet
  | [] => .ok acc
  | item :: rest => do
    ClassTree.unicodeUnion flags (acc.union (← ClassTree.unicodeSet flags item)) rest

end

mutual

/-- The bytes of the inside of brackets outside Unicode mode. -/
def ClassTree.byteSet (flags : Flags) : ClassTree -> Except PatternError CodeSet
  | .empty _ => .ok CodeSet.empty
  | .literal lit => do
    let b ← literalByte flags lit
    return CodeSet.range b b
  | .range _ lo hi => do
    let a ← literalByte flags lo
    let b ← literalByte flags hi
    return CodeSet.range a b
  | .ascii span kind negated => foldNegateBytes flags span negated kind.set
  | .unicode span query negated => unicodeClass flags span query negated
  | .perl span kind negated => perlBytes span kind negated
  | .bracketed span negated body => do
    foldNegateBytes flags span negated (← ClassTree.byteSet flags body)
  | .union _ items => ClassTree.byteUnion flags CodeSet.empty items
  | .op _ kind lhs rhs => do
    let l ← ClassTree.byteSet flags lhs
    let r ← ClassTree.byteSet flags rhs
    let (l, r) := if flags.caseInsensitive then (asciiFold l, asciiFold r) else (l, r)
    return match kind with
      | .intersection => l.inter r
      | .difference => l.diff r
      | .symmetricDifference => l.symmDiff r

/-- The union of items inside brackets of bytes, added to `acc` in order. -/
def ClassTree.byteUnion (flags : Flags) (acc : CodeSet) : List ClassTree -> Except PatternError CodeSet
  | [] => .ok acc
  | item :: rest => do
    ClassTree.byteUnion flags (acc.union (← ClassTree.byteSet flags item)) rest

end

/-- A literal character: a class of its cases when case is ignored and it
has other cases. -/
def literalHir (flags : Flags) (lit : Literal) : Except PatternError Hir := do
  let c ← literalChar flags lit
  if !flags.caseInsensitive then return .literal [c]
  if flags.unicode then
    if hasCaseVariant c.toNat then
      return Hir.ofClass ⟨(CodeSet.range c.toNat c.toNat).caseFold, false⟩
    return .literal [c]
  if c.isAlpha && c.toNat < 0x80 then
    return Hir.ofClass ⟨asciiFold (CodeSet.range c.toNat c.toNat), true⟩
  return .literal [c]

/-- The class of `.`: every character, or all but the line feed, or all but
the line feed and the carriage return. -/
def dotHir (flags : Flags) (span : Span) : Except PatternError Hir := do
  if !flags.unicode then refuse .invalidUtf8 span
  let set :=
    if flags.dotMatchesNewLine then CodeSet.full
    else if flags.crlf then CodeSet.full.diff (CodeSet.ofRanges [⟨0x0A, 0x0A⟩, ⟨0x0D, 0x0D⟩])
    else CodeSet.full.diff (CodeSet.range 0x0A 0x0A)
  return Hir.ofClass ⟨set, false⟩

/-- The test of an assertion under the flags.  Outside Unicode mode the
word tests use ASCII word characters. -/
def assertionHir (flags : Flags) : Assertion -> Look
  | .startLine => if flags.multiLine then (if flags.crlf then .startCRLF else .startLF) else .start
  | .endLine => if flags.multiLine then (if flags.crlf then .endCRLF else .endLF) else .finish
  | .startText => .start
  | .endText => .finish
  | .wordBoundary => if flags.unicode then .wordUnicode else .wordAscii
  | .notWordBoundary => if flags.unicode then .wordUnicodeNegate else .wordAsciiNegate
  | .wordStart => if flags.unicode then .wordStartUnicode else .wordStartAscii
  | .wordEnd => if flags.unicode then .wordEndUnicode else .wordEndAscii
  | .wordStartHalf => if flags.unicode then .wordStartHalfUnicode else .wordStartHalfAscii
  | .wordEndHalf => if flags.unicode then .wordEndHalfUnicode else .wordEndHalfAscii

/-- The bounds of a repetition. -/
def RepeatKind.bounds : RepeatKind -> Nat × Option Nat
  | .zeroOrOne => (0, some 1)
  | .zeroOrMore => (0, none)
  | .oneOrMore => (1, none)
  | .exactly m => (m, some m)
  | .atLeast m => (m, none)
  | .bounded m n => (m, some n)

mutual

/-- Translate a node under the flags in force; the flags after it, which a
flag group changes, come back with it. -/
def translateNode (flags : Flags) : Ast -> Except PatternError (Hir × Flags)
  | .empty _ => .ok (.empty, flags)
  | .flags _ items => .ok (.empty, flags.apply items)
  | .literal lit => do return (← literalHir flags lit, flags)
  | .dot span => do return (← dotHir flags span, flags)
  | .assertion _ kind => .ok (.look (assertionHir flags kind), flags)
  | .unicodeClass span query negated => do
    return (Hir.ofClass ⟨← unicodeClass flags span query negated, false⟩, flags)
  | .perlClass span kind negated =>
    if flags.unicode then
      .ok (Hir.ofClass ⟨if negated then kind.set.complement else kind.set, false⟩, flags)
    else do return (Hir.ofClass ⟨← perlBytes span kind negated, true⟩, flags)
  | .bracketed span negated body =>
    if flags.unicode then do
      let s ← body.unicodeSet flags
      return (Hir.ofClass ⟨foldNegate flags negated s, false⟩, flags)
    else do
      let s ← body.byteSet flags
      return (Hir.ofClass ⟨← foldNegateBytes flags span negated s, true⟩, flags)
  | .repetition _ kind greedy sub => do
    let (h, _) ← translateNode flags sub
    let (min, max) := kind.bounds
    return (Hir.repeatOf min max (if flags.swapGreed then !greedy else greedy) h, flags)
  | .group _ kind sub => do
    let inner :=
      match kind with
      | .nonCapturing items => flags.apply items
      | _ => flags
    let (h, _) ← translateNode inner sub
    match kind with
    | .capture index => return (.capture index none h, flags)
    | .named name index => return (.capture index (some name) h, flags)
    | .nonCapturing _ => return (h, flags)
  | .alternation _ items => do
    let (hs, flags) ← translateList flags items
    return (Hir.alternationOf hs, flags)
  | .concat _ items => do
    let (hs, flags) ← translateList flags items
    return (Hir.concatOf (hs.filter fun h => !(h matches .empty)), flags)

/-- Translate nodes in order, the flags passing from each to the next. -/
def translateList (flags : Flags) : List Ast -> Except PatternError (List Hir × Flags)
  | [] => .ok ([], flags)
  | a :: rest => do
    let (h, flags) ← translateNode flags a
    let (hs, flags) ← translateList flags rest
    return (h :: hs, flags)

end

/-- Translate a parsed pattern under the initial flags. -/
def translate (flags : Flags) (ast : Ast) : Except PatternError Hir :=
  (translateNode flags ast).map (·.1)

end Regex
end Refbook
