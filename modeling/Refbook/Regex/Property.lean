import Refbook.Regex.Ast
import Refbook.Text.CodeSet
import Refbook.Text.Unicode.Category
import Refbook.Text.Unicode.Binary
import Refbook.Text.Unicode.Script
import Refbook.Text.Unicode.Segment
import Refbook.Text.Unicode.Names

namespace Refbook
namespace Regex

open Text Text.Unicode

/-!
# Classes named by Unicode properties

`\p{…}` names a class by a property of the standard: a binary property
(`\p{Alphabetic}`), a general category (`\pL`, `\p{Lu}`), a script
(`\p{Greek}`), or a property and a value (`\p{Script=Latin}`,
`\p{gc=Nd}`, `\p{Age=6.0}`).  Names are compared loosely: case, blanks,
underscores, hyphens, an `is` before the name and anything outside ASCII
are ignored.

A bare name is tried as a property first (except `cf`, `sc` and `lc`,
which are taken as categories), then as a category, then as a script.  A
name and a value need a property that has values: the general category,
the script and script extensions, the age (every code point assigned up to
that version), and the grapheme, word and sentence break properties.  An
unknown property is one error, a known property without such a value
another.
-/

/-- Why a property class cannot be built. -/
inductive PropertyError where
  | propertyNotFound
  | valueNotFound
  deriving DecidableEq, Repr

/-- The error of a pattern for a property error. -/
def PropertyError.kind : PropertyError -> ErrorKind
  | .propertyNotFound => .unicodePropertyNotFound
  | .valueNotFound => .unicodePropertyValueNotFound

/-- A name compared loosely: an `is` before it dropped, then blanks,
underscores, hyphens and anything outside ASCII, and letters in lowercase.
`isc` stays as it is. -/
def normalizeName (name : String) : String :=
  let cs := name.toList
  let startsWithIs :=
    match cs with
    | a :: b :: _ => (a = 'i' || a = 'I') && (b = 's' || b = 'S')
    | _ => false
  let body := if startsWithIs then cs.drop 2 else cs
  let kept := body.filterMap fun c =>
    if c = ' ' || c = '_' || c = '-' then none
    else if 'A' ≤ c && c ≤ 'Z' then some (Char.ofNat (c.toNat + 32))
    else if c.toNat ≤ 0x7F then some c
    else none
  if startsWithIs && kept = ['c'] then "isc" else String.ofList kept

/-- The entries `name=Canonical` of a names table. -/
def nameEntries (table : String) : List (String × String) :=
  (CodeSet.words table).filterMap fun word =>
    match word.span (· ≠ '=') with
    | (name, _ :: canonical) => some (String.ofList name, String.ofList canonical)
    | _ => none

/-- The canonical name of a normalized name in a names table. -/
def canonicalIn (table : String) (norm : String) : Option String :=
  (nameEntries table).lookup norm

/-- The canonical name of a general category, or of `Any`, `Assigned` and
`ASCII`. -/
def canonicalCategory (norm : String) : Option String :=
  if norm = "any" then some "Any"
  else if norm = "assigned" then some "Assigned"
  else if norm = "ascii" then some "ASCII"
  else canonicalIn categoryNames norm

/-- The names table of the values of a property, for the properties that
have values. -/
def valueNames : String -> Option String
  | "Age" => some ageNames
  | "General_Category" => some categoryNames
  | "Grapheme_Cluster_Break" => some graphemeBreakNames
  | "Script" => some scriptNames
  | "Script_Extensions" => some scriptNames
  | "Sentence_Break" => some sentenceBreakNames
  | "Word_Break" => some wordBreakNames
  | _ => none

/-- What a query names, once its names are canonical. -/
inductive Named where
  | binary (name : String)
  | category (name : String)
  | script (name : String)
  | byValue (property value : String)
  deriving DecidableEq, Repr

/-- A bare name: a property, else a category, else a script. -/
def canonicalBare (name : String) : Except PropertyError Named :=
  let norm := normalizeName name
  let asProperty :=
    if norm = "cf" || norm = "sc" || norm = "lc" then none else canonicalIn propertyNames norm
  match asProperty with
  | some canon => .ok (.binary canon)
  | none =>
    match canonicalCategory norm with
    | some canon => .ok (.category canon)
    | none =>
      match canonicalIn scriptNames norm with
      | some canon => .ok (.script canon)
      | none => .error .propertyNotFound

/-- What a query names. -/
def Query.canonical : Query -> Except PropertyError Named
  | .oneLetter c => canonicalBare (String.singleton c)
  | .named name => canonicalBare name
  | .namedValue _ name value => do
    let name := normalizeName name
    let value := normalizeName value
    let some property := canonicalIn propertyNames name | throw .propertyNotFound
    match property with
    | "General_Category" =>
      let some canon := canonicalCategory value | throw .valueNotFound
      return .category canon
    | "Script" =>
      let some canon := canonicalIn scriptNames value | throw .valueNotFound
      return .script canon
    | _ =>
      let some table := valueNames property | throw .valueNotFound
      let some canon := canonicalIn table value | throw .valueNotFound
      return .byValue property canon

/-- The code points a table lists under a name. -/
def tableSet (table : List (String × String)) (name : String) : Option CodeSet :=
  (table.lookup name).map CodeSet.ofText

/-- The surrogates, which no class of characters holds. -/
def surrogates : CodeSet :=
  CodeSet.range 0xD800 0xDFFF

/-- The categories of a general category's long name, groups included.
`Surrogate` has none: no class of characters holds a surrogate, so the
category is named but has no table, and asking for it finds no value. -/
def categoriesOf : String -> Option (List Category)
  | "Cased_Letter" => some [.lu, .ll, .lt]
  | "Letter" => some [.lu, .ll, .lt, .lm, .lo]
  | "Mark" => some [.mn, .mc, .me]
  | "Number" => some [.nd, .nl, .no]
  | "Other" => some [.cc, .cf, .cs, .co, .cn]
  | "Punctuation" => some [.pc, .pd, .ps, .pe, .pi, .pf, .po]
  | "Separator" => some [.zs, .zl, .zp]
  | "Symbol" => some [.sm, .sc, .sk, .so]
  | "Uppercase_Letter" => some [.lu]
  | "Lowercase_Letter" => some [.ll]
  | "Titlecase_Letter" => some [.lt]
  | "Modifier_Letter" => some [.lm]
  | "Other_Letter" => some [.lo]
  | "Nonspacing_Mark" => some [.mn]
  | "Spacing_Mark" => some [.mc]
  | "Enclosing_Mark" => some [.me]
  | "Decimal_Number" => some [.nd]
  | "Letter_Number" => some [.nl]
  | "Other_Number" => some [.no]
  | "Connector_Punctuation" => some [.pc]
  | "Dash_Punctuation" => some [.pd]
  | "Open_Punctuation" => some [.ps]
  | "Close_Punctuation" => some [.pe]
  | "Initial_Punctuation" => some [.pi]
  | "Final_Punctuation" => some [.pf]
  | "Other_Punctuation" => some [.po]
  | "Math_Symbol" => some [.sm]
  | "Currency_Symbol" => some [.sc]
  | "Modifier_Symbol" => some [.sk]
  | "Other_Symbol" => some [.so]
  | "Space_Separator" => some [.zs]
  | "Line_Separator" => some [.zl]
  | "Paragraph_Separator" => some [.zp]
  | "Control" => some [.cc]
  | "Format" => some [.cf]
  | "Private_Use" => some [.co]
  | "Unassigned" => some [.cn]
  | _ => none

/-- The decimal digits: `\d`. -/
def digitSet : CodeSet :=
  ((binaryProperties.lookup "Digit").map CodeSet.ofText).getD CodeSet.empty

/-- White space: `\s`. -/
def spaceSet : CodeSet :=
  ((binaryProperties.lookup "Space").map CodeSet.ofText).getD CodeSet.empty

/-- Word characters: `\w`. -/
def wordSet : CodeSet :=
  ((binaryProperties.lookup "Word").map CodeSet.ofText).getD CodeSet.empty

/-- The code points of a general category. -/
def categorySet (name : String) : Except PropertyError CodeSet :=
  match name with
  | "ASCII" => .ok (CodeSet.range 0 0x7F)
  | "Any" => .ok CodeSet.full
  | "Assigned" => .ok (Category.members [.cn]).complement
  | "Decimal_Number" => .ok digitSet
  | _ =>
    match categoriesOf name with
    | some cats => .ok ((Category.members cats).diff surrogates)
    | none => .error .valueNotFound

/-- The code points assigned up to a version of the standard. -/
def ageSet (version : String) : Except PropertyError CodeSet :=
  let rec upTo : List (String × String) -> CodeSet -> Option CodeSet
    | [], _ => none
    | (name, text) :: rest, acc =>
      let acc := acc.union (CodeSet.ofText text)
      if name = version then some acc else upTo rest acc
  match upTo ages CodeSet.empty with
  | some set => .ok set
  | none => .error .valueNotFound

/-- The code points a canonical name stands for. -/
def Named.set : Named -> Except PropertyError CodeSet
  | .binary "Decimal_Number" => .ok digitSet
  | .binary "White_Space" => .ok spaceSet
  | .binary name =>
    match tableSet binaryProperties name with
    | some set => .ok set
    | none => .error .propertyNotFound
  | .category name => categorySet name
  | .script name =>
    match tableSet scripts name with
    | some set => .ok set
    | none => .error .valueNotFound
  | .byValue "Age" value => ageSet value
  | .byValue "Script_Extensions" value =>
    match tableSet scriptExtensions value with
    | some set => .ok set
    | none => .error .valueNotFound
  | .byValue "Grapheme_Cluster_Break" value =>
    match tableSet graphemeBreak value with
    | some set => .ok set
    | none => .error .valueNotFound
  | .byValue "Sentence_Break" value =>
    match tableSet sentenceBreak value with
    | some set => .ok set
    | none => .error .valueNotFound
  | .byValue "Word_Break" value =>
    match tableSet wordBreak value with
    | some set => .ok set
    | none => .error .valueNotFound
  | .byValue _ _ => .error .propertyNotFound

/-- The code points a `\p` query names, before any negation. -/
def Query.set (q : Query) : Except PropertyError CodeSet := do
  (← q.canonical).set

/-- The code points of an ASCII class `[:name:]`. -/
def AsciiKind.set : AsciiKind -> CodeSet
  | .alnum => CodeSet.ofRanges [⟨0x30, 0x39⟩, ⟨0x41, 0x5A⟩, ⟨0x61, 0x7A⟩]
  | .alpha => CodeSet.ofRanges [⟨0x41, 0x5A⟩, ⟨0x61, 0x7A⟩]
  | .ascii => CodeSet.range 0 0x7F
  | .blank => CodeSet.ofRanges [⟨0x09, 0x09⟩, ⟨0x20, 0x20⟩]
  | .cntrl => CodeSet.ofRanges [⟨0x00, 0x1F⟩, ⟨0x7F, 0x7F⟩]
  | .digit => CodeSet.range 0x30 0x39
  | .graph => CodeSet.range 0x21 0x7E
  | .lower => CodeSet.range 0x61 0x7A
  | .print => CodeSet.range 0x20 0x7E
  | .punct => CodeSet.ofRanges [⟨0x21, 0x2F⟩, ⟨0x3A, 0x40⟩, ⟨0x5B, 0x60⟩, ⟨0x7B, 0x7E⟩]
  | .space => CodeSet.ofRanges [⟨0x09, 0x0D⟩, ⟨0x20, 0x20⟩]
  | .upper => CodeSet.range 0x41 0x5A
  | .word => CodeSet.ofRanges [⟨0x30, 0x39⟩, ⟨0x41, 0x5A⟩, ⟨0x5F, 0x5F⟩, ⟨0x61, 0x7A⟩]
  | .xdigit => CodeSet.ofRanges [⟨0x30, 0x39⟩, ⟨0x41, 0x46⟩, ⟨0x61, 0x66⟩]

/-- The Unicode classes `\d`, `\s` and `\w`. -/
def PerlKind.set : PerlKind -> CodeSet
  | .digit => digitSet
  | .space => spaceSet
  | .word => wordSet

/-- The ASCII classes `\d`, `\s` and `\w`, outside Unicode mode. -/
def PerlKind.asciiSet : PerlKind -> CodeSet
  | .digit => AsciiKind.digit.set
  | .space => AsciiKind.space.set
  | .word => AsciiKind.word.set

end Regex
end Refbook
