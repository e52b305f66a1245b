import Refbook.Text.CodeSet
import Refbook.Text.Unicode.Display

namespace Refbook
namespace Text

/-!
# Texts between quotes

How a text is shown inside a message: between double quotes, with the quote,
the backslash, NUL, tab, carriage return and line feed escaped by a
backslash.  A character that would not show on its own is written
`\u{hex}`, in lowercase hex without leading zeros: a mark that extends the
grapheme before it (it would sit on that character), a character that is
ignored by default when it has no glyph (the Hangul fillers, for instance),
and a character that is not printable (a separator other than the space, a
control, a format character, private use or unassigned).  Which characters
these are follows Unicode 17.0 (`Unicode.codeWrittenRanges`).  Every other
character is written as it is.
-/

/-- The characters written by their code. -/
def codeWritten : CodeSet :=
  CodeSet.ofText Unicode.codeWrittenRanges

/-- A character written by its code: `\u{hex}`. -/
def codeEscape (c : Char) : List Char :=
  "\\u\x7b".toList ++ Nat.toDigits 16 c.toNat ++ ['\x7d']

/-- A character as a quoted text shows it. -/
def quotedChar (c : Char) : List Char :=
  match c with
  | '"' => ['\\', '"']
  | '\\' => ['\\', '\\']
  | '\n' => ['\\', 'n']
  | '\r' => ['\\', 'r']
  | '\t' => ['\\', 't']
  | '\x00' => ['\\', '0']
  | c => if codeWritten.contains c.toNat then codeEscape c else [c]

/-- A text between quotes, escaped as `quotedChar` says. -/
def debugQuote (s : String) : String :=
  "\"" ++ String.ofList (s.toList.flatMap quotedChar) ++ "\""

end Text
end Refbook
