namespace Refbook
namespace Document

/-!
# Patterns as regular expressions

A `like` pattern becomes an anchored regular expression: `%` matches any
run, `_` any one character, and a backslash makes the next character
literal.  A backslash that ends the pattern escapes nothing and can never
match, so it becomes `\b\B`.  Every other character matches itself: the
characters with a meaning in regular expressions get a backslash.
-/

/-- Characters with a meaning in regular expressions. -/
def isMetaChar (c : Char) : Bool :=
  "\\.+*?()|[]^$#&-~".toList.contains c || c.toNat = 0x7B || c.toNat = 0x7D

/-- A character that matches itself. -/
def escapeChar (c : Char) : String :=
  if isMetaChar c then "\\" ++ c.toString else c.toString

/-- Text that matches itself. -/
def escapeRegex (text : String) : String :=
  String.join (text.toList.map escapeChar)

/-- The body of the regular expression of a pattern. -/
def likeBody : List Char -> String
  | [] => ""
  | '%' :: rest => ".*" ++ likeBody rest
  | '_' :: rest => "." ++ likeBody rest
  | ['\\'] => "\\b\\B"
  | '\\' :: c :: rest => escapeChar c ++ likeBody rest
  | c :: rest => escapeChar c ++ likeBody rest

/-- The regular expression of a `like` pattern. -/
def likeToRegex (pattern : String) : String :=
  "^" ++ likeBody pattern.toList ++ "$"

end Document
end Refbook
