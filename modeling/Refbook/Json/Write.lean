import Refbook.Json.Value
import Refbook.Decimal.Shortest

namespace Refbook

/-!
# Writing JSON

Compact text has no blanks; pretty text puts each entry on its own line,
indented by two spaces per level, with `": "` after keys.  Strings escape
the quote, the backslash and control characters (`\n`, `\t`, … or `\u00XX`
in lowercase hex); everything else is written as it is.

A double is written with the shortest digits that read back.  Its decimal
point stays in place for numbers from `10^-5` up to `10^16` and a whole
double keeps a `.0`; beyond that it is `d.ddde±x`, the exponent always signed.  A
double that is not finite is written `null`.
-/

namespace Json

/-- Text of a double's shortest decimal. -/
def floatText (f : Float) : String :=
  let b := Decimal.Binary.ofBits f.toBits
  let sign := if b.negative then "-" else ""
  if b.mantissa = 0 then sign ++ "0.0"
  else
    let s := Decimal.shortest b
    let digits := toString s.digits
    let length : Int := digits.length
    let point := length + s.exponent
    let zeros (n : Int) : String := String.ofList (List.replicate n.toNat '0')
    let body :=
      if 0 ≤ s.exponent ∧ point ≤ 16 then digits ++ zeros s.exponent ++ ".0"
      else if 0 < point ∧ point ≤ 16 then
        String.ofList (digits.toList.take point.toNat) ++ "." ++
          String.ofList (digits.toList.drop point.toNat)
      else if -5 < point ∧ point ≤ 0 then "0." ++ zeros (-point) ++ digits
      else
        let mantissa :=
          if length = 1 then digits
          else String.ofList (digits.toList.take 1) ++ "." ++ String.ofList (digits.toList.drop 1)
        let power := point - 1
        mantissa ++ (if power < 0 then "e-" else "e+") ++ toString power.natAbs
    sign ++ body

/-- Text of a number. -/
def numberText : JsonNumber -> String
  | .nat n => toString n
  | .neg n => toString n
  | .float f => if f.isNaN || f.isInf then "null" else floatText f

/-- Two lowercase hex digits. -/
def hex2 (n : Nat) : String :=
  let digit (d : Nat) : Char := if d < 10 then Char.ofNat (48 + d) else Char.ofNat (87 + d)
  String.ofList [digit (n / 16 % 16), digit (n % 16)]

/-- A character inside a quoted string. -/
def escapeChar (c : Char) : String :=
  match c with
  | '"' => "\\\""
  | '\\' => "\\\\"
  | '\n' => "\\n"
  | '\r' => "\\r"
  | '\t' => "\\t"
  | _ =>
    if c.toNat = 8 then "\\b"
    else if c.toNat = 12 then "\\f"
    else if c.toNat < 32 then "\\u00" ++ hex2 c.toNat
    else c.toString

/-- A quoted string. -/
def quote (s : String) : String :=
  "\"" ++ String.join (s.toList.map escapeChar) ++ "\""

mutual

/-- Compact text. -/
def compact : Json -> String
  | null => "null"
  | bool true => "true"
  | bool false => "false"
  | number n => numberText n
  | string s => quote s
  | array items => "[" ++ compactItems items ++ "]"
  | object fields => "\x7b" ++ compactFields fields ++ "\x7d"

/-- Compact text of array items, separated by commas. -/
def compactItems : List Json -> String
  | [] => ""
  | [item] => compact item
  | item :: items => compact item ++ "," ++ compactItems items

/-- Compact text of object entries, separated by commas. -/
def compactFields : List (String × Json) -> String
  | [] => ""
  | [(key, value)] => quote key ++ ":" ++ compact value
  | (key, value) :: fields => quote key ++ ":" ++ compact value ++ "," ++ compactFields fields

end

/-- The blanks that indent a level. -/
def indent (level : Nat) : String :=
  String.ofList (List.replicate (2 * level) ' ')

mutual

/-- Pretty text at an indentation level. -/
def prettyAt (level : Nat) : Json -> String
  | array [] => "[]"
  | object [] => "\x7b\x7d"
  | array items => "[\n" ++ prettyItems (level + 1) items ++ "\n" ++ indent level ++ "]"
  | object fields => "\x7b\n" ++ prettyFields (level + 1) fields ++ "\n" ++ indent level ++ "\x7d"
  | other => compact other

/-- Pretty array items, one per line. -/
def prettyItems (level : Nat) : List Json -> String
  | [] => ""
  | [item] => indent level ++ prettyAt level item
  | item :: items => indent level ++ prettyAt level item ++ ",\n" ++ prettyItems level items

/-- Pretty object entries, one per line. -/
def prettyFields (level : Nat) : List (String × Json) -> String
  | [] => ""
  | [(key, value)] => indent level ++ quote key ++ ": " ++ prettyAt level value
  | (key, value) :: fields =>
    indent level ++ quote key ++ ": " ++ prettyAt level value ++ ",\n" ++ prettyFields level fields

end

/-- Pretty text. -/
def pretty (json : Json) : String :=
  prettyAt 0 json

end Json

end Refbook
