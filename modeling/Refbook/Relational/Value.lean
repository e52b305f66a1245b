import Refbook.Decimal.Double
import Refbook.Relational.DoubleDouble

namespace Refbook
namespace Relational

/-!
# Values of the relational engine

A stored value is null, a 64-bit whole number, a double or text.  Each
column has an *affinity*, read off its declared type, and values change
class on their way into it: text that is a well-formed number becomes a
number in a numeric column, a whole double becomes a whole number, and a
number becomes text in a text column.

Values are ordered null first, then numbers by value (whole numbers and
doubles compared exactly), then text by code points.  A comparison first
converts its operands by the affinity of the columns involved, and a
comparison with null is unknown.

Reading a number from text keeps at most nineteen significant digits (the
rest only move the point) and scales them through a double-double.  A
double is written with fifteen significant digits, always with a point
(`2.0`, `0.1`, `1.0e+20`).
-/

/-- A stored value. -/
inductive Value where
  | null
  | integer (n : Int)
  | real (f : Float)
  | text (s : String)
  deriving Repr, Inhabited

/-- How a column or an expression converts the values it meets. -/
inductive Affinity where
  /-- Bound parameters and plain expressions: no conversion. -/
  | none
  | blob
  | text
  | numeric
  | integer
  | real
  deriving DecidableEq, Repr, Inhabited

/-- `sub` occurs in `s`. -/
def containsText (s sub : List Char) : Bool :=
  match s with
  | [] => sub.isEmpty
  | c :: rest => sub.isPrefixOf (c :: rest) || containsText rest sub

namespace Affinity

def isNumeric : Affinity -> Bool
  | numeric | integer | real => true
  | _ => false

/-- The affinity of a declared column type, by the words it contains (in
any case): `INT` gives integer; `CHAR`, `CLOB` or `TEXT` text; `BLOB` or no
type blob; `REAL`, `FLOA` or `DOUB` real; anything else numeric. -/
def ofDeclared (declared : String) : Affinity :=
  let upper := declared.toList.map Char.toUpper
  let has (word : String) : Bool := containsText upper word.toList
  if has "INT" then integer
  else if has "CHAR" || has "CLOB" || has "TEXT" then text
  else if has "BLOB" || upper.isEmpty then blob
  else if has "REAL" || has "FLOA" || has "DOUB" then real
  else numeric

/-- The affinity under which two operands are compared: a numeric side
makes it numeric when both sides have an affinity, and none otherwise;
when one side has none, the other side's. -/
def comparing (left right : Affinity) : Affinity :=
  if left ≠ none ∧ right ≠ none then
    if left.isNumeric || right.isNumeric then numeric else blob
  else if left = none then right else left

end Affinity

/-- Blanks around a number's text. -/
def isBlank (c : Char) : Bool :=
  c = ' ' || c = '\t' || c = '\n' || c = '\x0b' || c = '\x0c' || c = '\r'

/-- Once the significand reaches this, further digits are not taken in. -/
def significandCap : Nat :=
  (Nat.pow 2 64 - 1 - 9) / 10

/-- What reading a number's text found: the significand taken in, how far
its point moved, the exponent, how many digits were taken, whether a point
or an exponent was seen (`kind` 1 for neither, one more for each), whether
the exponent had digits, and the text after the number and its blanks. -/
structure Scan where
  negative : Bool := false
  significand : Nat := 0
  shift : Int := 0
  exponent : Nat := 0
  exponentNegative : Bool := false
  digits : Nat := 0
  kind : Nat := 1
  exponentValid : Bool := true
  rest : List Char := []
  deriving Repr, Inhabited

namespace Scan

def digitValue (c : Char) : Nat :=
  c.toNat - '0'.toNat

/-- Skip digits, counting them. -/
def countDigits : List Char -> Nat × List Char
  | c :: cs =>
    if c.isDigit then
      let (n, rest) := countDigits cs
      (n + 1, rest)
    else (0, c :: cs)
  | [] => (0, [])

/-- Digits before the point: taken until the significand reaches the cap,
after which they only move the point. -/
def integerDigits (s : Scan) : List Char -> Scan × List Char
  | c :: cs =>
    if c.isDigit then
      let s := { s with significand := s.significand * 10 + digitValue c, digits := s.digits + 1 }
      if s.significand ≥ significandCap then
        let (skipped, rest) := countDigits cs
        ({ s with shift := s.shift + skipped }, rest)
      else integerDigits s cs
    else (s, c :: cs)
  | [] => (s, [])

/-- Digits after the point: taken while the significand is below the cap. -/
def fractionDigits (s : Scan) : List Char -> Scan × List Char
  | c :: cs =>
    if c.isDigit then
      let s :=
        if s.significand < significandCap then
          { s with significand := s.significand * 10 + digitValue c, shift := s.shift - 1,
                   digits := s.digits + 1 }
        else s
      fractionDigits s cs
    else (s, c :: cs)
  | [] => (s, [])

/-- Exponent digits; once the value passes 10000 it stays there. -/
def exponentDigits (e : Nat) (seen : Bool) : List Char -> Nat × Bool × List Char
  | c :: cs =>
    if c.isDigit then
      exponentDigits (if e < 10000 then e * 10 + digitValue c else 10000) true cs
    else (e, seen, c :: cs)
  | [] => (e, seen, [])

/-- Read the exponent part after an `e`. -/
def exponentPart (s : Scan) (cs : List Char) : Scan × List Char :=
  let s := { s with kind := s.kind + 1, exponentValid := false }
  match cs with
  | [] => (s, [])
  | _ =>
    let (negative, cs) :=
      match cs with
      | '-' :: r => (true, r)
      | '+' :: r => (false, r)
      | _ => (false, cs)
    let (e, seen, rest) := exponentDigits 0 false cs
    ({ s with exponent := e, exponentNegative := negative, exponentValid := seen }, rest)

/-- Scan a number's text after its leading blanks. -/
def read (cs : List Char) : Scan :=
  let (negative, cs) :=
    match cs with
    | '-' :: r => (true, r)
    | '+' :: r => (false, r)
    | _ => (false, cs)
  let (s, cs) := integerDigits { negative } cs
  let (s, cs) :=
    match cs with
    | '.' :: r => fractionDigits { s with kind := s.kind + 1 } r
    | _ => (s, cs)
  let (s, cs) :=
    match cs with
    | c :: r => if c = 'e' || c = 'E' then exponentPart s r else (s, cs)
    | [] => (s, [])
  { s with rest := cs.dropWhile isBlank }

/-- The double of what was read, scaled through a double-double. -/
def value (s : Scan) : Float :=
  if s.significand = 0 then (if s.negative then -0.0 else 0.0)
  else
    let e : Int := (if s.exponentNegative then -(s.exponent : Int) else s.exponent) + s.shift
    let r := readScaled s.significand e
    if s.negative then -r else r

/-- 1 for a whole number, 2 or 3 for a number with a point or exponent, -1
for a number with a point or exponent followed by other text, 0 for
anything else. -/
def code (s : Scan) : Int :=
  if s.rest.isEmpty ∧ s.digits > 0 ∧ s.exponentValid then s.kind
  else if s.kind ≥ 2 ∧ (s.kind = 3 ∨ s.exponentValid) ∧ s.digits > 0 then -1
  else 0

end Scan

/-- Read the number at the start of a text: the kind of text it is (see
`Scan.code`) and the double it reads as, 0 when none. -/
def readReal (text : String) : Int × Float :=
  match text.toList.dropWhile isBlank with
  | [] => (0, 0.0)
  | cs =>
    let s := Scan.read cs
    (s.code, s.value)

/-- The whole number a text of sign and digits stands for, blanks around
it allowed. -/
def wholeOfText (text : String) : Option Int :=
  let cs := (text.toList.dropWhile isBlank).reverse.dropWhile isBlank |>.reverse
  let (negative, digits) :=
    match cs with
    | '-' :: r => (true, r)
    | '+' :: r => (false, r)
    | _ => (false, cs)
  if digits.isEmpty || !(digits.all Char.isDigit) then none
  else
    let n : Int := digits.foldl (fun acc c => acc * 10 + Scan.digitValue c) 0
    some (if negative then -n else n)

/-- The range of stored whole numbers. -/
def fitsInt64 (n : Int) : Bool :=
  -(Int.pow 2 63) ≤ n ∧ n < Int.pow 2 63

/-- A finite double as a signed mantissa and a binary exponent. -/
def parts (f : Float) : Int × Int :=
  let b := Decimal.Binary.ofBits f.toBits
  ((if b.negative then -(b.mantissa : Int) else b.mantissa), b.exponent)

/-- The whole part of a finite double, cut toward zero. -/
def truncate (f : Float) : Int :=
  let (m, e) := parts f
  if 0 ≤ e then m * Int.pow 2 e.toNat else Int.tdiv m (Int.pow 2 e.natAbs)

/-- A double that is a whole number strictly inside the stored range
becomes that whole number; any other double stays. -/
def wholeIfExact (f : Float) : Value :=
  if f.isNaN || f.isInf then .real f
  else
    let n := truncate f
    let (m, e) := parts f
    let exact := if 0 ≤ e then true else m % Int.pow 2 e.natAbs = 0
    if exact ∧ -(Int.pow 2 63) < n ∧ n < Int.pow 2 63 - 1 then .integer n else .real f

/-- Numeric conversion of text: a whole number in range becomes that number,
another well-formed number a double (a whole one a whole number when
`preferWhole`), and anything else stays text. -/
def numericOfText (text : String) (preferWhole : Bool) : Value :=
  let (code, r) := readReal text
  if code ≤ 0 then .text text
  else if code = 1 then
    match wholeOfText text with
    | some n => if fitsInt64 n then .integer n else .real r
    | none => .real r
  else if preferWhole then wholeIfExact r
  else .real r

/-- A positive finite double's fifteen significant digits, rounded half up
from the digits `decimalDigits` finds, without trailing zeros, and how many
of them stand before the point. -/
def roundedDigits (f : Float) : List Char × Int :=
  let (digits, point) := decimalDigits f 15 26
  (digits.map fun d => Char.ofNat (48 + d), point)

/-- A double as text: fifteen significant digits, positional when the
decimal exponent is from -4 to 14 and with `e±XX` otherwise, trailing zeros
dropped but at least one digit after the point. -/
def realText (f : Float) : String :=
  if f.isNaN then "NaN"
  else if f.isInf then (if f < 0 then "-Inf" else "Inf")
  else if f == 0 then "0.0"
  else
    let sign := if f < 0 then "-" else ""
    let (digits, point) := roundedDigits (if f < 0 then -f else f)
    let exp := point - 1
    let orZero (cs : List Char) : List Char := if cs.isEmpty then ['0'] else cs
    if exp < -4 ∨ exp > 14 then
      let mark := if exp < 0 then "-" else "+"
      let e := exp.natAbs
      let eText := if e < 10 then "0" ++ toString e else toString e
      sign ++ String.ofList (digits.take 1) ++ "." ++ String.ofList (orZero (digits.drop 1)) ++
        "e" ++ mark ++ eText
    else if point ≤ 0 then
      sign ++ "0." ++ String.ofList (List.replicate point.natAbs '0' ++ digits)
    else
      let whole := digits.take point.toNat ++ List.replicate (point.toNat - digits.length) '0'
      sign ++ String.ofList whole ++ "." ++ String.ofList (orZero (digits.drop point.toNat))

namespace Value

/-- The value as text, when it is not null. -/
def asText? : Value -> Option String
  | null => none
  | integer n => some (toString n)
  | real f => some (realText f)
  | text s => some s

def isText : Value -> Bool
  | text _ => true
  | _ => false

/-- A value on its way into a column of an affinity. -/
def store (aff : Affinity) (v : Value) : Value :=
  if aff.isNumeric then
    match v with
    | text s => numericOfText s true
    | real f => wholeIfExact f
    | _ => v
  else if aff = .text then
    match v with
    | integer _ | real _ => text (v.asText?.getD "")
    | _ => v
  else v

/-- Operands converted for a comparison under an affinity: numeric
conversion of text when one side is text, or text of numbers. -/
def forComparison (aff : Affinity) (a b : Value) : Value × Value :=
  if a.isText || b.isText then
    if aff.isNumeric then
      let convert (v : Value) : Value :=
        match v with
        | text s => numericOfText s false
        | _ => v
      (convert a, convert b)
    else if aff = .text then
      let convert (v : Value) : Value :=
        match v with
        | integer _ | real _ => text (v.asText?.getD "")
        | _ => v
      (convert a, convert b)
    else (a, b)
  else (a, b)

/-- Compare a whole number with a double exactly; a NaN is below every
number. -/
def compareWholeReal (n : Int) (f : Float) : Ordering :=
  if f.isNaN then .gt
  else if f.isInf then (if f < 0 then .gt else .lt)
  else
    let (m, e) := parts f
    let (lhs, rhs) : Int × Int :=
      if 0 ≤ e then (n, m * Int.pow 2 e.toNat) else (n * Int.pow 2 e.natAbs, m)
    compare lhs rhs

/-- The order of stored values: null, then numbers, then text. -/
def order : Value -> Value -> Ordering
  | null, null => .eq
  | null, _ => .lt
  | _, null => .gt
  | integer a, integer b => compare a b
  | real a, real b => if a < b then .lt else if b < a then .gt else .eq
  | integer a, real b => compareWholeReal a b
  | real a, integer b => (compareWholeReal b a).swap
  | integer _, text _ | real _, text _ => .lt
  | text _, integer _ | text _, real _ => .gt
  | text a, text b => if a < b then .lt else if a = b then .eq else .gt

/-- Equal as stored values. -/
def same (a b : Value) : Bool :=
  order a b == .eq

end Value

end Relational
end Refbook
