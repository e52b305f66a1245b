import Refbook.Text.Blank

namespace Refbook
namespace Decimal

/-!
# Decimal numbers of any size

A decimal is a whole coefficient and a scale: `coefficient · 10^-scale`.
Its text is an optional sign, digits with an optional point (digits on
either side may be missing, but not on both), and an optional exponent after
`e` or `E`.  Underscores may stand between digits, but not first.

The canonical text of a decimal has no exponent and no trailing zeros:
`1000`, `0.001`, `-2.25`, `0`.
-/

/-- A decimal `coefficient · 10^-scale`. -/
structure Number where
  coefficient : Int
  scale : Int
  deriving Repr, DecidableEq

/-- ASCII digits and underscores, not starting with an underscore, as a
whole number.  An optional plus sign is taken first. -/
def readMagnitude (chars : List Char) : Option Nat :=
  let chars :=
    match chars with
    | '+' :: rest => if rest.head? = some '+' then chars else rest
    | _ => chars
  match chars with
  | [] => none
  | '_' :: _ => none
  | _ =>
    chars.foldlM (fun acc c =>
      if c = '_' then some acc
      else if '0' ≤ c ∧ c ≤ '9' then some (acc * 10 + (c.toNat - 48))
      else none) 0

/-- An optionally signed whole number of coefficient digits. -/
def readCoefficient (chars : List Char) : Option Int :=
  match chars with
  | '-' :: rest =>
    if rest.head? = some '+' then (readMagnitude chars).map Int.ofNat
    else (readMagnitude rest).map fun n => -(n : Int)
  | _ => (readMagnitude chars).map Int.ofNat

/-- A signed whole number of at most 128 bits: sign, then ASCII digits. -/
def readExponent (chars : List Char) : Option Int :=
  let (negative, digits) :=
    match chars with
    | '-' :: rest => (true, rest)
    | '+' :: rest => (false, rest)
    | _ => (false, chars)
  if digits.isEmpty ∨ ¬ digits.all (fun c => '0' ≤ c ∧ c ≤ '9') then none
  else
    let n : Nat := digits.foldl (fun acc c => acc * 10 + (c.toNat - 48)) 0
    let value : Int := if negative then -(n : Int) else n
    if -(Int.pow 2 127) ≤ value ∧ value < Int.pow 2 127 then some value else none

/-- Read a decimal's text, with no blanks around it. -/
def Number.read (text : String) : Option Number := do
  let chars := text.toList
  let (base, exponent) ←
    match chars.findIdx? (fun c => c = 'e' ∨ c = 'E') with
    | none => some (chars, (0 : Int))
    | some i => do
      let e ← readExponent (chars.drop (i + 1))
      pure (chars.take i, e)
  if base.isEmpty then none
  let (digits, offset) :=
    match base.findIdx? (· = '.') with
    | none => (base, 0)
    | some i =>
      if i + 1 = base.length then (base.take i, 0)
      else
        let trail := base.drop (i + 1)
        (base.take i ++ trail, (trail.filter (· ≠ '_')).length)
  let scale : Int := (offset : Int) - exponent
  if ¬ (-(Int.pow 2 63) ≤ scale ∧ scale < Int.pow 2 63) then none
  let coefficient ← readCoefficient digits
  pure { coefficient, scale }

/-- Strip trailing zeros of the coefficient; zero has scale zero. -/
def Number.normalize (d : Number) : Number :=
  let rec go (fuel : Nat) (c : Int) (s : Int) : Number :=
    match fuel with
    | 0 => { coefficient := c, scale := s }
    | fuel + 1 => if c % 10 = 0 then go fuel (c / 10) (s - 1) else { coefficient := c, scale := s }
  if d.coefficient = 0 then { coefficient := 0, scale := 0 }
  else go (Nat.toDigits 10 d.coefficient.natAbs).length d.coefficient d.scale

/-- Plain text without exponent or trailing zeros. -/
def Number.plain (d : Number) : String :=
  let n := d.normalize
  if n.coefficient = 0 then "0"
  else
    let sign := if n.coefficient < 0 then "-" else ""
    let digits := Nat.toDigits 10 n.coefficient.natAbs
    let zeros (k : Nat) : List Char := List.replicate k '0'
    if n.scale ≤ 0 then sign ++ String.ofList (digits ++ zeros n.scale.natAbs)
    else
      let scale := n.scale.toNat
      if digits.length > scale then
        sign ++ String.ofList (digits.take (digits.length - scale)) ++ "." ++
          String.ofList (digits.drop (digits.length - scale))
      else sign ++ "0." ++ String.ofList (zeros (scale - digits.length) ++ digits)

/-- The largest power of ten a canonical decimal may carry either way. -/
def maxExponent : Nat := 1000

/-- Why a text has no canonical decimal. -/
inductive Refusal where
  | unreadable
  | outOfRange
  deriving DecidableEq, Repr

/-- The canonical text of a decimal written with blanks allowed around it. -/
def canonical (raw : String) : Except Refusal String :=
  match Number.read (Text.trim raw) with
  | none => .error .unreadable
  | some d =>
    if d.normalize.scale.natAbs > maxExponent then .error .outOfRange
    else .ok d.plain

end Decimal
end Refbook
