import Refbook.Decimal.Shortest
import Refbook.Decimal.Canonical

namespace Refbook
namespace Decimal

/-!
# Decimals and doubles

`Number.toDouble` rounds a decimal to the nearest double, ties to the even
mantissa, as reading a number's text does; magnitudes past the largest
double become infinite.  `plainText` writes a double the way a bound appears
in messages: its shortest decimal, positional, with no exponent and no
trailing `.0`.
-/

/-- `⌊log₂ (n / d)⌋` for positive `n` and `d`. -/
def floorLog2 (n d : Nat) : Int :=
  let l : Int := (n.log2 : Int) - d.log2
  let below : Bool :=
    if 0 ≤ l then n < d * Nat.pow 2 l.toNat else n * Nat.pow 2 l.natAbs < d
  if below then l - 1 else l

/-- Divide, rounding to nearest with ties to even. -/
def divRound (num den : Nat) : Nat :=
  let q := num / den
  let r := num % den
  if 2 * r > den ∨ (2 * r = den ∧ q % 2 = 1) then q + 1 else q

/-- The bits of the double nearest to `n / d`, for positive `n` and `d`. -/
def nearestBits (n d : Nat) : Nat :=
  let e := max (floorLog2 n d - 52) (-1074)
  let scaled :=
    if 0 ≤ e then divRound n (d * Nat.pow 2 e.toNat) else divRound (n * Nat.pow 2 e.natAbs) d
  let (m, e) := if scaled = Nat.pow 2 53 then (Nat.pow 2 52, e + 1) else (scaled, e)
  if m < Nat.pow 2 52 then m
  else
    let biased := e + 1075
    if biased ≥ 2047 then 0x7FF0000000000000
    else biased.toNat * Nat.pow 2 52 + (m - Nat.pow 2 52)

/-- The double nearest to a decimal. -/
def Number.toDouble (x : Number) : Float :=
  let n := x.coefficient.natAbs
  let sign : Nat := if x.coefficient < 0 then Nat.pow 2 63 else 0
  if n = 0 then Float.ofBits (UInt64.ofNat sign)
  else
    let bits :=
      if x.scale ≤ 0 then nearestBits (n * Nat.pow 10 x.scale.natAbs) 1
      else nearestBits n (Nat.pow 10 x.scale.toNat)
    Float.ofBits (UInt64.ofNat (sign + bits))

/-- A double written positionally with its shortest digits: `100`, `1000.5`,
`0.0000001`, `-5`; `inf`, `-inf` and `NaN` for the others. -/
def plainText (f : Float) : String :=
  if f.isNaN then "NaN"
  else
    let b := Binary.ofBits f.toBits
    let sign := if b.negative then "-" else ""
    if f.isInf then sign ++ "inf"
    else if b.mantissa = 0 then sign ++ "0"
    else
      let s := (shortest b).trim
      let digits := Nat.toDigits 10 s.digits
      let point : Int := (digits.length : Int) + s.exponent
      let zeros (n : Nat) : List Char := List.replicate n '0'
      let body :=
        if point ≤ 0 then "0." ++ String.ofList (zeros point.natAbs ++ digits)
        else if point.toNat < digits.length then
          String.ofList (digits.take point.toNat) ++ "." ++ String.ofList (digits.drop point.toNat)
        else String.ofList (digits ++ zeros (point.toNat - digits.length))
      sign ++ body

end Decimal
end Refbook
