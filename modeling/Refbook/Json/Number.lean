import Refbook.Decimal.Double

namespace Refbook
namespace Json

/-!
# From number text to a double

A number's text is read into a whole significand and a decimal exponent.
The significand keeps digits while it fits in 64 bits.  Once the next digit
would overflow it, the whole digits that are left only raise the exponent,
and the fraction digits that are left are dropped.  The exponent is held to
the 32-bit signed range.

`scaled` then makes the double in one step: the significand rounded to a
double, times or divided by `10^|e|` rounded to a double.  Past `10^308` it
first divides by `10^308` as often as it must, stopping at zero; a product
that overflows is out of range.  Each of the two roundings is to the
nearest double, but the result can still miss the nearest double of the
decimal: `6e23` reads as `5.9999999999999995e23`.
-/

/-- The largest 64-bit word, the bound of a significand. -/
def wordLimit : Nat := 18446744073709551615

/-- The largest 32-bit signed number, the bound of an exponent. -/
def exponentLimit : Nat := 2147483647

/-- Whether `kept * 10 + digit` passes `limit`, decided without computing it. -/
def passes (kept digit limit : Nat) : Bool :=
  kept ≥ limit / 10 && (kept > limit / 10 || digit > limit % 10)

/-- An exponent held to the 32-bit signed range. -/
def clampExponent (e : Int) : Int :=
  max (-(exponentLimit : Int) - 1) (min e exponentLimit)

/-- A whole number rounded to the nearest double, ties to the even mantissa. -/
def nearestWhole (n : Nat) : Float :=
  if n = 0 then 0.0 else Float.ofBits (UInt64.ofNat (Decimal.nearestBits n 1))

/-- The powers `10^0` to `10^308`, each rounded to the nearest double. -/
def powersOfTen : Array Float :=
  (List.range 309).toArray.map fun k => nearestWhole (Nat.pow 10 k)

/-- `10^k` rounded to the nearest double, for `k ≤ 308`. -/
def powerOfTen (k : Nat) : Float :=
  powersOfTen.getD k 0.0

/-- Divide by `10^k`: by `10^308` while more than 308 is left, unless the
quotient is already zero, then by the rest. -/
def divideByPower (f : Float) (k : Nat) : Float :=
  if small : k ≤ 308 then f / powerOfTen k
  else if f == 0 then f
  else divideByPower (f / powerOfTen 308) (k - 308)
termination_by k
decreasing_by exact Nat.sub_lt (Nat.lt_of_le_of_lt (Nat.zero_le 308) (Nat.lt_of_not_le small)) (by decide)

/-- The double of `significand · 10^exponent`, or `none` when it is out of range. -/
def scaled (significand : Nat) (exponent : Int) : Option Float :=
  let f := nearestWhole significand
  if 0 ≤ exponent then
    let k := exponent.toNat
    if k ≤ 308 then
      let g := f * powerOfTen k
      if g.isInf then none else some g
    else if f == 0 then some f
    else none
  else some (divideByPower f exponent.natAbs)

end Json
end Refbook
