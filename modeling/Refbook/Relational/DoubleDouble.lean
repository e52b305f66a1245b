import Refbook.Json.Number

namespace Refbook
namespace Relational

/-!
# Numbers read and written through a pair of doubles

The relational engine reads a number's text and writes a double's digits
with a *double-double*: the unevaluated sum of two doubles, the second
carrying the rounding error of the first.  Scaling by a power of ten is a
chain of products by `10^100`, `10^10` and `10` (or their inverses), each
taken with a correction term for the rounding of the constant, and Dekker's
splitting of each factor into two 26-bit halves.

`readScaled` gives the double of `s · 10^e` this way, and `decimalDigits`
the significant digits of a double: scaled into `[9.22e17, 9.22e18]`, read
off as a 64-bit whole number, and rounded half up on the decimal digits.
The results are close to, but not always, the correctly rounded ones.
-/

/-- A number as the unevaluated sum `hi + lo` of two doubles. -/
structure DoubleDouble where
  hi : Float
  lo : Float

/-- The high half of a double's mantissa: its bits with the low 26 cleared. -/
def highHalf (x : Float) : Float :=
  Float.ofBits (x.toBits &&& 0xfffffffffc000000)

namespace DoubleDouble

/-- Multiply by the constant `y`, whose own rounding error is `yy`: the
product of the high word by `y` exactly as Dekker's split gives it, and the
error terms folded into the low word. -/
def mul (x : DoubleDouble) (y yy : Float) : DoubleDouble :=
  let hx := highHalf x.hi
  let tx := x.hi - hx
  let hy := highHalf y
  let ty := y - hy
  let p := hx * hy
  let q := hx * ty + tx * hy
  let c := p + q
  let cc := p - c + q + tx * ty
  let cc := x.hi * yy + x.lo * y + cc
  let hi := c + cc
  { hi, lo := c - hi + cc }

/-- `10^100` and its rounding error. -/
def up100 : Float × Float := (Float.ofBits 0x54b249ad2594c37d, Float.ofBits 0xd134f4d87b3b31f4)

/-- `10^10`, which is exact. -/
def up10 : Float × Float := (Float.ofBits 0x4202a05f20000000, 0.0)

/-- `10`, which is exact. -/
def up1 : Float × Float := (Float.ofBits 0x4024000000000000, 0.0)

/-- `10^-100` and its rounding error. -/
def down100 : Float × Float := (Float.ofBits 0x2b2bff2ee48e0530, Float.ofBits 0xa7b42a68781d46c4)

/-- `10^-10` and its rounding error. -/
def down10 : Float × Float := (Float.ofBits 0x3ddb7cdfd9d7bdbb, Float.ofBits 0xba720a5465df8d2c)

/-- `10^-1` and its rounding error. -/
def down1 : Float × Float := (Float.ofBits 0x3fb999999999999a, Float.ofBits 0xbc5999999999999a)

/-- Multiply `n` times by a constant with its error. -/
def mulTimes (x : DoubleDouble) (factor : Float × Float) (n : Nat) : DoubleDouble :=
  Nat.repeat (fun y => y.mul factor.1 factor.2) n x

/-- Scale by `10^e`: hundreds first, then tens, then ones. -/
def scaleTen (x : DoubleDouble) (e : Int) : DoubleDouble :=
  let k := e.natAbs
  if 0 < e then
    mulTimes (mulTimes (mulTimes x up100 (k / 100)) up10 (k % 100 / 10)) up1 (k % 10)
  else
    mulTimes (mulTimes (mulTimes x down100 (k / 100)) down10 (k % 100 / 10)) down1 (k % 10)

/-- The largest double below `2^64`. -/
def wordTop : Float := Float.ofBits 0x43efffffffffffff

/-- A whole number below `2^64` as a double and the signed remainder it
leaves, when the double is below `2^64`; otherwise with no remainder. -/
def ofWord (s : Nat) : DoubleDouble :=
  let hi := Json.nearestWhole s
  if hi ≤ wordTop then
    let s2 := hi.toUInt64.toNat
    { hi, lo := if s2 ≤ s then Json.nearestWhole (s - s2) else -(Json.nearestWhole (s2 - s)) }
  else { hi, lo := 0.0 }

end DoubleDouble

/-- The bound below which a significand may still take a digit: a tenth of
the 64-bit range less the eleven bits a double cannot hold, so that the
significand stays a whole number the double-double carries exactly. -/
def wordTenth : Nat := (Nat.pow 2 64 - 1 - 0x7ff) / 10

/-- Move powers of ten from a positive exponent into the significand while
it stays below a tenth of the 64-bit range. -/
def absorbTens : Nat -> Nat -> Int -> Nat × Int
  | 0, s, e => (s, e)
  | fuel + 1, s, e => if 0 < e ∧ s < wordTenth then absorbTens fuel (s * 10) (e - 1) else (s, e)

/-- Move trailing zeros of the significand into a negative exponent. -/
def shedZeros : Nat -> Nat -> Int -> Nat × Int
  | 0, s, e => (s, e)
  | fuel + 1, s, e => if e < 0 ∧ s % 10 = 0 then shedZeros fuel (s / 10) (e + 1) else (s, e)

/-- The double of `s · 10^e`, for a positive `s` below `2^64`; NaN becomes
infinity. -/
def readScaled (s : Nat) (e : Int) : Float :=
  let (s, e) := absorbTens e.natAbs s e
  let (s, e) := shedZeros e.natAbs s e
  let x := (DoubleDouble.ofWord s).scaleTen e
  let r := x.hi + x.lo
  if r.isNaN then Float.ofBits 0x7ff0000000000000 else r

/-- Multiply by `10^-step` (a constant with its error) while the high word
is above a bound, adding `step` to the decimal exponent each time. -/
def shrinkWhile (bound : Float) (factor : Float × Float) (step : Int) :
    Nat -> DoubleDouble -> Int -> DoubleDouble × Int
  | 0, x, exp => (x, exp)
  | fuel + 1, x, exp =>
    if x.hi > bound then shrinkWhile bound factor step fuel (x.mul factor.1 factor.2) (exp + step)
    else (x, exp)

/-- Multiply by `10^step` (a constant with its error) while the high word is
below a bound, taking `step` from the decimal exponent each time. -/
def growWhile (bound : Float) (factor : Float × Float) (step : Int) :
    Nat -> DoubleDouble -> Int -> DoubleDouble × Int
  | 0, x, exp => (x, exp)
  | fuel + 1, x, exp =>
    if x.hi < bound then growWhile bound factor step fuel (x.mul factor.1 factor.2) (exp - step)
    else (x, exp)

/-- A positive finite double scaled by powers of ten into
`[9.22e17, 9.22e18]`, with the decimal exponent of the scaling. -/
def normalize (r : Float) : DoubleDouble × Int :=
  let x : DoubleDouble := { hi := r, lo := 0.0 }
  if r > Float.ofBits 0x43dfffffffffffff then
    let (x, exp) := shrinkWhile (Float.ofBits 0x58a249ad2594c37c) DoubleDouble.down100 100 8 x 0
    let (x, exp) := shrinkWhile (Float.ofBits 0x45f2a05f1fffffff) DoubleDouble.down10 10 40 x exp
    shrinkWhile (Float.ofBits 0x43dfffffffffffff) DoubleDouble.down1 1 40 x exp
  else
    let (x, exp) := growWhile (Float.ofBits 0x2ee665bf1d3e6a8c) DoubleDouble.up100 100 8 x 0
    let (x, exp) := growWhile (Float.ofBits 0x4195fd7fe1796495) DoubleDouble.up10 10 40 x exp
    growWhile (Float.ofBits 0x43a9999999999999) DoubleDouble.up1 1 40 x exp

/-- Add one to a digit string read from its last digit: the digits and
whether a carry is left over. -/
def carryUp : List Nat -> List Nat × Bool
  | [] => ([], true)
  | d :: rest =>
    if d < 9 then ((d + 1) :: rest, false)
    else
      let (rest, carry) := carryUp rest
      (0 :: rest, carry)

/-- The significant digits of a positive finite double, rounded half up to
`places` digits (when it has more, or more than `most`), without trailing
zeros, and the place of the decimal point: the value is `0.d₁d₂… · 10^point`. -/
def decimalDigits (r : Float) (places most : Nat) : List Nat × Int :=
  let (x, exp) := normalize r
  let whole :=
    if x.lo < 0 then x.hi.toUInt64.toNat - (-x.lo).toUInt64.toNat
    else x.hi.toUInt64.toNat + x.lo.toUInt64.toNat
  let digits := (Nat.toDigits 10 whole).map fun c => c.toNat - 48
  let point : Int := digits.length + exp
  let (digits, point) :=
    if 0 < places ∧ (places < digits.length ∨ digits.length > most) then
      let keep := min places most
      let kept := digits.take keep
      if 5 ≤ digits.getD keep 0 then
        let (bumped, carry) := carryUp kept.reverse
        if carry then (1 :: bumped.reverse, point + 1) else (bumped.reverse, point)
      else (kept, point)
    else (digits, point)
  ((digits.reverse.dropWhile (· = 0)).reverse, point)

end Relational
end Refbook
