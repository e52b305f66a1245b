namespace Refbook
namespace Decimal

/-!
# The shortest decimal of a double

A finite nonzero double `m · 2^q` stands for every real that rounds to it:
the interval halfway to each neighbour, ends included when `m` is even
(reading rounds ties to even).  `shortest` finds the decimal with the fewest
significant digits in that interval and, of those, the nearest to the
double; an exact tie goes to the even last digit.

The search tries 1, 2, … 17 digits.  With `k` digits the grid is `10^e` for
`e = ⌊log₁₀ v⌋ - k + 1`, and if any point of that grid lies in the interval,
one of the two grid points around `v` does, since the interval contains `v`.
All comparisons are exact, on whole numbers scaled by a common factor.
-/

/-- A double split into sign, mantissa and binary exponent, with whether the
gap to the next smaller double is half the gap to the next larger one. -/
structure Binary where
  negative : Bool
  mantissa : Nat
  exponent : Int
  narrowBelow : Bool
  deriving Repr

/-- Split the bits of a finite double. -/
def Binary.ofBits (bits : UInt64) : Binary :=
  let n : Nat := bits.toNat
  let fraction : Nat := n % Nat.pow 2 52
  let biased : Nat := (n / Nat.pow 2 52) % Nat.pow 2 11
  let negative := n / Nat.pow 2 63 = 1
  if biased = 0 then
    { negative, mantissa := fraction, exponent := -1074, narrowBelow := false }
  else
    { negative, mantissa := fraction + Nat.pow 2 52, exponent := (biased : Int) - 1075,
      narrowBelow := fraction = 0 ∧ biased > 1 }

/-- The number of decimal digits of a positive whole number. -/
def digitCount (n : Nat) : Nat :=
  (Nat.toDigits 10 n).length

/-- `⌊log₁₀ (m · 2^q)⌋` for `m > 0`. -/
def floorLog10 (m : Nat) (q : Int) : Int :=
  if 0 ≤ q then (digitCount (m * Nat.pow 2 q.toNat) : Int) - 1
  else
    let den := Nat.pow 2 q.natAbs
    if den ≤ m then (digitCount (m / den) : Int) - 1
    else
      -- the value is below one: the first power of ten that lifts it to one
      let lift := ((List.range 400).find? (fun j => den ≤ m * Nat.pow 10 (j + 1))).getD 399
      Int.neg ((lift : Int) + 1)

/-- Digits and exponent of a decimal `digits · 10^exponent`. -/
structure Scientific where
  digits : Nat
  exponent : Int
  deriving Repr, DecidableEq

/-- Drop trailing zeros of the digits. -/
def Scientific.trim (s : Scientific) : Scientific :=
  let rec go (fuel : Nat) (digits : Nat) (exponent : Int) : Scientific :=
    match fuel with
    | 0 => { digits, exponent }
    | fuel + 1 =>
      if digits ≠ 0 ∧ digits % 10 = 0 then go fuel (digits / 10) (exponent + 1)
      else { digits, exponent }
  go (digitCount s.digits) s.digits s.exponent

/-- The nearest decimal with `k` significant digits inside the rounding
interval of `m · 2^q`, if there is one. -/
def candidate (b : Binary) (k : Nat) : Option Scientific :=
  let m := b.mantissa
  let q := b.exponent
  let e := floorLog10 m q - k + 1
  -- common scale 2^a · 10^c making every quantity whole
  let a := (2 - q).toNat
  let c := (-e).toNat
  let twoShift := (q - 2 + a).toNat
  let tenShift := (e + c).toNat
  let scaled (quarters : Nat) : Nat := quarters * Nat.pow 2 twoShift * Nat.pow 10 c
  let value := scaled (4 * m)
  let low := scaled (if b.narrowBelow then 4 * m - 1 else 4 * m - 2)
  let high := scaled (4 * m + 2)
  let unit := Nat.pow 10 tenShift * Nat.pow 2 a
  let inside (d : Nat) : Bool :=
    let x := d * unit
    if m % 2 = 0 then low ≤ x ∧ x ≤ high else low < x ∧ x < high
  let down := value / unit
  let up := if down * unit = value then down else down + 1
  let pick :=
    match inside down, inside up with
    | true, true =>
      let below := value - down * unit
      let above := up * unit - value
      if below < above then some down
      else if above < below then some up
      else if down % 2 = 0 then some down else some up
    | true, false => some down
    | false, true => some up
    | false, false => none
  pick.map fun d => Scientific.trim { digits := d, exponent := e }

/-- The shortest decimal that reads back as the double, nearest of those. -/
def shortest (b : Binary) : Scientific :=
  let found := (List.range 17).findSome? fun i => candidate b (i + 1)
  found.getD { digits := b.mantissa, exponent := 0 }

end Decimal
end Refbook
