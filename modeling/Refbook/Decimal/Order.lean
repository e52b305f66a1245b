import Refbook.Decimal.Canonical
import Refbook.Decimal.Shortest

namespace Refbook
namespace Decimal

/-!
# Ordering and equality of decimals

Decimals are ordered by value without writing out a power of ten longer
than the numbers themselves.  Signs decide first.  For coefficients `a` and
`b` whose scales differ by `d`, the digit counts of `a` and of `b · 10^d`
decide next (more digits, larger value), the count of the product kept in
a 64-bit word; only when the counts agree is the product formed.

Equality works the same way, except when the scales differ by fewer than
twenty places.  Then the coefficient with the smaller scale is multiplied
by `10^d` one 32-bit word at a time, and each word of the product is
compared with the matching word of the other coefficient.  The running sum
of a word's product and the carry is kept in a 64-bit word, so it wraps when
it passes that word.  A word whose product alone does not fit in 64 bits
hands the question to an exact comparison.  Because of the wrap, a few
equal values are found unequal: `7922816251677867879` against
`7922816251677867879.0000000000`, for instance.
-/

/-- The sign of a whole number: `-1`, `0` or `1`. -/
def signOf (n : Int) : Int :=
  if n < 0 then -1 else if n = 0 then 0 else 1

/-- The number of values of a 64-bit word. -/
def wordRange : Nat := 18446744073709551616

/-- The number of values of a 32-bit word. -/
def halfWordRange : Nat := 4294967296

/-- `a` against `b · 10^d`: by digit counts first, the count of the product
taken modulo the 64-bit range, and by value when the counts agree. -/
def scaledOrder (a b d : Nat) : Ordering :=
  if d = 0 then compare a b
  else
    let productCount := digitCount b + d
    match compare (digitCount a) (productCount % wordRange) with
    | .eq => if productCount < wordRange then compare a (b * Nat.pow 10 d) else .lt
    | other => other

/-- Order decimals by value, as described above. -/
def Number.order (x y : Number) : Ordering :=
  let sx := signOf x.coefficient
  let sy := signOf y.coefficient
  if sx ≠ sy then compare sx sy
  else if sx = 0 then .eq
  else
    let a := x.coefficient.natAbs
    let b := y.coefficient.natAbs
    let result :=
      if y.scale ≤ x.scale then scaledOrder a b (x.scale - y.scale).toNat
      else (scaledOrder b a (y.scale - x.scale).toNat).swap
    if sy < 0 then result.swap else result

/-- The 32-bit words of a whole number, lowest first, without leading zero
words. -/
def words : Nat -> List Nat
  | 0 => []
  | n + 1 => (n + 1) % halfWordRange :: words ((n + 1) / halfWordRange)
termination_by n => n
decreasing_by exact Nat.div_lt_self (Nat.succ_pos n) (by decide)

/-- The words of `a` against those of `b · pow` formed one word at a time,
with the carry of each word into the next: the sum of a product and the
carry wraps at 64 bits.  `none` when a word's product alone passes 64
bits. -/
def wordsMatch (pow : Nat) : List Nat -> List Nat -> Nat -> Option Bool
  | a :: as, b :: bs, carry =>
    let product := b * pow
    if wordRange ≤ product then none
    else
      let wide := (product + carry) % wordRange
      if a ≠ wide % halfWordRange then some false
      else wordsMatch pow as bs (wide / halfWordRange)
  | [], _ :: _, _ => some false
  | a :: as, [], carry =>
    if a ≠ carry % halfWordRange then some false else wordsMatch pow as [] 0
  | [], [], carry => some (carry == 0)

/-- Whether `u = s · 10^k`, for positive `u`, `s` and `k`: word by word
below twenty places, after a check that `u` has too few bits to reach the
product; digit by digit from twenty places on. -/
def scaledEqual (u s k : Nat) : Bool :=
  if k < 20 then
    let pow := Nat.pow 10 k
    if Nat.log2 u + 1 < Nat.log2 s + 1 + Nat.log2 pow then false
    else
      match wordsMatch pow (words u) (words s) 0 with
      | some same => same
      | none => u == s * pow
  else
    k ≤ digitCount u && u % Nat.pow 10 k == 0 && u / Nat.pow 10 k == s

/-- Equality of decimals, as described above. -/
def Number.equal (x y : Number) : Bool :=
  if signOf x.coefficient ≠ signOf y.coefficient then false
  else if x.coefficient = 0 then true
  else if x.scale = y.scale then x.coefficient == y.coefficient
  else if y.scale < x.scale then
    scaledEqual x.coefficient.natAbs y.coefficient.natAbs (x.scale - y.scale).toNat
  else scaledEqual y.coefficient.natAbs x.coefficient.natAbs (y.scale - x.scale).toNat

end Decimal
end Refbook
