import Mathlib.Algebra.Order.Field.Power
import Mathlib.Algebra.Order.Field.Rat
import Mathlib.Data.List.TakeWhile
import Mathlib.Tactic.FieldSimp
import Mathlib.Tactic.Positivity
import Mathlib.Tactic.Ring
import Refbook.Query.Constant

/-!
# The canonical text of a decimal

A decimal `coefficient · 10^-scale` stands for a rational number.  Stripping
the trailing zeros of its coefficient gives its normal form, the one decimal
of that value whose coefficient is not a multiple of ten (or zero, at scale
zero).  The canonical text is written from the normal form alone: positional,
with no exponent, no leading zero before the point and no trailing zero
after it.

The main statement, `canonicalDecimal_canonical_form`, says what canonical
text does for every input.  It accepts exactly the texts that read as a
decimal whose normal form has an exponent within the bound either way; what
it gives back has the positional shape `-?(0|[1-9][0-9]*)(\.[0-9]*[1-9])?`
without `-0`, stands for the same number as the input, is its own canonical
text, and is the same for two inputs exactly when they stand for one number.

Reading the canonical text back is what carries the last two facts: the
positional text reads as a decimal of the same value (`PlainDecimal.read_text`),
and decimals of one value have one normal form (`Number.Normal.eq_of_value_eq`).
-/

namespace Refbook

/-- No printable ASCII character other than the space is blank. -/
theorem Text.isBlank_of_printable {c : Char} (lo : 33 ≤ c.toNat) (hi : c.toNat ≤ 126) :
    Text.isBlank c = false := by
  simp only [Text.isBlank, Bool.or_eq_false_iff, Bool.and_eq_false_iff, decide_eq_false_iff_not,
    beq_eq_false_iff_ne, ne_eq]
  omega

/-- A text without blanks is its own trim. -/
theorem Text.trim_of_no_blank {s : String} (none : ∀ c ∈ s.toList, Text.isBlank c = false) :
    Text.trim s = s := by
  have kept : ∀ l : List Char, (∀ c ∈ l, Text.isBlank c = false) → l.dropWhile Text.isBlank = l :=
    fun l none => List.dropWhile_eq_self_iff.mpr fun pos => by simp [none _ (List.getElem_mem pos)]
  unfold Text.trim
  rw [kept _ none, kept _ (fun c mem => none c (List.mem_reverse.mp mem)), List.reverse_reverse,
    String.ofList_toList]

namespace Decimal

/-! ## Values and normal forms -/

/-- The number a decimal stands for. -/
def Number.value (d : Number) : ℚ :=
  d.coefficient / (10 : ℚ) ^ d.scale

/-- A decimal in normal form: zero at scale zero, or a coefficient with no
trailing zero. -/
def Number.Normal (d : Number) : Prop :=
  (d.coefficient = 0 ∧ d.scale = 0) ∨ d.coefficient % 10 ≠ 0

theorem Number.value_eq_zero {d : Number} : d.value = 0 ↔ d.coefficient = 0 := by
  unfold Number.value
  rw [div_eq_zero_iff, or_iff_left (by positivity)]
  exact_mod_cast Iff.rfl

/-- Of two decimals of one value, the one of larger scale has the other's
coefficient shifted left by the difference. -/
theorem shifted_of_value_eq {a b : Number} (same : a.value = b.value) (le : a.scale ≤ b.scale) :
    a.coefficient * 10 ^ (b.scale - a.scale).toNat = b.coefficient := by
  have shift : (10 : ℚ) ^ b.scale = 10 ^ (b.scale - a.scale).toNat * 10 ^ a.scale := by
    rw [← zpow_natCast, ← zpow_add₀ (by norm_num), Int.toNat_of_nonneg (by omega)]
    congr 1
    omega
  unfold Number.value at same
  rw [shift, div_eq_div_iff (by positivity) (by positivity), ← mul_assoc] at same
  have : (a.coefficient : ℚ) * 10 ^ (b.scale - a.scale).toNat = b.coefficient :=
    mul_right_cancel₀ (by positivity) same
  exact_mod_cast this

/-- A coefficient with no trailing zero is no other coefficient shifted left. -/
theorem shift_eq_zero {c d : Int} {k : Nat} (shifted : c * 10 ^ k = d) (noZero : d % 10 ≠ 0) :
    k = 0 := by
  cases k with
  | zero => rfl
  | succ k =>
    exfalso
    apply noZero
    rw [← shifted, pow_succ, ← mul_assoc]
    exact Int.mul_emod_left _ _

theorem Number.eq_of_shifted {a b : Number} (noZero : b.coefficient % 10 ≠ 0)
    (same : a.value = b.value) (le : a.scale ≤ b.scale) : a = b := by
  have shifted := shifted_of_value_eq same le
  have none := shift_eq_zero shifted noZero
  rw [none, pow_zero, mul_one] at shifted
  cases a; cases b
  simp only [Number.mk.injEq] at shifted le none ⊢
  exact ⟨shifted, by omega⟩

/-- Normal decimals of one value are equal. -/
theorem Number.Normal.eq_of_value_eq {a b : Number} (na : a.Normal) (nb : b.Normal)
    (same : a.value = b.value) : a = b := by
  rcases na with ⟨ca, sa⟩ | ta <;> rcases nb with ⟨cb, sb⟩ | tb
  · cases a; cases b
    simp_all
  · rw [Number.value_eq_zero.mpr ca, eq_comm, Number.value_eq_zero] at same
    simp [same] at tb
  · rw [Number.value_eq_zero.mpr cb, Number.value_eq_zero] at same
    simp [same] at ta
  · rcases le_total a.scale b.scale with le | le
    · exact Number.eq_of_shifted tb same le
    · exact (Number.eq_of_shifted ta same.symm le).symm

/-! ## Normalizing -/

theorem value_of_ten_dvd {c : Int} (s : Int) (ten : c % 10 = 0) :
    ((c / 10 : Int) : ℚ) / (10 : ℚ) ^ (s - 1) = (c : ℚ) / (10 : ℚ) ^ s := by
  obtain ⟨k, rfl⟩ : (10 : Int) ∣ c := Int.dvd_of_emod_eq_zero ten
  rw [Int.mul_ediv_cancel_left _ (by decide), zpow_sub_one₀ (by norm_num)]
  push_cast
  field_simp

theorem normalize_go_value (fuel : Nat) (c s : Int) :
    (Number.normalize.go fuel c s).value = (c : ℚ) / (10 : ℚ) ^ s := by
  induction fuel generalizing c s with
  | zero => rfl
  | succ fuel ih =>
    unfold Number.normalize.go
    split
    · rename_i ten
      rw [ih, value_of_ten_dvd s ten]
    · rfl

/-- Each round strips one zero, so as many rounds as the coefficient has
digits strip them all. -/
theorem normalize_go_noZero (fuel : Nat) (c s : Int) (nonzero : c ≠ 0)
    (short : c.natAbs < 10 ^ fuel) : (Number.normalize.go fuel c s).coefficient % 10 ≠ 0 := by
  induction fuel generalizing c s with
  | zero => omega
  | succ fuel ih =>
    unfold Number.normalize.go
    split
    · apply ih
      · omega
      · rw [pow_succ] at short
        omega
    · assumption

@[simp]
theorem Number.normalize_value (d : Number) : d.normalize.value = d.value := by
  unfold Number.normalize
  split
  · rename_i zero
    rw [Number.value_eq_zero.mpr rfl, eq_comm, Number.value_eq_zero]
    exact zero
  · exact normalize_go_value _ _ _

theorem Number.normalize_normal (d : Number) : d.normalize.Normal := by
  unfold Number.normalize
  split
  · exact .inl ⟨rfl, rfl⟩
  · rename_i nonzero
    have short : d.coefficient.natAbs < 10 ^ (Nat.toDigits 10 d.coefficient.natAbs).length :=
      (Nat.length_toDigits_le_iff (by decide) Nat.length_toDigits_pos).mp le_rfl
    exact .inr (normalize_go_noZero _ _ _ nonzero short)

/-- Decimals of one value have one normal form. -/
theorem Number.normalize_eq_of_value_eq {a b : Number} (same : a.value = b.value) :
    a.normalize = b.normalize :=
  Number.Normal.eq_of_value_eq a.normalize_normal b.normalize_normal (by simp [same])

/-- The plain text of a decimal depends on its normal form only. -/
theorem Number.plain_congr {a b : Number} (same : a.normalize = b.normalize) : a.plain = b.plain := by
  unfold Number.plain
  rw [same]

/-! ## The digits of a whole number -/

theorem digitChar_eq_zero_iff {k : Nat} (small : k < 10) : Nat.digitChar k = '0' ↔ k = 0 := by
  revert k
  decide

/-- The last character of a number's text is its last decimal digit. -/
theorem toDigits_getLast? (n : Nat) :
    (Nat.toDigits 10 n).getLast? = some (Nat.digitChar (n % 10)) := by
  by_cases small : n < 10
  · rw [Nat.toDigits_of_lt_base small, Nat.mod_eq_of_lt small]
    rfl
  · rw [Nat.toDigits_of_base_le (by decide) (by omega), List.getLast?_append]
    simp

/-- The text of a number not divisible by ten does not end in a zero. -/
theorem toDigits_getLast?_ne_zero {n : Nat} (units : n % 10 ≠ 0) :
    (Nat.toDigits 10 n).getLast? ≠ some '0' := by
  rw [toDigits_getLast?]
  simp only [ne_eq, Option.some.injEq]
  rw [digitChar_eq_zero_iff (Nat.mod_lt n (by decide))]
  exact units

/-- A positive number's text does not start with a zero. -/
theorem toDigits_head?_ne_zero {n : Nat} (pos : 0 < n) : (Nat.toDigits 10 n).head? ≠ some '0' := by
  induction n using Nat.strong_induction_on with
  | _ n ih =>
    by_cases small : n < 10
    · rw [Nat.toDigits_of_lt_base small]
      simp only [List.head?_cons, ne_eq, Option.some.injEq]
      rw [digitChar_eq_zero_iff small]
      omega
    · have rest := ih (n / 10) (by omega) (by omega)
      obtain ⟨c, cs, split⟩ := List.exists_cons_of_ne_nil (Nat.toDigits_ne_nil (n := n / 10) (b := 10))
      rw [split] at rest
      rw [Nat.toDigits_of_base_le (by decide) (by omega), split]
      exact rest

theorem toDigits_leading {n : Nat} (pos : 0 < n) :
    ∃ c cs, Nat.toDigits 10 n = c :: cs ∧ c ≠ '0' := by
  obtain ⟨c, cs, split⟩ := List.exists_cons_of_ne_nil (Nat.toDigits_ne_nil (n := n) (b := 10))
  have head := toDigits_head?_ne_zero pos
  rw [split] at head
  exact ⟨c, cs, split, fun same => head (by rw [same]; rfl)⟩

theorem bounds_of_isDigit {c : Char} (digit : c.isDigit) : '0' ≤ c ∧ c ≤ '9' := by
  simp only [Char.isDigit, Bool.and_eq_true, decide_eq_true_eq] at digit
  exact ⟨digit.1, digit.2⟩

/-! ## Reading digits -/

/-- Digits read left to right, each shifting what came before. -/
theorem foldlM_digits (cs : List Char) (acc : Nat) (digits : ∀ c ∈ cs, c.isDigit) :
    cs.foldlM (fun acc c =>
      if c = '_' then some acc
      else if '0' ≤ c ∧ c ≤ '9' then some (acc * 10 + (c.toNat - 48)) else none) acc =
      some (Nat.ofDigitChars 10 cs acc) := by
  induction cs generalizing acc with
  | nil => rfl
  | cons c cs ih =>
    have digit := digits c (by simp)
    have notUnderscore : c ≠ '_' := by
      rintro rfl
      exact absurd digit (by decide)
    rw [List.foldlM_cons, if_neg notUnderscore, if_pos (bounds_of_isDigit digit),
      Nat.ofDigitChars_cons]
    simp only [Option.bind_eq_bind, Option.bind_some]
    rw [ih _ (fun c mem => digits c (by simp [mem])), Nat.mul_comm]
    rfl

theorem readMagnitude_digits {cs : List Char} (digits : ∀ c ∈ cs, c.isDigit) (nonempty : cs ≠ []) :
    readMagnitude cs = some (Nat.ofDigitChars 10 cs 0) := by
  obtain ⟨c, rest, rfl⟩ := List.exists_cons_of_ne_nil nonempty
  have digit := digits c (by simp)
  have notPlus : c ≠ '+' := by
    rintro rfl
    exact absurd digit (by decide)
  have notUnderscore : c ≠ '_' := by
    rintro rfl
    exact absurd digit (by decide)
  unfold readMagnitude
  split
  · rename_i plus
    exact absurd (List.cons.inj plus).1 notPlus
  · dsimp only
    split
    · contradiction
    · rename_i underscore
      exact absurd (List.cons.inj underscore).1 notUnderscore
    · exact foldlM_digits _ 0 digits

/-- A sign and digits read as the signed number they spell. -/
theorem readCoefficient_signed (negative : Bool) {cs : List Char} (digits : ∀ c ∈ cs, c.isDigit)
    (nonempty : cs ≠ []) :
    readCoefficient ((if negative then ['-'] else []) ++ cs) =
      some (if negative then -(Nat.ofDigitChars 10 cs 0 : Int) else Nat.ofDigitChars 10 cs 0) := by
  obtain ⟨c, rest, rfl⟩ := List.exists_cons_of_ne_nil nonempty
  have digit := digits c (by simp)
  cases negative with
  | true =>
    have notPlus : c ≠ '+' := by
      rintro rfl
      exact absurd digit (by decide)
    simp [readCoefficient, notPlus, readMagnitude_digits digits nonempty]
  | false =>
    have notMinus : c ≠ '-' := by
      rintro rfl
      exact absurd digit (by decide)
    simp only [if_false, List.nil_append, Bool.false_eq_true]
    unfold readCoefficient
    split
    · rename_i minus
      exact absurd (List.cons.inj minus).1 notMinus
    · simp [readMagnitude_digits digits nonempty]

/-- A text with neither exponent nor point reads as its coefficient, at
scale zero. -/
theorem read_of_pointless {base : List Char}
    (noE : base.findIdx? (fun c => c = 'e' ∨ c = 'E') = none)
    (noDot : base.findIdx? (· = '.') = none) (nonempty : base ≠ []) :
    Number.read (String.ofList base) = (readCoefficient base).map fun c => ⟨c, 0⟩ := by
  have notEmpty : base.isEmpty = false := List.isEmpty_eq_false_iff.mpr nonempty
  have inRange : -Int.pow 2 63 ≤ ((0 : Nat) : Int) - 0 ∧ ((0 : Nat) : Int) - 0 < Int.pow 2 63 := by
    decide
  unfold Number.read
  simp only [String.toList_ofList, noE, Option.bind_eq_bind, Option.bind_some, notEmpty, noDot,
    Bool.false_eq_true, if_false, inRange]
  cases readCoefficient base <;> rfl

/-- A text with a point and no exponent reads as the digits on both sides of
the point, with as many places of scale as there are digits after it. -/
theorem read_of_point {front fraction : List Char}
    (noE : (front ++ '.' :: fraction).findIdx? (fun c => c = 'e' ∨ c = 'E') = none)
    (noDot : front.findIdx? (· = '.') = none) (nonempty : fraction ≠ [])
    (noUnderscore : ∀ c ∈ fraction, c ≠ '_') (short : fraction.length < 2 ^ 63) :
    Number.read (String.ofList (front ++ '.' :: fraction)) =
      (readCoefficient (front ++ fraction)).map fun c => ⟨c, fraction.length⟩ := by
  have notEmpty : (front ++ '.' :: fraction).isEmpty = false := by simp
  have dot : (front ++ '.' :: fraction).findIdx? (· = '.') = some front.length := by
    rw [List.findIdx?_append, noDot, List.findIdx?_cons]
    simp
  have notLast : ¬ front.length + 1 = (front ++ '.' :: fraction).length := by
    have := List.length_pos_iff.mpr nonempty
    simp
    omega
  have taken : (front ++ '.' :: fraction).take front.length = front := by simp
  have dropped : (front ++ '.' :: fraction).drop (front.length + 1) = fraction := by simp
  have kept : fraction.filter (fun c => c ≠ '_') = fraction :=
    List.filter_eq_self.mpr fun c mem => by simpa using noUnderscore c mem
  have inRange : -Int.pow 2 63 ≤ ((fraction.length : Nat) : Int) - 0 ∧
      ((fraction.length : Nat) : Int) - 0 < Int.pow 2 63 := by
    have wide : Int.pow 2 63 = ((2 ^ 63 : Nat) : Int) := by decide
    omega
  unfold Number.read
  simp only [String.toList_ofList, noE, Option.bind_eq_bind, Option.bind_some, notEmpty, dot,
    notLast, taken, dropped, kept, Bool.false_eq_true, if_false, inRange]
  cases readCoefficient (front ++ fraction) <;> rfl

/-! ## Positional text -/

/-- A decimal written positionally: a sign, the digits before the point and
the digits after it; no point is written when there are none after it. -/
structure PlainDecimal where
  negative : Bool
  whole : List Char
  fraction : List Char
  deriving DecidableEq, Repr

namespace PlainDecimal

/-- The characters of the text: `-` when negative, the whole digits, then `.`
and the fraction digits when there are any. -/
def chars (p : PlainDecimal) : List Char :=
  (if p.negative then ['-'] else []) ++ p.whole ++ (if p.fraction = [] then [] else '.' :: p.fraction)

def text (p : PlainDecimal) : String :=
  String.ofList p.chars

/-- The number the text stands for. -/
def value (p : PlainDecimal) : ℚ :=
  (if p.negative then -1 else 1) * (Nat.ofDigitChars 10 (p.whole ++ p.fraction) 0 : ℚ) /
    10 ^ p.fraction.length

/-- The texts `-?(0|[1-9][0-9]*)(\.[0-9]*[1-9])?` other than `-0`: digits
only, no leading zero before the point, no trailing zero after it, and no
sign on zero. -/
structure Canonical (p : PlainDecimal) : Prop where
  digits : ∀ c ∈ p.whole ++ p.fraction, c.isDigit
  whole : p.whole = ['0'] ∨ ∃ c cs, p.whole = c :: cs ∧ c ≠ '0'
  fraction : p.fraction.getLast? ≠ some '0'
  unsigned_zero : p.negative → p.whole = ['0'] → p.fraction ≠ []

/-- The decimal a positional text reads as: its digits as coefficient, as
many places of scale as it has digits after the point. -/
def number (p : PlainDecimal) : Number :=
  { coefficient := if p.negative then -(Nat.ofDigitChars 10 (p.whole ++ p.fraction) 0 : Int)
      else Nat.ofDigitChars 10 (p.whole ++ p.fraction) 0
    scale := p.fraction.length }

theorem number_value (p : PlainDecimal) : p.number.value = p.value := by
  unfold number Number.value value
  rw [zpow_natCast]
  cases p.negative <;> simp [neg_div]

theorem mem_chars {p : PlainDecimal} {c : Char} (mem : c ∈ p.chars) :
    c = '-' ∨ c = '.' ∨ c ∈ p.whole ++ p.fraction := by
  simp only [chars, List.mem_append] at mem
  rcases mem with (sign | whole) | tail
  · split at sign
    · exact .inl (List.mem_singleton.mp sign)
    · exact absurd sign List.not_mem_nil
  · exact .inr (.inr (List.mem_append_left _ whole))
  · split at tail
    · exact absurd tail List.not_mem_nil
    · rcases List.mem_cons.mp tail with dot | fraction
      · exact .inr (.inl dot)
      · exact .inr (.inr (List.mem_append_right _ fraction))

/-- A positional text has no blank to trim. -/
theorem trim_text {p : PlainDecimal} (digits : ∀ c ∈ p.whole ++ p.fraction, c.isDigit) :
    Text.trim p.text = p.text := by
  apply Text.trim_of_no_blank
  intro c mem
  rw [text, String.toList_ofList] at mem
  rcases p.mem_chars mem with rfl | rfl | digit
  · decide
  · decide
  · have bounds := Char.isDigit_iff_toNat.mp (digits c digit)
    simp only [Char.reduceToNat] at bounds
    exact Text.isBlank_of_printable (by omega) (by omega)

/-- A positional text of digits reads as the decimal it spells. -/
theorem read_text {p : PlainDecimal} (digits : ∀ c ∈ p.whole ++ p.fraction, c.isDigit)
    (nonempty : p.whole ≠ []) (short : p.fraction.length < 2 ^ 63) :
    Number.read p.text = some p.number := by
  have noE : p.chars.findIdx? (fun c => c = 'e' ∨ c = 'E') = none := by
    apply List.findIdx?_eq_none_iff.mpr
    intro c mem
    rcases p.mem_chars mem with rfl | rfl | digit
    · decide
    · decide
    · have bounds := bounds_of_isDigit (digits c digit)
      simp only [decide_eq_false_iff_not, not_or]
      constructor <;> rintro rfl <;> exact absurd bounds (by decide)
  have noDot : ((if p.negative then ['-'] else []) ++ p.whole).findIdx? (· = '.') = none := by
    apply List.findIdx?_eq_none_iff.mpr
    intro c mem
    simp only [decide_eq_false_iff_not]
    rintro rfl
    rcases List.mem_append.mp mem with sign | whole
    · split at sign <;> simp at sign
    · exact absurd (bounds_of_isDigit (digits _ (List.mem_append_left _ whole))) (by decide)
  have signed := readCoefficient_signed p.negative digits (by simp [nonempty])
  unfold text
  by_cases pointless : p.fraction = []
  · have spelled : p.chars = (if p.negative then ['-'] else []) ++ (p.whole ++ p.fraction) := by
      simp [chars, pointless]
    rw [spelled] at noE ⊢
    rw [read_of_pointless noE (by rwa [pointless, List.append_nil]) (by simp [nonempty]), signed]
    simp [number, pointless]
  · have spelled : p.chars = ((if p.negative then ['-'] else []) ++ p.whole) ++ '.' :: p.fraction := by
      simp [chars, pointless]
    have noUnderscore : ∀ c ∈ p.fraction, c ≠ '_' := by
      rintro c mem rfl
      exact absurd (digits _ (List.mem_append_right _ mem)) (by decide)
    rw [spelled] at noE ⊢
    rw [read_of_point noE noDot pointless noUnderscore short, List.append_assoc, signed]
    rfl

end PlainDecimal

/-- The positional form of a decimal: its coefficient's digits, with as many
zeros after them as a negative scale asks for, or a point placed as many
digits from the end as the scale says, padded with zeros after `0.`. -/
def Number.positional (n : Number) : PlainDecimal :=
  let digits := Nat.toDigits 10 n.coefficient.natAbs
  let negative := decide (n.coefficient < 0)
  if n.coefficient = 0 then ⟨false, ['0'], []⟩
  else if n.scale ≤ 0 then ⟨negative, digits ++ List.replicate n.scale.natAbs '0', []⟩
  else if n.scale.toNat < digits.length then
    ⟨negative, digits.take (digits.length - n.scale.toNat), digits.drop (digits.length - n.scale.toNat)⟩
  else ⟨negative, ['0'], List.replicate (n.scale.toNat - digits.length) '0' ++ digits⟩

/-- The plain text of a decimal is the positional text of its normal form. -/
theorem Number.plain_eq_positional (d : Number) : d.plain = d.normalize.positional.text := by
  simp only [Number.plain]
  generalize d.normalize = n
  apply String.toList_inj.mp
  by_cases zero : n.coefficient = 0
  · simp [zero, Number.positional, PlainDecimal.text, PlainDecimal.chars]
  by_cases whole : n.scale ≤ 0
  · by_cases neg : n.coefficient < 0 <;>
      simp [zero, whole, neg, Number.positional, PlainDecimal.text, PlainDecimal.chars]
  have scaled : 0 < n.scale := by omega
  by_cases long : n.scale.toNat < (Nat.toDigits 10 n.coefficient.natAbs).length
  · by_cases neg : n.coefficient < 0 <;>
      simp [zero, whole, long, neg, scaled, Nat.length_toDigits_pos, Number.positional,
        PlainDecimal.text, PlainDecimal.chars]
  · by_cases neg : n.coefficient < 0 <;>
      simp [zero, whole, long, neg, Number.positional, PlainDecimal.text, PlainDecimal.chars]

/-- A coefficient is its sign times its magnitude. -/
theorem signed_natAbs (c : Int) :
    (if decide (c < 0) = true then -1 else 1 : ℚ) * (c.natAbs : ℚ) = c := by
  rw [Nat.cast_natAbs]
  by_cases neg : c < 0
  · simp [neg, abs_of_neg (Int.cast_lt_zero.mpr neg)]
  · have nonneg : 0 ≤ c := by omega
    simp [neg, nonneg]

theorem Number.positional_value (n : Number) : n.positional.value = n.value := by
  unfold Number.positional Number.value PlainDecimal.value
  by_cases zero : n.coefficient = 0
  · simp [zero, Nat.ofDigitChars]
  by_cases whole : n.scale ≤ 0
  · simp only [zero, whole, if_false, if_true, List.append_nil, List.length_nil, pow_zero, div_one]
    rw [Nat.ofDigitChars_append, Nat.ofDigitChars_ten_toDigits, Nat.ofDigitChars_replicate_zero]
    have shift : (10 : ℚ) ^ n.scale = ((10 : ℚ) ^ n.scale.natAbs)⁻¹ := by
      rw [← zpow_natCast, ← zpow_neg]
      congr 1
      omega
    rw [shift, div_inv_eq_mul, ← signed_natAbs n.coefficient]
    push_cast
    ring
  have scaled : (10 : ℚ) ^ n.scale = 10 ^ n.scale.toNat := by
    rw [← zpow_natCast, Int.toNat_of_nonneg (by omega)]
  by_cases long : n.scale.toNat < (Nat.toDigits 10 n.coefficient.natAbs).length
  · simp only [zero, whole, long, if_false, if_true, List.take_append_drop, List.length_drop,
      Nat.ofDigitChars_ten_toDigits]
    rw [scaled, ← signed_natAbs n.coefficient]
    congr 2
    omega
  · simp only [zero, whole, long, if_false, List.length_append, List.length_replicate]
    rw [← List.append_assoc, List.singleton_append, ← List.replicate_succ, Nat.ofDigitChars_append,
      Nat.ofDigitChars_replicate_zero, Nat.mul_zero, Nat.ofDigitChars_ten_toDigits, scaled,
      ← signed_natAbs n.coefficient]
    congr 2
    omega

theorem Number.positional_fraction_length (n : Number) :
    n.positional.fraction.length ≤ n.scale.natAbs := by
  unfold Number.positional
  by_cases zero : n.coefficient = 0
  · simp [zero]
  by_cases whole : n.scale ≤ 0
  · simp [zero, whole]
  by_cases long : n.scale.toNat < (Nat.toDigits 10 n.coefficient.natAbs).length
  · simp only [zero, whole, long, if_false, if_true, List.length_drop]
    omega
  · simp only [zero, whole, long, if_false, List.length_append, List.length_replicate]
    omega

/-- The positional form of a normal decimal is canonical. -/
theorem Number.positional_canonical {n : Number} (normal : n.Normal) : n.positional.Canonical := by
  unfold Number.positional
  by_cases zero : n.coefficient = 0
  · simp only [zero, if_true]
    exact ⟨by simp, .inl rfl, by simp, by simp⟩
  have units : n.coefficient.natAbs % 10 ≠ 0 := by
    rcases normal with ⟨zero', _⟩ | units
    · exact absurd zero' zero
    · omega
  have isDigit : ∀ c ∈ Nat.toDigits 10 n.coefficient.natAbs, c.isDigit :=
    fun c mem => Nat.isDigit_of_mem_toDigits (by decide) (by decide) mem
  have zeroDigit : ('0' : Char).isDigit := by decide
  obtain ⟨first, rest, leading, nonzero⟩ := toDigits_leading (n := n.coefficient.natAbs) (by omega)
  by_cases whole : n.scale ≤ 0
  · simp only [zero, whole, if_false, if_true]
    refine ⟨?_, .inr ⟨first, rest ++ List.replicate n.scale.natAbs '0', by simp [leading], nonzero⟩,
      by simp, fun _ shape => ?_⟩
    · intro c mem
      simp only [List.append_nil, List.mem_append, List.mem_replicate] at mem
      rcases mem with mem | ⟨_, rfl⟩
      · exact isDigit c mem
      · exact zeroDigit
    · rw [leading] at shape
      simp at shape
      exact absurd shape.1 nonzero
  by_cases long : n.scale.toNat < (Nat.toDigits 10 n.coefficient.natAbs).length
  · simp only [zero, whole, long, if_false, if_true]
    obtain ⟨cs, taken⟩ : ∃ cs, (Nat.toDigits 10 n.coefficient.natAbs).take
        ((Nat.toDigits 10 n.coefficient.natAbs).length - n.scale.toNat) = first :: cs := by
      rw [leading, List.take_cons (by rw [← leading]; omega)]
      exact ⟨_, rfl⟩
    refine ⟨?_, .inr ⟨first, cs, taken, nonzero⟩, ?_, fun _ shape => ?_⟩
    · rw [List.take_append_drop]
      exact isDigit
    · rw [List.getLast?_drop, if_neg (by omega)]
      exact toDigits_getLast?_ne_zero units
    · rw [taken] at shape
      simp at shape
      exact absurd shape.1 nonzero
  · simp only [zero, whole, long, if_false]
    refine ⟨?_, .inl rfl, ?_, fun _ _ => by simp⟩
    · intro c mem
      simp only [List.mem_append, List.mem_replicate, List.mem_singleton] at mem
      rcases mem with rfl | ⟨_, rfl⟩ | mem
      · exact zeroDigit
      · exact zeroDigit
      · exact isDigit c mem
    · rw [List.getLast?_append, leading]
      simpa [← leading] using toDigits_getLast?_ne_zero units

/-! ## The canonical text -/

/-- Canonical text succeeds exactly on texts that read, trimmed, as a decimal
whose normal form has an exponent within the bound, and gives its plain
text. -/
theorem canonical_eq_ok_iff {raw s : String} :
    canonical raw = .ok s ↔ ∃ d, Number.read (Text.trim raw) = some d ∧
      d.normalize.scale.natAbs ≤ maxExponent ∧ d.plain = s := by
  unfold canonical
  cases Number.read (Text.trim raw) with
  | none => simp
  | some d =>
    by_cases wide : d.normalize.scale.natAbs > maxExponent
    · simp only [wide, if_true, reduceCtorEq, false_iff, not_exists, not_and, Option.some.injEq]
      rintro _ rfl narrow
      omega
    · simp only [wide, if_false, Except.ok.injEq, Option.some.injEq, exists_eq_left']
      constructor
      · intro plain
        exact ⟨by omega, plain⟩
      · exact And.right

theorem canonicalDecimal_eq_ok_iff {raw s : String} :
    Query.canonicalDecimal raw = .ok s ↔ canonical raw = .ok s := by
  unfold Query.canonicalDecimal
  split <;> simp_all

/-- The plain text of a decimal within the bound reads back, untrimmed, as a
decimal of the same value. -/
theorem Number.read_plain {d : Number} (narrow : d.normalize.scale.natAbs ≤ maxExponent) :
    ∃ e, Number.read (Text.trim d.plain) = some e ∧ e.value = d.value := by
  have canonical := d.normalize.positional_canonical d.normalize_normal
  have nonempty : d.normalize.positional.whole ≠ [] := by
    rcases canonical.whole with shape | ⟨c, cs, shape, _⟩ <;> simp [shape]
  have short : d.normalize.positional.fraction.length < 2 ^ 63 := by
    have := d.normalize.positional_fraction_length
    unfold maxExponent at narrow
    omega
  rw [Number.plain_eq_positional, PlainDecimal.trim_text canonical.digits,
    PlainDecimal.read_text canonical.digits nonempty short]
  exact ⟨_, rfl, by rw [PlainDecimal.number_value, Number.positional_value, Number.normalize_value]⟩

/-- Canonical text is its own canonical text: it reads back as a decimal of
the same value, so of the same normal form. -/
theorem canonical_canonical {raw s : String} (accepted : canonical raw = .ok s) :
    canonical s = .ok s := by
  obtain ⟨d, read, narrow, rfl⟩ := canonical_eq_ok_iff.mp accepted
  obtain ⟨e, reread, same⟩ := Number.read_plain narrow
  have normal := Number.normalize_eq_of_value_eq same
  exact canonical_eq_ok_iff.mpr ⟨e, reread, by rw [normal]; exact narrow, Number.plain_congr normal⟩

/-- Canonical text is positional text in canonical form. -/
theorem canonical_positional {raw s : String} (accepted : canonical raw = .ok s) :
    ∃ p : PlainDecimal, p.Canonical ∧ p.text = s := by
  obtain ⟨d, -, -, rfl⟩ := canonical_eq_ok_iff.mp accepted
  exact ⟨d.normalize.positional, d.normalize.positional_canonical d.normalize_normal,
    (Number.plain_eq_positional d).symm⟩

/-- A text stands for a number when, trimmed, it reads as a decimal of that
value. -/
def Denotes (raw : String) (q : ℚ) : Prop :=
  ∃ d, Number.read (Text.trim raw) = some d ∧ d.value = q

/-- Canonical decimal text is exact and canonical.  It accepts a text exactly
when the text, trimmed, reads as a decimal that is zero or whose exponent,
once trailing zeros are stripped, lies within the bound either way.  What it
gives back is positional text of the pattern `-?(0|[1-9][0-9]*)(\.[0-9]*[1-9])?`,
never `-0`, standing for the number the input stands for, and is its own
canonical text.  Two accepted texts give the same text exactly when they
stand for the same number. -/
theorem canonicalDecimal_canonical_form :
    (∀ raw, (∃ s, Query.canonicalDecimal raw = .ok s) ↔
      ∃ d, Number.read (Text.trim raw) = some d ∧
        (d.value = 0 ∨ (-(maxExponent : Int) ≤ -d.normalize.scale ∧
          -d.normalize.scale ≤ maxExponent))) ∧
    (∀ raw s, Query.canonicalDecimal raw = .ok s →
      (∃ p : PlainDecimal, p.Canonical ∧ p.text = s ∧ Denotes raw p.value) ∧
        Query.canonicalDecimal s = .ok s) ∧
    (∀ raw₁ raw₂ s₁ s₂ q₁ q₂, Query.canonicalDecimal raw₁ = .ok s₁ →
      Query.canonicalDecimal raw₂ = .ok s₂ → Denotes raw₁ q₁ → Denotes raw₂ q₂ →
        (s₁ = s₂ ↔ q₁ = q₂)) := by
  refine ⟨fun raw => ?accepts, fun raw s accepted => ?result, ?injective⟩
  case accepts =>
    simp only [canonicalDecimal_eq_ok_iff, canonical_eq_ok_iff]
    constructor
    · rintro ⟨s, d, read, narrow, -⟩
      exact ⟨d, read, .inr ⟨by omega, by omega⟩⟩
    · rintro ⟨d, read, zero | ⟨lo, hi⟩⟩
      · have normal : d.normalize = ⟨0, 0⟩ := by
          unfold Number.normalize
          rw [if_pos (Number.value_eq_zero.mp zero)]
        exact ⟨d.plain, d, read, by simp [normal], rfl⟩
      · exact ⟨d.plain, d, read, by omega, rfl⟩
  case result =>
    obtain ⟨d, read, narrow, rfl⟩ := canonical_eq_ok_iff.mp (canonicalDecimal_eq_ok_iff.mp accepted)
    refine ⟨⟨d.normalize.positional, d.normalize.positional_canonical d.normalize_normal,
      (Number.plain_eq_positional d).symm, d, read, ?_⟩, ?_⟩
    · rw [Number.positional_value, Number.normalize_value]
    · exact canonicalDecimal_eq_ok_iff.mpr
        (canonical_canonical (canonicalDecimal_eq_ok_iff.mp accepted))
  case injective =>
    rintro raw₁ raw₂ s₁ s₂ q₁ q₂ accepted₁ accepted₂ ⟨d₁', read₁', rfl⟩ ⟨d₂', read₂', rfl⟩
    obtain ⟨d₁, read₁, narrow₁, rfl⟩ :=
      canonical_eq_ok_iff.mp (canonicalDecimal_eq_ok_iff.mp accepted₁)
    obtain ⟨d₂, read₂, narrow₂, rfl⟩ :=
      canonical_eq_ok_iff.mp (canonicalDecimal_eq_ok_iff.mp accepted₂)
    obtain rfl : d₁' = d₁ := Option.some.inj (read₁'.symm.trans read₁)
    obtain rfl : d₂' = d₂ := Option.some.inj (read₂'.symm.trans read₂)
    constructor
    · intro same
      obtain ⟨e₁, reread₁, value₁⟩ := Number.read_plain narrow₁
      obtain ⟨e₂, reread₂, value₂⟩ := Number.read_plain narrow₂
      rw [same, reread₂, Option.some.injEq] at reread₁
      rw [← value₁, ← value₂, reread₁]
    · intro same
      exact Number.plain_congr (Number.normalize_eq_of_value_eq same)

/-- `-1.500e2`, blanks around it, is `-150`, which is its own canonical text. -/
theorem canonicalDecimal_scaled_text :
    Query.canonicalDecimal " -1.500e2 " = .ok "-150" ∧ Query.canonicalDecimal "-150" = .ok "-150" :=
  have scaled : Query.canonicalDecimal " -1.500e2 " = .ok "-150" := by rfl
  ⟨scaled, (canonicalDecimal_canonical_form.2.1 _ _ scaled).2⟩

end Decimal
end Refbook
