import Refbook.Proofs.CanonicalRecords

/-!
# What numeric fields store

An integer field stores a whole number.  A text names it exactly: an
optional sign and digits, within the signed 64-bit range, standing for the
same number as a decimal does.  A JSON whole number is stored as itself when
it lies within that range; a larger one is cut to the range's top
(`2^63` is stored as `2^63 - 1`).  A decimal field stores canonical text
that stands for exactly the number the input's text stands for.

Both kinds are checked against the field's bounds as the nearest double, so
a bound is met only up to the spacing of doubles.

The main statement is `numeric_value_stored`; `saturated_integer_sample`
shows the cut.
-/

namespace Refbook
namespace Dict

/-! ## Whole numbers written as text -/

/-- A plus sign before digits is passed over. -/
theorem readMagnitude_plus {cs : List Char} (digits : ∀ c ∈ cs, c.isDigit) (nonempty : cs ≠ []) :
    Decimal.readMagnitude ('+' :: cs) = some (Nat.ofDigitChars 10 cs 0) := by
  obtain ⟨c, rest, rfl⟩ := List.exists_cons_of_ne_nil nonempty
  have notPlus : c ≠ '+' := by
    rintro rfl
    exact absurd (digits '+' (by simp)) (by decide)
  rw [← Decimal.readMagnitude_digits digits nonempty]
  unfold Decimal.readMagnitude
  simp [notPlus]

/-- No character of a signed run of digits is one that `p` looks for. -/
theorem findIdx?_signed {cs : List Char} {p : Char → Bool}
    (signed : ∀ c ∈ cs, c.isDigit ∨ c = '-' ∨ c = '+')
    (miss : ∀ c, p c = true → ¬(c.isDigit ∨ c = '-' ∨ c = '+')) : cs.findIdx? p = none := by
  rw [List.findIdx?_eq_none_iff]
  intro c mem
  rw [Bool.eq_false_iff]
  exact fun found => miss c found (signed c mem)

/-- A text `readInt64` takes has digits after its sign. -/
theorem digits_of_wellFormed {cs : List Char}
    (wellFormed : ¬(cs.isEmpty = true ∨ ¬cs.all Char.isDigit = true)) :
    cs ≠ [] ∧ ∀ c ∈ cs, c.isDigit := by
  simp only [not_or, not_not, List.isEmpty_iff, List.all_eq_true] at wellFormed
  exact wellFormed

/-- A whole-number text reads as the same number as a decimal, at scale
zero. -/
theorem readInt64_read {text : String} {n : Int} (found : Query.readInt64 text = some n) :
    Decimal.Number.read text = some ⟨n, 0⟩ := by
  have pointless : ∀ {base : List Char}, (∀ c ∈ base, c.isDigit ∨ c = '-' ∨ c = '+') →
      base ≠ [] → Decimal.Number.read (String.ofList base) =
        (Decimal.readCoefficient base).map fun c => ⟨c, 0⟩ := by
    intro base signed nonempty
    refine Decimal.read_of_pointless (findIdx?_signed signed ?_) (findIdx?_signed signed ?_)
      nonempty
    · intro c letter
      simp only [decide_eq_true_eq] at letter
      rcases letter with rfl | rfl <;> decide
    · intro c point
      simp only [decide_eq_true_eq] at point
      subst point
      decide
  rw [← @String.ofList_toList text]
  unfold Query.readInt64 at found
  dsimp only at found
  split at found
  · rename_i rest shape
    simp only [Option.ite_none_left_eq_some, Option.ite_none_right_eq_some, Option.some.injEq,
      if_true] at found
    obtain ⟨wellFormed, -, rfl⟩ := found
    obtain ⟨nonempty, all⟩ := digits_of_wellFormed wellFormed
    have coefficient := Decimal.readCoefficient_signed true all nonempty
    simp only [if_true, List.cons_append, List.nil_append] at coefficient
    rw [shape, pointless (by simpa using fun c mem => .inl (all c mem)) (List.cons_ne_nil _ _),
      coefficient, Temporal.foldl_digits]
    rfl
  · rename_i rest shape
    simp only [Option.ite_none_left_eq_some, Option.ite_none_right_eq_some, Option.some.injEq,
      Bool.false_eq_true, if_false] at found
    obtain ⟨wellFormed, -, rfl⟩ := found
    obtain ⟨nonempty, all⟩ := digits_of_wellFormed wellFormed
    rw [shape, pointless (by simpa using fun c mem => .inl (all c mem)) (List.cons_ne_nil _ _)]
    simp [Decimal.readCoefficient, readMagnitude_plus all nonempty, Temporal.foldl_digits]
  · simp only [Option.ite_none_left_eq_some, Option.ite_none_right_eq_some, Option.some.injEq,
      Bool.false_eq_true, if_false] at found
    obtain ⟨wellFormed, -, rfl⟩ := found
    obtain ⟨nonempty, all⟩ := digits_of_wellFormed wellFormed
    have coefficient := Decimal.readCoefficient_signed false all nonempty
    simp only [Bool.false_eq_true, if_false, List.nil_append] at coefficient
    rw [pointless (fun c mem => .inl (all c mem)) nonempty, coefficient, Temporal.foldl_digits]
    rfl

/-! ## Decimals -/

/-- Canonical text stands for exactly the number its input stands for. -/
theorem canonical_denotes {raw c : String} (accepted : Decimal.canonical raw = .ok c) (q : ℚ) :
    Decimal.Denotes raw q ↔ Decimal.Denotes c q := by
  obtain ⟨d, read, narrow, rfl⟩ := Decimal.canonical_eq_ok_iff.mp accepted
  obtain ⟨e, reread, same⟩ := Decimal.Number.read_plain narrow
  constructor
  · rintro ⟨d', read', rfl⟩
    obtain rfl : d' = d := Option.some.inj (read'.symm.trans read)
    exact ⟨e, reread, same⟩
  · rintro ⟨e', reread', rfl⟩
    obtain rfl : e' = e := Option.some.inj (reread'.symm.trans reread)
    exact ⟨d, read, same.symm⟩

/-! ## Stored numbers -/

section Stored

variable {d : Dict} {f : Field} {v w : Json}

/-- An integer field stores a whole number checked as the nearest double: a
JSON whole number cut to the signed 64-bit range, a negative one as it is,
and the number a text names, exactly. -/
theorem integer_stored (ftype : f.fieldType = .integer)
    (normalized : normalizeValue d f v = .ok w) :
    ∃ n : Int, w = Json.ofInt n ∧ checkBounds d f (Float.ofInt n) = .ok () ∧
      (∀ k : Nat, v = .number (.nat k) → n = min (k : Int) (Int.pow 2 63 - 1)) ∧
      (∀ k : Int, v = .number (.neg k) → n = k) ∧
      (∀ s, v = .string s → Decimal.Denotes s n ∧ -(Int.pow 2 63) ≤ n ∧ n < Int.pow 2 63) := by
  obtain ⟨n, found, bounded, rfl⟩ := normalizeValue_integer_ok ftype normalized
  refine ⟨n, rfl, bounded, ?_, ?_, ?_⟩
  · rintro k rfl
    cases found
    unfold saturate
    rw [pow_63]
    omega
  · rintro k rfl
    cases found
    rfl
  · rintro s rfl
    exact ⟨⟨_, readInt64_read found, by simp [Decimal.Number.value]⟩, readInt64_range found⟩

/-- A decimal field stores canonical text, checked as the nearest double,
that stands for exactly the number its input's text stands for. -/
theorem decimal_stored (ftype : f.fieldType = .decimal)
    (normalized : normalizeValue d f v = .ok w) :
    ∃ text c, decimalText? v = some text ∧ w = .string c ∧ checkDecimalBounds d f c = .ok () ∧
      ∀ q, Decimal.Denotes text q ↔ Decimal.Denotes c q := by
  obtain ⟨text, c, given, accepted, bounded, rfl⟩ := normalizeValue_decimal_ok ftype normalized
  exact ⟨text, c, given, rfl, bounded, canonical_denotes accepted⟩

end Stored

/-- What a numeric field stores.  An integer field stores a whole number
`n`, checked against its bounds as the nearest double: a JSON whole number
cut to the signed 64-bit range, a negative JSON whole number as it is, and
the number a text names exactly, which lies in that range.  A decimal field
stores canonical text, checked against its bounds as the nearest double,
that stands for exactly the number its input's text stands for. -/
theorem numeric_value_stored {d : Dict} {f : Field} {v w : Json}
    (normalized : normalizeValue d f v = .ok w) :
    (f.fieldType = .integer → ∃ n : Int, w = Json.ofInt n ∧
      checkBounds d f (Float.ofInt n) = .ok () ∧
      (∀ k : Nat, v = .number (.nat k) → n = min (k : Int) (Int.pow 2 63 - 1)) ∧
      (∀ k : Int, v = .number (.neg k) → n = k) ∧
      (∀ s, v = .string s → Decimal.Denotes s n ∧ -(Int.pow 2 63) ≤ n ∧ n < Int.pow 2 63)) ∧
    (f.fieldType = .decimal → ∃ text c, decimalText? v = some text ∧ w = .string c ∧
      checkDecimalBounds d f c = .ok () ∧ ∀ q, Decimal.Denotes text q ↔ Decimal.Denotes c q) :=
  ⟨fun ftype => integer_stored ftype normalized, fun ftype => decimal_stored ftype normalized⟩

/-- The JSON whole number `2^63`, one past the signed 64-bit range, is stored
in an integer field as `2^63 - 1`. -/
theorem saturated_integer_sample :
    normalizeValue { id := "c", fields := [{ id := "n", fieldType := .integer }] }
        { id := "n", fieldType := .integer } (.number (.nat (2 ^ 63))) =
      .ok (Json.ofInt (2 ^ 63 - 1)) ∧
    ∃ n : Int, Json.ofInt (2 ^ 63 - 1) = Json.ofInt n ∧ n = 2 ^ 63 - 1 ∧ n ≠ 2 ^ 63 := by
  have normalized : normalizeValue { id := "c", fields := [{ id := "n", fieldType := .integer }] }
      { id := "n", fieldType := .integer } (.number (.nat (2 ^ 63))) =
      .ok (Json.ofInt (2 ^ 63 - 1)) := by rfl
  obtain ⟨n, stored, -, whole, -, -⟩ := (numeric_value_stored normalized).1 rfl
  have cut : n = 2 ^ 63 - 1 := by
    rw [whole _ rfl, pow_63]
    decide
  exact ⟨normalized, n, stored, cut, by omega⟩

end Dict
end Refbook
