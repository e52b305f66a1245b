import Refbook.Relational.Engine

namespace Refbook

/-!
# Decimals in numeric columns

The relational engine keeps a single decimal field in a `numeric` column.  It
writes the field's text, and the column converts the text on its way in: a
whole number of 64 bits becomes that number, any other number the double it
reads as (or, when that double is whole and inside the range, the whole
number it is).  Read back, a double is written out with the fewest digits
that read as it.

So what a decimal field reads back depends only on how its text reads as a
number, once the text is not a whole number of 64 bits.  Reading keeps at
most nineteen significant digits, and the double at most seventeen: decimals
that differ beyond them are read back alike, so at most one of them as
itself.
-/

namespace Relational

deriving instance DecidableEq for Scan

/-- A single field value written to its column and read back from it: the
engine's row of a record holds `encodeValue`, the table converts it by the
column's affinity, and reading the record decodes it. -/
def columnRoundTrip (f : Field) (v : Json) : Except Error Json :=
  decodeValue f ((encodeValue f v).store (Affinity.ofDeclared (columnType f)))

/-- The reading of a text is that of its characters after the leading
blanks. -/
theorem readReal_of_read {text : String} {cs : List Char}
    (spelled : text.toList.dropWhile isBlank = cs) (nonempty : cs ≠ []) :
    readReal text = ((Scan.read cs).code, (Scan.read cs).value) := by
  unfold readReal
  rw [spelled]
  cases cs with
  | nil => exact absurd rfl nonempty
  | cons c rest => rfl

/-- Text that reads as a number, but not as a whole number of 64 bits, goes
into a numeric column as the double it reads as: kept as a double when the
text is whole, and turned whole when the double is a whole number in range
otherwise. -/
theorem numericOfText_of_wide {s : String} (number : 0 < (readReal s).1)
    (wide : ∀ n, wholeOfText s = some n → fitsInt64 n = false) :
    numericOfText s true =
      if (readReal s).1 = 1 then .real (readReal s).2 else wholeIfExact (readReal s).2 := by
  unfold numericOfText
  rcases reading : readReal s with ⟨code, r⟩
  rw [reading] at number
  dsimp only at number ⊢
  rw [if_neg (by omega)]
  by_cases whole : code = 1
  · rw [if_pos whole, if_pos whole]
    cases written : wholeOfText s with
    | none => rfl
    | some n =>
      dsimp only
      rw [wide n written]
      rfl
  · rw [if_neg whole, if_neg whole]
    rfl

/-- A text whose whole number lies outside 64 bits reads as no whole number
of 64 bits. -/
theorem wide_of_whole {s : String} {m : Int} (whole : wholeOfText s = some m)
    (beyond : fitsInt64 m = false) : ∀ n, wholeOfText s = some n → fitsInt64 n = false := by
  intro n read
  rw [whole] at read
  cases read
  exact beyond

/-- Two texts that read as the same number, neither of them a whole number
of 64 bits, go into a numeric column as one value. -/
theorem store_numeric_alike {s t : String} (number : 0 < (readReal s).1)
    (same : readReal s = readReal t)
    (wideS : ∀ n, wholeOfText s = some n → fitsInt64 n = false)
    (wideT : ∀ n, wholeOfText t = some n → fitsInt64 n = false) :
    (Value.text s).store .numeric = (Value.text t).store .numeric := by
  simp only [Value.store, Affinity.isNumeric, if_true]
  rw [numericOfText_of_wide number wideS, numericOfText_of_wide (same ▸ number) wideT, same]

section SingleDecimal

variable {f : Field} (decimal : f.fieldType = .decimal) (single : f.multivalued = false)

include decimal single

/-- A single decimal field is kept in a numeric column. -/
theorem decimal_column_numeric : Affinity.ofDeclared (columnType f) = .numeric := by
  rw [columnType, single, decimal]
  decide +kernel

/-- A single decimal field is written as its text. -/
theorem encodeValue_decimal_text (u : String) : encodeValue f (.string u) = .text u := by
  simp [encodeValue, single, decimal]

end SingleDecimal

/-- A decimal field reads back the same from any two texts that read as the
same number, neither of them a whole number of 64 bits. -/
theorem decimal_read_back_follows_reading {f : Field} (decimal : f.fieldType = .decimal)
    (single : f.multivalued = false) {s t : String} (number : 0 < (readReal s).1)
    (same : readReal s = readReal t)
    (wideS : ∀ n, wholeOfText s = some n → fitsInt64 n = false)
    (wideT : ∀ n, wholeOfText t = some n → fitsInt64 n = false) :
    columnRoundTrip f (.string s) = columnRoundTrip f (.string t) := by
  unfold columnRoundTrip
  rw [decimal_column_numeric decimal single, encodeValue_decimal_text decimal single,
    encodeValue_decimal_text decimal single, store_numeric_alike number same wideS wideT]

/-- Twenty-one-digit whole numbers agreeing in their first twenty digits
read as one number: reading stops taking digits once the significand passes
its cap. -/
theorem long_whole_readings_agree :
    readReal "123456789012345678901" = readReal "123456789012345678909" := by
  have scanned : Scan.read "123456789012345678901".toList =
      Scan.read "123456789012345678909".toList := by
    decide +kernel
  rw [@readReal_of_read "123456789012345678901" "123456789012345678901".toList
      (by decide +kernel) (by decide +kernel),
    @readReal_of_read "123456789012345678909" "123456789012345678909".toList
      (by decide +kernel) (by decide +kernel), scanned]

/-- Two decimals of twenty-one digits, apart in the last one, read back
alike from a decimal column; so one of them does not read back as itself. -/
theorem long_decimals_read_back_alike :
    columnRoundTrip { id := "d", fieldType := .decimal } (.string "123456789012345678901") =
      columnRoundTrip { id := "d", fieldType := .decimal } (.string "123456789012345678909") :=
  decimal_read_back_follows_reading rfl rfl (by decide +kernel) long_whole_readings_agree
    (@wide_of_whole "123456789012345678901" 123456789012345678901
      (by decide +kernel) (by decide +kernel))
    (@wide_of_whole "123456789012345678909" 123456789012345678909
      (by decide +kernel) (by decide +kernel))

end Relational

end Refbook
