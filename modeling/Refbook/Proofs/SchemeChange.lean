import Mathlib
import Refbook.Relational.Engine

namespace Refbook

/-!
# Changing the type of a text field

The relational engine keeps a field in a column whose declared type depends
only on the field's kind of value: every multivalued field, and every
single field of a type stored as text, gets a `text` column.  A scheme
change is refused only when a kept field would change its column, so a
`STRING` field may become a `JSON` field.  The stored texts stay as they
were, but they are then read back as JSON: a text that does not start a
JSON value can no longer be read, and with it the record that holds it.
-/

namespace Json

/-- Blanks are skipped up to the first character that is not one. -/
theorem skipBlanks_go_stop {s : Source} {c : Cursor} {ch : Char} (fuel : Nat)
    (at_c : s.peek c = some ch) (apart : ch ≠ ' ' ∧ ch ≠ '\n' ∧ ch ≠ '\t' ∧ ch ≠ '\r') :
    Source.skipBlanks.go s fuel c = c := by
  cases fuel with
  | zero => rfl
  | succ fuel =>
    rw [Source.skipBlanks.go, at_c]
    obtain ⟨not_space, not_newline, not_tab, not_return⟩ := apart
    split <;> simp_all

theorem not_digit_of_isAlpha {c : Char} (letter : c.isAlpha = true) : ¬('0' ≤ c ∧ c ≤ '9') := by
  simp only [Char.isAlpha, Char.isUpper, Char.isLower, Bool.or_eq_true, Bool.and_eq_true,
    decide_eq_true_eq, UInt32.le_iff_toNat_le, ge_iff_le] at letter
  simp only [Char.le_def, UInt32.le_iff_toNat_le, not_and, Nat.not_le]
  have : '9'.val.toNat = 57 := rfl
  have : 'A'.val.toNat = 65 := rfl
  have : 'a'.val.toNat = 97 := rfl
  omega

/-- A text that starts with a letter other than those of `null`, `true`
and `false` is no JSON text. -/
theorem read_error_of_letter {text : String} {c : Char} {rest : List Char}
    (spelled : text.toList = c :: rest) (letter : c.isAlpha = true)
    (other : c ≠ 'n' ∧ c ≠ 't' ∧ c ≠ 'f') : ∃ e, read text = .error e := by
  have first : (Source.ofString text).peek { index := 0, offset := 0 } = some c := by
    simp [Source.peek, Source.ofString, spelled]
  have apart : c ≠ ' ' ∧ c ≠ '\n' ∧ c ≠ '\t' ∧ c ≠ '\r' := by
    refine ⟨?_, ?_, ?_, ?_⟩ <;> rintro rfl <;> simp at letter
  have stays : (Source.ofString text).skipBlanks { index := 0, offset := 0 } =
      { index := 0, offset := 0 } :=
    skipBlanks_go_stop _ first apart
  obtain ⟨not_n, not_t, not_f⟩ := other
  have not_digit := not_digit_of_isAlpha letter
  unfold read
  dsimp only
  rw [show 2 * (Source.ofString text).chars.size + 4 =
    (2 * (Source.ofString text).chars.size + 3) + 1 by omega, readValue]
  dsimp only
  rw [stays, first]
  split
  · exact ⟨_, rfl⟩
  · rename_i reading
    exfalso
    split at reading
    case h_9 same =>
      cases same
      rw [if_neg not_digit] at reading
      cases reading
    all_goals simp_all

end Json

namespace Relational

/-- A text field turned into a JSON field keeps its column, so the scheme
change passes the check, and a stored text that read back as itself before
the change is read as JSON after it: one starting with a letter other than
those of `null`, `true` and `false` reads no more. -/
theorem text_field_to_json_unreadable {before after : Field} {s : String} {c : Char}
    {rest : List Char} (text : before.fieldType = .string) (json : after.fieldType = .json)
    (single : before.multivalued = false) (still_single : after.multivalued = false)
    (spelled : s.toList = c :: rest) (letter : c.isAlpha = true)
    (other : c ≠ 'n' ∧ c ≠ 't' ∧ c ≠ 'f') :
    columnType after = columnType before ∧
      decodeValue before (encodeValue before (.string s)) = .ok (.string s) ∧
      ∃ err, decodeValue after (encodeValue before (.string s)) = .error err := by
  have stored : encodeValue before (.string s) = .text s := by
    simp [encodeValue, single, text]
  refine ⟨by simp [columnType, text, json, single, still_single], ?_, ?_⟩
  · rw [stored, decodeValue.eq_def, single, text]
    rfl
  · obtain ⟨e, failed⟩ := Json.read_error_of_letter spelled letter other
    refine ⟨.serialization e.message, ?_⟩
    rw [stored, decodeValue.eq_def, still_single, json]
    simp only [Bool.false_eq_true, if_false, readJson, failed]

/-- A name stored in a text field no longer reads once the field holds
JSON. -/
theorem stored_name_unreadable_as_json :
    ∃ err, decodeValue { id := "s", fieldType := .json }
      (encodeValue { id := "s", fieldType := .string } (.string "abc")) = .error err :=
  (@text_field_to_json_unreadable { id := "s", fieldType := .string }
    { id := "s", fieldType := .json } "abc" 'a' ['b', 'c'] rfl rfl rfl rfl rfl rfl
    (by decide)).2.2

end Relational

end Refbook
