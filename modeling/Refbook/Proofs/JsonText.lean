import Mathlib
import Refbook.Json.Read
import Refbook.Json.Write

/-!
# Compact JSON text read back

What `compact` writes, `read` reads back as a similar value (`read_compact`):
strings, truth values and null come back as they were, a number as some
number (or as null, when its text is `null`), arrays item by item, and an
object entry by entry, each key set in turn as the reader meets it.

The reader works on a `Source`, an array of characters and the bytes that
encode them, with a cursor at a character index and its byte offset.  We
describe a cursor by its index alone (`Source.cursorAt`) and the text from
there on as a list of characters (`Source.rest`); each reading step is then
a lemma about the head of that list.  Escaped string characters are read
one escape at a time, `\u00XX` escapes through the bytes of their hex
digits.  Numbers are not read back exactly: their reading only stops within
a run of characters of numbers, which is all that the reading of an
enclosing value needs.
-/

namespace Refbook
namespace Json

namespace Source

def cursorAt (s : Source) (k : Nat) : Cursor :=
  { index := k, offset := ((s.chars.toList.take k).map Char.utf8Size).sum }

def rest (s : Source) (k : Nat) : List Char :=
  s.chars.toList.drop k

theorem cursorAt_zero (s : Source) : s.cursorAt 0 = { index := 0, offset := 0 } := by
  simp [cursorAt]

theorem peek_cursorAt (s : Source) (k : Nat) : s.peek (s.cursorAt k) = (s.rest k).head? := by
  simp [peek, cursorAt, rest]

theorem peek_of_rest {s : Source} {k : Nat} {ch : Char} {t : List Char}
    (text : s.rest k = ch :: t) : s.peek (s.cursorAt k) = some ch := by
  rw [peek_cursorAt, text]
  rfl

theorem peek_of_rest_nil {s : Source} {k : Nat} (text : s.rest k = []) :
    s.peek (s.cursorAt k) = none := by
  rw [peek_cursorAt, text]
  rfl

theorem advance_of_rest {s : Source} {k : Nat} {ch : Char} {t : List Char}
    (text : s.rest k = ch :: t) : s.advance (s.cursorAt k) = s.cursorAt (k + 1) := by
  have found : s.chars.toList[k]? = some ch := by
    have head := congrArg (·[0]?) text
    simpa [rest] using head
  unfold advance
  rw [peek_of_rest text]
  simp [cursorAt, List.take_add_one, found]

theorem rest_succ {s : Source} {k : Nat} {ch : Char} {t : List Char}
    (text : s.rest k = ch :: t) : s.rest (k + 1) = t := by
  unfold rest at *
  rw [← List.drop_drop, text]
  rfl

theorem rest_add {s : Source} {k : Nat} {xs ys : List Char}
    (text : s.rest k = xs ++ ys) : s.rest (k + xs.length) = ys := by
  unfold rest at *
  rw [← List.drop_drop, text, List.drop_left]

/-- Blanks are skipped only where there are some. -/
theorem skipBlanks_stays {s : Source} {k : Nat}
    (unblank : ∀ ch, (s.rest k).head? = some ch → ch ≠ ' ' ∧ ch ≠ '\n' ∧ ch ≠ '\t' ∧ ch ≠ '\r') :
    s.skipBlanks (s.cursorAt k) = s.cursorAt k := by
  unfold skipBlanks skipBlanks.go
  rw [peek_cursorAt]
  cases first : (s.rest k).head? with
  | none => rfl
  | some ch =>
    obtain ⟨space, newline, tab, ret⟩ := unblank ch first
    split
    · rename_i same; cases same; exact absurd rfl space
    · rename_i same; cases same; exact absurd rfl newline
    · rename_i same; cases same; exact absurd rfl tab
    · rename_i same; cases same; exact absurd rfl ret
    · rfl

theorem getElem?_of_rest {s : Source} {k : Nat} {ch : Char} {t : List Char}
    (text : s.rest k = ch :: t) : s.chars.toList[k]? = some ch := by
  have head := congrArg (·[0]?) text
  simpa [rest] using head

theorem offset_succ {s : Source} {k : Nat} {ch : Char} {t : List Char}
    (text : s.rest k = ch :: t) :
    (s.cursorAt (k + 1)).offset = (s.cursorAt k).offset + ch.utf8Size := by
  rw [← advance_of_rest text]
  unfold advance
  rw [peek_of_rest text]

/-- The bytes of a source are the UTF-8 encoding of its characters, as
`Source.ofString` makes them. -/
def Encoded (s : Source) : Prop :=
  s.bytes = s.chars.toList.utf8Encode

theorem ofString_encoded (text : String) : (Source.ofString text).Encoded := by
  simp [Encoded, ofString, String.utf8Encode_toList]

/-- The byte at a cursor's offset is the first byte of its character. -/
theorem byte_of_rest {s : Source} (encoded : s.Encoded) {k : Nat} {ch : Char} {t : List Char}
    (text : s.rest k = ch :: t) (ascii : ch.utf8Size = 1) :
    s.bytes[(s.cursorAt k).offset]? = some ch.val.toUInt8 := by
  have whole : s.chars.toList = s.chars.toList.take k ++ ch :: t := by
    rw [← text]
    exact (List.take_append_drop k _).symm
  have before : (s.cursorAt k).offset = ((s.chars.toList.take k).flatMap String.utf8EncodeChar).length := by
    simp [cursorAt, List.length_flatMap]
  show s.bytes.data[(s.cursorAt k).offset]? = _
  have split : s.chars.toList.flatMap String.utf8EncodeChar =
      (s.chars.toList.take k).flatMap String.utf8EncodeChar ++
        (String.utf8EncodeChar ch ++ t.flatMap String.utf8EncodeChar) := by
    conv => lhs; rw [whole]
    simp
  rw [encoded, List.utf8Encode, List.data_toByteArray, List.getElem?_toArray, before, split,
    List.getElem?_append_right (Nat.le_refl _), Nat.sub_self,
    String.utf8EncodeChar_eq_singleton ascii]
  rfl

/-- An ASCII character read back from its byte. -/
theorem ofNat_byte {ch : Char} (ascii : ch.utf8Size = 1) : Char.ofNat ch.val.toUInt8.toNat = ch := by
  have small : ch.val ≤ 127 := Char.utf8Size_eq_one_iff.mp ascii
  have same : ch.val.toUInt8.toNat = ch.toNat := by
    simp only [UInt32.toNat_toUInt8, Char.toNat]
    have : ch.val.toNat ≤ 127 := by simpa [UInt32.le_iff_toNat_le] using small
    omega
  rw [same, Char.ofNat_toNat]

end Source

/-- Four hex digits of one byte each are read as their number. -/
theorem readHex4_of_rest {s : Source} (encoded : s.Encoded) {k : Nat} {a b c d : Char}
    {more : List Char} (text : s.rest k = a :: b :: c :: d :: more)
    (ascii : a.utf8Size = 1 ∧ b.utf8Size = 1 ∧ c.utf8Size = 1 ∧ d.utf8Size = 1)
    {va vb vc vd : Nat} (values : hexValue a = some va ∧ hexValue b = some vb ∧
      hexValue c = some vc ∧ hexValue d = some vd) :
    readHex4 s (s.cursorAt k) = .ok (((va * 16 + vb) * 16 + vc) * 16 + vd, s.cursorAt (k + 4)) := by
  obtain ⟨asciiA, asciiB, asciiC, asciiD⟩ := ascii
  obtain ⟨hexA, hexB, hexC, hexD⟩ := values
  have text1 := Source.rest_succ text
  have text2 := Source.rest_succ text1
  have text3 := Source.rest_succ text2
  have off1 := Source.offset_succ text
  have off2 := Source.offset_succ text1
  have off3 := Source.offset_succ text2
  rw [asciiA] at off1
  rw [asciiB] at off2
  rw [asciiC] at off3
  have byteA := Source.byte_of_rest encoded text asciiA
  have byteB := Source.byte_of_rest encoded text1 asciiB
  have byteC := Source.byte_of_rest encoded text2 asciiC
  have byteD := Source.byte_of_rest encoded text3 asciiD
  rw [off1] at byteB
  rw [off2, off1] at byteC
  rw [off3, off2, off1] at byteD
  have room : (s.cursorAt k).offset + 4 ≤ s.bytes.size := by
    have inside : (s.cursorAt k).offset + 1 + 1 + 1 < s.bytes.data.size :=
      (Array.getElem?_eq_some_iff.mp byteD).1
    exact inside
  unfold readHex4
  rw [if_pos room]
  have two : (s.cursorAt k).offset + 1 + 1 = (s.cursorAt k).offset + 2 := rfl
  have three : (s.cursorAt k).offset + 1 + 1 + 1 = (s.cursorAt k).offset + 3 := rfl
  rw [two] at byteC
  rw [three] at byteD
  simp only [List.range_succ, List.range_zero, List.nil_append, List.cons_append, List.map_cons,
    List.map_nil, Nat.add_zero, byteA, byteB, byteC, byteD, Option.bind_some,
    Source.ofNat_byte asciiA, Source.ofNat_byte asciiB, Source.ofNat_byte asciiC,
    Source.ofNat_byte asciiD, hexA, hexB, hexC, hexD, List.all_cons, List.all_nil,
    Option.isSome_some, Bool.and_true, if_true, List.foldl_cons, List.foldl_nil,
    Option.getD_some, Nat.zero_mul, Nat.zero_add]
  rw [Source.advance_of_rest text, Source.advance_of_rest text1, Source.advance_of_rest text2,
    Source.advance_of_rest text3]

/-- A literal word is read to its end. -/
theorem readWord_rest {s : Source} {k : Nat} {word post : List Char}
    (text : s.rest k = word ++ post) : readWord s word (s.cursorAt k) = .ok (s.cursorAt (k + word.length)) := by
  induction word generalizing k with
  | nil => rfl
  | cons ch word ih =>
    have at_ch : s.rest k = ch :: (word ++ post) := text
    unfold readWord
    rw [List.foldlM_cons]
    simp only [Source.peek_of_rest at_ch, if_pos, Source.advance_of_rest at_ch]
    rw [show k + (ch :: word).length = k + 1 + word.length by simp; omega]
    exact ih (Source.rest_succ at_ch)


/-- The two hex digits of a control character's escape, one byte each. -/
theorem hex2_digits : ∀ n < 32, (hex2 n).toList.map hexValue = [some (n / 16), some (n % 16)] ∧
    (hex2 n).toList.map Char.utf8Size = [1, 1] := by
  decide

/-- Each escaped character of a string is read back as itself. -/
theorem readStringBody_escapeChar {s : Source} (encoded : s.Encoded) {k : Nat} {ch : Char}
    {more : List Char} (text : s.rest k = (escapeChar ch).toList ++ more) (fuel : Nat)
    (acc : List Char) :
    readStringBody s (fuel + 1) (s.cursorAt k) acc =
      readStringBody s fuel (s.cursorAt (k + (escapeChar ch).toList.length)) (ch :: acc) := by
  generalize written : escapeChar ch = esc at text ⊢
  unfold escapeChar at written
  split at written
  all_goals first
    | (subst written
       simp at text
       rw [readStringBody]
       simp only [Source.peek_of_rest text, Source.advance_of_rest text,
         Source.peek_of_rest (Source.rest_succ text), Source.advance_of_rest (Source.rest_succ text)]
       simp)
    | skip
  rename_i notQuote notBackslash notNewline notReturn notTab
  split at written
  · rename_i eight
    subst written
    simp at text
    rw [readStringBody]
    simp only [Source.peek_of_rest text, Source.advance_of_rest text,
      Source.peek_of_rest (Source.rest_succ text), Source.advance_of_rest (Source.rest_succ text)]
    rw [show ch = Char.ofNat 8 by rw [← eight, Char.ofNat_toNat]]
    simp
  split at written
  · rename_i twelve
    subst written
    simp at text
    rw [readStringBody]
    simp only [Source.peek_of_rest text, Source.advance_of_rest text,
      Source.peek_of_rest (Source.rest_succ text), Source.advance_of_rest (Source.rest_succ text)]
    rw [show ch = Char.ofNat 12 by rw [← twelve, Char.ofNat_toNat]]
    simp
  split at written
  · rename_i control
    subst written
    obtain ⟨values, sizes⟩ := hex2_digits ch.toNat control
    have two : (hex2 ch.toNat).toList.length = 2 := by simpa using congrArg List.length sizes
    obtain ⟨x, y, pair⟩ := List.length_eq_two.mp two
    rw [pair] at values sizes
    simp only [List.map_cons, List.map_nil, List.cons.injEq, and_true] at values sizes
    rw [String.toList_append, pair] at text
    have spelled : s.rest k = '\\' :: 'u' :: '0' :: '0' :: x :: y :: more := by simpa using text
    have digits := Source.rest_succ (Source.rest_succ spelled)
    rw [readStringBody]
    simp only [Source.peek_of_rest spelled, Source.advance_of_rest spelled,
      Source.peek_of_rest (Source.rest_succ spelled),
      Source.advance_of_rest (Source.rest_succ spelled)]
    rw [readHex4_of_rest encoded digits ⟨rfl, rfl, sizes.1, sizes.2⟩
      ⟨(by decide : hexValue '0' = some 0), (by decide : hexValue '0' = some 0), values.1, values.2⟩]
    have value : ((0 * 16 + 0) * 16 + ch.toNat / 16) * 16 + ch.toNat % 16 = ch.toNat := by omega
    simp +decide only [value, if_true]
    rw [if_neg (by omega), if_pos (by omega), Char.ofNat_toNat, String.toList_append, pair]
    simp
  · rename_i printable
    subst written
    have text' : s.rest k = ch :: more := by simpa using text
    rw [readStringBody, Source.peek_of_rest text']
    split
    · rename_i same
      cases same
    · rename_i same
      cases same
      exact absurd rfl notQuote
    · rename_i same
      cases same
      exact absurd rfl notBackslash
    · rename_i same
      cases same
      rw [if_neg printable, Source.advance_of_rest text']
      simp

/-- The text of a string's characters, escaped, and its closing quote are
read back as those characters, the cursor after the quote. -/
theorem readStringBody_escaped {s : Source} (encoded : s.Encoded) (body : List Char) :
    ∀ {k : Nat} {post : List Char} {fuel : Nat} {acc : List Char} {str : String} {c : Cursor},
      s.rest k = body.flatMap (fun ch => (escapeChar ch).toList) ++ '"' :: post →
      readStringBody s fuel (s.cursorAt k) acc = .ok (str, c) →
      str = String.ofList (acc.reverse ++ body) ∧
        c = s.cursorAt (k + (body.flatMap fun ch => (escapeChar ch).toList).length + 1) := by
  induction body with
  | nil =>
    intro k post fuel acc str c text read
    cases fuel with
    | zero => cases read
    | succ fuel =>
      have closing : s.rest k = '"' :: post := text
      rw [readStringBody, Source.peek_of_rest closing] at read
      cases read
      simp [Source.advance_of_rest closing]
  | cons ch body ih =>
    intro k post fuel acc str c text read
    cases fuel with
    | zero => cases read
    | succ fuel =>
      rw [List.flatMap_cons, List.append_assoc] at text
      rw [readStringBody_escapeChar encoded text] at read
      obtain ⟨same, after⟩ := ih (Source.rest_add text) read
      refine ⟨by simp [same], ?_⟩
      rw [after, List.flatMap_cons, List.length_append]
      congr 1
      omega

/-- A quoted string as characters: its escaped characters between quotes. -/
theorem quote_toList (str : String) :
    (quote str).toList = '"' :: str.toList.flatMap (fun ch => (escapeChar ch).toList) ++ ['"'] := by
  simp [quote, String.toList_join, List.flatMap_map]


/-! ## Numbers -/

/-- A character that may stand in the text of a number. -/
def isNumberChar (ch : Char) : Bool :=
  ch.isDigit || ch == '.' || ch == 'e' || ch == 'E' || ch == '+' || ch == '-'

/-- From `k` up to `k'` the source holds characters of numbers only. -/
def NumberRun (s : Source) (k k' : Nat) : Prop :=
  k ≤ k' ∧ ∀ i, k ≤ i → i < k' → ∃ ch, s.chars.toList[i]? = some ch ∧ isNumberChar ch = true

namespace NumberRun

variable {s : Source}

theorem refl (k : Nat) : NumberRun s k k :=
  ⟨Nat.le_refl k, fun _ low high => absurd high (Nat.not_lt.mpr low)⟩

theorem trans {k k' k'' : Nat} (first : NumberRun s k k') (second : NumberRun s k' k'') :
    NumberRun s k k'' := by
  refine ⟨Nat.le_trans first.1 second.1, fun i low high => ?_⟩
  by_cases before : i < k'
  · exact first.2 i low before
  · exact second.2 i (Nat.not_lt.mp before) high

theorem step {k : Nat} {ch : Char} {t : List Char} (text : s.rest k = ch :: t)
    (number : isNumberChar ch = true) : NumberRun s k (k + 1) := by
  refine ⟨Nat.le_succ k, fun i low high => ?_⟩
  obtain rfl : i = k := by omega
  exact ⟨ch, Source.getElem?_of_rest text, number⟩

end NumberRun

/-- A digit found at a cursor is a character of numbers there. -/
theorem digitAt_rest {s : Source} {k d : Nat} (found : digitAt s (s.cursorAt k) = some d) :
    ∃ ch t, s.rest k = ch :: t ∧ isNumberChar ch = true := by
  unfold digitAt at found
  rw [Source.peek_cursorAt] at found
  cases text : s.rest k with
  | nil => rw [text] at found; cases found
  | cons ch t =>
    rw [text] at found
    simp only [List.head?_cons] at found
    split at found
    · rename_i digit
      refine ⟨ch, t, rfl, ?_⟩
      simp only [isNumberChar, Char.isDigit, Bool.or_eq_true, Bool.and_eq_true, decide_eq_true_eq]
      exact Or.inl (Or.inl (Or.inl (Or.inl (Or.inl digit))))
    · cases found

/-- Stepping over a digit found at a cursor. -/
theorem digitAt_advance {s : Source} {k d : Nat} (found : digitAt s (s.cursorAt k) = some d) :
    s.advance (s.cursorAt k) = s.cursorAt (k + 1) ∧ NumberRun s k (k + 1) := by
  obtain ⟨ch, t, text, number⟩ := digitAt_rest found
  exact ⟨Source.advance_of_rest text, NumberRun.step text number⟩

theorem takeDigits_run (s : Source) (fuel : Nat) :
    ∀ k kept, ∃ k', (takeDigits s fuel (s.cursorAt k) kept).2 = s.cursorAt k' ∧ NumberRun s k k' := by
  induction fuel with
  | zero => intro k kept; exact ⟨k, rfl, NumberRun.refl k⟩
  | succ fuel ih =>
    intro k kept
    unfold takeDigits
    cases found : digitAt s (s.cursorAt k) with
    | none => exact ⟨k, rfl, NumberRun.refl k⟩
    | some d =>
      dsimp only
      split
      · exact ⟨k, rfl, NumberRun.refl k⟩
      · obtain ⟨next, run⟩ := digitAt_advance found
        obtain ⟨k', after, run'⟩ := ih (k + 1) (kept * 10 + d)
        rw [next]
        exact ⟨k', after, run.trans run'⟩

theorem skipDigits_run (s : Source) (fuel : Nat) :
    ∀ k count, ∃ k', (skipDigits s fuel (s.cursorAt k) count).2 = s.cursorAt k' ∧ NumberRun s k k' := by
  induction fuel with
  | zero => intro k count; exact ⟨k, rfl, NumberRun.refl k⟩
  | succ fuel ih =>
    intro k count
    unfold skipDigits
    cases found : digitAt s (s.cursorAt k) with
    | none => exact ⟨k, rfl, NumberRun.refl k⟩
    | some d =>
      obtain ⟨next, run⟩ := digitAt_advance found
      obtain ⟨k', after, run'⟩ := ih (k + 1) (count + 1)
      dsimp only
      rw [next]
      exact ⟨k', after, run.trans run'⟩


theorem exponentDigits_run (s : Source) (fuel : Nat) :
    ∀ k value, ∃ k', NumberRun s k k' ∧
      (exponentDigits s fuel (s.cursorAt k) value).elim (· = s.cursorAt k') (·.2 = s.cursorAt k') := by
  induction fuel with
  | zero => intro k value; exact ⟨k, NumberRun.refl k, rfl⟩
  | succ fuel ih =>
    intro k value
    unfold exponentDigits
    cases found : digitAt s (s.cursorAt k) with
    | none => exact ⟨k, NumberRun.refl k, rfl⟩
    | some d =>
      obtain ⟨next, run⟩ := digitAt_advance found
      dsimp only
      split
      · exact ⟨k + 1, run, next⟩
      · obtain ⟨k', run', after⟩ := ih (k + 1) (value * 10 + d)
        rw [next]
        exact ⟨k', run.trans run', after⟩

theorem finishFloat_cursor {s : Source} {negative : Bool} {kept : Nat} {exponent : Int}
    {c c' : Cursor} {n : JsonNumber}
    (read : finishFloat s negative kept exponent c = .ok (n, c')) : c' = c := by
  unfold finishFloat at read
  split at read
  · cases read
    rfl
  · cases read

/-- An exponent part, read from its `e`, stops within characters of numbers. -/
theorem readExponent_run {s : Source} {k : Nat} {ch : Char} {t : List Char}
    (text : s.rest k = ch :: t) (number : isNumberChar ch = true) {negative : Bool} {kept : Nat}
    {start : Int} {n : JsonNumber} {c : Cursor}
    (read : readExponent s negative kept start (s.cursorAt k) = .ok (n, c)) :
    ∃ k', c = s.cursorAt k' ∧ NumberRun s k k' := by
  unfold readExponent at read
  rw [Source.advance_of_rest text] at read
  have run1 := NumberRun.step text number
  rcases sign : s.rest (k + 1) with _ | ⟨sgn, t'⟩
  · simp only [Source.peek_of_rest_nil sign] at read
    cases read
  have signs : (sgn = '+' ∨ sgn = '-') ∨ (sgn ≠ '+' ∧ sgn ≠ '-') := by
    by_cases plus : sgn = '+' <;> by_cases minus : sgn = '-' <;> simp_all
  rcases signs with (same | same) | ⟨notPlus, notMinus⟩
  case' inl.inl | inl.inr =>
    subst same
    simp +decide only [Source.peek_of_rest sign, Source.advance_of_rest sign] at read
    have run2 := run1.trans (NumberRun.step sign rfl)
    revert read run2
    generalize k + 1 + 1 = k2
    intro read run2
  case' cons.inr =>
    extract_lets c₀ at read
    split at read
    rename_i _ _ pair
    rw [Source.peek_of_rest sign] at pair
    split at pair
    next same => cases same; exact absurd rfl notPlus
    next same => cases same; exact absurd rfl notMinus
    cases pair
    have start_at : c₀ = s.cursorAt (k + 1) := rfl
    clear_value c₀
    subst start_at
    revert run1 read
    generalize k + 1 = k2
    intro run2 read
  all_goals
    rw [Source.peek_cursorAt] at read
    cases first : (s.rest k2).head? with
    | none => rw [first] at read; cases read
    | some x =>
      rw [first] at read
      dsimp only at read
      cases digit : digitAt s (s.cursorAt k2) with
      | none => rw [digit] at read; cases read
      | some d =>
        rw [digit] at read
        dsimp only at read
        obtain ⟨next, run3⟩ := digitAt_advance digit
        rw [next] at read
        obtain ⟨k3, run4, stop⟩ := exponentDigits_run s s.chars.size (k2 + 1) d
        cases digits : exponentDigits s s.chars.size (s.cursorAt (k2 + 1)) d with
        | inl c3 =>
          rw [digits] at read stop
          rw [ite_eq_iff] at read
          rcases read with ⟨_, refused⟩ | ⟨_, read⟩
          · cases refused
          · cases read
            obtain ⟨k4, after, run5⟩ := skipDigits_run s s.chars.size k3 0
            simp only [Sum.elim_inl] at stop
            rw [stop]
            exact ⟨k4, after, run2.trans (run3.trans (run4.trans run5))⟩
        | inr result =>
          obtain ⟨e, c3⟩ := result
          rw [digits] at read stop
          simp only [Sum.elim_inr] at stop
          rw [finishFloat_cursor read, stop]
          exact ⟨k3, rfl, run2.trans (run3.trans run4)⟩

/-- What follows a number's digits, an exponent part or nothing, stops within
characters of numbers. -/
theorem readTail_run {s : Source} {k : Nat} {negative : Bool} {kept : Nat} {exponent : Int}
    {n : JsonNumber} {c : Cursor}
    (read : readTail s negative kept exponent (s.cursorAt k) = .ok (n, c)) :
    ∃ k', c = s.cursorAt k' ∧ NumberRun s k k' := by
  unfold readTail at read
  rw [Source.peek_cursorAt] at read
  split at read
  · rename_i found
    obtain ⟨t, text⟩ := List.head?_eq_some_iff.mp found
    exact readExponent_run text rfl read
  · rename_i found
    obtain ⟨t, text⟩ := List.head?_eq_some_iff.mp found
    exact readExponent_run text rfl read
  · exact ⟨k, finishFloat_cursor read, NumberRun.refl k⟩


/-- A fraction, read from its point, stops within characters of numbers. -/
theorem readFraction_run {s : Source} {k : Nat} {t : List Char} (text : s.rest k = '.' :: t)
    {negative : Bool} {kept : Nat} {start : Int} {n : JsonNumber} {c : Cursor}
    (read : readFraction s negative kept start (s.cursorAt k) = .ok (n, c)) :
    ∃ k', c = s.cursorAt k' ∧ NumberRun s k k' := by
  unfold readFraction at read
  rw [Source.advance_of_rest text] at read
  have run1 := NumberRun.step text rfl
  obtain ⟨k2, taken, run2⟩ := takeDigits_run s s.chars.size (k + 1) kept
  dsimp only at read
  rw [taken] at read
  split at read
  · obtain ⟨k3, skipped, run3⟩ := skipDigits_run s s.chars.size k2 0
    rw [skipped] at read
    obtain ⟨k', after, run4⟩ := readTail_run read
    exact ⟨k', after, run1.trans (run2.trans (run3.trans run4))⟩
  · split at read
    · split at read <;> cases read
    · obtain ⟨k', after, run4⟩ := readTail_run read
      exact ⟨k', after, run1.trans (run2.trans run4)⟩


/-- A number, read from after its sign, stops within characters of numbers. -/
theorem readNumber_run {s : Source} {k : Nat} {negative : Bool} {n : JsonNumber} {c : Cursor}
    (read : readNumber s negative (s.cursorAt k) = .ok (n, c)) :
    ∃ k', c = s.cursorAt k' ∧ NumberRun s k k' := by
  unfold readNumber at read
  split at read
  · cases read
  split at read
  · cases read
  rename_i first found
  obtain ⟨next, run1⟩ := digitAt_advance found
  rw [next] at read
  dsimp only at read
  by_cases zero : first = 0
  case' pos =>
    simp only [zero, if_true] at read
    split at read
    · cases read
    revert read run1
    generalize k + 1 = k2
    intro run2 read
  case' neg =>
    simp only [zero, if_false] at read
    obtain ⟨k2, taken, run2⟩ := takeDigits_run s s.chars.size (k + 1) first
    rw [taken] at read
    replace run2 := run1.trans run2
    split at read
    · obtain ⟨k3, skipped, run3⟩ := skipDigits_run s s.chars.size k2 0
      rw [skipped, Source.peek_cursorAt] at read
      split at read
      · rename_i point
        obtain ⟨t, text⟩ := List.head?_eq_some_iff.mp point
        obtain ⟨k', after, run4⟩ := readFraction_run text read
        exact ⟨k', after, run2.trans (run3.trans run4)⟩
      · obtain ⟨k', after, run4⟩ := readTail_run read
        exact ⟨k', after, run2.trans (run3.trans run4)⟩
  all_goals
    rw [Source.peek_cursorAt] at read
    split at read
    · rename_i point
      obtain ⟨t, text⟩ := List.head?_eq_some_iff.mp point
      obtain ⟨k', after, run4⟩ := readFraction_run text read
      exact ⟨k', after, run2.trans run4⟩
    · rename_i letter
      obtain ⟨t, text⟩ := List.head?_eq_some_iff.mp letter
      obtain ⟨k', after, run4⟩ := readExponent_run text rfl read
      exact ⟨k', after, run2.trans run4⟩
    · rename_i letter
      obtain ⟨t, text⟩ := List.head?_eq_some_iff.mp letter
      obtain ⟨k', after, run4⟩ := readExponent_run text rfl read
      exact ⟨k', after, run2.trans run4⟩
    · refine ⟨k2, ?_, run2⟩
      split_ifs at read <;> (cases read; rfl)


/-- Reading stops where a number's text ends, or inside it, on one of its
characters: a run of characters of numbers cannot pass the character after
the text. -/
theorem NumberRun.stop {s : Source} {k k' : Nat} {tok post : List Char}
    (text : s.rest k = tok ++ post) (number : ∀ ch ∈ tok, isNumberChar ch = true)
    (closed : ∀ ch, post.head? = some ch → isNumberChar ch = false) (run : NumberRun s k k') :
    k' = k + tok.length ∨ ∃ ch, s.chars.toList[k']? = some ch ∧ isNumberChar ch = true := by
  have at_text : ∀ i, i < tok.length → s.chars.toList[k + i]? = tok[i]? := by
    intro i inside
    have shifted := congrArg (·[i]?) text
    simp only [Source.rest, List.getElem?_drop] at shifted
    rw [shifted, List.getElem?_append_left inside]
  rcases Nat.lt_trichotomy k' (k + tok.length) with before | same | after
  · right
    have inside : k' - k < tok.length := by have := run.1; omega
    refine ⟨tok[k' - k], ?_, number _ (List.getElem_mem inside)⟩
    have shifted := at_text (k' - k) inside
    rw [show k + (k' - k) = k' by have := run.1; omega, List.getElem?_eq_getElem inside] at shifted
    exact shifted
  · exact Or.inl same
  · exfalso
    obtain ⟨ch, found, isNumber⟩ := run.2 (k + tok.length) (by omega) after
    have next := congrArg (·[tok.length]?) text
    simp only [Source.rest, List.getElem?_drop, List.getElem?_append_right (Nat.le_refl _),
      Nat.sub_self] at next
    rw [found] at next
    have : post.head? = some ch := by rw [List.head?_eq_getElem?]; exact next.symm
    rw [closed ch this] at isNumber
    cases isNumber


/-- The decimal digits of a whole number are characters of numbers. -/
theorem isNumberChar_of_toDigits {m : Nat} {ch : Char} (mem : ch ∈ Nat.toDigits 10 m) :
    isNumberChar ch = true := by
  have digit := Nat.isDigit_of_mem_toDigits (by decide) (by decide) mem
  simp [isNumberChar, digit]

theorem floatText_numberChars (f : Float) :
    (floatText f).toList ≠ [] ∧ ∀ ch ∈ (floatText f).toList, isNumberChar ch = true := by
  have digits : ∀ m, (Nat.toDigits 10 m).all isNumberChar = true := fun _ =>
    List.all_eq_true.mpr fun _ mem => isNumberChar_of_toDigits mem
  have taken : ∀ n m, ((Nat.toDigits 10 m).take n).all isNumberChar = true := fun _ _ =>
    List.all_eq_true.mpr fun _ mem => isNumberChar_of_toDigits (List.mem_of_mem_take mem)
  have dropped : ∀ n m, ((Nat.toDigits 10 m).drop n).all isNumberChar = true := fun _ _ =>
    List.all_eq_true.mpr fun _ mem => isNumberChar_of_toDigits (List.mem_of_mem_drop mem)
  have rest : ∀ m, (Nat.toDigits 10 m).tail.all isNumberChar = true := fun _ =>
    List.all_eq_true.mpr fun _ mem => isNumberChar_of_toDigits (List.mem_of_mem_tail mem)
  rw [← List.all_eq_true]
  unfold floatText
  dsimp only
  have signs : isNumberChar '-' = true ∧ isNumberChar '+' = true ∧ isNumberChar '.' = true ∧
      isNumberChar '0' = true ∧ isNumberChar 'e' = true := by
    decide
  split_ifs <;> simp [String.toList_append, List.all_append, signs, digits, taken, dropped, rest]

/-- The decimal text of a whole number: nonempty, of digits. -/
theorem repr_numberChars (m : Nat) :
    m.repr.toList ≠ [] ∧ ∀ ch ∈ m.repr.toList, isNumberChar ch = true := by
  rw [Nat.toList_repr]
  exact ⟨Nat.toDigits_ne_nil, fun _ mem => isNumberChar_of_toDigits mem⟩

/-- A number is written as `null` or as a nonempty run of characters of
numbers. -/
theorem numberText_numberChars (n : JsonNumber) :
    numberText n = "null" ∨
      ((numberText n).toList ≠ [] ∧ ∀ ch ∈ (numberText n).toList, isNumberChar ch = true) := by
  cases n with
  | nat m =>
    right
    exact repr_numberChars m
  | neg m =>
    right
    cases m with
    | ofNat m => exact repr_numberChars m
    | negSucc m =>
      have digits := repr_numberChars (m + 1)
      simp only [numberText, toString, Int.repr, String.toList_append]
      refine ⟨by simp, ?_⟩
      simpa [(by decide : isNumberChar '-' = true)] using digits.2
  | float f =>
    simp only [numberText]
    split
    · left; rfl
    · right; exact floatText_numberChars f

/-! ## Where values start and stop -/

/-- A character the text of a value may start with. -/
def Opens (ch : Char) : Prop :=
  ch = 'n' ∨ ch = 't' ∨ ch = 'f' ∨ ch = '"' ∨ ch = '[' ∨ ch = '\x7b' ∨ isNumberChar ch = true

/-- The text after a value: it does not go on with a character of numbers. -/
def Closed (post : List Char) : Prop :=
  ∀ ch, post.head? = some ch → isNumberChar ch = false

/-- Where the reading of a value whose text ends at `stop` leaves its cursor:
at `stop`, or earlier on a character of numbers, when a number reads only in
part. -/
def Stops (s : Source) (stop : Nat) (c : Cursor) : Prop :=
  c = s.cursorAt stop ∨
    ∃ k ch, c = s.cursorAt k ∧ (s.rest k).head? = some ch ∧ isNumberChar ch = true

theorem Opens.unblank {ch : Char} (opens : Opens ch) :
    ch ≠ ' ' ∧ ch ≠ '\n' ∧ ch ≠ '\t' ∧ ch ≠ '\r' := by
  rcases opens with rfl | rfl | rfl | rfl | rfl | rfl | number
  all_goals first | decide | skip
  refine ⟨?_, ?_, ?_, ?_⟩ <;> rintro rfl <;> revert number <;> decide

theorem Opens.ne_close {ch : Char} (opens : Opens ch) : ch ≠ ']' := by
  rcases opens with rfl | rfl | rfl | rfl | rfl | rfl | number
  all_goals first | decide | skip
  rintro rfl
  revert number
  decide

theorem unblank_of_isNumberChar {ch : Char} (number : isNumberChar ch = true) :
    ch ≠ ' ' ∧ ch ≠ '\n' ∧ ch ≠ '\t' ∧ ch ≠ '\r' :=
  Opens.unblank (Or.inr (Or.inr (Or.inr (Or.inr (Or.inr (Or.inr number))))))

/-- The compact text of a value is never empty and starts with a character
that opens a value. -/
theorem compact_head (j : Json) : ∃ ch t, (compact j).toList = ch :: t ∧ Opens ch := by
  cases j with
  | null => exact ⟨_, _, rfl, Or.inl rfl⟩
  | bool b => cases b <;> simp [compact, Opens]
  | number n =>
    rcases numberText_numberChars n with null | ⟨nonempty, number⟩
    · simp [compact, null, Opens]
    · obtain ⟨ch, t, text⟩ := List.exists_cons_of_ne_nil nonempty
      refine ⟨ch, t, text, Or.inr (Or.inr (Or.inr (Or.inr (Or.inr (Or.inr ?_)))))⟩
      exact number ch (by rw [text]; exact List.mem_cons_self)
  | string str => simp [compact, quote_toList, Opens]
  | array items => simp [compact, Opens]
  | object fields => simp [compact, Opens]

/-! ## Lists and objects, a step at a time -/

/- The readers are structural in their fuel, so one step of each is unfolded
definitionally (`whnf` on the side that calls it) rather than by rewriting
with their equations, which every lemma below would otherwise ask for at
once. -/

theorem skipBlanks_of_opens {s : Source} {k : Nat} {ch : Char} {t : List Char}
    (text : s.rest k = ch :: t) (opens : Opens ch) : s.skipBlanks (s.cursorAt k) = s.cursorAt k :=
  Source.skipBlanks_stays (by rw [text]; rintro _ ⟨⟩; exact opens.unblank)

theorem readItems_close {s : Source} {k : Nat} {post : List Char} (text : s.rest k = ']' :: post)
    (fuel depth : Nat) (first : Bool) (acc : List Json) :
    readItems s (fuel + 1) depth (s.cursorAt k) first acc = .ok (acc.reverse, s.cursorAt k) := by
  have stays := Source.skipBlanks_stays (k := k) (by rw [text]; rintro _ ⟨⟩; decide)
  conv => lhs; whnf
  simp only [stays, Source.peek_of_rest text]

theorem readItems_comma {s : Source} {k : Nat} {ch : Char} {t : List Char}
    (text : s.rest k = ',' :: ch :: t) (opens : Opens ch) (fuel depth : Nat) (acc : List Json) :
    readItems s (fuel + 1) depth (s.cursorAt k) false acc =
      readItems s (fuel + 1) depth (s.cursorAt (k + 1)) true acc := by
  have stays := Source.skipBlanks_stays (k := k) (by rw [text]; rintro _ ⟨⟩; decide)
  have next : s.rest (k + 1) = ch :: t := Source.rest_succ text
  have stays' := skipBlanks_of_opens next opens
  conv => lhs; whnf
  conv => rhs; whnf
  simp +decide only [stays, stays', Source.peek_of_rest text, Source.peek_of_rest next,
    Source.advance_of_rest text, and_false, if_true, if_false]
  split
  next same => cases same; exact absurd rfl opens.ne_close
  next same => cases same
  next other same =>
    cases same
    symm
    split
    next same => cases same; exact absurd rfl other
    next same => cases same
    next => rfl

/-- A list's first item, or any item after its comma, is read as a value,
and the list goes on after it. -/
theorem readItems_value {s : Source} {k : Nat} {ch : Char} {t : List Char}
    (text : s.rest k = ch :: t) (opens : Opens ch) {fuel depth : Nat} {acc : List Json}
    {r : List Json × Cursor} (read : readItems s (fuel + 1) depth (s.cursorAt k) true acc = .ok r) :
    ∃ item c, readValue s fuel depth (s.cursorAt k) = .ok (item, c) ∧
      readItems s fuel depth c false (item :: acc) = .ok r := by
  conv at read => lhs; whnf
  simp +decide only [skipBlanks_of_opens text opens, Source.peek_of_rest text, and_false,
    if_true, if_false] at read
  split at read
  next same => cases same; exact absurd rfl opens.ne_close
  next same => cases same
  next other same =>
    cases same
    split at read
    next same => cases same; exact absurd rfl other
    next same => cases same
    next =>
      split at read
      next => cases read
      next item c found => exact ⟨item, c, found, read⟩

theorem ne_of_isNumberChar {ch other : Char} (number : isNumberChar ch = true)
    (not_number : isNumberChar other = false) : ch ≠ other := by
  rintro rfl
  rw [number] at not_number
  cases not_number

/-- A list whose item stopped on a character of numbers reads no further. -/
theorem readItems_stop {s : Source} {k : Nat} {ch : Char} (found : (s.rest k).head? = some ch)
    (number : isNumberChar ch = true) {fuel depth : Nat} {acc : List Json}
    {r : List Json × Cursor} (read : readItems s fuel depth (s.cursorAt k) false acc = .ok r) :
    False := by
  obtain ⟨t, text⟩ := List.head?_eq_some_iff.mp found
  cases fuel with
  | zero => cases read
  | succ fuel =>
    have comma := @ne_of_isNumberChar _ ',' number (by decide)
    conv at read => lhs; whnf
    simp only [Source.skipBlanks_stays (by rw [text]; rintro _ ⟨⟩; exact unblank_of_isNumberChar number),
      Source.peek_of_rest text] at read
    split at read
    next same => cases same; exact ne_of_isNumberChar number (by decide) rfl
    next same => cases same
    next same =>
      cases same
      simp only [comma, false_and, if_false, Bool.false_eq_true] at read
      cases read

theorem readEntries_close {s : Source} {k : Nat} {post : List Char}
    (text : s.rest k = '\x7d' :: post) (fuel depth : Nat) (first : Bool)
    (acc : List (String × Json)) :
    readEntries s (fuel + 1) depth (s.cursorAt k) first acc = .ok (acc, s.cursorAt k) := by
  have stays := Source.skipBlanks_stays (k := k) (by rw [text]; rintro _ ⟨⟩; decide)
  conv => lhs; whnf
  simp only [stays, Source.peek_of_rest text]

theorem readEntries_comma {s : Source} {k : Nat} {t : List Char} (text : s.rest k = ',' :: '"' :: t)
    (fuel depth : Nat) (acc : List (String × Json)) :
    readEntries s (fuel + 1) depth (s.cursorAt k) false acc =
      readEntries s (fuel + 1) depth (s.cursorAt (k + 1)) true acc := by
  have stays := Source.skipBlanks_stays (k := k) (by rw [text]; rintro _ ⟨⟩; decide)
  have next : s.rest (k + 1) = '"' :: t := Source.rest_succ text
  have stays' := Source.skipBlanks_stays (k := k + 1) (by rw [next]; rintro _ ⟨⟩; decide)
  conv => lhs; whnf
  conv => rhs; whnf
  simp +decide only [stays, stays', Source.peek_of_rest text, Source.peek_of_rest next,
    Source.advance_of_rest text, if_true, if_false]

/-- An object's first entry, or any entry after its comma, is read as its
key, then its value, and the object goes on after it with the key set. -/
theorem readEntries_entry {s : Source} (encoded : s.Encoded) {k : Nat} {key : String}
    {t : List Char} (text : s.rest k = (quote key).toList ++ ':' :: t) {fuel depth : Nat}
    {acc : List (String × Json)} {r : List (String × Json) × Cursor}
    (read : readEntries s (fuel + 1) depth (s.cursorAt k) true acc = .ok r) :
    ∃ value c, readValue s fuel depth (s.cursorAt (k + (quote key).toList.length + 1)) =
        .ok (value, c) ∧ readEntries s fuel depth c false (Fields.set acc key value) = .ok r := by
  rw [quote_toList] at text ⊢
  have opening : s.rest k = '"' :: (key.toList.flatMap fun ch => (escapeChar ch).toList) ++
      '"' :: ':' :: t := by
    rw [text]; simp
  have stays := Source.skipBlanks_stays (k := k) (by rw [opening]; rintro _ ⟨⟩; decide)
  conv at read => lhs; whnf
  simp +decide only [stays, Source.peek_of_rest opening, Source.advance_of_rest opening, if_true,
    if_false] at read
  split at read
  next => cases read
  next key' c₁ body =>
    obtain ⟨same, after⟩ := readStringBody_escaped encoded key.toList (Source.rest_succ opening) body
    simp only [List.reverse_nil, List.nil_append, String.ofList_toList] at same
    subst same
    have colon : s.rest (k + 1 + (key'.toList.flatMap fun ch => (escapeChar ch).toList).length + 1) =
        ':' :: t := by
      have := Source.rest_succ (Source.rest_add (Source.rest_succ opening))
      simpa using this
    have stays' := Source.skipBlanks_stays (by rw [colon]; rintro _ ⟨⟩; decide)
    rw [after, stays', Source.peek_of_rest colon, Source.advance_of_rest colon] at read
    split at read
    next =>
      split at read
      next => cases read
      next value c found =>
        refine ⟨value, c, ?_, read⟩
        rw [← found]
        congr 2
        simp
        omega
    next other same => cases same; exact absurd rfl other
    next same => cases same

/-- An object whose value stopped on a character of numbers reads no
further. -/
theorem readEntries_stop {s : Source} {k : Nat} {ch : Char} (found : (s.rest k).head? = some ch)
    (number : isNumberChar ch = true) {fuel depth : Nat} {acc : List (String × Json)}
    {r : List (String × Json) × Cursor}
    (read : readEntries s fuel depth (s.cursorAt k) false acc = .ok r) : False := by
  obtain ⟨t, text⟩ := List.head?_eq_some_iff.mp found
  cases fuel with
  | zero => cases read
  | succ fuel =>
    have comma := @ne_of_isNumberChar _ ',' number (by decide)
    conv at read => lhs; whnf
    simp only [Source.skipBlanks_stays (by rw [text]; rintro _ ⟨⟩; exact unblank_of_isNumberChar number),
      Source.peek_of_rest text] at read
    split at read
    next same => cases same; exact ne_of_isNumberChar number (by decide) rfl
    next same => cases same
    next same =>
      cases same
      simp only [comma, false_and, if_false, Bool.false_eq_true] at read
      cases read

/-! ## Values, by their first character -/

theorem Source.head?_rest (s : Source) (k : Nat) : (s.rest k).head? = s.chars.toList[k]? := by
  simp [Source.rest]

/-- A run of characters of numbers over a number's text stops as a value's
reading may. -/
theorem NumberRun.stops {s : Source} {k k' : Nat} {tok post : List Char}
    (text : s.rest k = tok ++ post) (number : ∀ ch ∈ tok, isNumberChar ch = true)
    (closed : Closed post) (run : NumberRun s k k') : Stops s (k + tok.length) (s.cursorAt k') := by
  rcases run.stop text number closed with ended | ⟨ch, found, isNumber⟩
  · exact Or.inl (by rw [ended])
  · exact Or.inr ⟨k', ch, rfl, by rw [Source.head?_rest]; exact found, isNumber⟩

theorem readValue_number {s : Source} {k : Nat} {ch : Char} {tok post : List Char}
    (text : s.rest k = ch :: tok ++ post) (number : ∀ c ∈ ch :: tok, isNumberChar c = true)
    (closed : Closed post) {fuel depth : Nat} {r : Json} {c : Cursor}
    (read : readValue s (fuel + 1) depth (s.cursorAt k) = .ok (r, c)) :
    (∃ m, r = .number m) ∧ Stops s (k + (ch :: tok).length) c := by
  have first := number ch List.mem_cons_self
  have at_k : s.rest k = ch :: (tok ++ post) := text
  conv at read => lhs; whnf
  simp only [Source.skipBlanks_stays (by rw [at_k]; rintro _ ⟨⟩; exact unblank_of_isNumberChar first),
    Source.peek_of_rest at_k] at read
  split at read
  case h_5 same =>
    cases same
    rw [Source.advance_of_rest at_k] at read
    rcases numbered : readNumber s true (s.cursorAt (k + 1)) with _ | ⟨m, c'⟩
    all_goals rw [numbered] at read; cases read
    obtain ⟨k', rfl, run⟩ := readNumber_run numbered
    exact ⟨⟨m, rfl⟩, ((NumberRun.step at_k first).trans run).stops text number closed⟩
  case h_9 same =>
    cases same
    split at read
    · rcases numbered : readNumber s false (s.cursorAt k) with _ | ⟨m, c'⟩
      all_goals rw [numbered] at read; cases read
      obtain ⟨k', rfl, run⟩ := readNumber_run numbered
      exact ⟨⟨m, rfl⟩, run.stops text number closed⟩
    · cases read
  case h_1 same => cases same
  all_goals
    rename_i same
    cases same
    exact absurd first (by decide)

/-- The literal words are read as the values they spell. -/
theorem readValue_null {s : Source} {k : Nat} {post : List Char}
    (text : s.rest k = (compact .null).toList ++ post) (fuel depth : Nat) :
    readValue s (fuel + 1) depth (s.cursorAt k) =
      .ok (.null, s.cursorAt (k + (compact .null).toList.length)) := by
  have at_k : s.rest k = 'n' :: (['u', 'l', 'l'] ++ post) := by simpa [compact] using text
  have stays := Source.skipBlanks_stays (k := k) (by rw [at_k]; rintro _ ⟨⟩; decide)
  conv => lhs; whnf
  simp only [stays, Source.peek_of_rest at_k, Source.advance_of_rest at_k,
    readWord_rest (Source.rest_succ at_k)]
  simp [compact, Except.map, Nat.add_assoc]

theorem readValue_bool {s : Source} {k : Nat} {post : List Char} (b : Bool)
    (text : s.rest k = (compact (.bool b)).toList ++ post) (fuel depth : Nat) :
    readValue s (fuel + 1) depth (s.cursorAt k) =
      .ok (.bool b, s.cursorAt (k + (compact (.bool b)).toList.length)) := by
  cases b with
  | true =>
    have at_k : s.rest k = 't' :: (['r', 'u', 'e'] ++ post) := by simpa [compact] using text
    have stays := Source.skipBlanks_stays (k := k) (by rw [at_k]; rintro _ ⟨⟩; decide)
    conv => lhs; whnf
    simp only [stays, Source.peek_of_rest at_k, Source.advance_of_rest at_k,
      readWord_rest (Source.rest_succ at_k)]
    simp [compact, Except.map, Nat.add_assoc]
  | false =>
    have at_k : s.rest k = 'f' :: (['a', 'l', 's', 'e'] ++ post) := by simpa [compact] using text
    have stays := Source.skipBlanks_stays (k := k) (by rw [at_k]; rintro _ ⟨⟩; decide)
    conv => lhs; whnf
    simp only [stays, Source.peek_of_rest at_k, Source.advance_of_rest at_k,
      readWord_rest (Source.rest_succ at_k)]
    simp [compact, Except.map, Nat.add_assoc]

theorem readValue_string {s : Source} (encoded : s.Encoded) {k : Nat} {str : String}
    {post : List Char} (text : s.rest k = (compact (.string str)).toList ++ post) {fuel depth : Nat}
    {r : Json} {c : Cursor} (read : readValue s (fuel + 1) depth (s.cursorAt k) = .ok (r, c)) :
    r = .string str ∧ c = s.cursorAt (k + (compact (.string str)).toList.length) := by
  have opening : s.rest k = '"' :: ((str.toList.flatMap fun ch => (escapeChar ch).toList) ++
      '"' :: post) := by
    simpa [compact, quote_toList] using text
  have stays := Source.skipBlanks_stays (k := k) (by rw [opening]; rintro _ ⟨⟩; decide)
  conv at read => lhs; whnf
  simp only [stays, Source.peek_of_rest opening, Source.advance_of_rest opening] at read
  rcases body : readStringBody s (s.chars.size + 1) (s.cursorAt (k + 1)) [] with _ | ⟨str', c'⟩
  all_goals rw [body] at read; cases read
  obtain ⟨same, after⟩ := readStringBody_escaped encoded str.toList (Source.rest_succ opening) body
  refine ⟨by simp [same], ?_⟩
  rw [after]
  simp only [compact, quote_toList, List.length_cons, List.length_append, List.length_nil]
  congr 1
  omega

theorem readValue_array {s : Source} {k : Nat} {t : List Char} (text : s.rest k = '[' :: t)
    {fuel depth : Nat} {r : Json} {c : Cursor}
    (read : readValue s (fuel + 1) depth (s.cursorAt k) = .ok (r, c)) :
    ∃ items c', readItems s fuel (depth - 1) (s.cursorAt (k + 1)) true [] = .ok (items, c') ∧
      r = .array items ∧ c = s.advance c' := by
  have stays := Source.skipBlanks_stays (k := k) (by rw [text]; rintro _ ⟨⟩; decide)
  conv at read => lhs; whnf
  simp only [stays, Source.peek_of_rest text, Source.advance_of_rest text] at read
  split at read
  · cases read
  · split at read
    next => cases read
    next items c' found =>
      cases read
      exact ⟨items, c', found, rfl, rfl⟩

theorem readValue_object {s : Source} {k : Nat} {t : List Char} (text : s.rest k = '\x7b' :: t)
    {fuel depth : Nat} {r : Json} {c : Cursor}
    (read : readValue s (fuel + 1) depth (s.cursorAt k) = .ok (r, c)) :
    ∃ fields c', readEntries s fuel (depth - 1) (s.cursorAt (k + 1)) true [] = .ok (fields, c') ∧
      r = .object fields ∧ c = s.advance c' := by
  have stays := Source.skipBlanks_stays (k := k) (by rw [text]; rintro _ ⟨⟩; decide)
  conv at read => lhs; whnf
  simp only [stays, Source.peek_of_rest text, Source.advance_of_rest text] at read
  split at read
  · cases read
  · split at read
    next => cases read
    next fields c' found =>
      cases read
      exact ⟨fields, c', found, rfl, rfl⟩

/-! ## Reading compact text back -/

/-- The text of the items after the first, each after its comma. -/
def itemsTail (items : List Json) : List Char :=
  items.flatMap fun item => ',' :: (compact item).toList

/-- The text of an entry: its key quoted, a colon, its value. -/
def entryText (entry : String × Json) : List Char :=
  (quote entry.1).toList ++ ':' :: (compact entry.2).toList

/-- The text of the entries after the first, each after its comma. -/
def entriesTail (fields : List (String × Json)) : List Char :=
  fields.flatMap fun entry => ',' :: entryText entry

theorem compactItems_cons (item : Json) (items : List Json) :
    (compactItems (item :: items)).toList = (compact item).toList ++ itemsTail items := by
  induction items generalizing item with
  | nil => simp [compactItems, itemsTail]
  | cons next items ih =>
    rw [compactItems.eq_3 item (next :: items) (by simp), String.toList_append, String.toList_append, ih]
    simp [itemsTail]

theorem compactFields_cons (entry : String × Json) (fields : List (String × Json)) :
    (compactFields (entry :: fields)).toList = entryText entry ++ entriesTail fields := by
  induction fields generalizing entry with
  | nil => simp [compactFields, entriesTail, entryText]
  | cons next fields ih =>
    rw [compactFields.eq_3 entry.1 entry.2 (next :: fields) (by simp), String.toList_append,
      String.toList_append, ih]
    simp [entriesTail, entryText]

/-- Set the entries, in order, on top of `acc`: how an object's entries are
gathered as they are read. -/
def setEntries (acc read : List (String × Json)) : List (String × Json) :=
  read.foldl (fun fields entry => Fields.set fields entry.1 entry.2) acc

mutual

/-- How a value's compact text reads back: strings, truth values and null as
they are; a number as some number, or as null when its text is `null`;
arrays item by item; objects entry by entry, each key set in turn. -/
inductive Similar : Json → Json → Prop
  | null : Similar .null .null
  | bool (b : Bool) : Similar (.bool b) (.bool b)
  | number (n m : JsonNumber) : Similar (.number n) (.number m)
  | numberNull (n : JsonNumber) : Similar (.number n) .null
  | string (str : String) : Similar (.string str) (.string str)
  | array {items read : List Json} : SimilarItems items read → Similar (.array items) (.array read)
  | object {fields read : List (String × Json)} :
      SimilarFields fields read → Similar (.object fields) (.object (setEntries [] read))

/-- Items read back item by item. -/
inductive SimilarItems : List Json → List Json → Prop
  | nil : SimilarItems [] []
  | cons {item item' : Json} {items items' : List Json} :
      Similar item item' → SimilarItems items items' → SimilarItems (item :: items) (item' :: items')

/-- Entries read back entry by entry, under their keys. -/
inductive SimilarFields : List (String × Json) → List (String × Json) → Prop
  | nil : SimilarFields [] []
  | cons (key : String) {value value' : Json} {fields fields' : List (String × Json)} :
      Similar value value' → SimilarFields fields fields' →
        SimilarFields ((key, value) :: fields) ((key, value') :: fields')

end

theorem closed_cons {ch : Char} {t : List Char} (other : isNumberChar ch = false) :
    Closed (ch :: t) := by
  rintro _ ⟨⟩
  exact other

theorem itemsTail_closed (items : List Json) (post : List Char) :
    Closed (itemsTail items ++ ']' :: post) := by
  cases items <;> exact closed_cons (by decide)

theorem entriesTail_closed (fields : List (String × Json)) (post : List Char) :
    Closed (entriesTail fields ++ '\x7d' :: post) := by
  cases fields <;> exact closed_cons (by decide)

/-- The text of a list's items from where its reader stands: all of them
at the first, or those after the items read, each after its comma. -/
def itemsText : Bool → List Json → List Char
  | true, items => (compactItems items).toList
  | false, items => itemsTail items

/-- The text of an object's entries from where its reader stands. -/
def fieldsText : Bool → List (String × Json) → List Char
  | true, fields => (compactFields fields).toList
  | false, fields => entriesTail fields

mutual

/-- The compact text of a value reads back as a similar value; the reading
stops at the end of the text or, inside a number, on one of its
characters. -/
theorem readValue_compact {s : Source} (encoded : s.Encoded) : ∀ (j : Json) {k : Nat} {post : List Char} {fuel depth : Nat}
    {r : Json} {c : Cursor},
    s.rest k = (compact j).toList ++ post → Closed post →
    readValue s fuel depth (s.cursorAt k) = .ok (r, c) →
    Similar j r ∧ Stops s (k + (compact j).toList.length) c
  | _, _, _, 0, _, _, _, _, _, read => by cases read
  | .null, _, _, _ + 1, _, _, _, text, _, read => by
    rw [readValue_null text] at read
    cases read
    exact ⟨.null, Or.inl rfl⟩
  | .bool b, _, _, _ + 1, _, _, _, text, _, read => by
    rw [readValue_bool b text] at read
    cases read
    exact ⟨.bool b, Or.inl rfl⟩
  | .number n, k, post, fuel + 1, depth, r, c, text, closed, read => by
    rcases numberText_numberChars n with null | ⟨nonempty, number⟩
    · have spelled : compact (.number n) = compact .null := by simp [compact, null]
      rw [spelled] at text ⊢
      rw [readValue_null text] at read
      cases read
      exact ⟨.numberNull n, Or.inl rfl⟩
    · obtain ⟨ch, tok, chars⟩ := List.exists_cons_of_ne_nil nonempty
      have spelled : (compact (.number n)).toList = ch :: tok := chars
      rw [spelled] at text ⊢
      rw [chars] at number
      obtain ⟨⟨m, rfl⟩, stops⟩ := readValue_number text number closed read
      exact ⟨.number n m, stops⟩
  | .string str, _, _, _ + 1, _, _, _, text, _, read => by
    obtain ⟨rfl, rfl⟩ := readValue_string encoded text read
    exact ⟨.string str, Or.inl rfl⟩
  | .array items, k, post, fuel + 1, depth, r, c, text, _, read => by
    have at_k : s.rest k = '[' :: (itemsText true items ++ ']' :: post) := by
      simpa [compact, itemsText] using text
    obtain ⟨read', c', inner, rfl, rfl⟩ := readValue_array at_k read
    obtain ⟨read'', similar, same, rfl⟩ := readItems_compact encoded items true (Source.rest_succ at_k) inner
    simp only [List.reverse_nil, List.nil_append] at same
    subst same
    refine ⟨.array similar, Or.inl ?_⟩
    rw [Source.advance_of_rest (Source.rest_add (Source.rest_succ at_k))]
    congr 1
    simp [compact, itemsText]
    omega
  | .object fields, k, post, fuel + 1, depth, r, c, text, _, read => by
    have at_k : s.rest k = '\x7b' :: (fieldsText true fields ++ '\x7d' :: post) := by
      simpa [compact, fieldsText] using text
    obtain ⟨read', c', inner, rfl, rfl⟩ := readValue_object at_k read
    obtain ⟨read'', similar, rfl, rfl⟩ := readEntries_compact encoded fields true (Source.rest_succ at_k) inner
    refine ⟨.object similar, Or.inl ?_⟩
    rw [Source.advance_of_rest (Source.rest_add (Source.rest_succ at_k))]
    congr 1
    simp [compact, fieldsText]
    omega

/-- The items of a list read back as similar items, up to its closing
bracket. -/
theorem readItems_compact {s : Source} (encoded : s.Encoded) : ∀ (items : List Json) (first : Bool) {k : Nat} {post : List Char}
    {fuel depth : Nat} {acc : List Json} {r : List Json} {c : Cursor},
    s.rest k = itemsText first items ++ ']' :: post →
    readItems s fuel depth (s.cursorAt k) first acc = .ok (r, c) →
    ∃ read, SimilarItems items read ∧ r = acc.reverse ++ read ∧
      c = s.cursorAt (k + (itemsText first items).length)
  | _, _, _, _, 0, _, _, _, _, _, read => by cases read
  | [], first, k, post, fuel + 1, depth, acc, r, c, text, read => by
    have closing : s.rest k = ']' :: post := by
      cases first <;> simpa [itemsText, itemsTail, compactItems] using text
    rw [readItems_close closing] at read
    cases read
    exact ⟨[], .nil, by simp, by cases first <;> simp [itemsText, itemsTail, compactItems]⟩
  | item :: rest, first, k, post, fuel + 1, depth, acc, r, c, text, read => by
    obtain ⟨ch, t, head, opens⟩ := compact_head item
    obtain ⟨k₀, text₀, read₀, place⟩ : ∃ k₀,
        s.rest k₀ = (compact item).toList ++ (itemsTail rest ++ ']' :: post) ∧
        readItems s (fuel + 1) depth (s.cursorAt k₀) true acc = .ok (r, c) ∧
        k₀ + ((compact item).toList ++ itemsTail rest).length =
          k + (itemsText first (item :: rest)).length := by
      cases first
      · have comma : s.rest k = ',' :: ch :: (t ++ (itemsTail rest ++ ']' :: post)) := by
          simpa [itemsText, itemsTail, head] using text
        refine ⟨k + 1, ?_, (readItems_comma comma opens fuel depth acc) ▸ read, ?_⟩
        · rw [Source.rest_succ comma, head]
          rfl
        · simp [itemsText, itemsTail]
          omega
      · refine ⟨k, ?_, read, ?_⟩
        · simpa [itemsText, compactItems_cons] using text
        · simp [itemsText, compactItems_cons]
    rw [head] at text₀
    obtain ⟨item', c₁, value, more⟩ := readItems_value text₀ opens read₀
    rw [← head] at text₀
    obtain ⟨similar, stops⟩ := readValue_compact encoded item text₀ (itemsTail_closed rest post) value
    rcases stops with rfl | ⟨k', ch', rfl, found, number⟩
    · obtain ⟨read', similars, rfl, rfl⟩ := readItems_compact encoded rest false (Source.rest_add text₀) more
      refine ⟨item' :: read', .cons similar similars, by simp, ?_⟩
      rw [← place]
      congr 1
      simp [itemsText]
      omega
    · exact (readItems_stop found number more).elim

/-- The entries of an object read back as similar entries, each set in
turn, up to its closing brace. -/
theorem readEntries_compact {s : Source} (encoded : s.Encoded) :
    ∀ (fields : List (String × Json)) (first : Bool) {k : Nat}
    {post : List Char} {fuel depth : Nat} {acc r : List (String × Json)} {c : Cursor},
    s.rest k = fieldsText first fields ++ '\x7d' :: post →
    readEntries s fuel depth (s.cursorAt k) first acc = .ok (r, c) →
    ∃ read, SimilarFields fields read ∧ r = setEntries acc read ∧
      c = s.cursorAt (k + (fieldsText first fields).length)
  | _, _, _, _, 0, _, _, _, _, _, read => by cases read
  | [], first, k, post, fuel + 1, depth, acc, r, c, text, read => by
    have closing : s.rest k = '\x7d' :: post := by
      cases first <;> simpa [fieldsText, entriesTail, compactFields] using text
    rw [readEntries_close closing] at read
    cases read
    exact ⟨[], .nil, rfl, by cases first <;> simp [fieldsText, entriesTail, compactFields]⟩
  | (key, value) :: rest, first, k, post, fuel + 1, depth, acc, r, c, text, read => by
    obtain ⟨k₀, text₀, read₀, place⟩ : ∃ k₀,
        s.rest k₀ = entryText (key, value) ++ (entriesTail rest ++ '\x7d' :: post) ∧
        readEntries s (fuel + 1) depth (s.cursorAt k₀) true acc = .ok (r, c) ∧
        k₀ + (entryText (key, value) ++ entriesTail rest).length =
          k + (fieldsText first ((key, value) :: rest)).length := by
      cases first
      · have comma : s.rest k = ',' :: '"' :: ((entryText (key, value)).tail ++
            (entriesTail rest ++ '\x7d' :: post)) := by
          simpa [fieldsText, entriesTail, entryText, quote_toList] using text
        refine ⟨k + 1, ?_, (readEntries_comma comma fuel depth acc) ▸ read, ?_⟩
        · rw [Source.rest_succ comma]
          simp [entryText, quote_toList]
        · simp [fieldsText, entriesTail]
          omega
      · refine ⟨k, ?_, read, ?_⟩
        · simpa [fieldsText, compactFields_cons] using text
        · simp [fieldsText, compactFields_cons]
    obtain ⟨value', c₁, found, more⟩ :=
      readEntries_entry encoded (by simpa [entryText] using text₀) read₀
    have text₁ : s.rest (k₀ + (quote key).toList.length + 1) =
        (compact value).toList ++ (entriesTail rest ++ '\x7d' :: post) := by
      have := Source.rest_succ (Source.rest_add (by simpa [entryText] using text₀ :
        s.rest k₀ = (quote key).toList ++ ':' :: ((compact value).toList ++
          (entriesTail rest ++ '\x7d' :: post))))
      exact this
    obtain ⟨similar, stops⟩ := readValue_compact encoded value text₁ (entriesTail_closed rest post) found
    rcases stops with rfl | ⟨k', ch', rfl, found', number⟩
    · obtain ⟨read', similars, rfl, rfl⟩ :=
        readEntries_compact encoded rest false (Source.rest_add text₁) more
      refine ⟨(key, value') :: read', .cons key similar similars, rfl, ?_⟩
      rw [← place]
      congr 1
      simp [fieldsText, entryText]
      omega
    · exact (readEntries_stop found' number more).elim

end

/-- What `compact` writes, `read` reads back as a similar value. -/
theorem read_compact {j j' : Json} (read : Json.read (compact j) = .ok j') : Similar j j' := by
  unfold Json.read at read
  set s := Source.ofString (compact j)
  have whole : s.rest 0 = (compact j).toList ++ [] := by simp [s, Source.rest, Source.ofString]
  rw [← Source.cursorAt_zero s] at read
  dsimp only at read
  split at read
  next => cases read
  next value c found =>
    obtain ⟨similar, stops⟩ := readValue_compact (Source.ofString_encoded _) j whole (by
      rintro _ ⟨⟩) found
    rcases stops with rfl | ⟨k, ch, rfl, number_at, number⟩
    · have ended : s.rest (0 + (compact j).toList.length) = [] := by
        simpa using Source.rest_add whole
      rw [Source.skipBlanks_stays (by rw [ended]; rintro _ ⟨⟩), Source.peek_of_rest_nil ended] at read
      cases read
      exact similar
    · obtain ⟨t, text⟩ := List.head?_eq_some_iff.mp number_at
      rw [Source.skipBlanks_stays (by rw [text]; rintro _ ⟨⟩; exact unblank_of_isNumberChar number),
        Source.peek_of_rest text] at read
      cases read

end Json
end Refbook