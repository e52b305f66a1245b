import Refbook.Proofs.DecimalText
import Refbook.Temporal.Read

/-!
# Reading back the written form of dates and timestamps

A date is written `YYYY-MM-DD`, its year signed outside 0 to 9999, and a
timestamp in addition `THH:MM:SS.fff`, its fraction cut to milliseconds.
Reading such a text back gives what was written: the date itself, and the
timestamp cut to milliseconds (`readDate_text`, `readTimestamp_millisText`).
So a date or a timestamp that is written and read back, and written again,
is written the same way.

Every date and timestamp that reading gives is *valid*: a day of the
calendar, and a time of day whose nanoseconds pass one second only on a leap
second, at second 59 (`readTimestamp_valid`).  The round trip holds for all
valid values.
-/

namespace Refbook
namespace Temporal

/-! ## Steps of a reading -/

theorem option_some_bind {α β : Type} (a : α) (f : α → Option β) : (some a >>= f) = f a := rfl

theorem option_none_bind {α β : Type} (f : α → Option β) : (none >>= f) = none := rfl

theorem option_bind_eq_some_iff {α β : Type} {x : Option α} {f : α → Option β} {b : β} :
    (x >>= f) = some b ↔ ∃ a, x = some a ∧ f a = some b :=
  Option.bind_eq_some_iff

/-! ## Digits -/

/-- Digits read with `foldl` the way `scanNumber` does are their number. -/
theorem foldl_digits (ds : List Char) (acc : Nat) :
    ds.foldl (fun acc c => acc * 10 + (c.toNat - 48)) acc = Nat.ofDigitChars 10 ds acc := by
  induction ds generalizing acc with
  | nil => rfl
  | cons c cs ih =>
    rw [List.foldl_cons, ih, Nat.ofDigitChars_cons, Nat.mul_comm]
    rfl

/-- A run of digits within the allowed width, followed by no digit, scans as
its number. -/
theorem scanNumber_digits {ds rest : List Char} {min max : Nat} (digits : ∀ c ∈ ds, c.isDigit)
    (stop : ∀ c ∈ rest.head?, c.isDigit = false) (enough : min ≤ ds.length)
    (fits : ds.length ≤ max) (small : Nat.ofDigitChars 10 ds 0 < 2 ^ 63) :
    scanNumber (ds ++ rest) min max = .ok (Nat.ofDigitChars 10 ds 0, rest) := by
  have taken : ((ds ++ rest).take max).takeWhile Char.isDigit = ds := by
    rw [List.take_append, List.take_of_length_le fits, List.takeWhile_append_of_pos digits]
    cases rest with
    | nil => simp
    | cons c cs =>
      cases room : max - ds.length with
      | zero => simp
      | succ k => simp [List.take_succ_cons, stop c (by simp)]
  unfold scanNumber
  simp only [taken, foldl_digits]
  rw [if_neg (by omega), if_pos (by simpa using small), List.drop_left]

/-- A character that is no digit does not start a number. -/
theorem readNumber_of_not_digit {c : Char} {cs : List Char} {min max : Nat}
    (notDigit : c.isDigit = false) (pos : 0 < min) : readNumber (c :: cs) min max = none := by
  have empty : ((c :: cs).take max).takeWhile Char.isDigit = [] := by
    cases max <;> simp [notDigit]
  unfold readNumber scanNumber
  simp only [empty, List.length_nil]
  rw [if_pos pos]
  split <;> rfl

theorem padded_toList (width n : Nat) :
    (padded width n).toList =
      List.replicate (width - (Nat.toDigits 10 n).length) '0' ++ Nat.toDigits 10 n := by
  simp [padded, ← String.length_toList]

theorem padded_digits (width n : Nat) : ∀ c ∈ (padded width n).toList, c.isDigit := by
  intro c mem
  rw [padded_toList, List.mem_append, List.mem_replicate] at mem
  rcases mem with ⟨_, rfl⟩ | mem
  · rfl
  · exact Nat.isDigit_of_mem_toDigits (by decide) (by decide) mem

theorem padded_value (width n : Nat) : Nat.ofDigitChars 10 (padded width n).toList 0 = n := by
  rw [padded_toList, Nat.ofDigitChars_append, Nat.ofDigitChars_replicate_zero, Nat.mul_zero,
    Nat.ofDigitChars_ten_toDigits]

/-- A number below `10 ^ width` is written in exactly `width` digits. -/
theorem padded_length {width n : Nat} (pos : 0 < width) (small : n < 10 ^ width) :
    (padded width n).toList.length = width := by
  have fits := (Nat.length_toDigits_le_iff (by decide) pos).mpr small
  rw [padded_toList, List.length_append, List.length_replicate]
  omega

theorem padded_length_pos (width n : Nat) : 0 < (padded width n).toList.length := by
  rw [padded_toList, List.length_append]
  have := Nat.length_toDigits_pos (b := 10) (n := n)
  omega

/-- A written number scans as itself, when the width allows for it. -/
theorem scanNumber_padded {width n min max : Nat} {rest : List Char}
    (stop : ∀ c ∈ rest.head?, c.isDigit = false) (enough : min ≤ (padded width n).toList.length)
    (fits : (padded width n).toList.length ≤ max) (small : n < 2 ^ 63) :
    scanNumber ((padded width n).toList ++ rest) min max = .ok (n, rest) := by
  have scanned := scanNumber_digits (padded_digits width n) stop enough fits
    (by rw [padded_value]; exact small)
  rwa [padded_value] at scanned

/-- A two-digit field scans as its number, after no blanks. -/
theorem scanField_padded {n lo hi : Nat} {rest : List Char}
    (stop : ∀ c ∈ rest.head?, c.isDigit = false) (range : lo ≤ n ∧ n ≤ hi) (small : n < 100) :
    scanField ((padded 2 n).toList ++ rest) 2 lo hi = .ok (n, rest) := by
  have noBlank : ((padded 2 n).toList ++ rest).dropWhile Text.isBlank = (padded 2 n).toList ++ rest := by
    obtain ⟨c, cs, first⟩ := List.exists_cons_of_length_pos (padded_length_pos 2 n)
    have digit := padded_digits 2 n c (by rw [first]; simp)
    rw [first, List.cons_append, List.dropWhile_cons_of_neg]
    have bounds := Char.isDigit_iff_toNat.mp digit
    simp only [Char.reduceToNat] at bounds
    simp [Text.isBlank_of_printable (c := c) (by omega) (by omega)]
  unfold scanField
  rw [noBlank, scanNumber_padded stop (by rw [padded_length (by decide) small]; decide)
    (by rw [padded_length (by decide) small]) (by omega)]
  simp only [bind, Except.bind]
  rw [if_pos range]
  rfl

theorem scanChar_self (c : Char) (rest : List Char) : scanChar (c :: rest) c = .ok rest := by
  simp [scanChar]

theorem readChar_self (c : Char) (rest : List Char) : readChar (c :: rest) c = some rest := by
  simp [readChar, scanChar_self, Except.toOption]

/-! ## Years -/

/-- A year within the scanned range scans as itself from its written form. -/
theorem scanYear_text {y : Int} {rest : List Char} (stop : ∀ c ∈ rest.head?, c.isDigit = false)
    (range : -(Int.pow 2 31) ≤ y ∧ y < Int.pow 2 31) :
    scanYear ((yearText y).toList ++ rest) = .ok (y, rest) := by
  have wide : Int.pow 2 31 = 2147483648 := by decide
  by_cases plain : 0 ≤ y ∧ y < 10000
  · have text : (yearText y).toList = (padded 4 y.toNat).toList := by simp [yearText, plain]
    obtain ⟨c, cs, first⟩ := List.exists_cons_of_length_pos (padded_length_pos 4 y.toNat)
    have digit := padded_digits 4 y.toNat c (by rw [first]; simp)
    have bounds := Char.isDigit_iff_toNat.mp digit
    simp only [Char.reduceToNat] at bounds
    have noBlank : ((padded 4 y.toNat).toList ++ rest).dropWhile Text.isBlank =
        (padded 4 y.toNat).toList ++ rest := by
      rw [first, List.cons_append, List.dropWhile_cons_of_neg]
      simp [Text.isBlank_of_printable (c := c) (by omega) (by omega)]
    have scanned : scanNumber ((padded 4 y.toNat).toList ++ rest) 1 4 = .ok (y.toNat, rest) :=
      scanNumber_padded stop (by rw [padded_length (by decide) (by omega)]; decide)
        (by rw [padded_length (by decide) (by omega)]) (by omega)
    unfold scanYear
    rw [text, noBlank, first, List.cons_append]
    have notMinus : c ≠ '-' := by rintro rfl; simp at bounds
    have notPlus : c ≠ '+' := by rintro rfl; simp at bounds
    simp only
    split
    · rename_i minus; exact absurd (List.cons.inj minus).1 notMinus
    · rename_i plus; exact absurd (List.cons.inj plus).1 notPlus
    · rw [← List.cons_append, ← first, scanned]
      simp only [Except.map, Int.toNat_of_nonneg plain.1]
      exact if_pos (by omega)
  · by_cases negative : y < 0
    · have text : (yearText y).toList = '-' :: (padded 4 y.natAbs).toList := by
        rw [yearText, if_neg plain, if_pos negative, String.toList_append]
        rfl
      have scanned : scanNumber ((padded 4 y.natAbs).toList ++ rest) 1
          ((padded 4 y.natAbs).toList ++ rest).length = .ok (y.natAbs, rest) :=
        scanNumber_padded stop (padded_length_pos 4 _) (by simp) (by omega)
      have noBlank : ('-' :: ((padded 4 y.natAbs).toList ++ rest)).dropWhile Text.isBlank =
          '-' :: ((padded 4 y.natAbs).toList ++ rest) :=
        List.dropWhile_cons_of_neg (by decide)
      unfold scanYear
      rw [text, List.cons_append, noBlank]
      simp only [scanned, Except.map]
      have back : -(y.natAbs : Int) = y := by omega
      rw [back]
      exact if_pos range
    · have text : (yearText y).toList = '+' :: (padded 4 y.toNat).toList := by
        rw [yearText, if_neg plain, if_neg negative, String.toList_append]
        rfl
      have scanned : scanNumber ((padded 4 y.toNat).toList ++ rest) 1
          ((padded 4 y.toNat).toList ++ rest).length = .ok (y.toNat, rest) :=
        scanNumber_padded stop (padded_length_pos 4 _) (by simp) (by omega)
      have noBlank : ('+' :: ((padded 4 y.toNat).toList ++ rest)).dropWhile Text.isBlank =
          '+' :: ((padded 4 y.toNat).toList ++ rest) :=
        List.dropWhile_cons_of_neg (by decide)
      unfold scanYear
      rw [text, List.cons_append, noBlank]
      simp only [scanned, Except.map]
      rw [Int.toNat_of_nonneg (by omega)]
      exact if_pos range

/-! ## Fractions -/

/-- A character that is no digit ends a number. -/
theorem stop_cons {c : Char} (notDigit : c.isDigit = false) (cs : List Char) :
    ∀ x ∈ (c :: cs).head?, x.isDigit = false := by
  simpa using notDigit

/-- Milliseconds written in three digits read back as nanoseconds. -/
theorem scanFraction_padded {ms : Nat} {rest : List Char}
    (stop : ∀ c ∈ rest.head?, c.isDigit = false) (small : ms < 1000) :
    scanFraction ((padded 3 ms).toList ++ rest) = .ok (ms * 1000000, rest) := by
  have width := padded_length (by decide) (show ms < 10 ^ 3 by omega)
  have kept : rest.dropWhile Char.isDigit = rest := by
    cases rest with
    | nil => rfl
    | cons c cs => exact List.dropWhile_cons_of_neg (by simp [stop c (by simp)])
  have used : 3 + rest.length - rest.length = 3 := by omega
  unfold scanFraction
  rw [scanNumber_padded stop (by omega) (by omega) (by omega)]
  simp only [bind, Except.bind, List.length_append, width, used, kept]
  rfl

/-! ## Valid dates and times -/

/-- A date names a day of the calendar: it is what its parts make. -/
def Date.Valid (d : Date) : Prop :=
  Date.ofParts? d.year d.month d.day = some d

theorem Date.Valid.ofParts?_eq {d : Date} (valid : d.Valid) :
    Date.ofParts? d.year d.month d.day = some d :=
  valid

theorem daysInMonth_le (year : Int) (month : Nat) : daysInMonth year month ≤ 31 := by
  unfold daysInMonth
  split <;> (try split) <;> omega

/-- Every date made from parts is valid. -/
theorem Date.ofParts?_valid {year : Int} {month day : Nat} {d : Date}
    (made : Date.ofParts? year month day = some d) : d.Valid := by
  unfold Date.ofParts? at made
  split at made
  · rename_i inRange
    cases made
    exact if_pos inRange
  · cases made

theorem Date.Valid.bounds {d : Date} (valid : d.Valid) :
    (minYear ≤ d.year ∧ d.year ≤ maxYear) ∧ (1 ≤ d.month ∧ d.month ≤ 12) ∧
      (1 ≤ d.day ∧ d.day ≤ 31) := by
  unfold Date.Valid Date.ofParts? at valid
  split at valid
  · rename_i inRange
    have := daysInMonth_le d.year d.month
    omega
  · cases valid

/-- A time of day, to the nanosecond; nanoseconds pass one second only on a
leap second, which reads as second 59. -/
structure Timestamp.Valid (t : Timestamp) : Prop where
  date : t.date.Valid
  hour : t.hour ≤ 23
  minute : t.minute ≤ 59
  second : t.second ≤ 59
  nano : t.nano < 2000000000
  leap : 1000000000 ≤ t.nano → t.second = 59

/-- Every time of a valid date made from parts is valid. -/
theorem timeOf_valid {date : Date} {hour minute second nano : Nat} {t : Timestamp}
    (valid : date.Valid) (made : timeOf date hour minute second nano = some t) : t.Valid := by
  unfold timeOf at made
  split at made
  · rename_i inRange
    split at made
    · cases made
      refine ⟨valid, inRange.1, inRange.2.1, ?_, ?_, ?_⟩ <;> dsimp only <;> omega
    · cases made
      refine ⟨valid, inRange.1, inRange.2.1, ?_, ?_, ?_⟩ <;> dsimp only <;> omega
  · cases made

theorem Date.atMidnight_valid {d : Date} (valid : d.Valid) : d.atMidnight.Valid := by
  refine ⟨valid, ?_, ?_, ?_, ?_, ?_⟩ <;> simp [Date.atMidnight]

/-! ## The date layout -/

theorem Date.text_toList (d : Date) :
    d.text.toList = (yearText d.year).toList ++
      '-' :: ((padded 2 d.month).toList ++ '-' :: (padded 2 d.day).toList) := by
  simp [Date.text]

/-- The written form of a valid date reads back through the date layout. -/
theorem scanPieces_date {d : Date} {fields : Fields} {rest : List Char} (valid : d.Valid)
    (stop : ∀ c ∈ rest.head?, c.isDigit = false) :
    scanPieces dateLayout fields (d.text.toList ++ rest) =
      .ok ({ fields with year := some d.year, month := some d.month, day := some d.day }, rest) := by
  obtain ⟨years, months, days⟩ := valid.bounds
  have yearRange : -(Int.pow 2 31) ≤ d.year ∧ d.year < Int.pow 2 31 := by
    have wide : Int.pow 2 31 = 2147483648 := by decide
    unfold minYear maxYear at years
    omega
  have dash : '-'.isDigit = false := by decide
  rw [Date.text_toList]
  simp only [List.append_assoc, List.cons_append]
  simp only [dateLayout, scanPieces, Except.map, bind, Except.bind,
    scanYear_text (stop_cons dash _) yearRange,
    scanChar_self, scanField_padded (stop_cons dash _) months (by omega),
    scanField_padded stop days (by omega)]

/-- Layouts joined read one after the other. -/
theorem scanPieces_append (ps qs : List Piece) (fields : Fields) (chars : List Char) :
    scanPieces (ps ++ qs) fields chars =
      scanPieces ps fields chars >>= fun (fields, chars) => scanPieces qs fields chars := by
  induction ps generalizing fields chars with
  | nil => rfl
  | cons p ps ih =>
    rw [List.cons_append]
    cases p <;> simp only [scanPieces, ih, bind_assoc]
    split <;> simp only [bind_assoc]

theorem readNumber_padded {width n min max : Nat} {rest : List Char}
    (stop : ∀ c ∈ rest.head?, c.isDigit = false) (enough : min ≤ (padded width n).toList.length)
    (fits : (padded width n).toList.length ≤ max) (small : n < 2 ^ 63) :
    readNumber ((padded width n).toList ++ rest) min max = some (n, rest) := by
  simp [readNumber, scanNumber_padded stop enough fits small, Except.toOption]

/-- A number written in exactly as many digits as are read. -/
theorem readNumber_exact {width n : Nat} {rest : List Char} (pos : 0 < width)
    (digits : n < 10 ^ width) (small : n < 2 ^ 63) (stop : ∀ c ∈ rest.head?, c.isDigit = false) :
    readNumber ((padded width n).toList ++ rest) width width = some (n, rest) :=
  readNumber_padded stop (padded_length pos digits).ge (padded_length pos digits).le small

/-- A text that starts with no digit has no four-digit year. -/
theorem readRfc3339_of_not_digit {c : Char} {cs : List Char} (notDigit : c.isDigit = false) :
    readRfc3339 (c :: cs) = none := by
  unfold readRfc3339
  rw [readNumber_of_not_digit notDigit (by decide : 0 < 4), option_none_bind]

theorem yearText_plain {y : Int} (plain : 0 ≤ y ∧ y < 10000) :
    (yearText y).toList = (padded 4 y.toNat).toList := by
  simp [yearText, plain]

/-- A year outside 0 to 9999 is written with a sign first. -/
theorem yearText_signed {y : Int} (signed : ¬(0 ≤ y ∧ y < 10000)) :
    ∃ c cs, (yearText y).toList = c :: cs ∧ c.isDigit = false := by
  by_cases negative : y < 0
  · refine ⟨'-', (padded 4 y.natAbs).toList, ?_, by decide⟩
    rw [yearText, if_neg signed, if_pos negative, String.toList_append]
    rfl
  · refine ⟨'+', (padded 4 y.toNat).toList, ?_, by decide⟩
    rw [yearText, if_neg signed, if_neg negative, String.toList_append]
    rfl

/-! ## Reading a date back -/

/-- A date alone is no RFC 3339 date-time: the time is missing. -/
theorem readRfc3339_date {d : Date} (valid : d.Valid) : readRfc3339 d.text.toList = none := by
  obtain ⟨_, months, days⟩ := valid.bounds
  have dash : '-'.isDigit = false := by decide
  by_cases plain : 0 ≤ d.year ∧ d.year < 10000
  · rw [← List.append_nil d.text.toList, Date.text_toList, yearText_plain plain]
    simp only [List.append_assoc, List.cons_append]
    unfold readRfc3339
    simp only [@readNumber_exact 4 d.year.toNat _ (by decide) (by omega) (by omega)
        (stop_cons dash _), option_some_bind, readChar_self,
      @readNumber_exact 2 d.month _ (by decide) (by omega) (by omega) (stop_cons dash _),
      @readNumber_exact 2 d.day [] (by decide) (by omega) (by omega) (by simp), option_none_bind]
  · obtain ⟨c, cs, signedText, notDigit⟩ := yearText_signed plain
    rw [Date.text_toList, signedText, List.cons_append]
    exact readRfc3339_of_not_digit notDigit

/-- A layout that goes on past a date fails on the written date alone. -/
theorem readWhole_date_extended {d : Date} (valid : d.Valid) {c : Char} {more : List Piece} :
    readWhole (dateLayout ++ .literal c :: more) d.text.toList = none := by
  have ended := @scanPieces_date d {} [] valid (by simp)
  rw [List.append_nil] at ended
  simp [readWhole, readPieces, scanPieces_append, ended, bind, Except.bind, scanPieces, scanChar,
    Except.map, Except.toOption]

theorem Text.isBlank_of_digit {c : Char} (digit : c.isDigit) : Text.isBlank c = false := by
  have bounds := Char.isDigit_iff_toNat.mp digit
  simp only [Char.reduceToNat] at bounds
  exact Text.isBlank_of_printable (by omega) (by omega)

theorem yearText_chars (y : Int) : ∀ c ∈ (yearText y).toList, c.isDigit ∨ c = '-' ∨ c = '+' := by
  intro c mem
  unfold yearText at mem
  split at mem
  · exact .inl (padded_digits 4 _ c mem)
  · split at mem <;>
    · rw [String.toList_append, List.mem_append] at mem
      rcases mem with sign | digits
      · simp_all
      · exact .inl (padded_digits 4 _ c digits)

/-- A written date has no blanks, so trimming keeps it. -/
theorem Date.text_no_blank (d : Date) : ∀ c ∈ d.text.toList, Text.isBlank c = false := by
  intro c mem
  rw [Date.text_toList] at mem
  simp only [List.mem_append, List.mem_cons] at mem
  rcases mem with year | rfl | month | rfl | day
  · rcases yearText_chars d.year c year with digit | rfl | rfl
    · exact Text.isBlank_of_digit digit
    · decide
    · decide
  · decide
  · exact Text.isBlank_of_digit (padded_digits 2 _ c month)
  · decide
  · exact Text.isBlank_of_digit (padded_digits 2 _ c day)

/-- The written form of a valid date reads back as that date at midnight. -/
theorem readTimestamp_date {d : Date} (valid : d.Valid) : readTimestamp d.text = some d.atMidnight := by
  have ended := @scanPieces_date d {} [] valid (by simp)
  rw [List.append_nil] at ended
  unfold readTimestamp
  rw [Text.trim_of_no_blank d.text_no_blank]
  simp only [readRfc3339_date valid, secondLayout, minuteLayout, List.append_assoc,
    List.cons_append, List.nil_append, readWhole_date_extended valid, Option.orElse_eq_or,
    Option.none_or]
  simp [readDateOnly, readPieces, ended, Except.toOption, Fields.date?, valid.ofParts?_eq, isDateSuffix]

/-- A valid date reads back from its written form. -/
theorem readDate_text {d : Date} (valid : d.Valid) : readDate d.text = some d := by
  simp [readDate, readTimestamp_date valid, Date.atMidnight]

/-! ## Reading a timestamp back -/

/-- A timestamp cut to whole milliseconds. -/
def Timestamp.toMillis (t : Timestamp) : Timestamp :=
  { t with nano := t.nano / 1000000 * 1000000 }

/-- Cutting to milliseconds changes nothing that the millisecond text shows. -/
theorem Timestamp.millisText_toMillis (t : Timestamp) : t.toMillis.millisText = t.millisText := by
  have seconds : t.nano / 1000000 * 1000000 / 1000000000 = t.nano / 1000000000 := by omega
  have millis : t.nano / 1000000 * 1000000 % 1000000000 / Nat.pow 10 (9 - 3) =
      t.nano % 1000000000 / Nat.pow 10 (9 - 3) := by
    show _ / 1000000 = _ / 1000000
    omega
  simp only [Timestamp.millisText, Timestamp.secondsText, Timestamp.fractionText,
    Timestamp.toMillis, seconds, millis]

theorem Timestamp.millisText_toList (t : Timestamp) :
    t.millisText.toList = t.date.text.toList ++ 'T' :: ((padded 2 t.hour).toList ++ ':' ::
      ((padded 2 t.minute).toList ++ ':' :: ((padded 2 (t.second + t.nano / 1000000000)).toList ++
        '.' :: (padded 3 (t.nano % 1000000000 / 1000000)).toList))) := by
  simp [Timestamp.millisText, Timestamp.secondsText, Timestamp.fractionText]

theorem readFraction_padded {ms : Nat} {rest : List Char}
    (stop : ∀ c ∈ rest.head?, c.isDigit = false) (small : ms < 1000) :
    readFraction ((padded 3 ms).toList ++ rest) = some (ms * 1000000, rest) := by
  simp [readFraction, scanFraction_padded stop small, Except.toOption]

/-- The seconds field of the written form: 60 on a leap second. -/
theorem Timestamp.Valid.seconds {t : Timestamp} (valid : t.Valid) :
    0 ≤ t.second + t.nano / 1000000000 ∧ t.second + t.nano / 1000000000 ≤ 60 := by
  have := valid.second
  have := valid.nano
  have := valid.leap
  omega

/-- The millisecond text has no zone, so it is no RFC 3339 date-time. -/
theorem readRfc3339_millisText {t : Timestamp} (valid : t.Valid) :
    readRfc3339 t.millisText.toList = none := by
  obtain ⟨_, months, days⟩ := valid.date.bounds
  have dash : '-'.isDigit = false := by decide
  have colon : ':'.isDigit = false := by decide
  have tee : 'T'.isDigit = false := by decide
  have point : '.'.isDigit = false := by decide
  have hours := valid.hour
  have minutes := valid.minute
  have seconds := valid.seconds
  by_cases plain : 0 ≤ t.date.year ∧ t.date.year < 10000
  · rw [← List.append_nil t.millisText.toList, Timestamp.millisText_toList, Date.text_toList,
      yearText_plain plain]
    simp only [List.append_assoc, List.cons_append]
    unfold readRfc3339
    simp only [@readNumber_exact 4 t.date.year.toNat _ (by decide) (by omega) (by omega)
        (stop_cons dash _), option_some_bind, readChar_self,
      @readNumber_exact 2 t.date.month _ (by decide) (by omega) (by omega) (stop_cons dash _),
      @readNumber_exact 2 t.date.day _ (by decide) (by omega) (by omega) (stop_cons tee _),
      true_or, ↓reduceIte,
      @readNumber_exact 2 t.hour _ (by decide) (by omega) (by omega) (stop_cons colon _),
      @readNumber_exact 2 t.minute _ (by decide) (by omega) (by omega) (stop_cons colon _),
      @readNumber_exact 2 (t.second + t.nano / 1000000000) _ (by decide) (by omega) (by omega)
        (stop_cons point _),
      @readFraction_padded (t.nano % 1000000000 / 1000000) [] (by simp) (by omega), readZone,
      option_none_bind]
  · obtain ⟨c, cs, signedText, notDigit⟩ := yearText_signed plain
    rw [Timestamp.millisText_toList, Date.text_toList, signedText, List.cons_append,
      List.cons_append]
    exact readRfc3339_of_not_digit notDigit

/-- The fields read from the millisecond text make the timestamp cut to
milliseconds. -/
theorem timeOf_millis {t : Timestamp} (valid : t.Valid) :
    timeOf t.date t.hour t.minute (t.second + t.nano / 1000000000)
      (t.nano % 1000000000 / 1000000 * 1000000) = some t.toMillis := by
  obtain ⟨date, hour, minute, second, nano⟩ := t
  obtain ⟨_, hours, minutes, seconds, nanos, leaps⟩ := valid
  dsimp only at *
  unfold timeOf Timestamp.toMillis
  by_cases leap : 1000000000 ≤ nano
  · have := leaps leap
    rw [if_pos (by omega), if_pos (by omega)]
    simp only [Option.some.injEq, Timestamp.mk.injEq, true_and]
    omega
  · rw [if_pos (by omega), if_neg (by omega)]
    simp only [Option.some.injEq, Timestamp.mk.injEq, true_and]
    omega

/-- The millisecond text of a valid timestamp reads through the layout with
seconds. -/
theorem scanPieces_millisText {t : Timestamp} (valid : t.Valid) :
    scanPieces secondLayout {} t.millisText.toList =
      .ok ({ year := some t.date.year, month := some t.date.month, day := some t.date.day,
             hour := some t.hour, minute := some t.minute,
             second := some (t.second + t.nano / 1000000000),
             nano := some (t.nano % 1000000000 / 1000000 * 1000000) }, []) := by
  have hours := valid.hour
  have minutes := valid.minute
  have seconds := valid.seconds
  have colon : ':'.isDigit = false := by decide
  have tee : 'T'.isDigit = false := by decide
  have point : '.'.isDigit = false := by decide
  rw [← List.append_nil t.millisText.toList, Timestamp.millisText_toList]
  simp only [List.append_assoc, List.cons_append]
  rw [secondLayout, minuteLayout, List.append_assoc, scanPieces_append,
    scanPieces_date valid.date (stop_cons tee _)]
  simp only [bind, Except.bind, List.cons_append, List.nil_append, scanPieces, scanChar_self,
    Except.map, scanField_padded (stop_cons colon _) ⟨Nat.zero_le _, hours⟩ (by omega),
    scanField_padded (stop_cons colon _) ⟨Nat.zero_le _, minutes⟩ (by omega),
    scanField_padded (stop_cons point _) seconds (by omega),
    @scanFraction_padded (t.nano % 1000000000 / 1000000) [] (by simp) (by omega)]

theorem readWhole_millisText {t : Timestamp} (valid : t.Valid) :
    readWhole secondLayout t.millisText.toList = some t.toMillis := by
  simp [readWhole, readPieces, scanPieces_millisText valid, Except.toOption, Fields.timestamp?,
    Fields.date?, valid.date.ofParts?_eq, timeOf_millis valid]

/-- A written timestamp has no blanks, so trimming keeps it. -/
theorem Timestamp.millisText_no_blank (t : Timestamp) :
    ∀ c ∈ t.millisText.toList, Text.isBlank c = false := by
  intro c mem
  rw [Timestamp.millisText_toList] at mem
  simp only [List.mem_append, List.mem_cons] at mem
  rcases mem with date | rfl | hour | rfl | minute | rfl | second | rfl | fraction
  · exact t.date.text_no_blank c date
  · decide
  · exact Text.isBlank_of_digit (padded_digits 2 _ c hour)
  · decide
  · exact Text.isBlank_of_digit (padded_digits 2 _ c minute)
  · decide
  · exact Text.isBlank_of_digit (padded_digits 2 _ c second)
  · decide
  · exact Text.isBlank_of_digit (padded_digits 3 _ c fraction)

/-- The millisecond text of a valid timestamp reads back as the timestamp cut
to milliseconds. -/
theorem readTimestamp_millisText {t : Timestamp} (valid : t.Valid) :
    readTimestamp t.millisText = some t.toMillis := by
  unfold readTimestamp
  rw [Text.trim_of_no_blank t.millisText_no_blank]
  simp only [readRfc3339_millisText valid, readWhole_millisText valid, Option.orElse_eq_or,
    Option.none_or, Option.some_or]

/-! ## What reading gives is valid -/

/-- The last step of every layout: parts that make a date and a time make a
valid timestamp. -/
theorem ofParts_timeOf_valid {year : Int} {month day hour minute second nano : Nat} {t : Timestamp}
    (made : (Date.ofParts? year month day >>= fun date => timeOf date hour minute second nano) =
      some t) : t.Valid := by
  obtain ⟨date, dated, timed⟩ := option_bind_eq_some_iff.mp made
  exact timeOf_valid (Date.ofParts?_valid dated) timed

/-- The end of an RFC 3339 reading: a zone, then nothing. -/
theorem zoned_valid {zone : Option (List Char)} {year : Int}
    {month day hour minute second nano : Nat} {t : Timestamp}
    (read : (zone >>= fun chars => if chars.isEmpty then
      (Date.ofParts? year month day >>= fun date => timeOf date hour minute second nano)
      else none) = some t) : t.Valid := by
  obtain ⟨chars, -, read⟩ := option_bind_eq_some_iff.mp read
  split at read
  · exact ofParts_timeOf_valid read
  · cases read

theorem readRfc3339_valid {chars : List Char} {t : Timestamp} (read : readRfc3339 chars = some t) :
    t.Valid := by
  unfold readRfc3339 at read
  simp only [option_bind_eq_some_iff] at read
  obtain ⟨_, -, _, -, _, -, _, -, _, -, read⟩ := read
  split at read
  · split at read
    · simp only [option_some_bind, option_bind_eq_some_iff] at read
      obtain ⟨_, -, _, -, _, -, _, -, _, -, read⟩ := read
      split at read
      · obtain ⟨_, -, read⟩ := option_bind_eq_some_iff.mp read
        exact zoned_valid read
      · exact zoned_valid read
    · simp [option_none_bind] at read
  · simp [option_none_bind] at read

theorem Fields.date?_valid {fields : Fields} {d : Date} (made : fields.date? = some d) :
    d.Valid := by
  simp only [Fields.date?, option_bind_eq_some_iff] at made
  obtain ⟨_, -, _, -, _, -, made⟩ := made
  exact Date.ofParts?_valid made

theorem Fields.timestamp?_valid {fields : Fields} {t : Timestamp}
    (made : fields.timestamp? = some t) :
    t.Valid := by
  simp only [Fields.timestamp?, option_bind_eq_some_iff] at made
  obtain ⟨date, dated, _, -, _, -, made⟩ := made
  exact timeOf_valid (Fields.date?_valid dated) made

theorem readWhole_valid {layout : List Piece} {chars : List Char} {t : Timestamp}
    (read : readWhole layout chars = some t) : t.Valid := by
  obtain ⟨⟨fields, rest⟩, -, read⟩ := option_bind_eq_some_iff.mp read
  dsimp only at read
  split at read
  · exact Fields.timestamp?_valid read
  · cases read

theorem readDateOnly_valid {chars : List Char} {t : Timestamp}
    (read : readDateOnly chars = some t) : t.Valid := by
  obtain ⟨⟨fields, rest⟩, -, read⟩ := option_bind_eq_some_iff.mp read
  dsimp only at read
  obtain ⟨date, dated, read⟩ := option_bind_eq_some_iff.mp read
  split at read
  · cases read
    exact Date.atMidnight_valid (Fields.date?_valid dated)
  · cases read

/-- Every timestamp that reading gives is valid, whichever layout read it. -/
theorem readTimestamp_valid {raw : String} {t : Timestamp} (read : readTimestamp raw = some t) :
    t.Valid := by
  simp only [readTimestamp, Option.orElse_eq_or, Option.or_eq_some_iff] at read
  rcases read with rfc | ⟨-, whole | ⟨-, whole | ⟨-, dateOnly⟩⟩⟩
  · exact readRfc3339_valid rfc
  · exact readWhole_valid whole
  · exact readWhole_valid whole
  · exact readDateOnly_valid dateOnly

/-- Every date that reading gives is valid. -/
theorem readDate_valid {raw : String} {d : Date} (read : readDate raw = some d) : d.Valid := by
  obtain ⟨t, timed, rfl⟩ := Option.map_eq_some_iff.mp read
  exact (readTimestamp_valid timed).date

end Temporal
end Refbook
