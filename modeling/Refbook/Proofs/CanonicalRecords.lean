import Refbook.Proofs.TemporalText
import Refbook.Proofs.SqlParams
import Refbook.Dict.Validate

/-!
# Records in canonical form

`Dict.normalize` checks a record's data against its dict and gives it in a
canonical form, `Dict.Canonical`: each key is present once and is the id,
spelled as declared, of the field it names; no key holds null; every
required field is present; a multivalued field holds a list; and each value
is kept in its type's form (`FieldType.Canonical`): whole numbers within 64
bits as numbers, decimals as their canonical text, dates as `YYYY-MM-DD` and
timestamps as `YYYY-MM-DDTHH:MM:SS.fff`.

The main statement, `normalize_canonical`, says that data which normalizes
gives a record in that form, and that the record normalizes to itself.  It
holds for every dict, and for data whose numbers are as reading JSON gives
them (`Json.Readable`).

The proof follows the normalization.  A value once normalized is in
canonical form and normalizes to itself (`normalizeValue_canonical`), so is
a field's value, and each entry keeps the invariant `Dict.Stable` of what
is normalized so far.  A second run meets only settled entries, each of
which it appends unchanged.
-/

namespace Refbook

/-! ## Numbers as reading JSON gives them -/

/-- A JSON number as reading gives it: a negative whole number lies within
the signed 64-bit range. -/
def JsonNumber.Readable : JsonNumber → Prop
  | .neg n => -(Int.pow 2 63) ≤ n ∧ n < 0
  | _ => True

/-- A JSON value whose numbers, at any depth, are as reading gives them. -/
inductive Json.Readable : Json → Prop
  | null : Json.Readable .null
  | bool (b : Bool) : Json.Readable (.bool b)
  | number {n : JsonNumber} (readable : n.Readable) : Json.Readable (.number n)
  | string (s : String) : Json.Readable (.string s)
  | array {items : List Json} (each : ∀ item ∈ items, Json.Readable item) :
      Json.Readable (.array items)
  | object {fields : List (String × Json)} (each : ∀ entry ∈ fields, Json.Readable entry.2) :
      Json.Readable (.object fields)

/-! ## Setting a key -/

namespace Fields

theorem any_key_iff {fields : List (String × Json)} {key : String} :
    fields.any (fun entry => entry.1 == key) = true ↔ key ∈ fields.map Prod.fst := by
  simp [List.any_eq_true, beq_iff_eq]

/-- A new key goes last. -/
theorem set_of_not_mem {fields : List (String × Json)} {key : String} {value : Json}
    (fresh : key ∉ fields.map Prod.fst) : set fields key value = fields ++ [(key, value)] := by
  unfold set
  rw [if_neg (fun found => fresh (any_key_iff.mp found))]

/-- Setting a key keeps the keys, adding it when it is new. -/
theorem keys_set (fields : List (String × Json)) (key : String) (value : Json) :
    (set fields key value).map Prod.fst =
      if key ∈ fields.map Prod.fst then fields.map Prod.fst
      else fields.map Prod.fst ++ [key] := by
  unfold set
  by_cases present : key ∈ fields.map Prod.fst
  · rw [if_pos (any_key_iff.mpr present), if_pos present, List.map_map]
    congr 1
    funext entry
    by_cases same : entry.1 = key <;> simp [same]
  · rw [if_neg (fun found => present (any_key_iff.mp found)), if_neg present, List.map_append]
    rfl

theorem nodup_set {fields : List (String × Json)} (nodup : (fields.map Prod.fst).Nodup)
    (key : String) (value : Json) : ((set fields key value).map Prod.fst).Nodup := by
  rw [keys_set]
  split
  · exact nodup
  · rename_i fresh
    exact nodup.append (List.nodup_singleton key) (by simpa using fresh)

/-- Every entry after setting a key is the new one or was there before. -/
theorem mem_set {fields : List (String × Json)} {key : String} {value : Json}
    {entry : String × Json} (mem : entry ∈ set fields key value) :
    entry = (key, value) ∨ entry ∈ fields := by
  unfold set at mem
  split at mem
  · obtain ⟨old, kept, rfl⟩ := List.mem_map.mp mem
    split
    · exact .inl rfl
    · exact .inr kept
  · rcases List.mem_append.mp mem with kept | added
    · exact .inr kept
    · exact .inl (List.mem_singleton.mp added)

end Fields

/-- The form a value of a type is kept in: whole numbers within 64 bits as
JSON numbers, decimals as canonical positional text, booleans as booleans,
dates and timestamps as their written forms, attachments and references as
texts that are not empty, other texts as texts, a geometry as an object
with a type, and a JSON value as it is. -/
def FieldType.Canonical : FieldType → Json → Prop
  | .integer, v => ∃ n, (-(Int.pow 2 63) ≤ n ∧ n < Int.pow 2 63) ∧ v = Json.ofInt n
  | .decimal, v => ∃ p : Decimal.PlainDecimal, p.Canonical ∧ v = .string p.text ∧
      Decimal.canonical p.text = .ok p.text
  | .boolean, v => ∃ b, v = .bool b
  | .date, v => ∃ day : Temporal.Date, day.Valid ∧ v = .string day.text
  | .timestamp, v => ∃ t : Temporal.Timestamp, t.Valid ∧ v = .string t.millisText
  | .string, v | .enumeration, v => ∃ s, v = .string s
  | .attachment, v | .reference, v => ∃ s, s ≠ "" ∧ v = .string s
  | .geoJson, v => ∃ entries kind, v = .object entries ∧ entries.lookup "type" = some (.string kind)
  | .json, _ => True

/-- A field holds a value in canonical form: a list of such items when it is
multivalued. -/
def Field.Holds (f : Field) (v : Json) : Prop :=
  if f.multivalued then ∃ items, v = .array items ∧ ∀ item ∈ items, f.fieldType.Canonical item
  else f.fieldType.Canonical v

namespace Dict

/-! ## Fields found by their ids -/

theorem sameNoCase_iff {a b : String} :
    sameNoCase a b = true ↔ a.toList.map Char.toLower = b.toList.map Char.toLower := by
  simp [sameNoCase]

/-- The field a key names, up to case, is also the field its own id names:
an earlier field that matched the id would have matched the key. -/
theorem field?_self {d : Dict} {key : String} {f : Field} (found : d.field? key = some f) :
    d.field? f.id = some f := by
  unfold field? at found ⊢
  obtain ⟨hit, before, after, shape, earlier⟩ := List.find?_eq_some_iff_append.mp found
  refine List.find?_eq_some_iff_append.mpr ⟨sameNoCase_iff.mpr rfl, before, after, shape, ?_⟩
  intro g mem
  have missed := earlier g mem
  simp only [Bool.not_eq_eq_eq_not, Bool.not_true] at missed ⊢
  rw [Bool.eq_false_iff] at missed ⊢
  intro same
  exact missed (sameNoCase_iff.mpr ((sameNoCase_iff.mp same).trans (sameNoCase_iff.mp hit)))

/-! ## Whole numbers -/

theorem pow_63 : Int.pow 2 63 = 9223372036854775808 := by decide

theorem saturate_range (n : Int) : -(Int.pow 2 63) ≤ saturate n ∧ saturate n < Int.pow 2 63 := by
  unfold saturate
  rw [pow_63]
  omega

/-- A whole-number literal is read only within 64 bits. -/
theorem readInt64_range {text : String} {n : Int} (found : Query.readInt64 text = some n) :
    -(Int.pow 2 63) ≤ n ∧ n < Int.pow 2 63 := by
  unfold Query.readInt64 at found
  dsimp only at found
  split at found <;>
  · simp only [Option.ite_none_left_eq_some, Option.ite_none_right_eq_some, Option.some.injEq]
      at found
    obtain ⟨-, range, rfl⟩ := found
    exact range

/-- The whole number of a readable value lies within 64 bits. -/
theorem integerOf_range {v : Json} {n : Int} (readable : v.Readable)
    (found : integerOf v = some n) : -(Int.pow 2 63) ≤ n ∧ n < Int.pow 2 63 := by
  cases v with
  | number k =>
    cases k with
    | nat k =>
      cases found
      exact saturate_range k
    | neg k =>
      cases found
      cases readable with
      | number readable =>
        obtain ⟨lo, hi⟩ := readable
        exact ⟨lo, by rw [pow_63]; omega⟩
    | float x =>
      obtain ⟨k, -, rfl⟩ := Option.map_eq_some_iff.mp found
      exact saturate_range k
  | string s => exact readInt64_range found
  | null => cases found
  | bool => cases found
  | array => cases found
  | object => cases found

/-- A whole number within 64 bits is written as a JSON number that reads
back as itself. -/
theorem integerOf_ofInt {n : Int} (range : -(Int.pow 2 63) ≤ n ∧ n < Int.pow 2 63) :
    integerOf (Json.ofInt n) = some n := by
  have wider : Int.pow 2 64 = 18446744073709551616 := by decide
  rw [pow_63] at range
  unfold Json.ofInt JsonNumber.ofInt
  by_cases nonneg : 0 ≤ n
  · rw [if_pos nonneg, if_pos (by omega)]
    show some (saturate (n.toNat : Int)) = some n
    unfold saturate
    rw [pow_63]
    congr 1
    omega
  · rw [if_neg nonneg, if_pos (by rw [pow_63]; omega)]
    rfl

/-! ## Values -/

section Values

variable {d : Dict} {f : Field} {v w : Json}

/-- What an integer field accepts: a value read as a whole number that
meets the field's bounds, stored as that number. -/
theorem normalizeValue_integer_ok (ftype : f.fieldType = .integer)
    (normalized : normalizeValue d f v = .ok w) :
    ∃ n, integerOf v = some n ∧ checkBounds d f (Float.ofInt n) = .ok () ∧ w = Json.ofInt n := by
  unfold normalizeValue at normalized
  rw [ftype] at normalized
  dsimp only at normalized
  split at normalized
  · cases normalized
  · rename_i n found
    obtain ⟨⟨⟩, bounded, done⟩ := Sql.except_bind_ok normalized
    cases done
    exact ⟨n, found, bounded, rfl⟩

/-- What a decimal field accepts: a value whose text has a canonical form
that meets the field's bounds, stored as that form. -/
theorem normalizeValue_decimal_ok (ftype : f.fieldType = .decimal)
    (normalized : normalizeValue d f v = .ok w) :
    ∃ text c, decimalText? v = some text ∧ Decimal.canonical text = .ok c ∧
      checkDecimalBounds d f c = .ok () ∧ w = .string c := by
  unfold normalizeValue at normalized
  rw [ftype] at normalized
  dsimp only at normalized
  split at normalized
  · cases normalized
  · rename_i text given
    split at normalized
    · cases normalized
    · rename_i c accepted
      obtain ⟨⟨⟩, bounded, done⟩ := Sql.except_bind_ok normalized
      cases done
      exact ⟨text, c, given, accepted, bounded, rfl⟩

/-- A whole number is kept as a JSON number within 64 bits, which reads
back as the same number. -/
theorem normalizeValue_integer (ftype : f.fieldType = .integer) (readable : v.Readable)
    (normalized : normalizeValue d f v = .ok w) :
    FieldType.integer.Canonical w ∧ normalizeValue d f w = .ok w := by
  obtain ⟨n, found, bounded, rfl⟩ := normalizeValue_integer_ok ftype normalized
  have range := integerOf_range readable found
  refine ⟨⟨n, range, rfl⟩, ?_⟩
  unfold normalizeValue
  rw [ftype]
  dsimp only
  rw [integerOf_ofInt range]
  dsimp only
  rw [bounded]
  rfl

/-- A decimal is kept as its canonical text, which is its own canonical
text and so meets the same bounds. -/
theorem normalizeValue_decimal (ftype : f.fieldType = .decimal)
    (normalized : normalizeValue d f v = .ok w) :
    FieldType.decimal.Canonical w ∧ normalizeValue d f w = .ok w := by
  obtain ⟨text, c, -, accepted, bounded, rfl⟩ := normalizeValue_decimal_ok ftype normalized
  have again := Decimal.canonical_canonical accepted
  obtain ⟨p, canonical, rfl⟩ := Decimal.canonical_positional accepted
  refine ⟨⟨p, canonical, rfl, again⟩, ?_⟩
  unfold normalizeValue
  rw [ftype]
  simp only [decimalText?, again, bounded]
  rfl

/-- A boolean stays; the texts `true` and `false` become booleans. -/
theorem normalizeValue_boolean (ftype : f.fieldType = .boolean)
    (normalized : normalizeValue d f v = .ok w) :
    FieldType.boolean.Canonical w ∧ normalizeValue d f w = .ok w := by
  unfold normalizeValue at normalized
  rw [ftype] at normalized
  dsimp only at normalized
  obtain ⟨b, rfl⟩ : ∃ b, w = .bool b := by
    split at normalized <;> cases normalized <;> exact ⟨_, rfl⟩
  refine ⟨⟨b, rfl⟩, ?_⟩
  unfold normalizeValue
  rw [ftype]
  rfl

theorem parseDate_eq_ok {raw : String} {day : Temporal.Date} :
    Query.parseDate raw = .ok day ↔ Temporal.readDate raw = some day := by
  unfold Query.parseDate
  split <;> simp_all

theorem parseTimestamp_eq_ok {raw : String} {t : Temporal.Timestamp} :
    Query.parseTimestamp raw = .ok t ↔ Temporal.readTimestamp raw = some t := by
  unfold Query.parseTimestamp
  split <;> simp_all

/-- A date is kept as its written form, which reads back as the same date. -/
theorem normalizeValue_date (ftype : f.fieldType = .date)
    (normalized : normalizeValue d f v = .ok w) :
    FieldType.date.Canonical w ∧ normalizeValue d f w = .ok w := by
  unfold normalizeValue at normalized ⊢
  rw [ftype] at normalized ⊢
  dsimp only at normalized ⊢
  split at normalized
  · obtain ⟨day, parsed, done⟩ := Sql.except_bind_ok normalized
    cases done
    have valid := Temporal.readDate_valid (parseDate_eq_ok.mp parsed)
    refine ⟨⟨day, valid, rfl⟩, ?_⟩
    dsimp only
    rw [parseDate_eq_ok.mpr (Temporal.readDate_text valid)]
    rfl
  · cases normalized

/-- A timestamp is kept as its millisecond text, which reads back as the
timestamp cut to milliseconds, whose text is the same. -/
theorem normalizeValue_timestamp (ftype : f.fieldType = .timestamp)
    (normalized : normalizeValue d f v = .ok w) :
    FieldType.timestamp.Canonical w ∧ normalizeValue d f w = .ok w := by
  unfold normalizeValue at normalized ⊢
  rw [ftype] at normalized ⊢
  dsimp only at normalized ⊢
  split at normalized
  · obtain ⟨t, parsed, done⟩ := Sql.except_bind_ok normalized
    cases done
    have valid := Temporal.readTimestamp_valid (parseTimestamp_eq_ok.mp parsed)
    refine ⟨⟨t, valid, rfl⟩, ?_⟩
    dsimp only
    rw [parseTimestamp_eq_ok.mpr (Temporal.readTimestamp_millisText valid)]
    show Except.ok (Json.string t.toMillis.millisText) = _
    rw [Temporal.Timestamp.millisText_toMillis]
  · cases normalized


/-- A text is kept as it is. -/
theorem normalizeValue_string (ftype : f.fieldType = .string)
    (normalized : normalizeValue d f v = .ok w) : w = v ∧ FieldType.string.Canonical v := by
  unfold normalizeValue at normalized
  rw [ftype] at normalized
  dsimp only at normalized
  split at normalized
  · obtain ⟨⟨⟩, -, done⟩ := Sql.except_bind_ok normalized
    cases done
    exact ⟨rfl, _, rfl⟩
  · cases normalized

/-- A value of an enumeration is kept as it is. -/
theorem normalizeValue_enumeration (ftype : f.fieldType = .enumeration)
    (normalized : normalizeValue d f v = .ok w) : w = v ∧ FieldType.enumeration.Canonical v := by
  unfold normalizeValue at normalized
  rw [ftype] at normalized
  dsimp only at normalized
  split at normalized
  · split at normalized
    · cases normalized
    · split at normalized
      · cases normalized
        exact ⟨rfl, _, rfl⟩
      · cases normalized
  · cases normalized

/-- An attachment or a reference is kept as it is, a text that is not empty. -/
theorem normalizeValue_named (ftype : f.fieldType = .attachment ∨ f.fieldType = .reference)
    (normalized : normalizeValue d f v = .ok w) : w = v ∧ ∃ s, s ≠ "" ∧ v = .string s := by
  unfold normalizeValue at normalized
  rcases ftype with ftype | ftype <;> rw [ftype] at normalized <;> dsimp only at normalized <;>
  · split at normalized
    · rename_i s
      split at normalized
      · cases normalized
      · rename_i nonempty
        cases normalized
        exact ⟨rfl, s, fun empty => nonempty (by simp [empty]), rfl⟩
    · cases normalized

/-- A geometry is kept as it is, an object with a type. -/
theorem normalizeValue_geoJson (ftype : f.fieldType = .geoJson)
    (normalized : normalizeValue d f v = .ok w) : w = v ∧ FieldType.geoJson.Canonical v := by
  unfold normalizeValue at normalized
  rw [ftype] at normalized
  dsimp only at normalized
  split at normalized
  · split at normalized
    · rename_i kind typed
      cases normalized
      exact ⟨rfl, _, kind, rfl, typed⟩
    · cases normalized
  · cases normalized

/-- A JSON value is kept as it is. -/
theorem normalizeValue_json (ftype : f.fieldType = .json)
    (normalized : normalizeValue d f v = .ok w) : w = v := by
  unfold normalizeValue at normalized
  rw [ftype] at normalized
  cases normalized
  rfl

/-- A value once normalized is kept in its type's form and normalizes to
itself. -/
theorem normalizeValue_canonical (readable : v.Readable)
    (normalized : normalizeValue d f v = .ok w) :
    f.fieldType.Canonical w ∧ normalizeValue d f w = .ok w := by
  cases ftype : f.fieldType
  case integer => exact normalizeValue_integer ftype readable normalized
  case decimal => exact normalizeValue_decimal ftype normalized
  case boolean => exact normalizeValue_boolean ftype normalized
  case date => exact normalizeValue_date ftype normalized
  case timestamp => exact normalizeValue_timestamp ftype normalized
  case string =>
    obtain ⟨rfl, shape⟩ := normalizeValue_string ftype normalized
    exact ⟨shape, normalized⟩
  case enumeration =>
    obtain ⟨rfl, shape⟩ := normalizeValue_enumeration ftype normalized
    exact ⟨shape, normalized⟩
  case attachment =>
    obtain ⟨rfl, shape⟩ := normalizeValue_named (.inl ftype) normalized
    exact ⟨shape, normalized⟩
  case reference =>
    obtain ⟨rfl, shape⟩ := normalizeValue_named (.inr ftype) normalized
    exact ⟨shape, normalized⟩
  case geoJson =>
    obtain ⟨rfl, shape⟩ := normalizeValue_geoJson ftype normalized
    exact ⟨shape, normalized⟩
  case json =>
    obtain rfl := normalizeValue_json ftype normalized
    exact ⟨trivial, normalized⟩

/-- Only a null is normalized to null. -/
theorem normalizeValue_ne_null (present : v ≠ .null) (readable : v.Readable)
    (normalized : normalizeValue d f v = .ok w) : w ≠ .null := by
  have shape := (normalizeValue_canonical readable normalized).1
  rintro rfl
  cases ftype : f.fieldType
  case json => exact present (normalizeValue_json ftype normalized).symm
  all_goals
    rw [ftype] at shape
    simp [FieldType.Canonical, Json.ofInt] at shape

/-- Items once normalized are in canonical form and normalize to themselves. -/
theorem mapM_normalizeValue {items items' : List Json} (readable : ∀ item ∈ items, item.Readable)
    (normalized : items.mapM (normalizeValue d f) = .ok items') :
    (∀ item ∈ items', f.fieldType.Canonical item) ∧
      items'.mapM (normalizeValue d f) = .ok items' := by
  induction items generalizing items' with
  | nil =>
    rw [List.mapM_nil] at normalized
    cases normalized
    exact ⟨fun _ mem => absurd mem List.not_mem_nil, rfl⟩
  | cons item items ih =>
    rw [List.mapM_cons] at normalized
    obtain ⟨first, firstOk, normalized⟩ := Sql.except_bind_ok normalized
    obtain ⟨rest, restOk, done⟩ := Sql.except_bind_ok normalized
    cases done
    obtain ⟨canonical, again⟩ := normalizeValue_canonical (readable item (by simp)) firstOk
    obtain ⟨canonicals, agains⟩ := ih (fun i mem => readable i (by simp [mem])) restOk
    refine ⟨fun i mem => ?_, ?_⟩
    · rcases List.mem_cons.mp mem with rfl | mem
      · exact canonical
      · exact canonicals i mem
    · rw [List.mapM_cons, again, agains]
      rfl

/-- A field's value once normalized is held in canonical form and normalizes
to itself. -/
theorem normalizeFieldValue_canonical (readable : v.Readable)
    (normalized : normalizeFieldValue d f v = .ok w) :
    f.Holds w ∧ normalizeFieldValue d f w = .ok w := by
  unfold normalizeFieldValue at normalized ⊢
  unfold Field.Holds
  by_cases multi : f.multivalued = true
  · rw [if_pos multi] at normalized
    rw [if_pos multi, if_pos multi]
    split at normalized
    · obtain ⟨items', mapped, done⟩ := Sql.except_bind_ok normalized
      cases done
      cases readable with
      | array each =>
        obtain ⟨canonical, again⟩ := mapM_normalizeValue each mapped
        refine ⟨⟨items', rfl, canonical⟩, ?_⟩
        dsimp only
        rw [again]
        rfl
    · cases normalized
  · rw [if_neg multi] at normalized
    rw [if_neg multi, if_neg multi]
    exact normalizeValue_canonical readable normalized

/-- Only a null is normalized to null, in a field of either kind. -/
theorem normalizeFieldValue_ne_null (present : v ≠ .null) (readable : v.Readable)
    (normalized : normalizeFieldValue d f v = .ok w) : w ≠ .null := by
  have holds := (normalizeFieldValue_canonical readable normalized).1
  unfold normalizeFieldValue at normalized
  unfold Field.Holds at holds
  by_cases multi : f.multivalued = true
  · rw [if_pos multi] at holds
    obtain ⟨items, rfl, -⟩ := holds
    exact Json.noConfusion
  · rw [if_neg multi] at normalized
    exact normalizeValue_ne_null present readable normalized

end Values

/-! ## Entries -/

/-- An entry as normalizing leaves it: keyed by the id of the field it
names, holding a value of that field in canonical form that normalizes to
itself, and not null. -/
structure Settled (d : Dict) (entry : String × Json) : Prop where
  declared : ∃ f, d.field? entry.1 = some f ∧ f.id = entry.1 ∧ f.Holds entry.2 ∧
    normalizeFieldValue d f entry.2 = .ok entry.2
  present : entry.2 ≠ .null

/-- What is normalized so far: each key once, each entry settled. -/
structure Stable (d : Dict) (entries : List (String × Json)) : Prop where
  nodup : (entries.map Prod.fst).Nodup
  settled : ∀ entry ∈ entries, d.Settled entry

section Entries

variable {d : Dict}

/-- Each entry of the data keeps what is normalized stable: a null is
dropped, and any other value is set, normalized, under its field's id. -/
theorem normalizeEntry_stable {acc acc' : List (String × Json)} {entry : String × Json}
    (stable : d.Stable acc) (readable : entry.2.Readable)
    (normalized : normalizeEntry d acc entry = .ok acc') : d.Stable acc' := by
  unfold normalizeEntry at normalized
  split at normalized
  · cases normalized
  · rename_i f found
    split at normalized
    · cases normalized
      exact stable
    · rename_i notNull
      obtain ⟨w, fieldOk, done⟩ := Sql.except_bind_ok normalized
      cases done
      obtain ⟨holds, again⟩ := normalizeFieldValue_canonical readable fieldOk
      have present := normalizeFieldValue_ne_null (fun null => notNull null) readable fieldOk
      refine ⟨Fields.nodup_set stable.nodup _ _, fun e mem => ?_⟩
      rcases Fields.mem_set mem with rfl | old
      · exact ⟨⟨f, field?_self found, rfl, holds, again⟩, present⟩
      · exact stable.settled e old

/-- Normalizing data entry by entry keeps what is normalized stable. -/
theorem foldlM_stable {data acc out : List (String × Json)} (stable : d.Stable acc)
    (readable : ∀ entry ∈ data, entry.2.Readable)
    (normalized : data.foldlM (normalizeEntry d) acc = .ok out) : d.Stable out := by
  induction data generalizing acc with
  | nil =>
    cases normalized
    exact stable
  | cons entry data ih =>
    rw [List.foldlM_cons] at normalized
    obtain ⟨next, step, rest⟩ := Sql.except_bind_ok normalized
    exact ih (normalizeEntry_stable stable (readable entry (by simp)) step)
      (fun e mem => readable e (by simp [mem])) rest

/-- A settled entry under a new key is appended unchanged. -/
theorem normalizeEntry_settled {acc : List (String × Json)} {entry : String × Json}
    (settled : d.Settled entry) (fresh : entry.1 ∉ acc.map Prod.fst) :
    normalizeEntry d acc entry = .ok (acc ++ [entry]) := by
  obtain ⟨⟨f, found, named, -, again⟩, present⟩ := settled
  unfold normalizeEntry
  rw [found]
  dsimp only
  split
  · rename_i null
    exact absurd null present
  · rw [again]
    show Except.ok (Fields.set acc f.id entry.2) = _
    rw [named, Fields.set_of_not_mem fresh]

/-- Settled entries under distinct keys normalize to themselves. -/
theorem foldlM_settled {data acc : List (String × Json)} (settled : ∀ e ∈ data, d.Settled e)
    (nodup : ((acc ++ data).map Prod.fst).Nodup) :
    data.foldlM (normalizeEntry d) acc = .ok (acc ++ data) := by
  induction data generalizing acc with
  | nil => simp [pure, Except.pure]
  | cons entry data ih =>
    have fresh : entry.1 ∉ acc.map Prod.fst := by
      simp only [List.map_append, List.map_cons, List.nodup_append, List.nodup_cons] at nodup
      exact fun mem => nodup.2.2 _ mem _ (List.mem_cons_self ..) rfl
    rw [List.foldlM_cons, normalizeEntry_settled (settled entry (by simp)) fresh,
      Sql.except_ok_bind,
      @ih (acc ++ [entry]) (fun e mem => settled e (by simp [mem])) (by simpa using nodup)]
    simp

/-- The check of required fields passes only when each of them is present. -/
theorem checkRequired_present {n : List (String × Json)} (checked : checkRequired d n = .ok ()) :
    ∀ f ∈ d.fields, f.required → (n.lookup f.id).isSome := by
  unfold checkRequired at checked
  generalize d.fields = fields at checked ⊢
  induction fields with
  | nil => simp
  | cons g fields ih =>
    simp only [List.forM] at checked
    obtain ⟨⟨⟩, first, rest⟩ := Sql.except_bind_ok checked
    intro f mem required
    rcases List.mem_cons.mp mem with rfl | mem
    · split at first
      · cases first
      · rename_i absent
        simpa [required] using absent
    · exact ih rest f mem required

end Entries

/-! ## Records -/

/-- A record in canonical form for a dict. -/
structure Canonical (d : Dict) (data : List (String × Json)) : Prop where
  /-- Each key is present once. -/
  nodup : (data.map Prod.fst).Nodup
  /-- Each key is the id, spelled as declared, of the field it names, and
  holds a value of that field in canonical form, never null. -/
  declared : ∀ entry ∈ data, ∃ f, d.field? entry.1 = some f ∧ f.id = entry.1 ∧
    f.Holds entry.2 ∧ entry.2 ≠ .null
  /-- Every required field is present. -/
  required : ∀ f ∈ d.fields, f.required → (data.lookup f.id).isSome

/-- Normalizing a record is canonical and idempotent: data whose numbers are
as reading JSON gives them, once normalized, is a record in canonical form,
which normalizes to itself. -/
theorem normalize_canonical {d : Dict} {data n : List (String × Json)}
    (readable : ∀ entry ∈ data, entry.2.Readable) (normalized : d.normalize data = .ok n) :
    d.Canonical n ∧ d.normalize n = .ok n := by
  obtain ⟨folded, fold, rest⟩ := Sql.except_bind_ok normalized
  obtain ⟨⟨⟩, checked, done⟩ := Sql.except_bind_ok rest
  cases done
  have stable := foldlM_stable ⟨by simp, by simp⟩ readable fold
  refine ⟨⟨stable.nodup, fun entry mem => ?_, checkRequired_present checked⟩, ?_⟩
  · obtain ⟨⟨f, found, named, holds, -⟩, present⟩ := stable.settled entry mem
    exact ⟨f, found, named, holds, present⟩
  · have again := @foldlM_settled d n [] stable.settled (by simpa using stable.nodup)
    unfold normalize
    rw [again, List.nil_append, Sql.except_ok_bind, checked]
    rfl

/-- A key in capitals, a decimal with an exponent, a date between blanks, a
leap second with microseconds and a null: the record keeps the fields' ids,
the canonical decimal, the date and the timestamp in their written forms,
and drops the null. -/
theorem normalize_canonical_sample :
    let d : Dict := { id := "c", fields := [{ id := "n", fieldType := .integer, required := true },
      { id := "price", fieldType := .decimal }, { id := "day", fieldType := .date },
      { id := "at", fieldType := .timestamp }] }
    let data : List (String × Json) := [("N", .number (.nat 7)), ("price", .string "-1.50e1"),
      ("DAY", .string " 2024-02-29 "), ("at", .string "2016-12-31T23:59:60.123456"),
      ("price", .null)]
    let n : List (String × Json) := [("n", .number (.nat 7)), ("price", .string "-15"),
      ("day", .string "2024-02-29"), ("at", .string "2016-12-31T23:59:60.123")]
    (∀ entry ∈ data, entry.2.Readable) ∧ d.normalize data = .ok n ∧
      (d.Canonical n ∧ d.normalize n = .ok n) := by
  intro d data n
  have readable : ∀ entry ∈ data, entry.2.Readable := by
    intro entry mem
    simp only [data, List.mem_cons, List.not_mem_nil, or_false] at mem
    rcases mem with rfl | rfl | rfl | rfl | rfl
    · exact .number trivial
    · exact .string _
    · exact .string _
    · exact .string _
    · exact .null
  have normalized : d.normalize data = .ok n := by rfl
  exact ⟨readable, normalized, normalize_canonical readable normalized⟩

end Dict

end Refbook
