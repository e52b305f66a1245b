import Refbook.Proofs.ScriptFrame
import Refbook.Proofs.MigrationRerun
import Refbook.Proofs.Comparisons

namespace Refbook

/-!
# How the engines keep the applied migrations

The default engine keeps one history of applied migrations for all
targets: the relational engine as rows of the table `version_scheme`, each
value text and the time of installation written to the millisecond; the
document engine as documents of the collection `version_scheme`, each the
migration's JSON under its id, the time written in full.

This module states what such a store holds as the list of migrations
recorded, in the order they were recorded (`HistoryHolds`), and shows for
both engines that recording a migration appends it and leaves the dict
schemes alone, or fails and changes nothing; and that the history of a
target reads back as the target's rows in the order they were recorded.

Two facts of the written times carry the reading back.  The relational
engine stores the millisecond text of a time in a column declared
`timestamp`, whose numeric affinity turns text that reads as a number into
a number: the written time does not, the dash after its year ending the
number (`numericOfText_millisText`).  The document engine reads its stored
text back through a layout with optional fraction digits, which gives the
time itself (`readStored_isoText`).
-/

section Runs

variable {σ ε α β : Type}

/-- A loop whose every round answers without touching the state answers the
list of those answers. -/
theorem runState_mapM_ok {xs : List α} {f : α → ExceptT ε (StateM σ) β} {g : α → β} {s : σ}
    (each : ∀ a ∈ xs, (f a).run.run s = (.ok (g a), s)) :
    (xs.mapM f).run.run s = (.ok (xs.map g), s) := by
  induction xs with
  | nil => rfl
  | cons a rest ih =>
    rw [List.mapM_cons, runState_bind_ok (each a List.mem_cons_self),
      runState_bind_ok (ih fun b mem => each b (List.mem_cons_of_mem a mem))]
    rfl

theorem runState_filterAuxM_ok {xs acc : List α} {p : α → ExceptT ε (StateM σ) Bool}
    {q : α → Bool} {s : σ} (each : ∀ a ∈ xs, (p a).run.run s = (.ok (q a), s)) :
    (List.filterAuxM p xs acc).run.run s = (.ok ((xs.filter q).reverse ++ acc), s) := by
  induction xs generalizing acc with
  | nil => rfl
  | cons a rest ih =>
    unfold List.filterAuxM
    rw [runState_bind_ok (each a List.mem_cons_self),
      ih fun b mem => each b (List.mem_cons_of_mem a mem)]
    cases tested : q a <;> simp [tested]

/-- A filter whose every test answers without touching the state is the
filter by those answers. -/
theorem runState_filterM_ok {xs : List α} {p : α → ExceptT ε (StateM σ) Bool} {q : α → Bool}
    {s : σ} (each : ∀ a ∈ xs, (p a).run.run s = (.ok (q a), s)) :
    (xs.filterM p).run.run s = (.ok (xs.filter q), s) := by
  unfold List.filterM
  rw [runState_bind_ok (runState_filterAuxM_ok each), List.append_nil, List.reverse_reverse]
  rfl

end Runs

/-! ## A stored time read back -/

namespace Temporal

/-- Fraction digits written to `width` places, up to nine, read back as
nanoseconds. -/
theorem scanFraction_width {width x : Nat} (pos : 0 < width) (wide : width ≤ 9)
    (small : x < 10 ^ width) :
    scanFraction (padded width x).toList = .ok (x * 10 ^ (9 - width), []) := by
  have length := padded_length pos small
  have fits : x < 2 ^ 63 :=
    lt_of_lt_of_le small ((Nat.pow_le_pow_right (by decide) wide).trans (by decide))
  have scanned := @scanNumber_padded width x 1 9 [] (by simp) (by omega) (by omega) fits
  rw [List.append_nil] at scanned
  unfold scanFraction
  rw [scanned]
  simp only [bind, Except.bind, length, List.length_nil, Nat.sub_zero, List.dropWhile_nil]
  rfl

/-- The fields written for a valid timestamp, with its whole nanoseconds,
make the timestamp. -/
theorem timeOf_exact {t : Timestamp} (valid : t.Valid) :
    timeOf t.date t.hour t.minute (t.second + t.nano / 1000000000) (t.nano % 1000000000) =
      some t := by
  obtain ⟨date, hour, minute, second, nano⟩ := t
  obtain ⟨_, hours, minutes, seconds, nanos, leaps⟩ := valid
  dsimp only at *
  unfold timeOf
  by_cases leap : 1000000000 ≤ nano
  · have := leaps leap
    rw [if_pos (by omega), if_pos (by omega)]
    simp only [Option.some.injEq, Timestamp.mk.injEq, true_and]
    omega
  · rw [if_pos (by omega), if_neg (by omega)]
    simp only [Option.some.injEq, Timestamp.mk.injEq, true_and]
    omega

theorem Timestamp.secondsText_toList (t : Timestamp) :
    t.secondsText.toList = t.date.text.toList ++ 'T' :: ((padded 2 t.hour).toList ++ ':' ::
      ((padded 2 t.minute).toList ++ ':' :: (padded 2 (t.second + t.nano / 1000000000)).toList)) := by
  simp [Timestamp.secondsText]

/-- The seconds text of a valid timestamp reads through the stored layout up
to the fraction. -/
theorem scanPieces_stored {t : Timestamp} (valid : t.Valid) {fraction : List Char}
    (stop : ∀ c ∈ fraction.head?, c.isDigit = false) :
    scanPieces storedLayout {} (t.secondsText.toList ++ fraction) =
      scanPieces [.fraction, .blanks]
        { year := some t.date.year, month := some t.date.month, day := some t.date.day,
          hour := some t.hour, minute := some t.minute,
          second := some (t.second + t.nano / 1000000000) } fraction := by
  obtain ⟨years, months, days⟩ := valid.date.bounds
  have yearRange : -(Int.pow 2 31) ≤ t.date.year ∧ t.date.year < Int.pow 2 31 := by
    have wide : Int.pow 2 31 = 2147483648 := by decide
    unfold minYear maxYear at years
    omega
  have hours := valid.hour
  have minutes := valid.minute
  have seconds := valid.seconds
  have dash : '-'.isDigit = false := by decide
  have tee : 'T'.isDigit = false := by decide
  have colon : ':'.isDigit = false := by decide
  have kept : ∀ c ∈ ['-', 'T', ':'], ∀ cs, (c :: cs).dropWhile Text.isBlank = c :: cs := by
    intro c mem cs
    exact List.dropWhile_cons_of_neg (by simp at mem; rcases mem with rfl | rfl | rfl <;> decide)
  rw [Timestamp.secondsText_toList, Date.text_toList]
  simp only [List.append_assoc, List.cons_append]
  simp only [storedLayout, scanPieces, Except.map, bind, Except.bind,
    scanYear_text (stop_cons dash _) yearRange, kept '-' (by simp), kept 'T' (by simp),
    kept ':' (by simp), scanChar_self, scanField_padded (stop_cons dash _) months (by omega),
    scanField_padded (stop_cons tee _) days (by omega),
    scanField_padded (stop_cons colon _) ⟨Nat.zero_le _, hours⟩ (by omega),
    scanField_padded (stop_cons colon _) ⟨Nat.zero_le _, minutes⟩ (by omega),
    scanField_padded stop seconds (by omega)]

/-- A written fraction of `width` places that reads as the timestamp's
nanoseconds. -/
theorem readStored_fraction {t : Timestamp} (valid : t.Valid) {width x : Nat} (pos : 0 < width)
    (wide : width ≤ 9) (small : x < 10 ^ width)
    (value : x * 10 ^ (9 - width) = t.nano % 1000000000) :
    readStored (t.secondsText ++ ("." ++ padded width x)) = .ok t := by
  have chars : (t.secondsText ++ ("." ++ padded width x)).toList =
      t.secondsText.toList ++ '.' :: (padded width x).toList := by
    simp
  unfold readStored
  rw [chars, scanPieces_stored valid (stop_cons (by decide) _)]
  simp [scanPieces, scanFraction_width pos wide small, Except.map, bind, Except.bind,
    Fields.timestamp?, Fields.date?, valid.date.ofParts?_eq, value, timeOf_exact valid]
  rfl

/-- The stored text of a valid timestamp reads back as the timestamp. -/
theorem readStored_isoText {t : Timestamp} (valid : t.Valid) : readStored t.isoText = .ok t := by
  have below : t.nano % 1000000000 < 1000000000 := Nat.mod_lt _ (by decide)
  unfold Timestamp.isoText
  dsimp only
  split
  · rename_i whole
    unfold readStored
    rw [String.append_empty, ← List.append_nil t.secondsText.toList,
      scanPieces_stored valid (by simp)]
    simp [scanPieces, Fields.timestamp?, Fields.date?, valid.date.ofParts?_eq, ← whole,
      timeOf_exact valid]
    rfl
  · split
    · exact readStored_fraction valid (by decide) (by decide) (by simp; omega) (by simp; omega)
    · split
      · exact readStored_fraction valid (by decide) (by decide) (by simp; omega) (by simp; omega)
      · exact readStored_fraction valid (by decide) (by decide) (by simpa using below) (by simp)

end Temporal

/-! ## The relational engine -/

namespace Relational

namespace Scan

theorem countDigits_dash {ds : List Char} (digits : ∀ c ∈ ds, c.isDigit = true)
    (more : List Char) : countDigits (ds ++ '-' :: more) = (ds.length, '-' :: more) := by
  induction ds with
  | nil => rfl
  | cons d ds ih =>
    rw [List.cons_append, countDigits, if_pos (digits d List.mem_cons_self),
      ih fun c mem => digits c (List.mem_cons_of_mem d mem)]
    rfl

/-- Digits before a dash are taken as the whole part, and the dash is left. -/
theorem integerDigits_dash {ds : List Char} (digits : ∀ c ∈ ds, c.isDigit = true)
    (more : List Char) (s : Scan) :
    ∃ s', integerDigits s (ds ++ '-' :: more) = (s', '-' :: more) ∧ s'.kind = s.kind := by
  induction ds generalizing s with
  | nil => exact ⟨s, rfl, rfl⟩
  | cons d ds ih =>
    rw [List.cons_append, integerDigits, if_pos (digits d List.mem_cons_self)]
    dsimp only
    split
    · rw [countDigits_dash fun c mem => digits c (List.mem_cons_of_mem d mem)]
      exact ⟨_, rfl, rfl⟩
    · exact ih (fun c mem => digits c (List.mem_cons_of_mem d mem)) _

/-- A sign and digits followed by a dash are no number. -/
theorem read_signed_dash_code {sign : Char} {ds more : List Char} (signed : sign = '-' ∨ sign = '+')
    (digits : ∀ c ∈ ds, c.isDigit = true) : (read (sign :: (ds ++ '-' :: more))).code = 0 := by
  have dash : isBlank '-' = false := by decide
  rcases signed with rfl | rfl
  · obtain ⟨s', ran, kind⟩ := integerDigits_dash digits more { negative := true }
    simp only [read, ran]
    simp [code, kind, dash]
  · obtain ⟨s', ran, kind⟩ := integerDigits_dash digits more { negative := false }
    simp only [read, ran]
    simp [code, kind, dash]

/-- Digits followed by a dash are no number. -/
theorem read_plain_dash_code {d : Char} {ds more : List Char} (digit : d.isDigit = true)
    (digits : ∀ c ∈ ds, c.isDigit = true) : (read (d :: (ds ++ '-' :: more))).code = 0 := by
  have dash : isBlank '-' = false := by decide
  have notMinus : d ≠ '-' := by rintro rfl; cases digit
  have notPlus : d ≠ '+' := by rintro rfl; cases digit
  have allDigits : ∀ c ∈ d :: ds, c.isDigit = true := by simpa [digit] using digits
  obtain ⟨s', ran, kind⟩ := integerDigits_dash allDigits more { negative := false }
  unfold read
  split
  rename_i negative cs sign
  split at sign
  · rename_i minus
    exact absurd (List.cons.inj minus).1 notMinus
  · rename_i plus
    exact absurd (List.cons.inj plus).1 notPlus
  · cases sign
    simp only [← List.cons_append, ran]
    simp [code, kind, dash]

open Temporal in
/-- A written year followed by a dash is no number. -/
theorem read_yearText_code (y : Int) (more : List Char) :
    (read ((yearText y).toList ++ '-' :: more)).code = 0 := by
  by_cases plain : 0 ≤ y ∧ y < 10000
  · obtain ⟨d, ds, first⟩ := List.exists_cons_of_length_pos (padded_length_pos 4 y.toNat)
    have digits := padded_digits 4 y.toNat
    rw [first] at digits
    rw [yearText_plain plain, first, List.cons_append]
    exact read_plain_dash_code (digits d List.mem_cons_self)
      fun c mem => digits c (List.mem_cons_of_mem d mem)
  · by_cases negative : y < 0
    · have text : (yearText y).toList = '-' :: (padded 4 y.natAbs).toList := by
        rw [yearText, if_neg plain, if_pos negative, String.toList_append]
        rfl
      rw [text, List.cons_append]
      exact read_signed_dash_code (.inl rfl) (padded_digits 4 _)
    · have text : (yearText y).toList = '+' :: (padded 4 y.toNat).toList := by
        rw [yearText, if_neg plain, if_neg negative, String.toList_append]
        rfl
      rw [text, List.cons_append]
      exact read_signed_dash_code (.inr rfl) (padded_digits 4 _)

end Scan

theorem isBlank_text {c : Char} (blank : isBlank c = true) : Text.isBlank c = true := by
  simp only [isBlank, Bool.or_eq_true, decide_eq_true_eq] at blank
  rcases blank with ((((rfl | rfl) | rfl) | rfl) | rfl) | rfl <;> decide

/-- The millisecond text of a time stays text under numeric conversion. -/
theorem numericOfText_millisText (t : Temporal.Timestamp) (preferWhole : Bool) :
    numericOfText t.millisText preferWhole = .text t.millisText := by
  obtain ⟨more, chars⟩ : ∃ more,
      t.millisText.toList = (Temporal.yearText t.date.year).toList ++ '-' :: more :=
    ⟨_, by rw [Temporal.Timestamp.millisText_toList, Temporal.Date.text_toList, List.append_assoc,
      List.cons_append]⟩
  have kept : t.millisText.toList.dropWhile isBlank = t.millisText.toList := by
    refine List.dropWhile_eq_self_iff.mpr fun pos blank => ?_
    have := t.millisText_no_blank _ (List.getElem_mem pos)
    rw [isBlank_text (by simpa using blank)] at this
    cases this
  have noNumber : (readReal t.millisText).1 = 0 := by
    unfold readReal
    rw [kept]
    split
    · rename_i empty
      simp [chars] at empty
    · rw [chars]
      exact Scan.read_yearText_code _ _
  unfold numericOfText
  generalize readReal t.millisText = read at noNumber
  obtain ⟨code, r⟩ := read
  cases noNumber
  rfl

/-- The columns of the table of applied migrations. -/
def versionColumns : List Column :=
  [{ name := "id", declared := "text", notNull := true, primaryKey := true },
   { name := "target", declared := "text", notNull := true },
   { name := "version", declared := "text", notNull := true },
   { name := "script", declared := "text", notNull := true },
   { name := "checksum", declared := "text", notNull := true },
   { name := "installed", declared := "timestamp", notNull := true }]

/-- An applied migration as the table keeps it: every value text, the time
of installation to the millisecond. -/
def versionRow (a : Migration.Applied) : Row :=
  [.text a.id, .text a.target, .text a.version, .text a.script, .text a.checksum,
   .text a.installed.millisText]

/-- The table of applied migrations holding `rows`, in the order they were
recorded. -/
def versionTable (rows : List Migration.Applied) : Table :=
  { name := "version_scheme", columns := versionColumns, rows := rows.map versionRow }

/-- The database keeps `rows` as its applied migrations. -/
def HistoryHolds (db : Database) (rows : List Migration.Applied) : Prop :=
  history db = some (versionTable rows)

theorem rowOf_version {t : Table} (columns : t.columns = versionColumns) (a : Migration.Applied) :
    Database.rowOf t
      [("id", .text a.id), ("target", .text a.target), ("version", .text a.version),
       ("script", .text a.script), ("checksum", .text a.checksum),
       ("installed", .text a.installed.millisText)] = .ok (versionRow a) := by
  simp +decide [Database.rowOf, columns, versionColumns, Table.column?, Column.affinity,
    Value.store, numericOfText_millisText, versionRow]
  rfl

/-- Recording a migration appends its row to the table of applied
migrations and leaves the table of dict schemes alone; when it fails, it
changes nothing. -/
theorem recordVersion_run {db db' : Database} {rows : List Migration.Applied}
    {a : Migration.Applied} {r : Except Error Unit} (holds : HistoryHolds db rows)
    (ran : (recordVersion a).run.run db = (r, db')) :
    (r = .ok () ∧ HistoryHolds db' (rows ++ [a]) ∧ db'.table? "dict" = db.table? "dict") ∨
      ((∃ e, r = .error e) ∧ db' = db) := by
  unfold recordVersion at ran
  rw [run_run] at ran
  split at ran
  next db₁ made =>
    cases ran
    obtain ⟨t, row, found, built, -, rfl⟩ := Database.insert_checked made
    have table : t = versionTable rows := by
      unfold HistoryHolds history at holds
      rw [found] at holds
      exact Option.some.inj holds
    subst table
    rw [rowOf_version rfl] at built
    cases built
    have grown : { versionTable rows with rows := (versionTable rows).rows ++ [versionRow a] } =
        versionTable (rows ++ [a]) := by
      simp [versionTable]
    rw [grown]
    refine Or.inl ⟨rfl, Database.replaceTable_table?_self found _ rfl, ?_⟩
    exact Database.replaceTable_table? db _ (show sameName "version_scheme" "dict" = false by decide)
  next =>
    cases ran
    exact Or.inr ⟨⟨_, rfl⟩, rfl⟩

/-- A kept row, named by the columns of the table. -/
theorem named_versionRow (rows : List Migration.Applied) (a : Migration.Applied) :
    (versionTable rows).named (versionRow a) =
      [("id", .text a.id), ("target", .text a.target), ("version", .text a.version),
       ("script", .text a.script), ("checksum", .text a.checksum),
       ("installed", .text a.installed.millisText)] := rfl

/-- Every row stamped with one valid time, the history of a target reads
back as its rows in the order they were recorded, the time cut to
milliseconds. -/
theorem versions_run {db : Database} {rows : List Migration.Applied} {c : Temporal.Timestamp}
    (holds : HistoryHolds db rows) (stamped : ∀ a ∈ rows, a.installed = c) (valid : c.Valid)
    (target : String) :
    (versions target).run.run db =
      (.ok ((rows.filter (·.target == target)).map fun a => { a with installed := c.toMillis }),
        db) := by
  have found : db.needTable "version_scheme" = .ok (versionTable rows) := by
    unfold Database.needTable
    rw [show db.table? "version_scheme" = _ from holds]
  have chosen : whereText (versionTable rows) "target" target =
      (rows.filter (·.target == target)).map fun a => (versionTable rows).named (versionRow a) := by
    unfold whereText Table.records
    rw [show (versionTable rows).rows = rows.map versionRow from rfl, List.map_map,
      List.filter_map]
    congr 1
    apply List.filter_congr
    intro a _
    simp +decide [named_versionRow, List.lookup, Value.same, order_text_beq]
    by_cases same : a.target = target <;> simp [same]
  have time : ∀ a ∈ rows,
      (((versionTable rows).named (versionRow a)).lookup "installed").getD .null =
        .text c.millisText := by
    intro a mem
    simp +decide [named_versionRow, List.lookup, stamped a mem]
  have kept : (whereText (versionTable rows) "target" target).mergeSort (fun x y =>
      ((x.lookup "installed").getD .null).order ((y.lookup "installed").getD .null) != .gt) =
      whereText (versionTable rows) "target" target := by
    apply List.mergeSort_of_pairwise
    apply List.pairwise_of_forall_mem_list
    intro x xmem y ymem
    rw [chosen] at xmem ymem
    obtain ⟨a, amem, rfl⟩ := List.mem_map.mp xmem
    obtain ⟨b, bmem, rfl⟩ := List.mem_map.mp ymem
    have same := order_text_beq c.millisText c.millisText
    rw [time a (List.mem_filter.mp amem).1, time b (List.mem_filter.mp bmem).1]
    simp_all
  unfold versions
  rw [runState_bind_ok (runState_get db), found,
    runState_bind_ok (show (need (.ok (versionTable rows))).run.run db = (.ok _, db) from rfl)]
  dsimp only
  rw [kept, chosen, List.mapM_map]
  refine runState_mapM_ok fun a mem => ?_
  have stamp := stamped a (List.mem_filter.mp mem).1
  simp +decide [named_versionRow, rowTimestamp, rowText, List.lookup, stamp,
    Temporal.readTimestamp_millisText valid]
  rfl

end Relational

/-! ## The document engine -/

namespace Document

/-- The only key of the path `target`. -/
theorem pathKeys_target : pathKeys "target" = ["target"] := by
  decide

theorem toJson_lookup_id (a : Migration.Applied) :
    ∃ entries, a.toJson = .object entries ∧ entries.lookup "_id" = none :=
  ⟨_, rfl, by simp +decide [List.lookup]⟩

/-- A kept migration is found by its target. -/
theorem equals_target (a : Migration.Applied) (target : String) :
    equals (candidates (withId a.id a.toJson) "target") (.string target) =
      (a.target == target) := by
  simp +decide [candidates, lookup, pathKeys_target, withId, Migration.Applied.toJson, Fields.set,
    List.lookup, equals, Scalar.of, Scalar.equal]

/-- A kept migration reads back as itself. -/
theorem ofJson_withId {a : Migration.Applied} (valid : a.installed.Valid) :
    Migration.Applied.ofJson (withoutId (withId a.id a.toJson)) = .ok a := by
  obtain ⟨entries, spelled, absent⟩ := toJson_lookup_id a
  rw [spelled, withoutId_withId absent, ← spelled]
  simp +decide [Migration.Applied.ofJson, Migration.Applied.toJson, Decode.object, Decode.field,
    Decode.checkEntries, Decode.check, Except.map, List.lookup, Decode.string, Dict.timestampOfJson,
    Temporal.readStored_isoText valid]

/-- The collection of applied migrations holds `rows`, in the order they
were recorded, each as its document under its id. -/
def HistoryHolds (s : Store) (rows : List Migration.Applied) : Prop :=
  history s = some (rows.map fun a => withId a.id a.toJson)

theorem idOf_withId (a : Migration.Applied) : idOf (withId a.id a.toJson) = some a.id := by
  simp +decide [idOf, withId, Migration.Applied.toJson, Fields.set, Json.get?, List.lookup,
    Json.str?]

theorem documents_history {s : Store} {rows : List Migration.Applied} (holds : HistoryHolds s rows) :
    (documents "version_scheme").run.run s = (.ok (rows.map fun a => withId a.id a.toJson), s) := by
  unfold documents
  rw [runState_bind_ok (runState_get s), show s.collection? "version_scheme" = _ from holds]
  rfl

/-- Recording a migration appends its document to the collection of applied
migrations and leaves the collection of dict schemes alone; when it fails,
it changes nothing. -/
theorem recordVersion_run {s s' : Store} {rows : List Migration.Applied} {a : Migration.Applied}
    {r : Except Error Unit} (holds : HistoryHolds s rows)
    (ran : (recordVersion a).run.run s = (r, s')) :
    (r = .ok () ∧ HistoryHolds s' (rows ++ [a]) ∧ s'.collection? "dict" = s.collection? "dict") ∨
      ((∃ e, r = .error e) ∧ s' = s) := by
  unfold recordVersion insertOne at ran
  rw [runState_bind_ok (documents_history holds), idOf_withId] at ran
  dsimp only at ran
  split at ran
  · cases ran
    exact Or.inr ⟨⟨_, rfl⟩, rfl⟩
  · rw [runState_modify] at ran
    cases ran
    refine Or.inl ⟨rfl, ?_, s.put_collection? (by decide) _⟩
    unfold HistoryHolds history
    rw [Store.put_collection?_self holds, List.map_append]
    rfl

/-- The history of a target reads back as its rows, in the order they were
recorded. -/
theorem versions_run {s : Store} {rows : List Migration.Applied} (holds : HistoryHolds s rows)
    (valid : ∀ a ∈ rows, a.installed.Valid) (target : String) :
    (versions target).run.run s = (.ok (rows.filter (·.target == target)), s) := by
  have found : (find "version_scheme" (.object [("target", .string target)])).run.run s =
      (.ok ((rows.filter (·.target == target)).map fun a => withId a.id a.toJson), s) := by
    have chosen : (rows.map fun a => withId a.id a.toJson).filter
        (fun doc => equals (candidates doc "target") (.string target)) =
        (rows.filter (·.target == target)).map fun a => withId a.id a.toJson := by
      rw [List.filter_map]
      congr 1
      exact List.filter_congr fun a _ => equals_target a target
    unfold find
    rw [runState_bind_ok (documents_history holds), runState_bind_ok (runState_get s), ← chosen]
    refine runState_filterM_ok fun doc _ => ?_
    simp only [embed, List.foldl_nil, satisfies_target]
    rfl
  unfold versions
  rw [runState_bind_ok found, List.mapM_map, Migration.except_mapM_ok (g := id) fun a mem => ?_,
    List.map_id]
  · rfl
  · simp only [Function.comp_apply, ofJson_withId (valid a (List.mem_filter.mp mem).1)]
    rfl

end Document

/-! ## The default engine -/

namespace Engine

/-- The history `E` keeps holds `rows`, in the order they were recorded. -/
def Holds : Engine → World → List Migration.Applied → Prop
  | .relational, w, rows => Relational.HistoryHolds w.database rows
  | .document, w, rows => Document.HistoryHolds w.documents rows

/-- The history is part of what the engine's view shows. -/
theorem Holds.of_view {E : Engine} {w w' : World} {rows : List Migration.Applied}
    (same : E.ownView w' = E.ownView w) (holds : E.Holds w rows) : E.Holds w' rows := by
  cases E with
  | relational =>
    simp only [ownView, Prod.mk.injEq, Sum.inl.injEq] at same
    show Relational.history w'.database = _
    rw [same.1]
    exact holds
  | document =>
    simp only [ownView, Prod.mk.injEq, Sum.inr.injEq] at same
    show Document.history w'.documents = _
    rw [same.1]
    exact holds

/-- The history of a target reads back, without a change, as the versions
of its rows in the order they were recorded. -/
theorem versions_run {E : Engine} {w : World} {rows : List Migration.Applied}
    (holds : E.Holds w rows) (stamped : ∀ a ∈ rows, a.installed = w.clock) (valid : w.clock.Valid)
    (target : String) :
    ∃ read, (E.versions target).run.run w = (.ok read, w) ∧
      read.map Migration.Applied.version =
        (rows.filter (·.target == target)).map Migration.Applied.version := by
  cases E with
  | relational =>
    refine ⟨(rows.filter (·.target == target)).map fun a => { a with installed := w.clock.toMillis },
      ?_, ?_⟩
    · unfold versions
      rw [onDatabase_run, Relational.versions_run holds stamped valid]
    · simp
  | document =>
    refine ⟨_, ?_, rfl⟩
    unfold versions
    rw [onDocuments_run, Document.versions_run holds fun a mem => stamped a mem ▸ valid]

/-- Recording a migration appends it to the history and keeps the engine's
own stores sound, the states and the clock; or it fails and changes
nothing. -/
theorem recordVersion_run {E : Engine} {w w' : World} {rows : List Migration.Applied}
    {a : Migration.Applied} {r : Except Error Unit} (sound : E.OwnSound w) (holds : E.Holds w rows)
    (ran : (E.recordVersion a).run.run w = (r, w')) :
    ((∃ e, r = .error e) ∧ w' = w) ∨ (r = .ok () ∧ E.OwnSound w' ∧ E.Holds w' (rows ++ [a]) ∧
      w'.states = w.states ∧ w'.clock = w.clock) := by
  cases E with
  | relational =>
    unfold recordVersion at ran
    obtain ⟨db, worked, rfl⟩ := onDatabase_inv ran
    rcases Relational.recordVersion_run holds worked with ⟨ok, grown, dicts⟩ | same
    · refine Or.inr ⟨ok, ⟨sound.1, ?_, ?_⟩, grown, rfl, rfl⟩
      · show Relational.DictsClear (db.table? "dict")
        rw [dicts]
        exact sound.2.1
      · show (db.table? "version_scheme").isSome
        rw [show db.table? "version_scheme" = _ from grown]
        rfl
    · obtain ⟨failed, rfl⟩ := same
      exact Or.inl ⟨failed, rfl⟩
  | document =>
    unfold recordVersion at ran
    obtain ⟨s, worked, rfl⟩ := onDocuments_inv ran
    rcases Document.recordVersion_run holds worked with ⟨ok, grown, dicts⟩ | same
    · refine Or.inr ⟨ok, ⟨sound.1, ?_, ?_⟩, grown, rfl, rfl⟩
      · show ∃ docs, s.collection? "dict" = some docs ∧ _
        rw [dicts]
        exact sound.2.1
      · show (s.collection? "version_scheme").isSome
        rw [show s.collection? "version_scheme" = _ from grown]
        rfl
    · obtain ⟨failed, rfl⟩ := same
      exact Or.inl ⟨failed, rfl⟩

end Engine

end Refbook
