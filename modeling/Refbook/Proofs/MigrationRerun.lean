import Refbook.Proofs.MigrationBatch
import Refbook.Proofs.ExportReplay
import Refbook.Proofs.TemporalText
import Refbook.Proofs.SqlParams

namespace Refbook

/-!
# Running a batch of migrations again

A batch is checked against the history of its target before anything runs:
a script whose version the history already records, read back from the
dotted text the run wrote, is skipped, provided its checksum is unchanged;
any other script must be newer than the installed version.  So a batch
runs again as a no-op, and a batch grown by newer scripts runs only those.

Two conditions make this so, and both are stated, not assumed away.  The
history must hold what the runs wrote: a script may itself write into the
history's own table or collection, and the document engine keeps the
history in a collection named like a dict, where a dict's records can land
in it.  And the versions must read back: `Version.parse_text` shows that
the dotted text of a version read from a file name parses to that very
version, so a recorded script is found again.

The main statements are `caught_up_batch_reruns_idle` (a batch the history
records runs again without an effect) and `caught_up_batch_applies_newer`
(a batch grown by newer scripts of its target runs exactly those, in
version order); `migrate_reruns_incrementally` joins the two for a batch of
one target.
-/

namespace Migration

/-! ## Walking a list through a failing function -/

section Walks

variable {α β ε : Type} {f : α -> Except ε β}

/-- A list each member of which is answered is answered member by member. -/
theorem except_mapM_ok {g : α -> β} {xs : List α} (each : ∀ x ∈ xs, f x = .ok (g x)) :
    xs.mapM f = .ok (xs.map g) := by
  induction xs with
  | nil => rfl
  | cons x rest ih =>
    have head := each x List.mem_cons_self
    have tail := ih fun y mem => each y (List.mem_cons_of_mem x mem)
    rw [List.mapM_cons, head, List.map_cons]
    simp only [Sql.except_ok_bind, tail]
    rfl

/-- A list walked to its end answered each of its members. -/
theorem except_mapM_mem {xs : List α} {ys : List β} (walked : xs.mapM f = .ok ys) {x : α}
    (mem : x ∈ xs) : ∃ y ∈ ys, f x = .ok y := by
  induction xs generalizing ys with
  | nil => cases mem
  | cons a rest ih =>
    rw [List.mapM_cons] at walked
    obtain ⟨b, first, walked⟩ := Sql.except_bind_ok walked
    obtain ⟨bs, later, done⟩ := Sql.except_bind_ok walked
    cases done
    rcases List.mem_cons.mp mem with rfl | mem
    · exact ⟨b, List.mem_cons_self, first⟩
    · obtain ⟨y, found, answered⟩ := ih later mem
      exact ⟨y, List.mem_cons_of_mem b found, answered⟩

end Walks

/-! ## The order of versions -/

namespace Version

/-- Segments compare as the lexicographic order of their lists. -/
theorem compareSegments_eq_compareLex (a b : List Nat) :
    compareSegments a b = List.compareLex compare a b := by
  induction a generalizing b with
  | nil => cases b <;> rfl
  | cons x xs ih =>
    cases b with
    | nil => rfl
    | cons y ys =>
      rw [compareSegments, List.compareLex_cons_cons, ← ih]
      cases compare x y <;> rfl

theorem order_eq_compareLex (a b : Version) :
    a.order b = List.compareLex compare a.significant b.significant :=
  compareSegments_eq_compareLex _ _

theorem order_swap (a b : Version) : b.order a = (a.order b).swap := by
  rw [order_eq_compareLex, order_eq_compareLex]
  exact Std.OrientedCmp.eq_swap

/-- Versions compare equal exactly when they are the same. -/
theorem order_eq_eq_iff {a b : Version} : a.order b = .eq ↔ a.same b = true := by
  rw [order_eq_compareLex, Std.LawfulEqCmp.compare_eq_iff_eq, same, beq_iff_eq]

theorem order_isLE_trans {a b c : Version} (first : (a.order b).isLE) (second : (b.order c).isLE) :
    (a.order c).isLE := by
  rw [order_eq_compareLex] at first second ⊢
  exact Std.TransCmp.isLE_trans first second

theorem order_isLE_total (a b : Version) : (a.order b).isLE ∨ (b.order a).isLE := by
  rw [order_swap a b]
  cases a.order b <;> simp

@[simp] theorem same_self (a : Version) : a.same a = true := by
  simp [same]

theorem same_comm (a b : Version) : a.same b = b.same a := by
  simp only [same]
  exact Bool.beq_comm

/-- A newer version is never the same. -/
theorem same_of_order_gt {a b : Version} (newer : a.order b = .gt) : a.same b = false := by
  rw [Bool.eq_false_iff]
  intro same
  rw [order_eq_eq_iff.mpr same] at newer
  cases newer

/-- Ordered both ways, two versions are the same. -/
theorem same_of_isLE {a b : Version} (first : (a.order b).isLE) (second : (b.order a).isLE) :
    a.same b = true := by
  rw [order_swap] at second
  apply order_eq_eq_iff.mp
  cases ordered : a.order b <;> simp_all

/-! ## Versions written and read back -/

/-- A version as a file name gives it: at least one segment, none past the
unsigned 64-bit range. -/
structure WellFormed (v : Version) : Prop where
  nonempty : v.segments ≠ []
  bounded : ∀ n ∈ v.segments, n ≤ maxSegment

/-- Digits are read into the value they write, when no prefix passes the
largest segment. -/
theorem readSegment_go_digits {ds : List Char} {acc : Nat} (digits : ∀ c ∈ ds, c.isDigit)
    (small : Nat.ofDigitChars 10 ds acc ≤ maxSegment) :
    readSegment.go ds acc = .ok (Nat.ofDigitChars 10 ds acc) := by
  induction ds generalizing acc with
  | nil => rfl
  | cons c cs ih =>
    have digit := Decimal.bounds_of_isDigit (digits c List.mem_cons_self)
    rw [Nat.ofDigitChars_cons] at small ⊢
    have prefixSmall : acc * 10 + (c.toNat - '0'.toNat) ≤ maxSegment := by
      have grows := @Nat.ofDigitChars_eq_ofDigitChars_zero cs (10 * acc + (c.toNat - '0'.toNat))
      have power : 1 ≤ 10 ^ cs.length := Nat.one_le_pow _ _ (by decide)
      have scaled := Nat.le_mul_of_pos_left (10 * acc + (c.toNat - '0'.toNat)) power
      omega
    rw [readSegment.go, if_pos digit, if_neg (by omega), Nat.mul_comm 10 acc]
    exact ih (fun d mem => digits d (List.mem_cons_of_mem c mem)) (by rwa [Nat.mul_comm])

/-- A number within range, written in decimal, reads back as itself. -/
theorem readSegment_toDigits {n : Nat} (small : n ≤ maxSegment) :
    readSegment (Nat.toDigits 10 n) = .ok n := by
  have digits : ∀ c ∈ Nat.toDigits 10 n, c.isDigit :=
    fun c mem => Nat.isDigit_of_mem_toDigits (by decide) (by decide) mem
  have value := @Nat.ofDigitChars_ten_toDigits n
  have read := readSegment_go_digits digits (by rw [value]; exact small)
  rw [value] at read
  obtain ⟨c, cs, written⟩ := List.exists_cons_of_ne_nil (@Nat.toDigits_ne_nil n 10)
  have unsigned : c ≠ '+' ∧ c ≠ '-' := by
    have digit := digits c (by rw [written]; exact List.mem_cons_self)
    constructor <;> rintro rfl <;> cases digit
  rw [written] at read ⊢
  unfold readSegment
  split
  · rename_i empty
    cases empty
  · rename_i single
    cases single
    exact absurd rfl unsigned.1
  · rename_i single
    cases single
    exact absurd rfl unsigned.2
  · rename_i rest plus
    cases plus
    exact absurd rfl unsigned.1
  · exact read

/-- The dotted text of a well-formed version reads back as that version. -/
theorem parse_text {v : Version} (formed : v.WellFormed) : parse v.text = .ok v := by
  have joined : v.text.toList = ['.'].intercalate (v.segments.map (Nat.toDigits 10)) := by
    simp only [text, String.toList_intercalate, List.map_map]
    congr 1
    exact List.map_congr_left fun n _ => Nat.toList_repr
  have dotless : ∀ l ∈ v.segments.map (Nat.toDigits 10), '.' ∉ l := by
    intro l mem dot
    obtain ⟨n, -, rfl⟩ := List.mem_map.mp mem
    cases Nat.isDigit_of_mem_toDigits (by decide) (by decide) dot
  have split : (v.text.toList.splitOn '.').map String.ofList =
      v.segments.map fun n => String.ofList (Nat.toDigits 10 n) := by
    rw [joined, List.splitOn_intercalate '.' dotless (by simpa using formed.nonempty), List.map_map]
    rfl
  have each : ∀ n ∈ v.segments,
      readSegment (Text.trim (String.ofList (Nat.toDigits 10 n))).toList = .ok n := by
    intro n mem
    have digits : ∀ c ∈ (String.ofList (Nat.toDigits 10 n)).toList, Text.isBlank c = false := by
      intro c inside
      rw [String.toList_ofList] at inside
      exact Temporal.Text.isBlank_of_digit (Nat.isDigit_of_mem_toDigits (by decide) (by decide) inside)
    rw [Text.trim_of_no_blank digits, String.toList_ofList]
    exact readSegment_toDigits (formed.bounded n mem)
  unfold parse
  simp only [split, List.mapM_map, Function.comp_def]
  rw [except_mapM_ok each, List.map_id']

end Version

/-! ## What a history records -/

/-- The record a run writes for a script of a target. -/
structure Applied.Of (row : Applied) (target : String) (script : Script) : Prop where
  target_eq : row.target = target
  version_eq : row.version = script.version.text
  file_eq : row.script = script.file
  checksum_eq : row.checksum = script.checksum

/-- The history of a target as a world keeps it: reading it answers `rows`,
and the version of each row reads back, giving `versions`. -/
structure History (w : World) (target : String) (rows : List Applied) (versions : List Version) :
    Prop where
  read : (w.defaultEngine.versions target).run.run w = (.ok rows, w)
  parsed : rows.mapM (fun row => Version.parse row.version) = .ok versions

/-- A history records a script as a run wrote it: some row holds the
script's version as dotted text, and every row whose version reads as the
same version carries the script's checksum. -/
structure Records (rows : List Applied) (script : Script) : Prop where
  written : ∃ row ∈ rows, row.version = script.version.text
  unchanged : ∀ row ∈ rows, ∀ v, Version.parse row.version = .ok v →
    v.same script.version = true → row.checksum = script.checksum

/-- A world reads one history for a target. -/
theorem History.unique {w : World} {target : String} {rows rows' : List Applied}
    {versions versions' : List Version} (first : History w target rows versions)
    (second : History w target rows' versions') : rows = rows' ∧ versions = versions' := by
  have same : rows = rows' := Except.ok.inj (congrArg Prod.fst (first.read.symm.trans second.read))
  subst same
  have parses := first.parsed.symm.trans second.parsed
  exact ⟨rfl, Except.ok.inj parses⟩

/-- The installed version is the newest of those the history holds. -/
theorem installedVersion_of_history {w : World} {target : String} {rows : List Applied}
    {versions : List Version} (history : History w target rows versions) :
    (installedVersion target).run.run w = (.ok (newest versions), w) := by
  unfold installedVersion
  rw [runState_bind_ok (show defaultEngine.run.run w = (.ok w.defaultEngine, w) from rfl),
    runState_bind_ok history.read, runState_bind_ok (by rw [liftExcept_run, history.parsed])]
  rfl

/-- What `recordOf` finds is a row of the history whose version reads as
the same as the script's. -/
theorem recordOf_some {history : List Applied} {script : Script} {row : Applied}
    (found : recordOf history script = some row) :
    row ∈ history ∧ ∃ v, Version.parse row.version = .ok v ∧ v.same script.version = true := by
  unfold recordOf at found
  refine ⟨List.mem_of_find?_eq_some found, ?_⟩
  have hit := List.find?_some found
  split at hit
  · rename_i v parsed
    exact ⟨v, parsed, hit⟩
  · cases hit

/-- A script a history records unchanged is found there, with its
checksum. -/
theorem recordOf_of_records {history : List Applied} {script : Script}
    (formed : script.version.WellFormed) (recorded : Records history script) :
    ∃ row, recordOf history script = some row ∧ row.checksum = script.checksum := by
  obtain ⟨written, mem, text⟩ := recorded.written
  have found : (recordOf history script).isSome := by
    unfold recordOf
    rw [List.find?_isSome]
    refine ⟨written, mem, ?_⟩
    rw [text, Version.parse_text formed]
    exact Version.same_self _
  obtain ⟨row, first⟩ := Option.isSome_iff_exists.mp found
  obtain ⟨rowMem, v, parsed, same⟩ := recordOf_some first
  exact ⟨row, first, recorded.unchanged row rowMem v parsed same⟩

/-- A script newer than every version of a history is not recorded there. -/
theorem recordOf_none {history : List Applied} {versions : List Version} {script : Script}
    (parsed : history.mapM (fun row => Version.parse row.version) = .ok versions)
    (newer : ∀ v ∈ versions, script.version.order v = .gt) : recordOf history script = none := by
  unfold recordOf
  rw [List.find?_eq_none]
  intro row mem hit
  obtain ⟨v, listed, read⟩ := except_mapM_mem parsed mem
  simp only [read] at hit
  rw [Version.same_comm, Version.same_of_order_gt (newer v listed)] at hit
  cases hit

/-! ## What a target stands at -/

/-- What the world lists a target at: listed, with the same state in each
of its entries. -/
structure Stands (w : World) (target : String) (state : MigrationState) : Prop where
  listed : ∃ entry ∈ w.states, entry.1 = target
  each : ∀ entry ∈ w.states, entry.1 = target → entry.2 = state

/-- Setting a target to what it stands at changes nothing. -/
theorem setState_stands {w : World} {target : String} {state : MigrationState}
    (stands : Stands w target state) : (setState target state).run.run w = (.ok ⟨⟩, w) := by
  have listed : w.states.any (·.1 = target) = true := by
    obtain ⟨entry, mem, named⟩ := stands.listed
    exact List.any_eq_true.mpr ⟨entry, mem, by simp [named]⟩
  unfold setState
  simp only [runState_modify, listed, if_true]
  rw [(List.map_congr_left fun entry mem => ?_).trans (List.map_id w.states)]
  obtain ⟨t, old⟩ := entry
  show (if t = target then (t, state) else (t, old)) = (t, old)
  by_cases named : t = target
  · have same : old = state := stands.each (t, old) mem named
    rw [if_pos named, same]
  · rw [if_neg named]

/-! ## The checks of a batch -/

/-- Neighbours in a list related pairwise are related. -/
theorem pairwise_zip_tail {α : Type} {R : α -> α -> Prop} {l : List α} (related : l.Pairwise R) :
    ∀ pair ∈ l.zip l.tail, R pair.1 pair.2 := by
  induction l with
  | nil => intro pair mem; cases mem
  | cons x rest ih =>
    cases rest with
    | nil => intro pair mem; cases mem
    | cons y later =>
      intro pair mem
      rw [List.tail_cons, List.zip_cons_cons, List.mem_cons] at mem
      rcases mem with rfl | mem
      · exact List.rel_of_pairwise_cons related List.mem_cons_self
      · exact ih related.of_cons pair mem

/-- Scripts whose versions differ pairwise pass the check for a shared
version. -/
theorem checkDistinct_ok {target : String} {ordered : List Script}
    (distinct : ordered.Pairwise fun a b => a.version.same b.version = false) :
    checkDistinct target ordered = .ok () := by
  unfold checkDistinct
  rw [List.find?_eq_none.mpr]
  rintro ⟨a, b⟩ mem hit
  have differ : a.version.same b.version = false := pairwise_zip_tail distinct (a, b) mem
  change a.version.same b.version = true at hit
  rw [differ] at hit
  cases hit

/-- A fold that keeps some members, in order, and refuses none. -/
theorem foldlM_keep {α ε : Type} {f : List α -> α -> Except ε (List α)} {keep : α -> Bool}
    {xs acc : List α} (step : ∀ acc, ∀ x ∈ xs, f acc x = .ok (if keep x then acc ++ [x] else acc)) :
    xs.foldlM f acc = .ok (acc ++ xs.filter keep) := by
  induction xs generalizing acc with
  | nil =>
    rw [List.foldlM_nil, List.filter_nil, List.append_nil]
    rfl
  | cons x rest ih =>
    rw [List.foldlM_cons, step acc x List.mem_cons_self, Sql.except_ok_bind,
      ih fun acc y mem => step acc y (List.mem_cons_of_mem x mem)]
    by_cases kept : keep x = true <;> simp [kept]

/-- The pending scripts of a batch whose recorded scripts are unchanged and
whose other scripts are newer than the installed version: the scripts not
recorded, in the batch's order. -/
theorem pendingScripts_unrecorded {target : String} {history : List Applied}
    {installed : Option Version} {ordered : List Script}
    (each : ∀ s ∈ ordered, (∃ row, recordOf history s = some row ∧ row.checksum = s.checksum) ∨
      (recordOf history s = none ∧ ∀ c, installed = some c → s.version.order c = .gt)) :
    pendingScripts target history installed ordered =
      .ok (ordered.filter fun s => (recordOf history s).isNone) := by
  unfold pendingScripts
  rw [← List.nil_append (ordered.filter _)]
  apply foldlM_keep
  intro pending s mem
  rcases each s mem with ⟨row, found, unchanged⟩ | ⟨unrecorded, newer⟩
  · simp only [found, Option.isNone_some]
    rw [if_neg (not_not.mpr unchanged)]
    rfl
  · cases installed with
    | none => simp only [unrecorded, Option.isNone_none, if_true]
    | some current =>
      simp only [unrecorded, Option.isNone_none, if_true]
      rw [if_neg (not_not.mpr (newer current rfl))]

/-! ## Version order -/

theorem mem_orderByVersion {scripts : List Script} {s : Script} :
    s ∈ orderByVersion Script.version scripts ↔ s ∈ scripts :=
  List.mem_mergeSort

theorem orderByVersion_perm (scripts : List Script) :
    (orderByVersion Script.version scripts).Perm scripts :=
  List.mergeSort_perm _ _

theorem ne_gt_eq_isLE (o : Ordering) : (o != .gt) = o.isLE := by
  cases o <;> rfl

/-- A batch in version order is ordered by version. -/
theorem orderByVersion_sorted (scripts : List Script) :
    (orderByVersion Script.version scripts).Pairwise fun a b => (a.version.order b.version).isLE := by
  have sorted := @List.pairwise_mergeSort Script (fun a b => a.version.order b.version != .gt)
    (fun a b c first second => by
      rw [ne_gt_eq_isLE] at first second ⊢
      exact Version.order_isLE_trans first second)
    (fun a b => by
      rw [ne_gt_eq_isLE, ne_gt_eq_isLE, Bool.or_eq_true]
      exact Version.order_isLE_total _ _)
    scripts
  exact sorted.imp fun ordered => by rwa [ne_gt_eq_isLE] at ordered

/-- Of scripts whose versions differ pairwise, two of the same version are
one. -/
theorem eq_of_same {N : List Script} (apart : N.Pairwise fun a b => a.version.same b.version = false)
    {a b : Script} (first : a ∈ N) (second : b ∈ N) (same : a.version.same b.version = true) :
    a = b := by
  have : Std.Symm fun a b : Script => a.version.same b.version = false :=
    ⟨fun a b differ => by rwa [Version.same_comm]⟩
  by_contra other
  rw [apart.forall first second other] at same
  cases same

/-- Taken out of a batch in version order, scripts of distinct versions that
a test keeps, all others being dropped, stand in their own version order. -/
theorem filter_orderByVersion {B N : List Script} {keep : Script -> Bool}
    (dropped : ∀ s ∈ B, keep s = false) (kept : ∀ s ∈ N, keep s = true)
    (apart : N.Pairwise fun a b => a.version.same b.version = false) :
    (orderByVersion Script.version (B ++ N)).filter keep = orderByVersion Script.version N := by
  have selected : (B ++ N).filter keep = N := by
    rw [List.filter_append, List.filter_eq_nil_iff.mpr (fun s mem => by simp [dropped s mem]),
      List.filter_eq_self.mpr kept, List.nil_append]
  have perm : ((orderByVersion Script.version (B ++ N)).filter keep).Perm
      (orderByVersion Script.version N) := by
    refine ((orderByVersion_perm _).filter keep).trans ?_
    rw [selected]
    exact (orderByVersion_perm _).symm
  refine List.Perm.eq_of_pairwise ?_ ((orderByVersion_sorted _).filter keep)
    (orderByVersion_sorted _) perm
  intro a b first second ab ba
  have inN : a ∈ N := by
    obtain ⟨ordered, taken⟩ := List.mem_filter.mp first
    rw [← selected]
    exact List.mem_filter.mpr ⟨mem_orderByVersion.mp ordered, taken⟩
  exact eq_of_same apart inN (mem_orderByVersion.mp second) (Version.same_of_isLE ab ba)

/-! ## The rounds of a run -/

/-- A script that runs to the end answers the record of its run. -/
theorem applyScript_row {target : String} {script : Script} {u u' : World} {row : Applied}
    (ran : (applyScript target script).run.run u = (.ok row, u')) : row.Of target script := by
  unfold applyScript at ran
  obtain ⟨id, issued⟩ := freshId_run u
  rw [runState_bind_ok issued, runState_bind_ok (show now.run.run _ = (.ok _, _) from rfl)] at ran
  dsimp only at ran
  rw [runState_bind_ok (show defaultEngine.run.run _ = (.ok _, _) from rfl), runState_bind] at ran
  split at ran
  · cases ran
    exact ⟨rfl, rfl, rfl, rfl⟩
  · cases ran

/-- The rounds of a loop that ends answer the records of their scripts, in
order. -/
theorem loop_rows {target : String}
    {f : List Applied × Option Version -> Script -> WorldM (List Applied × Option Version)}
    (round : IsRound target f) {scripts : List Script} {acc applied : List Applied}
    {installed reached : Option Version} {u u' : World}
    (ran : (scripts.foldlM f (acc, installed)).run.run u = (.ok (applied, reached), u')) :
    ∃ rows, applied = acc ++ rows ∧ List.Forall₂ (fun s row => Applied.Of row target s) scripts rows := by
  induction scripts generalizing acc installed u with
  | nil =>
    cases ran
    exact ⟨[], by rw [List.append_nil], List.Forall₂.nil⟩
  | cons script rest ih =>
    rw [List.foldlM_cons, runState_bind] at ran
    rcases first : (f (acc, installed) script).run.run u with ⟨result, u₁⟩
    rw [first] at ran
    cases result with
    | error e => cases ran
    | ok next =>
      obtain ⟨row, script_ran, rfl⟩ := round_ok round first
      obtain ⟨rows, rfl, later⟩ := ih ran
      have written : row.Of target script := by
        rw [runState_bind_ok (setState_run target .migrating u)] at script_ran
        exact applyScript_row script_ran
      exact ⟨row :: rows, by rw [List.append_assoc, List.singleton_append],
        List.Forall₂.cons written later⟩

/-- What running a target's pending scripts did, read off its outcome.  On
success each script ran to the end in a round of its own, and the answer
lists their records in order.  On failure the scripts before one ran so,
that one failed in its round, and the stores are as the earlier rounds left
them. -/
def Ran (target : String) (pending : List Script) (w : World) :
    Except Error (List Applied) × World -> Prop
  | (.ok applied, w') => ∃ w₁, Applies target pending w w₁ ∧
      List.Forall₂ (fun s row => Applied.Of row target s) pending applied ∧
      w'.database = w₁.database ∧ w'.documents = w₁.documents
  | (.error e, w') => ∃ done script later w₁ cause v, pending = done ++ script :: later ∧
      Applies target done w w₁ ∧
      (do setState target .migrating; applyScript target script).run.run w₁ = (.error cause, v) ∧
      e = .migrationApplied script.file cause ∧
      w'.database = w₁.database ∧ w'.documents = w₁.documents

/-! ## One target's batch -/

section Batch

variable {target : String} {scripts : List Script} {w : World} {rows : List Applied}
  {versions : List Version}

/-- A batch whose checks pass and leave nothing pending, run from a world
in which its target stands settled, answers nothing and changes nothing. -/
theorem applyPending_idle
    (distinct : checkDistinct target (orderByVersion Script.version scripts) = .ok ())
    (history : History w target rows versions)
    (nothing : pendingScripts target rows (newest versions)
      (orderByVersion Script.version scripts) = .ok [])
    (stands : Stands w target (settled (newest versions))) :
    (applyPending target scripts).run.run w = (.ok [], w) := by
  unfold applyPending
  dsimp only
  rw [runState_bind_ok (by rw [liftExcept_run, distinct]),
    runState_bind_ok (show defaultEngine.run.run w = (.ok w.defaultEngine, w) from rfl),
    runState_bind_ok history.read, runState_bind_ok (installedVersion_of_history history),
    runState_bind_ok (by rw [liftExcept_run, nothing]), List.foldlM_nil,
    runState_bind_ok (runState_pure _ w)]
  dsimp only
  rw [runState_bind_ok (setState_stands stands)]
  rfl

/-- A batch whose checks pass runs exactly its pending scripts, in their
order. -/
theorem applyPending_ran {pending : List Script}
    (distinct : checkDistinct target (orderByVersion Script.version scripts) = .ok ())
    (history : History w target rows versions)
    (checked : pendingScripts target rows (newest versions)
      (orderByVersion Script.version scripts) = .ok pending) :
    Ran target pending w ((applyPending target scripts).run.run w) := by
  unfold applyPending
  dsimp only
  rw [runState_bind_ok (by rw [liftExcept_run, distinct]),
    runState_bind_ok (show defaultEngine.run.run w = (.ok w.defaultEngine, w) from rfl),
    runState_bind_ok history.read, runState_bind_ok (installedVersion_of_history history),
    runState_bind_ok (by rw [liftExcept_run, checked]), runState_bind]
  split
  next r w₁ loop =>
    obtain ⟨applied, reached⟩ := r
    obtain ⟨rows, rfl, written⟩ := loop_rows (by exact fun _ _ _ => rfl) loop
    dsimp only
    rw [runState_bind_ok (setState_run target (settled reached) w₁)]
    exact ⟨w₁, applies_of_foldlM (by exact fun _ _ _ => rfl) loop, written,
      setState_database target _ w₁, setState_documents target _ w₁⟩
  next e w₁ loop =>
    exact loop_error (by exact fun _ _ _ => rfl) loop

/-- The batch of one target, each script of which the target's history
records, runs again without an effect, provided the target stands at the
newest recorded version. -/
theorem batch_reruns_idle (formed : ∀ s ∈ scripts, s.version.WellFormed)
    (distinct : scripts.Pairwise fun a b => a.version.same b.version = false)
    (history : History w target rows versions) (recorded : ∀ s ∈ scripts, Records rows s)
    (stands : Stands w target (settled (newest versions))) :
    (applyPending target scripts).run.run w = (.ok [], w) := by
  have ordered : (orderByVersion Script.version scripts).Pairwise
      fun a b => a.version.same b.version = false :=
    ((orderByVersion_perm scripts).pairwise_iff fun differ => by rwa [Version.same_comm]).mpr distinct
  have found : ∀ s ∈ orderByVersion Script.version scripts,
      ∃ row, recordOf rows s = some row ∧ row.checksum = s.checksum := fun s mem =>
    recordOf_of_records (formed s (mem_orderByVersion.mp mem)) (recorded s (mem_orderByVersion.mp mem))
  have nothing : pendingScripts target rows (newest versions)
      (orderByVersion Script.version scripts) = .ok [] := by
    have noneUnrecorded : (orderByVersion Script.version scripts).filter
        (fun s => (recordOf rows s).isNone) = [] := by
      rw [List.filter_eq_nil_iff]
      intro s mem unrecorded
      obtain ⟨row, first, -⟩ := found s mem
      rw [first] at unrecorded
      cases unrecorded
    rw [pendingScripts_unrecorded fun s mem => .inl (found s mem), noneUnrecorded]
  exact applyPending_idle (checkDistinct_ok ordered) history nothing stands

end Batch

/-- The newest of some versions is one of them. -/
theorem newest_mem {versions : List Version} {c : Version} (found : newest versions = some c) :
    c ∈ versions := by
  have picks : ∀ {step : Option Version → Version → Option Version}
      (turn : ∀ best v, step best v = best ∨ step best v = some v)
      {vs : List Version} {init : Option Version},
      vs.foldl step init = some c → init = some c ∨ c ∈ vs := by
    intro step turn vs
    induction vs with
    | nil => intro init done; exact .inl done
    | cons v rest ih =>
      intro init done
      rcases ih done with kept | later
      · rcases turn init v with same | took
        · exact .inl (same ▸ kept)
        · rw [took] at kept
          cases kept
          exact .inr List.mem_cons_self
      · exact .inr (List.mem_cons_of_mem v later)
  unfold newest at found
  refine (picks (fun best v => ?_) found).resolve_left fun absurd => ?_
  · cases best with
    | none => exact .inr rfl
    | some b =>
      dsimp only
      split
      · exact .inl rfl
      · exact .inr rfl
  · cases absurd

/-! ## Batches of several targets -/

/-- Collecting targets keeps those collected and adds the new ones. -/
theorem mem_foldl_targets {acc names : List String} {t : String} :
    t ∈ names.foldl (fun acc t => if acc.contains t then acc else acc ++ [t]) acc ↔
      t ∈ acc ∨ t ∈ names := by
  induction names generalizing acc with
  | nil => simp
  | cons n rest ih =>
    rw [List.foldl_cons, ih]
    by_cases contained : acc.contains n = true
    · have listed : n ∈ acc := List.elem_iff.mp contained
      rw [if_pos contained]
      constructor
      · rintro (mem | mem)
        · exact .inl mem
        · exact .inr (List.mem_cons_of_mem n mem)
      · rintro (mem | mem)
        · exact .inl mem
        · rcases List.mem_cons.mp mem with rfl | mem
          · exact .inl listed
          · exact .inr mem
    · rw [if_neg contained, List.mem_append, List.mem_singleton, List.mem_cons, or_assoc]

/-- The targets of a batch are those of its scripts. -/
theorem mem_targets {scripts : List Script} {t : String} :
    t ∈ targets scripts ↔ ∃ s ∈ scripts, s.target = t := by
  unfold targets
  rw [List.mem_mergeSort, mem_foldl_targets]
  simp

/-- Collecting targets already collected changes nothing. -/
theorem foldl_targets_collected {acc names : List String} (collected : ∀ t ∈ names, t ∈ acc) :
    names.foldl (fun acc t => if acc.contains t then acc else acc ++ [t]) acc = acc := by
  induction names with
  | nil => rfl
  | cons n rest ih =>
    rw [List.foldl_cons, if_pos (List.elem_iff.mpr (collected n List.mem_cons_self))]
    exact ih fun t mem => collected t (List.mem_cons_of_mem n mem)

/-- A batch of one target's scripts has that target alone. -/
theorem targets_of_one {scripts : List Script} {target : String}
    (all : ∀ s ∈ scripts, s.target = target) (nonempty : scripts ≠ []) :
    targets scripts = [target] := by
  obtain ⟨first, rest, rfl⟩ := List.exists_cons_of_ne_nil nonempty
  have later : ∀ t ∈ rest.map Script.target, t ∈ [target] := by
    intro t mem
    obtain ⟨s, listed, rfl⟩ := List.mem_map.mp mem
    rw [all s (List.mem_cons_of_mem first listed)]
    exact List.mem_singleton_self _
  unfold targets
  rw [List.map_cons, List.foldl_cons, all first List.mem_cons_self]
  simp only [List.contains_nil, Bool.false_eq_true, if_false, List.nil_append]
  rw [foldl_targets_collected later, List.mergeSort_singleton]

/-- A batch of one target's scripts runs as that target's batch. -/
theorem migrate_of_one {scripts : List Script} {target : String}
    (all : ∀ s ∈ scripts, s.target = target) (nonempty : scripts ≠ []) (w : World) :
    (migrate scripts).run.run w = (applyPending target scripts).run.run w := by
  have kept : scripts.filter (·.target = target) = scripts :=
    List.filter_eq_self.mpr fun s mem => by simp [all s mem]
  unfold migrate
  rw [targets_of_one all nonempty, List.mapM_cons, List.mapM_nil, kept]
  simp only [bind_assoc, pure_bind, List.flatten_cons, List.flatten_nil, List.append_nil, bind_pure]

/-- A batch each target of which runs idle runs idle as a whole. -/
theorem migrate_idle {scripts : List Script} {w : World}
    (idle : ∀ t ∈ targets scripts,
      (applyPending t (scripts.filter (·.target = t))).run.run w = (.ok [], w)) :
    (migrate scripts).run.run w = (.ok [], w) := by
  have walked : ∀ ts : List String, (∀ t ∈ ts,
      (applyPending t (scripts.filter (·.target = t))).run.run w = (.ok [], w)) →
      (ts.mapM fun t => applyPending t (scripts.filter (·.target = t))).run.run w =
        (.ok (ts.map fun _ => []), w) := by
    intro ts each
    induction ts with
    | nil => rfl
    | cons t rest ih =>
      rw [List.mapM_cons, runState_bind_ok (each t List.mem_cons_self),
        runState_bind_ok (ih fun u mem => each u (List.mem_cons_of_mem t mem))]
      rfl
  unfold migrate
  rw [runState_bind_ok (walked _ idle), runState_pure]
  simp

/-! ## Running a batch again -/

/-- A world is caught up with a batch when the target of each of its
scripts has a history that records the script as a run writes it, and the
target stands at the newest version of that history. -/
def CaughtUp (w : World) (scripts : List Script) : Prop :=
  ∀ s ∈ scripts, ∃ rows versions, History w s.target rows versions ∧ Records rows s ∧
    Stands w s.target (settled (newest versions))

/-- Migrating a batch again from a world caught up with it answers that
nothing was applied, and changes nothing: no store, no history row, no
state of a target.  The batch is one a first run accepts: its versions are
read from file names and differ within each target. -/
theorem caught_up_batch_reruns_idle {scripts : List Script} {w : World}
    (formed : ∀ s ∈ scripts, s.version.WellFormed)
    (distinct : scripts.Pairwise fun a b => a.target = b.target → a.version.same b.version = false)
    (caughtUp : CaughtUp w scripts) :
    (migrate scripts).run.run w = (.ok [], w) := by
  apply migrate_idle
  intro target named
  obtain ⟨first, listed, rfl⟩ := mem_targets.mp named
  obtain ⟨rows, versions, history, -, stands⟩ := caughtUp first listed
  have recorded : ∀ s ∈ scripts.filter (·.target = first.target), Records rows s := by
    intro s mem
    obtain ⟨inBatch, sameTarget⟩ := List.mem_filter.mp mem
    obtain ⟨rows', versions', history', records, -⟩ := caughtUp s inBatch
    rw [of_decide_eq_true sameTarget] at history'
    rw [(history.unique history').1]
    exact records
  have apart : (scripts.filter (·.target = first.target)).Pairwise
      fun a b => a.version.same b.version = false := by
    refine (distinct.filter _).imp_of_mem ?_
    intro a b memA memB differ
    exact differ ((of_decide_eq_true (List.mem_filter.mp memA).2).trans
      (of_decide_eq_true (List.mem_filter.mp memB).2).symm)
  exact batch_reruns_idle (fun s mem => formed s (List.mem_filter.mp mem).1) apart history
    recorded stands

/-- A batch of one target grown by newer scripts, migrated from a world
whose history records the batch, runs exactly the newer scripts, in version
order.  The newer scripts differ in version from each other and are newer
than every version of the history. -/
theorem caught_up_batch_applies_newer {target : String} {B N : List Script} {w : World}
    {rows : List Applied} {versions : List Version}
    (ofTarget : ∀ s ∈ B ++ N, s.target = target)
    (formed : ∀ s ∈ B, s.version.WellFormed)
    (distinct : B.Pairwise fun a b => a.version.same b.version = false)
    (history : History w target rows versions) (recorded : ∀ s ∈ B, Records rows s)
    (apart : N.Pairwise fun a b => a.version.same b.version = false)
    (newer : ∀ s ∈ N, ∀ v ∈ versions, s.version.order v = .gt) :
    Ran target (orderByVersion Script.version N) w ((migrate (B ++ N)).run.run w) := by
  by_cases empty : B ++ N = []
  · obtain ⟨rfl, rfl⟩ := List.append_eq_nil_iff.mp empty
    have idle : ∀ t ∈ targets ([] : List Script),
        (applyPending t ([].filter (·.target = t))).run.run w = (.ok [], w) := by
      intro t named
      obtain ⟨s, mem, -⟩ := mem_targets.mp named
      cases mem
    rw [List.append_nil, migrate_idle idle,
      show orderByVersion Script.version ([] : List Script) = [] from List.mergeSort_nil]
    exact ⟨w, Applies.nil w, List.Forall₂.nil, rfl, rfl⟩
  rw [migrate_of_one ofTarget empty]
  have found : ∀ s ∈ B, ∃ row, recordOf rows s = some row ∧ row.checksum = s.checksum :=
    fun s mem => recordOf_of_records (formed s mem) (recorded s mem)
  have fresh : ∀ s ∈ N, recordOf rows s = none :=
    fun s mem => recordOf_none history.parsed (newer s mem)
  have older : ∀ b ∈ B, ∀ n ∈ N, b.version.same n.version = false := by
    intro b memB n memN
    obtain ⟨row, rowMem, text⟩ := (recorded b memB).written
    obtain ⟨v, listed, parsed⟩ := except_mapM_mem history.parsed rowMem
    rw [text, Version.parse_text (formed b memB)] at parsed
    cases parsed
    rw [Version.same_comm]
    exact Version.same_of_order_gt (newer n memN _ listed)
  have ordered : (orderByVersion Script.version (B ++ N)).Pairwise
      fun a b => a.version.same b.version = false :=
    ((orderByVersion_perm _).pairwise_iff fun differ => by rwa [Version.same_comm]).mpr
      (List.pairwise_append.mpr ⟨distinct, apart, older⟩)
  have pending : pendingScripts target rows (newest versions)
      (orderByVersion Script.version (B ++ N)) = .ok (orderByVersion Script.version N) := by
    rw [pendingScripts_unrecorded, filter_orderByVersion]
    · intro s mem
      obtain ⟨row, first, -⟩ := found s mem
      rw [first]
      rfl
    · intro s mem
      rw [fresh s mem]
      rfl
    · exact apart
    · intro s mem
      rcases List.mem_append.mp (mem_orderByVersion.mp mem) with memB | memN
      · exact .inl (found s memB)
      · exact .inr ⟨fresh s memN, fun c installed => newer s memN c (newest_mem installed)⟩
  exact applyPending_ran (checkDistinct_ok ordered) history pending

/-- Migrating is idempotent and incremental, over a history that holds
what the runs wrote.  A batch of one target, run again from a world whose
history records it and in which the target stands at the newest recorded
version, answers that nothing was applied and changes nothing; grown by
scripts newer than the history, it runs exactly those, in version order. -/
theorem migrate_reruns_incrementally {target : String} {B N : List Script} {w : World}
    {rows : List Applied} {versions : List Version}
    (ofTarget : ∀ s ∈ B ++ N, s.target = target)
    (formed : ∀ s ∈ B, s.version.WellFormed)
    (distinct : B.Pairwise fun a b => a.version.same b.version = false)
    (history : History w target rows versions) (recorded : ∀ s ∈ B, Records rows s)
    (stands : Stands w target (settled (newest versions)))
    (apart : N.Pairwise fun a b => a.version.same b.version = false)
    (newer : ∀ s ∈ N, ∀ v ∈ versions, s.version.order v = .gt) :
    (migrate B).run.run w = (.ok [], w) ∧
      Ran target (orderByVersion Script.version N) w ((migrate (B ++ N)).run.run w) := by
  have caughtUp : CaughtUp w B := by
    intro s mem
    rw [ofTarget s (List.mem_append_left N mem)]
    exact ⟨rows, versions, history, recorded s mem, stands⟩
  have distinctByTarget : B.Pairwise fun a b => a.target = b.target → a.version.same b.version = false :=
    distinct.imp fun {a b} differ (_ : a.target = b.target) => differ
  exact ⟨caught_up_batch_reruns_idle formed distinctByTarget caughtUp,
    caught_up_batch_applies_newer ofTarget formed distinct history recorded apart newer⟩

/-! ## A store that has run version 1 -/

/-- The record of the empty script `V1__a.sql` of target `t`. -/
def recordedRow : Applied :=
  { id := "r1", target := "t", version := "1", script := "V1__a.sql",
    checksum := Digest.checksum "", installed := ⟨⟨2024, 1, 31⟩, 10, 15, 30, 250000000⟩ }

/-- The relational table of applied migrations, holding that record. -/
def recordedTable : Relational.Table where
  name := "version_scheme"
  columns := [{ name := "id", declared := "text", notNull := true, primaryKey := true },
    { name := "target", declared := "text", notNull := true },
    { name := "version", declared := "text", notNull := true },
    { name := "script", declared := "text", notNull := true },
    { name := "checksum", declared := "text", notNull := true },
    { name := "installed", declared := "timestamp", notNull := true }]
  rows := [[.text "r1", .text "t", .text "1", .text "V1__a.sql", .text (Digest.checksum ""),
    .text "2024-01-31T10:15:30.250"]]

/-- A relational store that has run `V1__a.sql` of target `t`. -/
def recordedWorld : World where
  defaultEngine := .relational
  clock := default
  issued := 1
  database := { tables := [recordedTable] }
  states := [("t", .upToDate ⟨[1]⟩)]

theorem recordedWorld_history : History recordedWorld "t" [recordedRow] [⟨[1]⟩] := by
  obtain ⟨rows, read, same⟩ := Stateless.ok_of_any
    (Engine.versions_stateless recordedWorld.defaultEngine "t") recordedWorld
    (fun rows => decide (rows = [recordedRow])) (by decide +kernel)
  rw [of_decide_eq_true same] at read
  exact ⟨read, rfl⟩

theorem recordedRow_records : Records [recordedRow] (emptyScript "t" "V1__a.sql" ⟨[1]⟩) := by
  refine ⟨⟨recordedRow, List.mem_singleton_self _, rfl⟩, ?_⟩
  intro row mem v parsed same
  rw [List.mem_singleton] at mem
  subst mem
  rfl

/-- Version 1 of `t` run again from the store that has run it is idle; run
with versions 3 and 2 it runs exactly those, 2 before 3. -/
theorem recorded_history_rerun_sample :
    (History recordedWorld "t" [recordedRow] [⟨[1]⟩] ∧
      Records [recordedRow] (emptyScript "t" "V1__a.sql" ⟨[1]⟩) ∧
      Stands recordedWorld "t" (settled (newest [⟨[1]⟩]))) ∧
    (migrate [emptyScript "t" "V1__a.sql" ⟨[1]⟩]).run.run recordedWorld =
      (.ok [], recordedWorld) ∧
    Ran "t" (orderByVersion Script.version
        [emptyScript "t" "V3__c.sql" ⟨[3]⟩, emptyScript "t" "V2__b.sql" ⟨[2]⟩]) recordedWorld
      ((migrate ([emptyScript "t" "V1__a.sql" ⟨[1]⟩] ++
        [emptyScript "t" "V3__c.sql" ⟨[3]⟩, emptyScript "t" "V2__b.sql" ⟨[2]⟩])).run.run
          recordedWorld) := by
  have formed : ∀ s ∈ [emptyScript "t" "V1__a.sql" ⟨[1]⟩], s.version.WellFormed := by
    intro s mem
    rw [List.mem_singleton] at mem
    subst mem
    exact ⟨by simp [emptyScript], by decide⟩
  have recorded : ∀ s ∈ [emptyScript "t" "V1__a.sql" ⟨[1]⟩], Records [recordedRow] s := by
    intro s mem
    rw [List.mem_singleton] at mem
    subst mem
    exact recordedRow_records
  have stands : Stands recordedWorld "t" (settled (newest [⟨[1]⟩])) := by
    refine ⟨⟨("t", .upToDate ⟨[1]⟩), List.mem_singleton_self _, rfl⟩, ?_⟩
    intro entry mem named
    change entry ∈ [("t", .upToDate ⟨[1]⟩)] at mem
    rw [List.mem_singleton] at mem
    subst mem
    rfl
  exact ⟨⟨recordedWorld_history, recordedRow_records, stands⟩,
    migrate_reruns_incrementally (by decide) formed (List.pairwise_singleton _ _)
      recordedWorld_history recorded stands (by decide) (by decide)⟩

end Migration

end Refbook
