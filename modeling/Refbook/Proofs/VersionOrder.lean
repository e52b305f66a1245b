import Mathlib.Data.List.DropRight
import Refbook.Proofs.MigrationRerun

namespace Refbook
namespace Migration

/-!
# Versions as zero-padded segment lists

Versions compare by their significant segments: the segments up to the
last that is not zero.  That is the comparison of the whole segment lists
once the shorter is padded with zeros to the length of the longer, since a
zero after the last significant segment decides no comparison.  So `1.9`
comes before `1.10`, and `1.0` is the same version as `1`.

Scripts are put in version order by a stable sort: scripts of one version
keep the order they were given in.  And the dotted text that a file name's
version is written as reads back as that very version.

The main statement is `version_order_padded`.
-/

namespace Version

/-! ## Trailing zero segments -/

/-- A segment list that does not end in a zero. -/
def Trimmed (s : List Nat) : Prop :=
  s.getLast? ≠ some 0

theorem Trimmed.tail {a : Nat} {s : List Nat} (trimmed : Trimmed (a :: s)) : Trimmed s := by
  intro last
  apply trimmed
  rw [List.getLast?_cons, last]
  rfl

theorem significant_eq_rdropWhile (v : Version) :
    v.significant = v.segments.rdropWhile fun n => decide (n = 0) :=
  rfl

/-- The significant segments end in a segment that is not zero. -/
theorem significant_trimmed (v : Version) : Trimmed v.significant := by
  intro last
  have nonempty : v.significant ≠ [] := by
    intro empty
    rw [empty] at last
    cases last
  rw [List.getLast?_eq_some_getLast nonempty, Option.some.injEq] at last
  have kept := List.rdropWhile_last_not (fun n : Nat => decide (n = 0)) v.segments nonempty
  exact kept (decide_eq_true last)

/-- A version's segments are its significant segments followed by zeros. -/
theorem segments_eq_significant_append (v : Version) :
    ∃ k, v.segments = v.significant ++ List.replicate k 0 := by
  let zeros := v.segments.rtakeWhile fun n => decide (n = 0)
  have allZero : zeros = List.replicate zeros.length 0 :=
    List.eq_replicate_iff.mpr ⟨rfl, fun n mem => by simpa using List.mem_rtakeWhile_imp mem⟩
  refine ⟨zeros.length, ?_⟩
  rw [← allZero]
  exact List.rdropWhile_append_rtakeWhile.symm

/-! ## Comparing padded lists -/

/-- Zeros come before a trimmed list that is not empty, padded with zeros
to their length. -/
theorem compareLex_zeros_trimmed {t : List Nat} (trimmed : Trimmed t) (nonempty : t ≠ [])
    (j : Nat) :
    List.compareLex compare (List.replicate (t.length + j) 0) (t ++ List.replicate j 0) = .lt := by
  induction t with
  | nil => exact absurd rfl nonempty
  | cons b bs ih =>
    rw [List.length_cons, Nat.add_right_comm, List.replicate_succ, List.cons_append,
      List.compareLex_cons_cons]
    by_cases zero : b = 0
    · subst zero
      have rest : bs ≠ [] := by
        rintro rfl
        exact trimmed rfl
      rw [ih trimmed.tail rest]
      rfl
    · rw [Nat.compare_eq_lt.mpr (Nat.pos_of_ne_zero zero)]
      rfl

/-- Zeros after trimmed lists change no comparison, once the padded lists
have one length. -/
theorem compareLex_pad_trimmed {s t : List Nat} (st : Trimmed s) (tt : Trimmed t) {i j : Nat}
    (lengths : s.length + i = t.length + j) :
    List.compareLex compare (s ++ List.replicate i 0) (t ++ List.replicate j 0) =
      List.compareLex compare s t := by
  induction s generalizing t i j with
  | nil =>
    cases t with
    | nil =>
      have same : i = j := by simpa using lengths
      rw [same]
      exact Std.ReflCmp.compare_self
    | cons b bs =>
      have padded : i = (b :: bs).length + j := by simpa using lengths
      rw [List.nil_append, padded, compareLex_zeros_trimmed tt (List.cons_ne_nil b bs)]
      rfl
  | cons a as ih =>
    cases t with
    | nil =>
      have padded : j = (a :: as).length + i := by simp at lengths ⊢; omega
      rw [List.nil_append, padded, @Std.OrientedCmp.eq_swap (List Nat) (List.compareLex compare),
        compareLex_zeros_trimmed st (List.cons_ne_nil a as)]
      rfl
    | cons b bs =>
      rw [List.cons_append, List.cons_append, List.compareLex_cons_cons,
        List.compareLex_cons_cons, ih st.tail tt.tail (by simp at lengths; omega)]

/-- A version's segments padded with zeros are its significant segments
padded with zeros. -/
theorem rightpad_eq_significant_append (v : Version) (n : Nat) :
    ∃ k, v.segments.rightpad n 0 = v.significant ++ List.replicate k 0 ∧
      v.significant.length + k = max n v.segments.length := by
  obtain ⟨k, split⟩ := v.segments_eq_significant_append
  have lengths := congrArg List.length split
  rw [List.length_append, List.length_replicate] at lengths
  refine ⟨k + (n - v.segments.length), ?_, by omega⟩
  rw [List.rightpad, ← List.replicate_append_replicate, ← List.append_assoc, ← split]

/-- Versions compare as their segment lists once the shorter is padded with
zeros to the length of the longer. -/
theorem order_eq_compareLex_rightpad (a b : Version) :
    a.order b = List.compareLex compare (a.segments.rightpad b.segments.length 0)
      (b.segments.rightpad a.segments.length 0) := by
  obtain ⟨k, padA, lengthA⟩ := a.rightpad_eq_significant_append b.segments.length
  obtain ⟨m, padB, lengthB⟩ := b.rightpad_eq_significant_append a.segments.length
  rw [order_eq_compareLex, padA, padB]
  exact (compareLex_pad_trimmed a.significant_trimmed b.significant_trimmed (by omega)).symm

/-- Two versions are the same exactly when they compare equal padded, that
is, when they differ only in trailing zero segments. -/
theorem same_iff_rightpad (a b : Version) :
    a.same b = true ↔ a.segments.rightpad b.segments.length 0 =
      b.segments.rightpad a.segments.length 0 := by
  rw [← order_eq_eq_iff, order_eq_compareLex_rightpad, Std.LawfulEqCmp.compare_eq_iff_eq]

/-- Versions are totally preordered by `order`, with the same versions as
its ties. -/
instance : Std.TransCmp order where
  eq_swap := order_swap _ _
  isLE_trans := order_isLE_trans

theorem same_trans {a b c : Version} (first : a.same b = true) (second : b.same c = true) :
    a.same c = true := by
  simp only [same, beq_iff_eq] at first second ⊢
  exact first.trans second

/-! ## Reading versions from file names -/

/-- Further runs are added after those found so far. -/
theorem fileSegments_more_extends (after : List Char) (runs : List (List Char)) (fuel : Nat) :
    ∃ extra, (fileSegments.more after runs fuel).1 = runs ++ extra := by
  induction fuel generalizing after runs with
  | zero => exact ⟨[], (List.append_nil runs).symm⟩
  | succ fuel ih =>
    unfold fileSegments.more
    split
    · rename_i rest
      dsimp only
      split
      · exact ⟨[], (List.append_nil runs).symm⟩
      · obtain ⟨extra, grown⟩ := ih (rest.drop (rest.takeWhile Text.isDecimalDigit).length)
          (runs ++ [rest.takeWhile Text.isDecimalDigit])
        exact ⟨_ :: extra, by rw [grown, List.append_assoc, List.singleton_append]⟩
    · exact ⟨[], (List.append_nil runs).symm⟩

/-- A file name that starts with a version gives at least one run of digits. -/
theorem fileSegments_ne_nil {name : List Char} {runs : List (List Char)}
    (found : fileSegments name = some runs) : runs ≠ [] := by
  unfold fileSegments at found
  split at found
  · rename_i rest
    dsimp only at found
    split at found
    · cases found
    · rename_i started
      obtain ⟨extra, grown⟩ := fileSegments_more_extends
        (rest.drop (rest.takeWhile Text.isDecimalDigit).length)
        [rest.takeWhile Text.isDecimalDigit] rest.length
      revert found
      cases collected : fileSegments.more (rest.drop (rest.takeWhile Text.isDecimalDigit).length)
        [rest.takeWhile Text.isDecimalDigit] rest.length with
      | mk runs' after =>
        rw [collected] at grown
        dsimp only at grown ⊢
        intro found
        split at found
        · cases found
          rw [grown]
          exact List.cons_ne_nil _ _
        · split at found
          · cases found
            rename_i two
            intro empty
            have := congrArg List.length empty
            rw [List.length_dropLast] at this
            simp at this
            omega
          · cases found
  · cases found

/-- A segment read is within the unsigned 64-bit range. -/
theorem readSegment_go_le {ds : List Char} {acc n : Nat} (start : acc ≤ maxSegment)
    (read : readSegment.go ds acc = .ok n) : n ≤ maxSegment := by
  induction ds generalizing acc with
  | nil =>
    cases read
    exact start
  | cons c cs ih =>
    unfold readSegment.go at read
    split at read
    · dsimp only at read
      split at read
      · cases read
      · rename_i small
        exact ih (Nat.le_of_not_gt small) read
    · cases read

theorem readSegment_le {text : List Char} {n : Nat} (read : readSegment text = .ok n) :
    n ≤ maxSegment := by
  have zero : 0 ≤ maxSegment := Nat.zero_le _
  unfold readSegment at read
  split at read
  · cases read
  · cases read
  · cases read
  · exact readSegment_go_le zero read
  · exact readSegment_go_le zero read

/-- A list walked through a failing function keeps its length, and every
answer is one the function gives to a member. -/
theorem except_mapM_answers {α β ε : Type} {f : α -> Except ε β} {xs : List α} {ys : List β}
    (walked : xs.mapM f = .ok ys) :
    ys.length = xs.length ∧ ∀ y ∈ ys, ∃ x ∈ xs, f x = .ok y := by
  induction xs generalizing ys with
  | nil =>
    cases walked
    exact ⟨rfl, fun y mem => by cases mem⟩
  | cons x rest ih =>
    rw [List.mapM_cons] at walked
    obtain ⟨y, first, walked⟩ := Sql.except_bind_ok walked
    obtain ⟨others, later, done⟩ := Sql.except_bind_ok walked
    cases done
    obtain ⟨length, answered⟩ := ih later
    refine ⟨by rw [List.length_cons, List.length_cons, length], fun z mem => ?_⟩
    rcases List.mem_cons.mp mem with rfl | mem
    · exact ⟨x, List.mem_cons_self, first⟩
    · obtain ⟨w, inRest, gives⟩ := answered z mem
      exact ⟨w, List.mem_cons_of_mem x inRest, gives⟩

/-- The version of an accepted file name has a segment, and every segment
is within the unsigned 64-bit range. -/
theorem ofFileName_wellFormed {file : String} {v : Version} (read : ofFileName file = .ok v) :
    v.WellFormed := by
  unfold ofFileName at read
  split at read
  · cases read
  · rename_i runs found
    split at read
    · rename_i segments walked
      cases read
      obtain ⟨length, answered⟩ := except_mapM_answers walked
      refine ⟨?_, ?_⟩
      · intro empty
        apply fileSegments_ne_nil found
        have none := congrArg List.length empty
        rw [List.length_nil] at none
        exact List.eq_nil_of_length_eq_zero (length.symm.trans none)
      · intro n mem
        obtain ⟨text, -, readText⟩ := answered n mem
        exact readSegment_le readText
    · cases read

/-- The dotted text of a file name's version reads back as that version. -/
theorem parse_text_ofFileName {file : String} {v : Version} (read : ofFileName file = .ok v) :
    parse v.text = .ok v :=
  parse_text (ofFileName_wellFormed read)

end Version

/-! ## Putting scripts in version order -/

section Sorting

variable {α : Type} (version : α -> Version)

theorem orderByVersion_perm_items (items : List α) : (orderByVersion version items).Perm items :=
  List.mergeSort_perm _ _

/-- Items in version order are ordered by version. -/
theorem orderByVersion_pairwise (items : List α) :
    (orderByVersion version items).Pairwise
      fun a b => ((version a).order (version b)).isLE := by
  have sorted := @List.pairwise_mergeSort α (fun a b => (version a).order (version b) != .gt)
    (fun a b c first second => by
      rw [ne_gt_eq_isLE] at first second ⊢
      exact Version.order_isLE_trans first second)
    (fun a b => by
      rw [ne_gt_eq_isLE, ne_gt_eq_isLE, Bool.or_eq_true]
      exact Version.order_isLE_total _ _)
    items
  exact sorted.imp fun ordered => by rwa [ne_gt_eq_isLE] at ordered

/-- Items of one version keep their order when put in version order: they
are ordered both ways among themselves, so the merge sort keeps them as a
sublist. -/
theorem orderByVersion_stable (items : List α) (v : Version) :
    (orderByVersion version items).filter (fun x => (version x).same v) =
      items.filter fun x => (version x).same v := by
  let keep := fun x => (version x).same v
  have tied : (items.filter keep).Pairwise fun a b => (version a).order (version b) != .gt := by
    refine List.Pairwise.imp_of_mem ?_ (List.pairwise_of_forall fun _ _ => trivial)
    intro a b first second _
    have same := Version.same_trans (List.mem_filter.mp first).2
      (by rw [Version.same_comm]; exact (List.mem_filter.mp second).2)
    rw [Version.order_eq_eq_iff.mpr same]
    rfl
  have kept := List.sublist_mergeSort
    (fun a b c first second => by
      rw [ne_gt_eq_isLE] at first second ⊢
      exact Version.order_isLE_trans first second)
    (fun a b => by
      rw [ne_gt_eq_isLE, ne_gt_eq_isLE, Bool.or_eq_true]
      exact Version.order_isLE_total _ _)
    tied List.filter_sublist
  have inOrder : List.Sublist (items.filter keep) ((orderByVersion version items).filter keep) := by
    have := kept.filter keep
    rwa [List.filter_filter, List.filter_congr (fun x _ => Bool.and_self (keep x))] at this
  exact (inOrder.eq_of_length ((orderByVersion_perm_items version items).filter keep).length_eq.symm).symm

end Sorting

/-- Versions compare numerically, segment by segment, as their segment
lists padded with zeros to one length; two versions are the same exactly
when the padded lists agree, that is when they differ only in trailing zero
segments, and `order` is a total preorder whose ties are the same versions.
Putting items in version order is a stable sort by this order.  And the
dotted text of the version of every accepted file name reads back as that
version. -/
theorem version_order_padded {α : Type} (a b : List Nat) (version : α -> Version)
    (items : List α) :
    Version.order ⟨a⟩ ⟨b⟩ =
        List.compareLex compare (a.rightpad b.length 0) (b.rightpad a.length 0) ∧
      (Version.same ⟨a⟩ ⟨b⟩ = true ↔
        List.compareLex compare (a.rightpad b.length 0) (b.rightpad a.length 0) = .eq) ∧
      (Version.same ⟨a⟩ ⟨b⟩ = true ↔ a.rightpad b.length 0 = b.rightpad a.length 0) ∧
      Std.TransCmp Version.order ∧
      ((orderByVersion version items).Perm items ∧
        (orderByVersion version items).Pairwise
          (fun x y => ((version x).order (version y)).isLE) ∧
        ∀ v, (orderByVersion version items).filter (fun x => (version x).same v) =
          items.filter fun x => (version x).same v) ∧
      ∀ file v, Version.ofFileName file = .ok v -> Version.parse v.text = .ok v := by
  have padded := Version.order_eq_compareLex_rightpad ⟨a⟩ ⟨b⟩
  refine ⟨padded, ?_, Version.same_iff_rightpad ⟨a⟩ ⟨b⟩, inferInstance,
    ⟨orderByVersion_perm_items version items, orderByVersion_pairwise version items,
      orderByVersion_stable version items⟩, fun file v read => Version.parse_text_ofFileName read⟩
  rw [← padded]
  exact Version.order_eq_eq_iff.symm

/-- `V1_10__add_index.sql` is version `1.10`, written and read back as such. -/
theorem file_version_reads_back :
    Version.ofFileName "V1_10__add_index.sql" = .ok ⟨[1, 10]⟩ ∧
      Version.parse (Version.text ⟨[1, 10]⟩) = .ok ⟨[1, 10]⟩ :=
  have read : Version.ofFileName "V1_10__add_index.sql" = .ok ⟨[1, 10]⟩ := by rfl
  ⟨read, (version_order_padded [] [] (fun v : Version => v) []).2.2.2.2.2 _ _ read⟩

example : Version.order ⟨[1, 9]⟩ ⟨[1, 10]⟩ = .lt := by decide
example : Version.same ⟨[1, 0]⟩ ⟨[1]⟩ = true := by decide

end Migration
end Refbook
