import Mathlib.Data.List.Infix
import Refbook.Regex.Hir
import Refbook.Text.Fold

namespace Refbook

/-!
# What a pattern matches

`Hir.Spans text h i j` is the documented meaning of a translated pattern: `h` matches the
characters of `text` from position `i` up to position `j`.  A literal matches its characters,
a class one character that is a member, a repetition between its bounds of copies one after
the other, a concatenation its items one after the other and an alternation any of its
branches.  Of the zero-width tests, only the two ends of the text are given a meaning.

The normal forms that translation builds keep that meaning: `concatOf` joins literals and
flattens nested concatenations without changing what matches, and `ofClass` turns a class
of one character into that character.

First come the facts about sets of code points and case folding that the translation of a
single character relies on: a set covers the code points of the ranges it is built from, the
case-folded class of a character holds the character, and the class of a character without
other cases is the character alone.
-/

namespace Text

/-- Every character is a code point of the table. -/
theorem toNat_le_maxCode (c : Char) : c.toNat ≤ maxCode := by
  have valid := c.valid
  simp only [UInt32.isValidChar, Nat.isValidChar] at valid
  simp only [Char.toNat, maxCode]
  omega

namespace CodeSet

/-- A code point lies in one of the ranges of a set. -/
def Covers (s : CodeSet) (n : Nat) : Prop :=
  ∃ r ∈ s.ranges, r.lo ≤ n ∧ n ≤ r.hi

theorem containsIn_of_not_lt {ranges : Array CodeRange} {c lo hi : Nat} (empty : ¬lo < hi) :
    containsIn ranges c lo hi = false := by
  rw [containsIn, dif_neg empty]

theorem contains_singleton (r : CodeRange) (n : Nat) :
    (⟨[r]⟩ : CodeSet).contains n = true ↔ r.lo ≤ n ∧ n ≤ r.hi := by
  unfold contains
  rw [containsIn]
  simp only [List.size_toArray, List.length_cons, List.length_nil, Nat.zero_add, Nat.lt_add_one,
    ↓reduceDIte, Nat.reduceDiv, getElem?_pos, List.getElem_toArray, List.getElem_cons_zero,
    lt_self_iff_false, not_false_eq_true, containsIn_of_not_lt, Bool.if_true_right,
    Bool.or_false, Bool.if_false_left, Bool.and_eq_true, Bool.not_eq_true', decide_eq_false_iff_not,
    Nat.not_lt]

theorem contains_full (c : Char) : full.contains c.toNat = true := by
  rw [full, contains_singleton]
  exact ⟨Nat.zero_le _, toNat_le_maxCode c⟩

/-- Joining touching neighbours loses no code point: one that lies in a range already joined
or still to come lies in a range of the result. -/
theorem joinSorted_covers (n : Nat) :
    ∀ (acc rs : List CodeRange), (∃ r ∈ acc ++ rs, r.lo ≤ n ∧ n ≤ r.hi) ->
      ∃ r ∈ joinSorted acc rs, r.lo ≤ n ∧ n ≤ r.hi
  | acc, [], lies => by
    rw [List.append_nil] at lies
    obtain ⟨r, mem, inside⟩ := lies
    exact ⟨r, by rw [joinSorted, List.mem_reverse]; exact mem, inside⟩
  | [], r :: rest, lies => by
    rw [joinSorted]
    exact joinSorted_covers n [r] rest lies
  | last :: earlier, r :: rest, lies => by
    rw [joinSorted]
    split
    · apply joinSorted_covers n
      obtain ⟨s, mem, inside⟩ := lies
      simp only [List.cons_append, List.mem_cons, List.mem_append] at mem
      rcases mem with rfl | inEarlier | rfl | inRest
      · exact ⟨_, List.mem_cons_self .., by simp only; omega⟩
      · exact ⟨s, by simp [inEarlier], inside⟩
      · exact ⟨_, List.mem_cons_self .., by simp only; omega⟩
      · exact ⟨s, by simp [inRest], inside⟩
    · apply joinSorted_covers n
      obtain ⟨s, mem, inside⟩ := lies
      exact ⟨s, by simp only [List.cons_append, List.mem_cons, List.mem_append] at mem ⊢; tauto,
        inside⟩

/-- A code point in one of the ranges a set is built from is covered by the set. -/
theorem covers_ofRanges {rs : List CodeRange} {n : Nat}
    (lies : ∃ r ∈ rs, r.lo ≤ n ∧ n ≤ r.hi) :
    (ofRanges rs).Covers n := by
  obtain ⟨r, mem, inside⟩ := lies
  exact joinSorted_covers n [] _ ⟨r, by simp [mem], inside⟩

end CodeSet

theorem foldIndex_sorted : foldIndex.toList.Pairwise (fun a b => a.1 ≤ b.1) := by
  unfold foldIndex
  rw [List.toList_toArray]
  refine (List.pairwise_mergeSort ?_ ?_ _).imp ?_
  · intro a b c first second
    simp only [decide_eq_true_eq] at first second ⊢
    omega
  · intro a b
    simp only [Bool.or_eq_true, decide_eq_true_eq]
    omega
  · intro a b ordered
    simpa only [decide_eq_true_eq] using ordered

theorem foldIndex_le {i j : Nat} (le : i ≤ j) (lt : j < foldIndex.size) :
    (foldIndex.getD i (0, 0)).1 ≤ (foldIndex.getD j (0, 0)).1 := by
  rcases Nat.eq_or_lt_of_le le with rfl | before
  · exact le_refl _
  · have ordered := List.pairwise_iff_getElem.mp foldIndex_sorted i j
      (by simp only [Array.length_toList]; omega) (by simp only [Array.length_toList]; omega) before
    simpa only [Array.getD_eq_getD_getElem?, Array.getElem?_eq_getElem (by omega : i < foldIndex.size),
      Array.getElem?_eq_getElem lt, Option.getD_some, Array.getElem_toList] using ordered

theorem foldClassAt_isSome {c lo hi idx : Nat} (bound : hi ≤ foldIndex.size) (from_lo : lo ≤ idx)
    (below : idx < hi) (found : (foldIndex.getD idx (0, 0)).1 = c) :
    (foldClassAt c lo hi).isSome = true := by
  fun_induction foldClassAt c lo hi with
  | case1 lo hi _ mid code k atMid smaller ih =>
    have middle : mid = (lo + hi) / 2 := rfl
    have before : idx < mid := by
      by_contra later
      have ordered := foldIndex_le (Nat.le_of_not_lt later) (by omega)
      rw [atMid, found] at ordered
      exact absurd smaller (Nat.not_lt_of_le ordered)
    exact ih (by omega) from_lo before
  | case2 lo hi _ mid code k atMid _ larger ih =>
    have middle : mid = (lo + hi) / 2 := rfl
    have after : mid + 1 ≤ idx := by
      by_contra earlier
      have ordered := foldIndex_le (show idx ≤ mid by omega) (by omega)
      rw [atMid, found] at ordered
      exact absurd larger (Nat.not_lt_of_le ordered)
    exact ih bound after below
  | case3 => rfl
  | case4 lo hi empty => omega

/-- A code point of a class of the table has other cases. -/
theorem hasCaseVariant_of_mem {c : Nat} {members : List Nat}
    (listed : members ∈ foldClassList.toList) (mem : c ∈ members) : hasCaseVariant c = true := by
  obtain ⟨k, inside, atK⟩ := List.getElem_of_mem listed
  rw [Array.length_toList] at inside
  have entry : (c, k) ∈ foldIndex.toList := by
    unfold foldIndex
    rw [List.toList_toArray, List.mem_mergeSort, List.mem_flatMap]
    refine ⟨k, List.mem_range.mpr inside, List.mem_map.mpr ⟨c, ?_, rfl⟩⟩
    rwa [Array.getD_eq_getD_getElem?, Array.getElem?_eq_getElem inside, Option.getD_some,
      ← Array.getElem_toList, atK]
  obtain ⟨idx, lt, atIdx⟩ := List.getElem_of_mem entry
  rw [Array.length_toList] at lt
  have found : (foldIndex.getD idx (0, 0)).1 = c := by
    rw [Array.getD_eq_getD_getElem?, Array.getElem?_eq_getElem lt, Option.getD_some,
      ← Array.getElem_toList, atIdx]
  exact foldClassAt_isSome (le_refl _) (Nat.zero_le idx) lt found

namespace CodeSet

/-- The range of one code point holds exactly that code point. -/
theorem range_self (n : Nat) : range n n = ⟨[⟨n, n⟩]⟩ := by
  simp only [range, CodeRange.make, le_refl, if_true]

/-- Closing one code point under case keeps it. -/
theorem covers_caseFold_range (n : Nat) : (range n n).caseFold.Covers n := by
  unfold caseFold
  apply covers_ofRanges
  exact ⟨⟨n, n⟩, by simp only [range_self, List.cons_append, List.mem_cons, true_or],
    le_refl n, le_refl n⟩

/-- A code point without other cases is its own class. -/
theorem caseFold_range_of_not_hasCaseVariant {n : Nat} (alone : hasCaseVariant n = false) :
    (range n n).caseFold = range n n := by
  have noClass : ∀ members ∈ foldClassList.toList, n ∉ members := by
    intro members listed mem
    rw [hasCaseVariant_of_mem listed mem] at alone
    exact Bool.noConfusion alone
  unfold caseFold
  rw [range_self]
  have noExtra : (foldClassList.toList.flatMap fun members =>
      if members.any (fun c =>
          containsIn [(⟨n, n⟩ : CodeRange)].toArray c 0 [(⟨n, n⟩ : CodeRange)].toArray.size)
      then members.map fun c => CodeRange.mk c c else []) = [] := by
    rw [List.flatMap_eq_nil_iff]
    intro members listed
    rw [if_neg]
    rw [Bool.not_eq_true, List.any_eq_false]
    intro c mem contained
    have point := (contains_singleton ⟨n, n⟩ c).mp contained
    exact noClass members listed (by rwa [show c = n by simp only at point; omega] at mem)
  simp only [noExtra, List.append_nil, ofRanges, List.mergeSort_singleton, joinSorted,
    List.reverse_singleton]

end CodeSet

end Text

namespace Regex

open Text

namespace Hir

/-- The documented meaning of a pattern: `Spans text h i j` when `h` matches the characters
of `text` from position `i` to position `j`. -/
inductive Spans (text : List Char) : Hir -> Nat -> Nat -> Prop
  | empty {i : Nat} : i ≤ text.length -> Spans text .empty i i
  | literal {cs : List Char} {i : Nat} : i ≤ text.length -> cs <+: text.drop i ->
      Spans text (.literal cs) i (i + cs.length)
  | cls {c : CharClass} {i : Nat} {d : Char} : text[i]? = some d ->
      c.set.contains d.toNat = true -> Spans text (.cls c) i (i + 1)
  | start : Spans text (.look .start) 0 0
  | finish : Spans text (.look .finish) text.length text.length
  | repetitionDone {min : Nat} {max : Option Nat} {greedy : Bool} {sub : Hir} {i : Nat} :
      min = 0 -> i ≤ text.length -> Spans text (.repetition min max greedy sub) i i
  | repetitionMore {min : Nat} {max : Option Nat} {greedy : Bool} {sub : Hir} {i j k : Nat} :
      max ≠ some 0 -> Spans text sub i j ->
      Spans text (.repetition (min - 1) (max.map (· - 1)) greedy sub) j k ->
      Spans text (.repetition min max greedy sub) i k
  | capture {index : Nat} {name : Option String} {sub : Hir} {i j : Nat} :
      Spans text sub i j -> Spans text (.capture index name sub) i j
  | concatNil {i : Nat} : i ≤ text.length -> Spans text (.concat []) i i
  | concatCons {h : Hir} {rest : List Hir} {i j k : Nat} : Spans text h i j ->
      Spans text (.concat rest) j k -> Spans text (.concat (h :: rest)) i k
  | alternation {items : List Hir} {h : Hir} {i j : Nat} : h ∈ items -> Spans text h i j ->
      Spans text (.alternation items) i j

section Meaning

variable {text : List Char}

/-- A match runs forward and stays inside the text. -/
theorem Spans.bounds {h : Hir} {i j : Nat} (spans : Spans text h i j) :
    i ≤ j ∧ j ≤ text.length := by
  induction spans with
  | empty inside => exact ⟨le_refl _, inside⟩
  | literal inside pre =>
    have fits := pre.length_le
    rw [List.length_drop] at fits
    omega
  | cls found _ =>
    have := (List.getElem?_eq_some_iff.mp found).1
    omega
  | start => exact ⟨le_refl _, Nat.zero_le _⟩
  | finish => exact ⟨le_refl _, le_refl _⟩
  | repetitionDone _ inside => exact ⟨le_refl _, inside⟩
  | repetitionMore _ _ _ first rest => omega
  | capture _ inner => exact inner
  | concatNil inside => exact ⟨le_refl _, inside⟩
  | concatCons _ _ first rest => omega
  | alternation _ _ branch => exact branch

theorem spans_empty_iff {i j : Nat} : Spans text .empty i j ↔ i = j ∧ i ≤ text.length := by
  constructor
  · intro spans
    cases spans with
    | empty inside => exact ⟨rfl, inside⟩
  · rintro ⟨rfl, inside⟩
    exact .empty inside

theorem spans_literal_iff {cs : List Char} {i j : Nat} :
    Spans text (.literal cs) i j ↔
      i ≤ text.length ∧ cs <+: text.drop i ∧ j = i + cs.length := by
  constructor
  · intro spans
    cases spans with
    | literal inside pre => exact ⟨inside, pre, rfl⟩
  · rintro ⟨inside, pre, rfl⟩
    exact .literal inside pre

theorem spans_literal_nil {i j : Nat} :
    Spans text (.literal []) i j ↔ i = j ∧ i ≤ text.length := by
  rw [spans_literal_iff]
  simp only [List.nil_prefix, List.length_nil, Nat.add_zero, true_and]
  exact ⟨fun ⟨inside, same⟩ => ⟨same.symm, inside⟩,
    fun ⟨same, inside⟩ => ⟨inside, same.symm⟩⟩

/-- A literal of two parts matches the first part, then the second. -/
theorem spans_literal_append {a b : List Char} {i k : Nat} :
    Spans text (.literal (a ++ b)) i k ↔
      ∃ j, Spans text (.literal a) i j ∧ Spans text (.literal b) j k := by
  simp only [spans_literal_iff]
  constructor
  · rintro ⟨inside, pre, rfl⟩
    have front : a <+: text.drop i := (List.prefix_append a b).trans pre
    obtain ⟨rest, split⟩ := front
    have lengths := congrArg List.length split
    rw [List.length_append, List.length_drop] at lengths
    have back : b <+: text.drop (i + a.length) := by
      rw [← List.drop_drop, ← split, List.drop_left]
      rw [← split] at pre
      exact (List.prefix_append_right_inj a).mp pre
    refine ⟨i + a.length, ⟨inside, ⟨rest, split⟩, rfl⟩, by omega, back, ?_⟩
    simp only [List.length_append]
    omega
  · rintro ⟨j, ⟨inside, ⟨rest, split⟩, rfl⟩, _, back, rfl⟩
    refine ⟨inside, ?_, by simp only [List.length_append]; omega⟩
    rw [← List.drop_drop, ← split, List.drop_left] at back
    rw [← split]
    exact (List.prefix_append_right_inj a).mpr back

theorem spans_concat_nil {i j : Nat} :
    Spans text (.concat []) i j ↔ i = j ∧ i ≤ text.length := by
  constructor
  · intro spans
    cases spans with
    | concatNil inside => exact ⟨rfl, inside⟩
  · rintro ⟨rfl, inside⟩
    exact .concatNil inside

theorem spans_concat_cons {h : Hir} {rest : List Hir} {i k : Nat} :
    Spans text (.concat (h :: rest)) i k ↔
      ∃ j, Spans text h i j ∧ Spans text (.concat rest) j k := by
  constructor
  · intro spans
    cases spans with
    | concatCons first others => exact ⟨_, first, others⟩
  · rintro ⟨j, first, others⟩
    exact .concatCons first others

theorem spans_start_iff {i j : Nat} : Spans text (.look .start) i j ↔ i = 0 ∧ j = 0 := by
  constructor
  · intro spans
    cases spans with
    | start => exact ⟨rfl, rfl⟩
  · rintro ⟨rfl, rfl⟩
    exact .start

theorem spans_finish_iff {i j : Nat} :
    Spans text (.look .finish) i j ↔ i = text.length ∧ j = text.length := by
  constructor
  · intro spans
    cases spans with
    | finish => exact ⟨rfl, rfl⟩
  · rintro ⟨rfl, rfl⟩
    exact .finish

/-- A concatenation of two lists matches the first, then the second. -/
theorem spans_concat_append {xs ys : List Hir} {i k : Nat} :
    Spans text (.concat (xs ++ ys)) i k ↔
      ∃ j, Spans text (.concat xs) i j ∧ Spans text (.concat ys) j k := by
  induction xs generalizing i with
  | nil =>
    simp only [List.nil_append, spans_concat_nil]
    constructor
    · intro whole
      exact ⟨i, ⟨rfl, whole.bounds.1.trans whole.bounds.2⟩, whole⟩
    · rintro ⟨j, ⟨rfl, _⟩, whole⟩
      exact whole
  | cons h rest ih =>
    simp only [List.cons_append, spans_concat_cons, ih]
    constructor
    · rintro ⟨j, first, m, others, last⟩
      exact ⟨m, ⟨j, first, others⟩, last⟩
    · rintro ⟨m, ⟨j, first, others⟩, last⟩
      exact ⟨j, first, m, others, last⟩

/-- Concatenations that match alike still match alike with the same items after them. -/
theorem spans_concat_append_congr {xs ys zs : List Hir}
    (same : ∀ i k, Spans text (.concat xs) i k ↔ Spans text (.concat ys) i k) {i k : Nat} :
    Spans text (.concat (xs ++ zs)) i k ↔ Spans text (.concat (ys ++ zs)) i k := by
  rw [spans_concat_append, spans_concat_append]
  simp only [same]

theorem spans_concat_singleton {h : Hir} {i j : Nat} :
    Spans text (.concat [h]) i j ↔ Spans text h i j := by
  simp only [spans_concat_cons, spans_concat_nil]
  constructor
  · rintro ⟨m, first, rfl, _⟩
    exact first
  · intro first
    exact ⟨j, first, rfl, first.bounds.2⟩

end Meaning

/-- The items a concatenation being built stands for: those laid down, then the pending
characters as one literal. -/
def pendingItems (acc : List Hir × List Char) : List Hir :=
  acc.1.reverse ++ (if acc.2.isEmpty then [] else [.literal acc.2.reverse])

/-- One item taken in by `concatOf`: the items of a concatenation one by one, any other item
whole. -/
def concatStep (acc : List Hir × List Char) (h : Hir) : List Hir × List Char :=
  match h with
  | .concat inner => inner.foldl pushConcat acc
  | h => pushConcat acc h

/-- Items as one pattern, the way `concatOf` ends: nothing, the one item, or all of them. -/
def ofItems : List Hir -> Hir
  | [] => .empty
  | [h] => h
  | items => .concat items


theorem concatOf_eq_ofItems (items : List Hir) :
    concatOf items = ofItems (pendingItems (items.foldl concatStep ([], []))) := by
  have fold : items.foldl concatStep ([], []) = items.foldl (fun acc h => match h with
      | .concat inner => inner.foldl pushConcat acc
      | h => pushConcat acc h) ([], []) := rfl
  rw [fold]
  unfold concatOf
  generalize List.foldl _ ([], []) items = acc
  obtain ⟨out, pending⟩ := acc
  have laid : (if pending.isEmpty then out else .literal pending.reverse :: out).reverse =
      pendingItems (out, pending) := by
    unfold pendingItems
    split <;> simp
  dsimp only
  rw [laid]
  rfl

section Normal

variable {text : List Char}

/-- An empty literal at the end of a concatenation changes nothing. -/
theorem spans_concat_literal_nil {xs : List Hir} {i k : Nat} :
    Spans text (.concat (xs ++ [.literal []])) i k ↔ Spans text (.concat xs) i k := by
  simp only [spans_concat_append, spans_concat_singleton, spans_literal_nil]
  constructor
  · rintro ⟨j, front, rfl, _⟩
    exact front
  · intro front
    exact ⟨k, front, rfl, front.bounds.2⟩

/-- The pending characters count as one literal, empty or not. -/
theorem spans_pendingItems {out : List Hir} {pending : List Char} {i k : Nat} :
    Spans text (.concat (pendingItems (out, pending))) i k ↔
      Spans text (.concat (out.reverse ++ [.literal pending.reverse])) i k := by
  unfold pendingItems
  cases pending with
  | nil => simp only [List.isEmpty_nil, if_true, List.append_nil, List.reverse_nil,
      spans_concat_literal_nil]
  | cons c rest => simp only [List.isEmpty_cons, Bool.false_eq_true, if_false]

/-- Adding an item to a concatenation being built adds it at the end of what it matches:
literals join the pending ones, empty patterns vanish, and anything else is laid down after
the pending literal. -/
theorem spans_pushConcat {acc : List Hir × List Char} {h : Hir} {i k : Nat} :
    Spans text (.concat (pendingItems (pushConcat acc h))) i k ↔
      Spans text (.concat (pendingItems acc ++ [h])) i k := by
  obtain ⟨out, pending⟩ := acc
  cases h with
  | literal cs =>
    simp only [pushConcat, spans_pendingItems, spans_concat_append,
      spans_concat_singleton, List.reverse_append, List.reverse_reverse, spans_literal_append]
    constructor
    · rintro ⟨j, front, m, middle, last⟩
      exact ⟨m, ⟨j, front, middle⟩, last⟩
    · rintro ⟨m, ⟨j, front, middle⟩, last⟩
      exact ⟨j, front, m, middle, last⟩
  | empty =>
    simp only [pushConcat, spans_concat_append, spans_concat_singleton,
      spans_empty_iff]
    constructor
    · intro laid
      exact ⟨k, laid, rfl, laid.bounds.2⟩
    · rintro ⟨j, laid, rfl, _⟩
      exact laid
  | cls | look | repetition | capture | concat | alternation =>
    unfold pushConcat pendingItems
    cases pending <;> simp

/-- A step that adds an item at the end of what is matched, taken over a list, adds the
whole list. -/
theorem spans_foldl {F : List Hir × List Char -> Hir -> List Hir × List Char}
    (step : ∀ acc h i k, Spans text (.concat (pendingItems (F acc h))) i k ↔
      Spans text (.concat (pendingItems acc ++ [h])) i k)
    (items : List Hir) (acc : List Hir × List Char) (i k : Nat) :
    Spans text (.concat (pendingItems (items.foldl F acc))) i k ↔
      Spans text (.concat (pendingItems acc ++ items)) i k := by
  induction items generalizing acc with
  | nil => rw [List.foldl_nil, List.append_nil]
  | cons h rest ih =>
    rw [List.foldl_cons, ih, ← List.singleton_append, ← List.append_assoc,
      spans_concat_append_congr (step acc h)]

theorem spans_ofItems {items : List Hir} {i j : Nat} :
    Spans text (ofItems items) i j ↔ Spans text (.concat items) i j := by
  match items with
  | [] => simp only [ofItems, spans_empty_iff, spans_concat_nil]
  | [h] => simp only [ofItems, spans_concat_singleton]
  | _ :: _ :: _ => rfl

theorem spans_concatStep {acc : List Hir × List Char} {h : Hir} {i k : Nat} :
    Spans text (.concat (pendingItems (concatStep acc h))) i k ↔
      Spans text (.concat (pendingItems acc ++ [h])) i k := by
  cases h with
  | concat inner =>
    simp only [concatStep, spans_foldl (fun _ _ _ _ => spans_pushConcat), spans_concat_append,
      spans_concat_singleton]
  | empty | literal | cls | look | repetition | capture | alternation =>
    exact spans_pushConcat

/-- `concatOf` keeps the meaning of the concatenation it puts in normal form. -/
theorem spans_concatOf {items : List Hir} {i j : Nat} :
    Spans text (concatOf items) i j ↔ Spans text (.concat items) i j := by
  rw [concatOf_eq_ofItems, spans_ofItems, spans_foldl (fun _ _ _ _ => spans_concatStep)]
  simp only [pendingItems, List.reverse_nil, List.isEmpty_nil, if_true, List.nil_append]

/-- Leaving out empty patterns does not change what a concatenation matches. -/
theorem spans_concat_filter {keep : Hir -> Bool} (dropsEmpty : ∀ h, keep h = false -> h = .empty)
    {items : List Hir} {i k : Nat} :
    Spans text (.concat (items.filter keep)) i k ↔ Spans text (.concat items) i k := by
  induction items generalizing i with
  | nil => rfl
  | cons h rest ih =>
    cases kept : keep h with
    | true => simp only [List.filter_cons_of_pos kept, spans_concat_cons, ih]
    | false =>
      rw [List.filter_cons_of_neg (by simp only [kept, Bool.false_eq_true, not_false_eq_true]),
        ih, dropsEmpty h kept, spans_concat_cons]
      simp only [spans_empty_iff]
      constructor
      · intro others
        exact ⟨i, ⟨rfl, others.bounds.1.trans others.bounds.2⟩, others⟩
      · rintro ⟨j, ⟨rfl, _⟩, others⟩
        exact others

end Normal

section Classes

variable {text : List Char}

theorem spans_cls_iff {c : CharClass} {i j : Nat} :
    Spans text (.cls c) i j ↔
      ∃ d, text[i]? = some d ∧ c.set.contains d.toNat = true ∧ j = i + 1 := by
  constructor
  · intro spans
    cases spans with
    | cls found member => exact ⟨_, found, member, rfl⟩
  · rintro ⟨d, found, member, rfl⟩
    exact .cls found member

theorem spans_literal_char {ch : Char} {i j : Nat} :
    Spans text (.literal [ch]) i j ↔ text[i]? = some ch ∧ j = i + 1 := by
  rw [spans_literal_iff]
  constructor
  · rintro ⟨_, ⟨rest, split⟩, rfl⟩
    refine ⟨?_, rfl⟩
    have first := congrArg (·[0]?) split
    simp only [List.singleton_append, List.getElem?_cons_zero, List.getElem?_drop,
      Nat.add_zero] at first
    exact first.symm
  · rintro ⟨found, rfl⟩
    have lt := (List.getElem?_eq_some_iff.mp found).1
    refine ⟨lt.le, ⟨text.drop (i + 1), ?_⟩, rfl⟩
    rw [List.drop_eq_getElem_cons lt, (List.getElem?_eq_some_iff.mp found).2]
    rfl

/-- `ofClass` keeps the meaning of a class that holds a character; a class of one code point
becomes that character. -/
theorem spans_ofClass {c : CharClass} (holds : ∃ ch : Char, c.set.Covers ch.toNat) {i j : Nat} :
    Spans text (ofClass c) i j ↔ Spans text (.cls c) i j := by
  obtain ⟨ch, r, mem, inside⟩ := holds
  obtain ⟨⟨ranges⟩, bytes⟩ := c
  unfold ofClass
  split
  · rename_i noRanges
    rw [noRanges] at mem
    cases mem
  · rename_i r' single
    split
    · rename_i point
      simp only at single mem
      subst single
      rw [List.mem_singleton] at mem
      subst mem
      have isCh : r.lo = ch.toNat := by omega
      rw [isCh, Char.ofNat_toNat, spans_literal_char, spans_cls_iff]
      constructor
      · rintro ⟨found, rfl⟩
        exact ⟨ch, found, (CodeSet.contains_singleton _ _).mpr (by omega), rfl⟩
      · rintro ⟨d, found, member, rfl⟩
        have same : d = ch := Char.toNat_inj.mp (by
          have := (CodeSet.contains_singleton _ _).mp member
          omega)
        subst same
        exact ⟨found, rfl⟩
    · rfl
  · rfl

/-- `.` when it matches every character: any one character. -/
theorem spans_cls_full {bytes : Bool} {i j : Nat} :
    Spans text (.cls ⟨CodeSet.full, bytes⟩) i j ↔ i < text.length ∧ j = i + 1 := by
  rw [spans_cls_iff]
  constructor
  · rintro ⟨d, found, _, rfl⟩
    exact ⟨(List.getElem?_eq_some_iff.mp found).1, rfl⟩
  · rintro ⟨lt, rfl⟩
    exact ⟨text[i], List.getElem?_eq_getElem lt, CodeSet.contains_full _, rfl⟩

/-- `.*` when `.` matches every character: any run of characters. -/
theorem spans_star_full {greedy bytes : Bool} {i j : Nat} :
    Spans text (.repetition 0 none greedy (.cls ⟨CodeSet.full, bytes⟩)) i j ↔
      i ≤ j ∧ j ≤ text.length := by
  constructor
  · exact fun spans => spans.bounds
  · rintro ⟨le, inside⟩
    obtain ⟨n, rfl⟩ := Nat.exists_eq_add_of_le le
    induction n generalizing i with
    | zero => exact .repetitionDone rfl inside
    | succ n ih =>
      have rest := @ih (i + 1) (Nat.le_add_right _ _) (by omega)
      rw [show i + 1 + n = i + (n + 1) by omega] at rest
      exact .repetitionMore (by simp) (spans_cls_full.mpr ⟨by omega, rfl⟩) rest

end Classes

end Hir

end Regex
end Refbook
