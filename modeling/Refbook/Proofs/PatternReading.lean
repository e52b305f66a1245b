import Mathlib
import Refbook.Regex.Parse

namespace Refbook
namespace Regex

/-!
# Reading patterns made of pieces

The reader of patterns walks the text once, turn by turn, keeping the items it has read last
first.  Here it is followed through the patterns made of *pieces* between `^` and `$`: a `.`,
a `.*`, or one character, after a backslash when the character has a meaning.  Such a pattern
reads as the concatenation of the two anchors and the nodes of its pieces, whatever the
pieces are.

The cursor is described by what is left of the text (`Parser.rest`); each lemma of the reader
says what one of its steps does from a cursor with given text ahead, and the loop over the
pieces is an induction on the list of pieces.
-/

namespace Parser

/-- What is left of the pattern from the cursor on. -/
def rest (p : Parser) : List Char :=
  p.chars.toList.drop p.index

theorem char?_eq_head? (p : Parser) : p.char? = p.rest.head? := by
  rw [char?, rest, List.head?_drop, Array.getElem?_toList]

theorem cur_of_rest {p : Parser} {c : Char} {r : List Char} (reading : p.rest = c :: r) :
    p.cur = c := by
  rw [cur, char?_eq_head?, reading]
  rfl

theorem isEof_of_rest {p : Parser} {c : Char} {r : List Char} (reading : p.rest = c :: r) :
    p.isEof = false := by
  have unfolded : p.chars.toList.drop p.index = c :: r := reading
  have inside : p.index < p.chars.size := by
    have := congrArg List.length unfolded
    simp only [List.length_drop, Array.length_toList, List.length_cons] at this
    omega
  show decide (p.chars.size ≤ p.index) = false
  simp only [decide_eq_false_iff_not, Nat.not_le]
  exact inside

theorem isEof_of_rest_nil {p : Parser} (finished : p.rest = []) : p.isEof = true := by
  have unfolded : p.chars.toList.drop p.index = [] := finished
  simp only [List.drop_eq_nil_iff, Array.length_toList] at unfolded
  show decide (p.chars.size ≤ p.index) = true
  simp only [decide_eq_true_eq]
  exact unfolded

/-- Advancing moves the cursor over the character ahead, if there is one. -/
theorem advance_eq (p : Parser) :
    p.advance = match p.rest with
      | c :: _ => { p with index := p.index + 1, pos := after p.pos c }
      | [] => p := by
  rw [advance, char?_eq_head?]
  cases p.rest <;> rfl

theorem advance_of_rest {p : Parser} {c : Char} {r : List Char} (reading : p.rest = c :: r) :
    p.advance = { p with index := p.index + 1, pos := after p.pos c } := by
  rw [advance_eq, reading]

theorem rest_advance {p : Parser} {c : Char} {r : List Char} (reading : p.rest = c :: r) :
    p.advance.rest = r := by
  have unfolded : p.chars.toList.drop p.index = c :: r := reading
  rw [advance_of_rest reading]
  show p.chars.toList.drop (p.index + 1) = r
  rw [← List.drop_drop, unfolded]
  rfl

theorem advance_ignoreWhitespace (p : Parser) :
    p.advance.ignoreWhitespace = p.ignoreWhitespace := by
  rw [advance_eq]
  cases p.rest <;> rfl

theorem advance_groups (p : Parser) : p.advance.groups = p.groups := by
  rw [advance_eq]
  cases p.rest <;> rfl

theorem rest_iterate_advance {p : Parser} {cs r : List Char} (reading : p.rest = cs ++ r) :
    (advance^[cs.length] p).rest = r := by
  induction cs generalizing p with
  | nil => exact reading
  | cons c cs ih =>
    rw [List.length_cons, Function.iterate_succ_apply]
    exact ih (rest_advance reading)

theorem iterate_advance_ignoreWhitespace (p : Parser) (k : Nat) :
    (advance^[k] p).ignoreWhitespace = p.ignoreWhitespace := by
  induction k with
  | zero => rfl
  | succ k ih => rw [Function.iterate_succ_apply', advance_ignoreWhitespace, ih]

theorem iterate_advance_groups (p : Parser) (k : Nat) : (advance^[k] p).groups = p.groups := by
  induction k with
  | zero => rfl
  | succ k ih => rw [Function.iterate_succ_apply', advance_groups, ih]

end Parser

/-! ## One turn of the reader -/

theorem bumpSpace_run {p : Parser} (plain : p.ignoreWhitespace = false) :
    bumpSpace.run p = pure ((), p) := by
  simp only [bumpSpace, StateT.run_bind, StateT.run_get, pure_bind, plain, Bool.false_eq_true,
    if_false, StateT.run_pure]

/-- One turn of the reader, from a cursor that does not skip white space: the end of the
pattern ends the loop, and otherwise the character under the cursor says what is read. -/
theorem items_succ_run {fuel : Nat} {concat : Concat} {p : Parser}
    (plain : p.ignoreWhitespace = false) :
    (items (fuel + 1) concat).run p =
      if p.isEof then pure (concat, p) else
      (match p.cur with
        | '(' => do items fuel (← pushGroup concat)
        | ')' => do items fuel (← popGroup concat)
        | '|' => do items fuel (← pushAlternate concat)
        | '[' => do
          let cls ← parseClass
          items fuel { concat with items := cls :: concat.items }
        | '?' => do items fuel (← parseUncountedRepetition concat .zeroOrOne)
        | '*' => do items fuel (← parseUncountedRepetition concat .zeroOrMore)
        | '+' => do items fuel (← parseUncountedRepetition concat .oneOrMore)
        | '\x7b' => do items fuel (← parseCountedRepetition concat)
        | _ => do
          let prim ← parsePrimitive
          items fuel { concat with items := prim.toAst :: concat.items }).run p := by
  erw [StateT.run_bind, bumpSpace_run plain, pure_bind, StateT.run_bind, StateT.run_get, pure_bind]
  cases p.isEof <;> rfl

theorem items_primitive {fuel : Nat} {concat : Concat} {p : Parser}
    (plain : p.ignoreWhitespace = false) {c : Char} {r : List Char} (reading : p.rest = c :: r)
    (ordinary : c ∉ ['(', ')', '|', '[', '?', '*', '+', '{']) :
    (items (fuel + 1) concat).run p =
      (parsePrimitive >>= fun prim =>
        items fuel { concat with items := prim.toAst :: concat.items }).run p := by
  rw [items_succ_run plain, Parser.isEof_of_rest reading, if_neg Bool.false_ne_true,
    Parser.cur_of_rest reading]
  split <;> first | rfl | exact absurd (by decide) ordinary

theorem items_star {fuel : Nat} {concat : Concat} {p : Parser}
    (plain : p.ignoreWhitespace = false) {r : List Char} (reading : p.rest = '*' :: r) :
    (items (fuel + 1) concat).run p =
      (parseUncountedRepetition concat .zeroOrMore >>= items fuel).run p := by
  rw [items_succ_run plain, Parser.isEof_of_rest reading, Parser.cur_of_rest reading]
  rfl

theorem items_end {fuel : Nat} {concat : Concat} {p : Parser}
    (plain : p.ignoreWhitespace = false) (finished : p.rest = []) :
    (items (fuel + 1) concat).run p = pure (concat, p) := by
  rw [items_succ_run plain, Parser.isEof_of_rest_nil finished]
  rfl

theorem bump_run {p : Parser} (more : p.isEof = false) :
    bump.run p = pure (!p.advance.isEof, p.advance) := by
  simp only [bump, StateT.run_bind, StateT.run_get, pure_bind, more, Bool.false_eq_true, if_false,
    StateT.run_modify, StateT.run_pure]

theorem discard_bump_run {p : Parser} (more : p.isEof = false) :
    (discard bump).run p = pure ((), p.advance) := by
  have mapped : (discard bump).run p = (fun r => ((), r.2)) <$> bump.run p := rfl
  rw [mapped, bump_run more]
  rfl

/-- Stepping over the character under the cursor and giving `prim`, the way most primitives
are read. -/
theorem bumped_run {p : Parser} {c : Char} {r : List Char} (reading : p.rest = c :: r)
    (prim : Primitive) :
    (discard bump >>= fun _ => pure prim : ParseM Primitive).run p = pure (prim, p.advance) := by
  simp only [StateT.run_bind, discard_bump_run (Parser.isEof_of_rest reading), pure_bind,
    StateT.run_pure]

/-- A primitive is read by the character under the cursor. -/
theorem parsePrimitive_run (p : Parser) :
    parsePrimitive.run p =
      (match p.cur with
        | '\\' => parseEscape
        | '.' => do discard bump; return .dot p.spanChar
        | '^' => do discard bump; return .assertion p.spanChar .startLine
        | '$' => do discard bump; return .assertion p.spanChar .endLine
        | c => do discard bump; return .literal { span := p.spanChar, c, isByte := false }).run p :=
  rfl

theorem parsePrimitive_dot {p : Parser} {r : List Char} (reading : p.rest = '.' :: r) :
    parsePrimitive.run p = pure (.dot p.spanChar, p.advance) := by
  rw [parsePrimitive_run, Parser.cur_of_rest reading]
  exact bumped_run reading _

theorem parsePrimitive_caret {p : Parser} {r : List Char} (reading : p.rest = '^' :: r) :
    parsePrimitive.run p = pure (.assertion p.spanChar .startLine, p.advance) := by
  rw [parsePrimitive_run, Parser.cur_of_rest reading]
  exact bumped_run reading _

theorem parsePrimitive_dollar {p : Parser} {r : List Char} (reading : p.rest = '$' :: r) :
    parsePrimitive.run p = pure (.assertion p.spanChar .endLine, p.advance) := by
  rw [parsePrimitive_run, Parser.cur_of_rest reading]
  exact bumped_run reading _

theorem parsePrimitive_plain {p : Parser} {c : Char} {r : List Char} (reading : p.rest = c :: r)
    (plainChar : isMetaCharacter c = false) :
    parsePrimitive.run p =
      pure (.literal { span := p.spanChar, c, isByte := false }, p.advance) := by
  rw [parsePrimitive_run, Parser.cur_of_rest reading]
  split
  all_goals first | exact bumped_run reading _ | exact absurd plainChar (by decide)

/-- The characters with a meaning. -/
theorem isMetaCharacter_iff {c : Char} :
    isMetaCharacter c = true ↔
      c ∈ ['\\', '.', '+', '*', '?', '(', ')', '|', '[', ']', '^', '$', '#', '&', '-', '~',
        '\x7b', '\x7d'] := by
  have written : "\\.+*?()|[]^$#&-~".toList =
      ['\\', '.', '+', '*', '?', '(', ')', '|', '[', ']', '^', '$', '#', '&', '-', '~'] := by
    rfl
  simp only [isMetaCharacter, written, Bool.or_eq_true, List.contains_iff_mem, decide_eq_true_eq]
  simp only [List.mem_cons, List.not_mem_nil, or_false, or_assoc]

/-- Escaping a character with a meaning makes it literal: none of them is a digit or a letter
that an escape gives a meaning to. -/
theorem escapes_of_isMetaCharacter (c : Char) (metaChar : isMetaCharacter c = true) :
    c.isDigit = false ∧ (c = 'x' || c = 'u' || c = 'U') = false ∧ (c = 'p' || c = 'P') = false ∧
      "dswDSW".toList.contains c = false ∧ isEscapeable c = true := by
  have listed := isMetaCharacter_iff.mp metaChar
  simp only [List.mem_cons, List.not_mem_nil, or_false] at listed
  rcases listed with rfl | rfl | rfl | rfl | rfl | rfl | rfl | rfl | rfl | rfl | rfl | rfl | rfl |
    rfl | rfl | rfl | rfl | rfl <;> decide

theorem here_run (p : Parser) : here.run p = pure (p.pos, p) := rfl

/-- A character with a meaning after a backslash is read as that character. -/
theorem parseEscape_meta {p : Parser} {c : Char} {r : List Char}
    (reading : p.rest = '\\' :: c :: r) (metaChar : isMetaCharacter c = true) :
    parseEscape.run p =
      pure (.literal { span := ⟨p.pos, p.advance.advance.pos⟩, c, isByte := false },
        p.advance.advance) := by
  have ahead := Parser.rest_advance reading
  obtain ⟨notDigit, notHex, notClass, notPerl, escapeable⟩ :=
    escapes_of_isMetaCharacter c metaChar
  simp only [parseEscape, StateT.run_bind, here_run, pure_bind,
    bump_run (Parser.isEof_of_rest reading), Parser.isEof_of_rest ahead, StateT.run_get,
    Parser.cur_of_rest ahead, notDigit, notHex, notClass, notPerl, Bool.not_false, Bool.not_true,
    Bool.false_eq_true, if_false, discard_bump_run (Parser.isEof_of_rest ahead), escapeable,
    if_true, StateT.run_pure]

theorem parsePrimitive_escape {p : Parser} {c : Char} {r : List Char}
    (reading : p.rest = '\\' :: c :: r) (metaChar : isMetaCharacter c = true) :
    parsePrimitive.run p =
      pure (.literal { span := ⟨p.pos, p.advance.advance.pos⟩, c, isByte := false },
        p.advance.advance) := by
  rw [parsePrimitive_run, Parser.cur_of_rest reading]
  exact parseEscape_meta reading metaChar

/-- `*` after an item that can repeat, with no `?` after it, makes the item a greedy repetition. -/
theorem parseUncountedRepetition_star {concat : Concat} {s : Span} {before : List Ast}
    (last : concat.items = .dot s :: before) {p : Parser} {r : List Char}
    (reading : p.rest = '*' :: r) (notLazy : ∀ r', r ≠ '?' :: r') :
    (parseUncountedRepetition concat .zeroOrMore).run p =
      pure ({ concat with
          items := .repetition (s.withStop p.advance.pos) .zeroOrMore true (.dot s) :: before },
        p.advance) := by
  have eager : (!p.advance.isEof && decide (p.advance.cur = '?')) = false := by
    cases r with
    | nil =>
      simp only [Parser.isEof_of_rest_nil (Parser.rest_advance reading), Bool.not_true,
        Bool.false_and]
    | cons d r' =>
      have ahead := Parser.rest_advance reading
      have notQuestion : d ≠ '?' := fun same => notLazy r' (by rw [same])
      simp only [Parser.cur_of_rest ahead, notQuestion, decide_false, Bool.and_false]
  simp only [parseUncountedRepetition, last, StateT.run_bind,
    bump_run (Parser.isEof_of_rest reading),
    pure_bind, StateT.run_get, eager, Bool.false_eq_true, if_false, here_run, StateT.run_pure]
  rfl

/-! ## Pieces -/

/-- A piece of a pattern that matches characters: `.`, `.*`, or one character, after a
backslash when it has a meaning. -/
inductive Piece where
  | anyOne
  | anyRun
  | char (c : Char)
  deriving DecidableEq, Repr

namespace Piece

/-- How a piece is written. -/
def text : Piece -> List Char
  | anyOne => ['.']
  | anyRun => ['.', '*']
  | char c => if isMetaCharacter c then ['\\', c] else [c]

/-- The turns of the reading loop a piece takes. -/
def steps : Piece -> Nat
  | anyOne => 1
  | anyRun => 2
  | char _ => 1

/-- The node a piece is read as, whatever its spans. -/
def Reads : Piece -> Ast -> Prop
  | anyOne, a => ∃ s, a = .dot s
  | anyRun, a => ∃ s s', a = .repetition s .zeroOrMore true (.dot s')
  | char c, a => ∃ s, a = .literal ⟨s, c, false⟩

theorem steps_le_length (t : Piece) : t.steps ≤ t.text.length := by
  cases t with
  | anyOne | anyRun => decide
  | char c =>
    simp only [text, steps]
    split <;> simp only [List.length_cons, List.length_nil] <;> omega

/-- No piece starts with `?`. -/
theorem text_ne_question (t : Piece) (tail r : List Char) : t.text ++ tail ≠ '?' :: r := by
  cases t with
  | anyOne | anyRun => simp [text]
  | char c =>
    simp only [text]
    split
    · simp
    · rename_i plainChar
      intro same
      simp only [List.cons_append, List.nil_append, List.cons.injEq] at same
      rw [same.1] at plainChar
      exact plainChar (by decide)

end Piece

/-- The reading loop takes one piece in the turns it needs, leaving its node on the items
read so far and the cursor after it. -/
theorem items_piece (t : Piece) {p : Parser} {tail : List Char}
    (plain : p.ignoreWhitespace = false) (reading : p.rest = t.text ++ tail)
    (notLazy : ∀ r, tail ≠ '?' :: r) :
    ∃ a, t.Reads a ∧ ∀ fuel concat, (items (fuel + t.steps) concat).run p =
      (items fuel { concat with items := a :: concat.items }).run
        (Parser.advance^[t.text.length] p) := by
  cases t with
  | anyOne =>
    refine ⟨.dot p.spanChar, ⟨_, rfl⟩, fun fuel concat => ?_⟩
    rw [Piece.steps, items_primitive plain reading (by decide), StateT.run_bind,
      parsePrimitive_dot reading,
      pure_bind]
    rfl
  | anyRun =>
    refine ⟨.repetition (p.spanChar.withStop p.advance.advance.pos) .zeroOrMore true
      (.dot p.spanChar),
      ⟨_, _, rfl⟩, fun fuel concat => ?_⟩
    have star := Parser.rest_advance reading
    rw [Piece.steps, items_primitive plain reading (by decide), StateT.run_bind,
      parsePrimitive_dot reading, pure_bind]
    rw [items_star (by rw [Parser.advance_ignoreWhitespace, plain]) star, StateT.run_bind,
      parseUncountedRepetition_star rfl star notLazy, pure_bind]
    rfl
  | char c =>
    simp only [Piece.text] at reading
    split at reading
    · rename_i metaChar
      refine ⟨.literal ⟨⟨p.pos, p.advance.advance.pos⟩, c, false⟩, ⟨_, rfl⟩,
        fun fuel concat => ?_⟩
      rw [Piece.steps, items_primitive plain reading (by decide), StateT.run_bind,
        parsePrimitive_escape reading metaChar, pure_bind]
      simp only [Piece.text, metaChar, if_true]
      rfl
    · rename_i plainChar
      refine ⟨.literal ⟨p.spanChar, c, false⟩, ⟨_, rfl⟩, fun fuel concat => ?_⟩
      have ordinary : c ∉ ['(', ')', '|', '[', '?', '*', '+', '{'] := by
        intro listed
        have opening : ['(', ')', '|', '[', '?', '*', '+', '{'] ⊆
            ['\\', '.', '+', '*', '?', '(', ')', '|', '[', ']', '^', '$', '#', '&', '-', '~',
              '\x7b', '\x7d'] := by
          decide
        exact plainChar (isMetaCharacter_iff.mpr (opening listed))
      rw [Piece.steps, items_primitive plain reading ordinary, StateT.run_bind,
        parsePrimitive_plain reading (by simpa using plainChar), pure_bind]
      simp only [Piece.text, plainChar]
      rfl

/-- The reading loop takes pieces one after another, leaving their nodes on the items read so
far, last first. -/
theorem items_pieces (pieces : List Piece) {p : Parser} {tail : List Char}
    (plain : p.ignoreWhitespace = false) (reading : p.rest = pieces.flatMap Piece.text ++ tail)
    (notLazy : ∀ r, tail ≠ '?' :: r) :
    ∃ asts, List.Forall₂ Piece.Reads pieces asts ∧ ∀ fuel concat,
      (items (fuel + (pieces.map Piece.steps).sum) concat).run p =
        (items fuel { concat with items := asts.reverse ++ concat.items }).run
          (Parser.advance^[(pieces.flatMap Piece.text).length] p) := by
  induction pieces generalizing p with
  | nil => exact ⟨[], .nil, fun fuel concat => rfl⟩
  | cons t ts ih =>
    rw [List.flatMap_cons, List.append_assoc] at reading
    have notLazyAfter : ∀ r, ts.flatMap Piece.text ++ tail ≠ '?' :: r := by
      cases ts with
      | nil => exact notLazy
      | cons t' ts' =>
        intro r
        rw [List.flatMap_cons, List.append_assoc]
        exact Piece.text_ne_question t' _ r
    obtain ⟨a, reads, first⟩ := items_piece t plain reading notLazyAfter
    obtain ⟨asts, readsRest, rest⟩ := ih
      (by rw [Parser.iterate_advance_ignoreWhitespace, plain]) (Parser.rest_iterate_advance reading)
    refine ⟨a :: asts, .cons reads readsRest, fun fuel concat => ?_⟩
    have turns : fuel + ((t :: ts).map Piece.steps).sum =
        (fuel + (ts.map Piece.steps).sum) + t.steps := by
      rw [List.map_cons, List.sum_cons]
      omega
    rw [turns, first, rest, ← Function.iterate_add_apply, List.flatMap_cons, List.length_append,
      Nat.add_comm (ts.flatMap Piece.text).length, List.reverse_cons, List.append_assoc,
      List.singleton_append]

/-! ## The whole pattern -/

theorem Piece.steps_sum_le (pieces : List Piece) :
    (pieces.map Piece.steps).sum ≤ (pieces.flatMap Piece.text).length := by
  induction pieces with
  | nil => exact Nat.le_refl 0
  | cons t ts ih =>
    rw [List.map_cons, List.sum_cons, List.flatMap_cons, List.length_append]
    exact Nat.add_le_add (Piece.steps_le_length t) ih

theorem Concat.toAst_of_cons_cons {c : Concat} {a b : Ast} {rest : List Ast}
    (many : c.items = a :: b :: rest) : c.toAst = .concat c.span c.items.reverse := by
  simp only [Concat.toAst, many]

theorem popGroupEnd_outside {concat : Concat} {p : Parser} (outside : p.groups = []) :
    (popGroupEnd concat).run p =
      pure ({ concat with span := concat.span.withStop p.pos }.toAst, p) := by
  simp only [popGroupEnd, StateT.run_bind, here_run, pure_bind, StateT.run_get, outside,
    StateT.run_pure]

theorem tooDeepList_eq_none {limit depth : Nat} {items : List Ast}
    (shallow : ∀ a ∈ items, Ast.tooDeep limit depth a = none) :
    Ast.tooDeepList limit depth items = none := by
  induction items with
  | nil => rfl
  | cons a rest ih =>
    rw [Ast.tooDeepList, shallow a (List.mem_cons_self ..),
      ih (fun b mem => shallow b (List.mem_cons_of_mem a mem))]

theorem Piece.tooDeep_eq_none {t : Piece} {a : Ast} (reads : t.Reads a) :
    Ast.tooDeep nestLimit 1 a = none := by
  cases t with
  | anyOne =>
    obtain ⟨s, rfl⟩ := reads
    rfl
  | anyRun =>
    obtain ⟨s, s', rfl⟩ := reads
    rfl
  | char c =>
    obtain ⟨s, rfl⟩ := reads
    rfl

theorem Piece.tooDeep_eq_none_of_forall₂ {pieces : List Piece} {asts : List Ast}
    (reads : List.Forall₂ Piece.Reads pieces asts) :
    ∀ a ∈ asts, Ast.tooDeep nestLimit 1 a = none := by
  induction reads with
  | nil => exact fun a mem => absurd mem List.not_mem_nil
  | cons first _ ih =>
    intro a mem
    rcases List.mem_cons.mp mem with rfl | later
    · exact Piece.tooDeep_eq_none first
    · exact ih a later

/-- A pattern of pieces between `^` and `$` reads as the concatenation of their nodes between
the two anchors.  The reading loop takes a turn for `^`, one for each step of the pieces, one
for `$` and one to stop, and closing the pattern finds no group open. -/
theorem parse_anchored (pattern : String) (pieces : List Piece)
    (written : pattern.toList = '^' :: (pieces.flatMap Piece.text ++ ['$'])) :
    ∃ s s₁ s₂ asts, List.Forall₂ Piece.Reads pieces asts ∧
      parse pattern =
        .ok (.concat s (.assertion s₁ .startLine :: asts ++ [.assertion s₂ .endLine])) := by
  have rest₀ : (Parser.start pattern).rest = '^' :: (pieces.flatMap Piece.text ++ ['$']) := by
    simp only [Parser.rest, Parser.start, List.toList_toArray, List.drop_zero, written]
  have rest₁ := Parser.rest_advance rest₀
  obtain ⟨asts, reads, loop⟩ := items_pieces pieces
    (by rw [Parser.advance_ignoreWhitespace]; rfl) rest₁ (by simp)
  have rest₂ := Parser.rest_iterate_advance rest₁
  have plain₂ : (Parser.advance^[(pieces.flatMap Piece.text).length]
      (Parser.start pattern).advance).ignoreWhitespace = false := by
    rw [Parser.iterate_advance_ignoreWhitespace, Parser.advance_ignoreWhitespace]
    rfl
  have outside₂ : (Parser.advance^[(pieces.flatMap Piece.text).length]
      (Parser.start pattern).advance).groups = [] := by
    rw [Parser.iterate_advance_groups, Parser.advance_groups]
    rfl
  generalize Parser.advance^[(pieces.flatMap Piece.text).length] (Parser.start pattern).advance = p₂
    at loop rest₂ plain₂ outside₂
  have turns : (Parser.start pattern).chars.size + 2 =
      (((pieces.flatMap Piece.text).length + 1 - (pieces.map Piece.steps).sum + 1) + 1 +
        (pieces.map Piece.steps).sum) + 1 := by
    have fewer := Piece.steps_sum_le pieces
    simp only [Parser.start, List.size_toArray, written, List.length_cons, List.length_append,
      List.length_nil]
    omega
  let read : Concat :=
    ⟨(Parser.start pattern).span, .assertion p₂.spanChar .endLine ::
      (asts.reverse ++ [.assertion (Parser.start pattern).spanChar .startLine])⟩
  have run : (items ((Parser.start pattern).chars.size + 2)
      { span := (Parser.start pattern).span, items := [] }).run (Parser.start pattern) =
      pure (read, p₂.advance) := by
    rw [turns, items_primitive rfl rest₀ (by decide), StateT.run_bind, parsePrimitive_caret rest₀,
      pure_bind]
    rw [loop, items_primitive plain₂ rest₂ (by decide), StateT.run_bind,
      parsePrimitive_dollar rest₂, pure_bind,
      items_end ((Parser.advance_ignoreWhitespace _).trans plain₂) (Parser.rest_advance rest₂)]
    rfl
  have closed : { read with span := read.span.withStop p₂.advance.pos }.toAst =
      .concat (read.span.withStop p₂.advance.pos)
        (.assertion (Parser.start pattern).spanChar .startLine :: asts ++
          [.assertion p₂.spanChar .endLine]) := by
    obtain ⟨b, others, split⟩ : ∃ b others,
        asts.reverse ++ [.assertion (Parser.start pattern).spanChar .startLine] = b :: others :=
      List.exists_cons_of_ne_nil (by simp)
    have many : ({ read with span := read.span.withStop p₂.advance.pos } : Concat).items =
        .assertion p₂.spanChar .endLine :: b :: others := by
      rw [← split]
    rw [Concat.toAst_of_cons_cons many]
    simp [read]
  have shallow : ∀ s, Ast.tooDeep nestLimit 0 (.concat s
      (.assertion (Parser.start pattern).spanChar .startLine :: asts ++
        [.assertion p₂.spanChar .endLine])) = none := by
    intro s
    apply tooDeepList_eq_none
    intro a mem
    simp only [List.cons_append, List.mem_cons, List.mem_append, List.not_mem_nil, or_false] at mem
    rcases mem with rfl | inAsts | rfl
    · rfl
    · exact Piece.tooDeep_eq_none_of_forall₂ reads a inAsts
    · rfl
  refine ⟨read.span.withStop p₂.advance.pos, (Parser.start pattern).spanChar, p₂.spanChar, asts,
    reads, ?_⟩
  simp only [parse, parseAll, StateT.run_bind, StateT.run_get, pure_bind, run,
    popGroupEnd_outside ((Parser.advance_groups _).trans outside₂), closed, shallow,
    StateT.run_pure]
  rfl

end Regex
end Refbook
