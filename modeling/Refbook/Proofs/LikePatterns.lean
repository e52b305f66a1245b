import Refbook.Proofs.PatternMeaning
import Refbook.Proofs.PatternReading
import Refbook.Regex.Compile
import Refbook.Document.Like
import Refbook.Query.Parse

namespace Refbook

/-!
# Patterns of `like` as regular expressions

A `like` pattern is searched for as the regular expression `likeToRegex` writes: `^`, then
`.*` for each `%`, `.` for each `_` and each other character made literal, then `$`.  This
module shows that, whenever the backslashes at the end of the pattern pair up (the query
reader refuses the others), compiling that expression with `.` matching every character can
fail only on the memory budget of its automata, and the pattern it translates to matches a
text exactly when the text matches the `like` pattern (`LikeMatch`), case ignored or not.

The proof goes through the pieces of the expression: the pattern is read as the
concatenation of the two anchors and the nodes of its pieces (`parse_anchored`), each node
translates to the pattern of its piece, and an induction on the `like` pattern, step for step
with `likeBody`, relates the pieces to `LikeMatch`.
-/

namespace Regex

open Text

/-! ## Translating pieces -/

theorem translateNode_dot (noCase : Bool) (s : Span) :
    translateNode (initialFlags noCase true) (.dot s) =
      .ok (.cls ⟨CodeSet.full, false⟩, initialFlags noCase true) := rfl

theorem translateNode_dotStar (noCase : Bool) (s s' : Span) :
    translateNode (initialFlags noCase true) (.repetition s .zeroOrMore true (.dot s')) =
      .ok (.repetition 0 none true (.cls ⟨CodeSet.full, false⟩), initialFlags noCase true) := rfl

theorem translateNode_caret (noCase : Bool) (s : Span) :
    translateNode (initialFlags noCase true) (.assertion s .startLine) =
      .ok (.look .start, initialFlags noCase true) := rfl

theorem translateNode_dollar (noCase : Bool) (s : Span) :
    translateNode (initialFlags noCase true) (.assertion s .endLine) =
      .ok (.look .finish, initialFlags noCase true) := rfl

/-- The pattern a piece translates to when `.` matches every character. -/
def Piece.hir (noCase : Bool) : Piece -> Hir
  | .anyOne => .cls ⟨CodeSet.full, false⟩
  | .anyRun => .repetition 0 none true (.cls ⟨CodeSet.full, false⟩)
  | .char c =>
    if noCase && hasCaseVariant c.toNat then Hir.ofClass ⟨(CodeSet.range c.toNat c.toNat).caseFold, false⟩
    else .literal [c]

theorem translateNode_literal (noCase : Bool) (s : Span) (c : Char) :
    translateNode (initialFlags noCase true) (.literal ⟨s, c, false⟩) =
      .ok ((Piece.char c).hir noCase, initialFlags noCase true) := by
  cases noCase with
  | false => rfl
  | true =>
    cases variant : hasCaseVariant c.toNat <;>
      simp only [translateNode, literalHir, literalChar, bind, Except.bind, initialFlags, Piece.hir,
        variant, Bool.not_true, Bool.false_and, Bool.false_eq_true, Bool.true_and, if_false,
        if_true] <;>
      rfl

theorem Piece.translateNode_of_reads {t : Piece} {a : Ast} (reads : t.Reads a) (noCase : Bool) :
    translateNode (initialFlags noCase true) a = .ok (t.hir noCase, initialFlags noCase true) := by
  cases t with
  | anyOne =>
    obtain ⟨s, rfl⟩ := reads
    exact translateNode_dot noCase s
  | anyRun =>
    obtain ⟨s, s', rfl⟩ := reads
    exact translateNode_dotStar noCase s s'
  | char c =>
    obtain ⟨s, rfl⟩ := reads
    exact translateNode_literal noCase s c

theorem translateList_of_forall₂ {flags : Flags} {asts : List Ast} {hs : List Hir}
    (each : List.Forall₂ (fun a h => translateNode flags a = .ok (h, flags)) asts hs) :
    translateList flags asts = .ok (hs, flags) := by
  induction each with
  | nil => rfl
  | cons first _ ih =>
    simp only [translateList, first, ih, bind, Except.bind]
    rfl

/-- A concatenation of nodes that translate without changing the flags means the
concatenation of their patterns. -/
theorem translate_concat {flags : Flags} {s : Span} {asts : List Ast} {hs : List Hir}
    (each : List.Forall₂ (fun a h => translateNode flags a = .ok (h, flags)) asts hs) :
    ∃ hir, translate flags (.concat s asts) = .ok hir ∧
      ∀ text i j, Hir.Spans text hir i j ↔ Hir.Spans text (.concat hs) i j := by
  simp only [translate, translateNode, translateList_of_forall₂ each, bind, Except.bind]
  refine ⟨_, rfl, fun text i j => ?_⟩
  rw [Hir.spans_concatOf, Hir.spans_concat_filter]
  intro h kept
  cases h <;> first | rfl | exact Bool.noConfusion kept

/-- A pattern that reads and translates compiles to the program of its translation, unless
its automata are over the budget. -/
theorem compile_of_translate {pattern : String} {noCase dotAll : Bool} {ast : Ast} {hir : Hir}
    (parsed : parse pattern = .ok ast)
    (translated : translate (initialFlags noCase dotAll) ast = .ok hir) :
    compile pattern noCase dotAll =
      if Budget.fits hir then .ok (Program.ofHir hir) else .error budgetMessage := by
  simp only [compile, parsed, translated, Except.mapError, bind, Except.bind]
  cases Budget.fits hir <;> rfl

end Regex

namespace Document

/-! ## The pieces of a `like` pattern -/

/-- The pieces of the regular expression of a pattern. -/
def likePieces : List Char -> List Regex.Piece
  | [] => []
  | '%' :: rest => .anyRun :: likePieces rest
  | '_' :: rest => .anyOne :: likePieces rest
  | ['\\'] => []
  | '\\' :: c :: rest => .char c :: likePieces rest
  | c :: rest => .char c :: likePieces rest

theorem likePieces_char {c : Char} (rest : List Char) (notRun : c ≠ '%') (notOne : c ≠ '_')
    (notEscape : c ≠ '\\') : likePieces (c :: rest) = .char c :: likePieces rest := by
  cases rest <;> simp [likePieces, notEscape]

/-- A character that `likeBody` takes neither as a lone backslash nor as a backslash before
another character is no backslash. -/
theorem ne_escape_of_unpaired {c : Char} {rest : List Char} (notLone : c = '\\' → rest = [] → False)
    (notPair : ∀ d r, c = '\\' → rest = d :: r → False) : c ≠ '\\' := by
  intro escape
  cases rest with
  | nil => exact notLone escape rfl
  | cons d r => exact notPair d r escape rfl

/-- The number of backslashes a pattern ends with. -/
def trailingEscapes (cs : List Char) : Nat :=
  (cs.reverse.takeWhile (· = '\\')).length

theorem endsWithEscape_eq_false_iff (pattern : String) :
    Query.endsWithEscape pattern = false ↔ trailingEscapes pattern.toList % 2 = 0 := by
  simp only [Query.endsWithEscape, trailingEscapes, decide_eq_false_iff_not]
  omega

theorem trailingEscapes_le (cs : List Char) : trailingEscapes cs ≤ cs.length := by
  have fewer := (List.takeWhile_prefix (· = '\\') (l := cs.reverse)).length_le
  rwa [List.length_reverse] at fewer

/-- A character before a pattern adds to its trailing backslashes only when the pattern is
all backslashes. -/
theorem trailingEscapes_cons (c : Char) (cs : List Char) :
    trailingEscapes (c :: cs) =
      if trailingEscapes cs = cs.length then cs.length + (if c = '\\' then 1 else 0)
      else trailingEscapes cs := by
  unfold trailingEscapes
  rw [List.reverse_cons, List.takeWhile_append, List.length_reverse]
  split
  · rw [List.length_append, List.length_reverse]
    by_cases escape : c = '\\' <;> simp [escape]
  · rfl


theorem trailingEscapes_cons_of_ne {c : Char} (notEscape : c ≠ '\\') (cs : List Char) :
    trailingEscapes (c :: cs) = trailingEscapes cs := by
  rw [trailingEscapes_cons, if_neg notEscape]
  split <;> omega

/-- A backslash and the character it escapes leave the parity of the trailing backslashes. -/
theorem trailingEscapes_pair (c : Char) (cs : List Char) :
    trailingEscapes ('\\' :: c :: cs) % 2 = trailingEscapes cs % 2 := by
  have fewer := trailingEscapes_le cs
  have inner := trailingEscapes_cons c cs
  have outer := trailingEscapes_cons '\\' (c :: cs)
  rw [List.length_cons, if_pos rfl] at outer
  by_cases all : trailingEscapes cs = cs.length
  · by_cases escape : c = '\\'
    · rw [if_pos all, if_pos escape] at inner
      rw [if_pos inner] at outer
      omega
    · rw [if_pos all, if_neg escape] at inner
      rw [if_neg (by omega)] at outer
      omega
  · rw [if_neg all] at inner
    rw [if_neg (by omega)] at outer
    omega

theorem isMetaChar_eq_isMetaCharacter (c : Char) : isMetaChar c = Regex.isMetaCharacter c := by
  have opening : (c.toNat = 0x7B) ↔ c = '\x7b' := by
    rw [← Char.toNat_inj]
    rfl
  have closing : (c.toNat = 0x7D) ↔ c = '\x7d' := by
    rw [← Char.toNat_inj]
    rfl
  simp only [isMetaChar, Regex.isMetaCharacter, opening, closing]

theorem escapeChar_toList (c : Char) : (escapeChar c).toList = (Regex.Piece.char c).text := by
  rw [escapeChar, Regex.Piece.text, isMetaChar_eq_isMetaCharacter]
  cases Regex.isMetaCharacter c <;> simp

/-- The regular expression of a pattern whose backslashes pair up is written piece by piece. -/
theorem likeBody_toList (cs : List Char) (even : trailingEscapes cs % 2 = 0) :
    (likeBody cs).toList = (likePieces cs).flatMap Regex.Piece.text := by
  fun_induction likeBody cs with
  | case1 => rfl
  | case2 rest ih =>
    rw [trailingEscapes_cons_of_ne (by decide)] at even
    simp only [String.toList_append, ih even, likePieces, List.flatMap_cons]
    rfl
  | case3 rest ih =>
    rw [trailingEscapes_cons_of_ne (by decide)] at even
    simp only [String.toList_append, ih even, likePieces, List.flatMap_cons]
    rfl
  | case4 => exact absurd even (by decide)
  | case5 c rest ih =>
    rw [trailingEscapes_pair] at even
    simp only [String.toList_append, ih even, escapeChar_toList, likePieces, List.flatMap_cons]
  | case6 c rest notRun notOne notLone notPair ih =>
    have notEscape := ne_escape_of_unpaired notLone notPair
    rw [trailingEscapes_cons_of_ne notEscape] at even
    rw [String.toList_append, ih even, escapeChar_toList, likePieces_char rest notRun notOne notEscape,
      List.flatMap_cons]

/-! ## Matching under `like` -/

/-- Whether a character of a text stands for a character of a pattern: the character itself,
or when case is ignored, any member of its class under simple case folding. -/
def CharLike : Bool -> Char -> Char -> Prop
  | false, c, d => d = c
  | true, c, d => (Text.CodeSet.range c.toNat c.toNat).caseFold.contains d.toNat = true

/-- A text matches a pattern under `like` with the escape character `\`: `%` matches any run
of characters, the empty one included, `_` any one character, `\` followed by a character
that character, and any other character itself, up to case when case is ignored. -/
inductive LikeMatch (noCase : Bool) : List Char -> List Char -> Prop
  | nil : LikeMatch noCase [] []
  | anyRun {rest text : List Char} (run : List Char) :
      LikeMatch noCase rest text -> LikeMatch noCase ('%' :: rest) (run ++ text)
  | anyOne {rest text : List Char} (d : Char) :
      LikeMatch noCase rest text -> LikeMatch noCase ('_' :: rest) (d :: text)
  | escaped {rest text : List Char} {c d : Char} : CharLike noCase c d ->
      LikeMatch noCase rest text -> LikeMatch noCase ('\\' :: c :: rest) (d :: text)
  | literal {rest text : List Char} {c d : Char} : c ≠ '%' -> c ≠ '_' -> c ≠ '\\' ->
      CharLike noCase c d -> LikeMatch noCase rest text -> LikeMatch noCase (c :: rest) (d :: text)

section Matching

variable {noCase : Bool}

theorem likeMatch_nil_iff {text : List Char} : LikeMatch noCase [] text ↔ text = [] := by
  constructor
  · intro matched
    cases matched
    rfl
  · rintro rfl
    exact .nil

theorem likeMatch_percent_iff {rest text : List Char} :
    LikeMatch noCase ('%' :: rest) text ↔
      ∃ k ≤ text.length, LikeMatch noCase rest (text.drop k) := by
  constructor
  · intro matched
    cases matched with
    | anyRun run others =>
      refine ⟨run.length, by simp, ?_⟩
      rwa [List.drop_left]
    | literal notRun => exact absurd rfl notRun
  · rintro ⟨k, _, others⟩
    rw [← List.take_append_drop k text]
    exact .anyRun _ others

theorem likeMatch_underscore_iff {rest text : List Char} :
    LikeMatch noCase ('_' :: rest) text ↔
      ∃ d more, text = d :: more ∧ LikeMatch noCase rest more := by
  constructor
  · intro matched
    cases matched with
    | anyOne d others => exact ⟨d, _, rfl, others⟩
    | literal _ notOne => exact absurd rfl notOne
  · rintro ⟨d, more, rfl, others⟩
    exact .anyOne d others

theorem likeMatch_escape_iff {c : Char} {rest text : List Char} :
    LikeMatch noCase ('\\' :: c :: rest) text ↔
      ∃ d more, text = d :: more ∧ CharLike noCase c d ∧ LikeMatch noCase rest more := by
  constructor
  · intro matched
    cases matched with
    | escaped like others => exact ⟨_, _, rfl, like, others⟩
    | literal _ _ notEscape => exact absurd rfl notEscape
  · rintro ⟨d, more, rfl, like, others⟩
    exact .escaped like others

theorem likeMatch_char_iff {c : Char} {rest text : List Char} (notRun : c ≠ '%') (notOne : c ≠ '_')
    (notEscape : c ≠ '\\') :
    LikeMatch noCase (c :: rest) text ↔
      ∃ d more, text = d :: more ∧ CharLike noCase c d ∧ LikeMatch noCase rest more := by
  constructor
  · intro matched
    cases matched with
    | anyRun => exact absurd rfl notRun
    | anyOne => exact absurd rfl notOne
    | escaped => exact absurd rfl notEscape
    | literal _ _ _ like others => exact ⟨_, _, rfl, like, others⟩
  · rintro ⟨d, more, rfl, like, others⟩
    exact .literal notRun notOne notEscape like others

end Matching

section Pieces

open Regex Regex.Hir

variable {text : List Char} {noCase : Bool}

theorem spans_char_hir {c : Char} {i j : Nat} :
    Spans text ((Piece.char c).hir noCase) i j ↔
      ∃ d, text[i]? = some d ∧ CharLike noCase c d ∧ j = i + 1 := by
  cases noCase with
  | false =>
    simp only [Piece.hir, Bool.false_and, Bool.false_eq_true, if_false, spans_literal_char,
      CharLike]
    constructor
    · rintro ⟨found, rfl⟩
      exact ⟨c, found, rfl, rfl⟩
    · rintro ⟨d, found, rfl, rfl⟩
      exact ⟨found, rfl⟩
  | true =>
    cases variant : Text.hasCaseVariant c.toNat with
    | true =>
      simp only [Piece.hir, variant, Bool.and_self, if_true]
      rw [spans_ofClass ⟨c, Text.CodeSet.covers_caseFold_range c.toNat⟩, spans_cls_iff]
      exact Iff.rfl
    | false =>
      simp only [Piece.hir, variant, Bool.and_false, Bool.false_eq_true, if_false,
        spans_literal_char, CharLike]
      rw [Text.CodeSet.caseFold_range_of_not_hasCaseVariant variant, Text.CodeSet.range_self]
      simp only [Text.CodeSet.contains_singleton]
      constructor
      · rintro ⟨found, rfl⟩
        exact ⟨c, found, ⟨Nat.le_refl _, Nat.le_refl _⟩, rfl⟩
      · rintro ⟨d, found, ⟨low, high⟩, rfl⟩
        have same : d = c := Char.toNat_inj.mp (by omega)
        subst same
        exact ⟨found, rfl⟩

theorem drop_eq_cons_iff {i : Nat} {d : Char} {more : List Char} :
    text.drop i = d :: more ↔ text[i]? = some d ∧ more = text.drop (i + 1) := by
  constructor
  · intro split
    have first := congrArg (·[0]?) split
    have others := congrArg List.tail split
    simp only [List.getElem?_drop, Nat.add_zero, List.getElem?_cons_zero] at first
    rw [List.tail_drop, List.tail_cons] at others
    exact ⟨first, others.symm⟩
  · rintro ⟨found, rfl⟩
    have lt := (List.getElem?_eq_some_iff.mp found).1
    rw [List.drop_eq_getElem_cons lt, (List.getElem?_eq_some_iff.mp found).2]

/-- One character of a given kind, then the rest: the two sides of the induction step. -/
theorem spans_one_then {h : Hir} {rest : List Hir} {P : Char -> Prop} {R : List Char -> Prop}
    {i : Nat} (one : ∀ j, Spans text h i j ↔ ∃ d, text[i]? = some d ∧ P d ∧ j = i + 1)
    (after : i + 1 ≤ text.length ->
      (Spans text (.concat rest) (i + 1) text.length ↔ R (text.drop (i + 1)))) :
    Spans text (.concat (h :: rest)) i text.length ↔
      ∃ d more, text.drop i = d :: more ∧ P d ∧ R more := by
  simp only [spans_concat_cons, one, drop_eq_cons_iff]
  constructor
  · rintro ⟨j, ⟨d, found, like, rfl⟩, others⟩
    have lt := (List.getElem?_eq_some_iff.mp found).1
    exact ⟨d, _, ⟨found, rfl⟩, like, (after lt).mp others⟩
  · rintro ⟨d, more, ⟨found, rfl⟩, like, others⟩
    have lt := (List.getElem?_eq_some_iff.mp found).1
    exact ⟨i + 1, ⟨d, found, like, rfl⟩, (after lt).mpr others⟩

/-- The pieces of a pattern whose backslashes pair up match from a position to the end of a
text exactly when the rest of the text matches the pattern. -/
theorem spans_likePieces (cs : List Char) (even : trailingEscapes cs % 2 = 0) :
    ∀ i ≤ text.length,
      (Spans text (.concat ((likePieces cs).map (Piece.hir noCase))) i text.length ↔
        LikeMatch noCase cs (text.drop i)) := by
  fun_induction likeBody cs with
  | case1 =>
    intro i inside
    rw [likePieces, List.map_nil, spans_concat_nil, likeMatch_nil_iff, List.drop_eq_nil_iff]
    omega
  | case2 rest ih =>
    rw [trailingEscapes_cons_of_ne (by decide)] at even
    intro i inside
    simp only [likePieces, List.map_cons, Piece.hir, spans_concat_cons, spans_star_full,
      likeMatch_percent_iff, List.length_drop, List.drop_drop]
    constructor
    · rintro ⟨j, ⟨before, within⟩, others⟩
      refine ⟨j - i, by omega, ?_⟩
      rw [show i + (j - i) = j by omega]
      exact (ih even j within).mp others
    · rintro ⟨k, within, others⟩
      exact ⟨i + k, ⟨by omega, by omega⟩, (ih even (i + k) (by omega)).mpr others⟩
  | case3 rest ih =>
    rw [trailingEscapes_cons_of_ne (by decide)] at even
    intro i inside
    rw [likePieces, List.map_cons, likeMatch_underscore_iff]
    have one : ∀ j, Spans text (Piece.anyOne.hir noCase) i j ↔
        ∃ d, text[i]? = some d ∧ True ∧ j = i + 1 := by
      intro j
      rw [Piece.hir, spans_cls_full]
      constructor
      · rintro ⟨lt, rfl⟩
        exact ⟨text[i], List.getElem?_eq_getElem lt, trivial, rfl⟩
      · rintro ⟨d, found, _, rfl⟩
        exact ⟨(List.getElem?_eq_some_iff.mp found).1, rfl⟩
    rw [spans_one_then one (fun within => ih even (i + 1) within)]
    simp only [true_and]
  | case4 => exact absurd even (by decide)
  | case5 c rest ih =>
    rw [trailingEscapes_pair] at even
    intro i inside
    rw [likePieces, List.map_cons, likeMatch_escape_iff,
      spans_one_then (fun j => spans_char_hir) (fun within => ih even (i + 1) within)]
  | case6 c rest notRun notOne notLone notPair ih =>
    have notEscape : c ≠ '\\' := by
      intro escape
      cases rest with
      | nil => exact notLone escape rfl
      | cons d r => exact notPair d r escape rfl
    rw [trailingEscapes_cons_of_ne notEscape] at even
    intro i inside
    rw [likePieces_char rest notRun notOne notEscape, List.map_cons,
      likeMatch_char_iff notRun notOne notEscape,
      spans_one_then (fun j => spans_char_hir) (fun within => ih even (i + 1) within)]

end Pieces

/-! ## The regular expression of a pattern -/

theorem Regex.Piece.translateNode_forall₂ {pieces : List Regex.Piece} {asts : List Regex.Ast}
    (reads : List.Forall₂ Regex.Piece.Reads pieces asts) (noCase : Bool) :
    List.Forall₂ (fun a h => Regex.translateNode (Regex.initialFlags noCase true) a =
      .ok (h, Regex.initialFlags noCase true)) asts (pieces.map (Regex.Piece.hir noCase)) := by
  induction reads with
  | nil => exact .nil
  | cons first _ ih => exact .cons (Regex.Piece.translateNode_of_reads first noCase) ih

/-- The regular expression of a `like` pattern whose backslashes pair up, compiled with `.`
matching every character and case ignored or not, is refused only when its automata are over
the memory budget; it translates to a pattern that matches a text exactly when the text matches
the pattern under `like`. -/
theorem likeToRegex_matches_like (pattern : String) (noCase : Bool)
    (paired : Query.endsWithEscape pattern = false) :
    ∃ hir, (Regex.parse (likeToRegex pattern) >>= Regex.translate (Regex.initialFlags noCase true)) =
        .ok hir ∧
      (∀ text : String,
        (∃ i j, Regex.Hir.Spans text.toList hir i j) ↔ LikeMatch noCase pattern.toList text.toList) ∧
      Regex.compile (likeToRegex pattern) noCase true =
        if Regex.Budget.fits hir then .ok (Regex.Program.ofHir hir) else .error Regex.budgetMessage := by
  have even := (endsWithEscape_eq_false_iff pattern).mp paired
  have written : (likeToRegex pattern).toList =
      '^' :: ((likePieces pattern.toList).flatMap Regex.Piece.text ++ ['$']) := by
    rw [likeToRegex, String.toList_append, String.toList_append, likeBody_toList _ even]
    rfl
  obtain ⟨s, s₁, s₂, asts, reads, parsed⟩ := Regex.parse_anchored _ _ written
  have front : List.Forall₂ (fun a h => Regex.translateNode (Regex.initialFlags noCase true) a =
        .ok (h, Regex.initialFlags noCase true))
      (.assertion s₁ .startLine :: asts)
      (.look .start :: (likePieces pattern.toList).map (Regex.Piece.hir noCase)) :=
    .cons (Regex.translateNode_caret noCase s₁) (Regex.Piece.translateNode_forall₂ reads noCase)
  have back : List.Forall₂ (fun a h => Regex.translateNode (Regex.initialFlags noCase true) a =
        .ok (h, Regex.initialFlags noCase true)) [.assertion s₂ .endLine] [.look .finish] :=
    .cons (Regex.translateNode_dollar noCase s₂) .nil
  have each := List.rel_append front back
  obtain ⟨hir, translated, means⟩ := @Regex.translate_concat _ s _ _ each
  refine ⟨hir, by rw [parsed]; exact translated, fun text => ?_,
    Regex.compile_of_translate parsed translated⟩
  simp only [means, List.cons_append, Regex.Hir.spans_concat_cons, Regex.Hir.spans_start_iff,
    Regex.Hir.spans_concat_append, Regex.Hir.spans_finish_iff, Regex.Hir.spans_concat_nil]
  have whole := @spans_likePieces text.toList noCase pattern.toList even 0 (Nat.zero_le _)
  rw [List.drop_zero] at whole
  rw [← whole]
  constructor
  · rintro ⟨_, _, _, ⟨rfl, rfl⟩, _, pieces, _, ⟨rfl, rfl⟩, rfl, _⟩
    exact pieces
  · intro pieces
    exact ⟨0, _, 0, ⟨rfl, rfl⟩, _, pieces, _, ⟨rfl, rfl⟩, rfl, Nat.le_refl _⟩

/-- The escaped percent sign matches itself and nothing else: `5\%` is written `^5\%$`. -/
theorem escaped_percent_regex_matches_like :
    Query.endsWithEscape "5\\%" = false ∧
      ∃ hir, (Regex.parse (likeToRegex "5\\%") >>= Regex.translate (Regex.initialFlags false true)) =
          .ok hir ∧
        (∀ text : String,
          (∃ i j, Regex.Hir.Spans text.toList hir i j) ↔ LikeMatch false "5\\%".toList text.toList) ∧
        Regex.compile (likeToRegex "5\\%") false true =
          if Regex.Budget.fits hir then .ok (Regex.Program.ofHir hir) else .error Regex.budgetMessage :=
  ⟨by decide, likeToRegex_matches_like "5\\%" false (by decide)⟩

end Document
end Refbook
