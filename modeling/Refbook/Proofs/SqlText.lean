import Refbook.Sql.Predicate

namespace Refbook
namespace Sql

/-!
# What the text of a predicate is made of

The text of a predicate is a sequence of *pieces*: fragments of the
dialect that the renderer writes itself, identifiers quoted as the dialect
needs, parameter placeholders `:name`, and numbers of elements.  Nothing
else reaches the text; in particular no constant does, since a predicate
holds none.

The database reads the parameters a statement names by scanning its text:
a colon starts a name, and the name runs over the letters, digits, `_`, `$`
and non-ASCII characters after it.  Every placeholder of a predicate is
followed by a blank, a comma or a closing parenthesis, or ends the text, and
no other piece holds a colon when its identifiers hold none.  So the scan of
a predicate's text finds exactly its placeholders, in order.
-/

/-! ## Fragments and pieces -/

/-- The fixed fragments of the dialect the renderer writes. -/
inductive Fragment where
  | dot
  | value
  | realValue
  | trueLit
  | falseLit
  | isNull
  | isNotNull
  | blank
  | symbol (op : Query.CompareOp)
  | inOpen
  | notInOpen
  | close
  | comma
  | lowerOpen
  | likeLower
  | escapeClose
  | like
  | escape
  | between
  | conj
  | disj
  | existsOpen
  | whereOpen
  | countOpen
  | fromEach
  | countClose
  | negation
  | coalesceOpen
  | falseClose
  | opening
  deriving DecidableEq, Repr

namespace Fragment

def text : Fragment -> String
  | dot => "."
  | value => "value"
  | realValue => "cast(value as real)"
  | trueLit => "true"
  | falseLit => "false"
  | isNull => " is null"
  | isNotNull => " is not null"
  | blank => " "
  | symbol op => Sql.symbol op
  | inOpen => " in ("
  | notInOpen => " not in ("
  | close => ")"
  | comma => ", "
  | lowerOpen => "lower("
  | likeLower => ") like lower("
  | escapeClose => ") escape '\\'"
  | like => " like "
  | escape => " escape '\\'"
  | between => " between "
  | conj => " and "
  | disj => " or "
  | existsOpen => "exists (select 1 from json_each("
  | whereOpen => ") where "
  | countOpen => "(select count(distinct "
  | fromEach => ") from json_each("
  | countClose => ")) = "
  | negation => "not "
  | coalesceOpen => "not coalesce("
  | falseClose => ", false)"
  | opening => "("

end Fragment

/-- A piece of the text of a predicate. -/
inductive Piece where
  | fixed (f : Fragment)
  /-- An identifier, quoted when the dialect needs it. -/
  | word (name : String)
  | placeholder (name : String)
  /-- The number of elements an array must hold. -/
  | count (n : Nat)
  deriving DecidableEq, Repr

namespace Piece

def text : Piece -> String
  | fixed f => f.text
  | word name => quoteIdentifier name
  | placeholder name => ":" ++ name
  | count n => toString n

def placeholder? : Piece -> Option String
  | placeholder name => some name
  | _ => none

def word? : Piece -> Option String
  | word name => some name
  | _ => none

@[simp] theorem placeholder?_fixed (f : Fragment) : (fixed f).placeholder? = none := rfl
@[simp] theorem placeholder?_word (name : String) : (word name).placeholder? = none := rfl
@[simp] theorem placeholder?_placeholder (name : String) :
    (placeholder name).placeholder? = some name := rfl
@[simp] theorem placeholder?_count (n : Nat) : (count n).placeholder? = none := rfl
@[simp] theorem word?_fixed (f : Fragment) : (fixed f).word? = none := rfl
@[simp] theorem word?_word (name : String) : (word name).word? = some name := rfl
@[simp] theorem word?_placeholder (name : String) : (placeholder name).word? = none := rfl
@[simp] theorem word?_count (n : Nat) : (count n).word? = none := rfl

end Piece

/-- The text of some pieces, one after another. -/
def Piece.join (pieces : List Piece) : String :=
  String.join (pieces.map Piece.text)

namespace Term

def pieces : Term -> List Piece
  | column dict field => [.word dict, .fixed .dot, .word field]
  | param name => [.placeholder name]
  | element numeric => [.fixed (if numeric then .realValue else .value)]

end Term

/-- Terms separated by commas. -/
def listPieces : List Term -> List Piece
  | [] => []
  | [t] => t.pieces
  | t :: u :: rest => t.pieces ++ .fixed .comma :: listPieces (u :: rest)

namespace Pred

def pieces : Pred -> List Piece
  | const b => [.fixed (if b then .trueLit else .falseLit)]
  | isNull t => t.pieces ++ [.fixed .isNull]
  | isNotNull t => t.pieces ++ [.fixed .isNotNull]
  | compare op l r => l.pieces ++ .fixed .blank :: .fixed (.symbol op) :: .fixed .blank :: r.pieces
  | member t items negated =>
    t.pieces ++ .fixed (if negated then .notInOpen else .inOpen) ::
      (listPieces items ++ [.fixed .close])
  | like s p noCase =>
    if noCase then
      .fixed .lowerOpen :: (s.pieces ++ .fixed .likeLower :: (p.pieces ++ [.fixed .escapeClose]))
    else s.pieces ++ .fixed .like :: (p.pieces ++ [.fixed .escape])
  | between s lo hi => s.pieces ++ .fixed .between :: (lo.pieces ++ .fixed .conj :: hi.pieces)
  | anyElement column condition =>
    .fixed .existsOpen :: (column.pieces ++ .fixed .whereOpen :: (condition.pieces ++ [.fixed .close]))
  | coversAll column element items count =>
    .fixed .countOpen :: (element.pieces ++ .fixed .fromEach :: (column.pieces ++
      .fixed .whereOpen :: (element.pieces ++ .fixed .inOpen ::
        (listPieces items ++ [.fixed .countClose, .count count]))))
  | not p => .fixed .negation :: p.pieces
  | notCoalesce p => .fixed .coalesceOpen :: (p.pieces ++ [.fixed .falseClose])
  | and l r => .fixed .opening :: (l.pieces ++ .fixed .conj :: (r.pieces ++ [.fixed .close]))
  | or l r => .fixed .opening :: (l.pieces ++ .fixed .disj :: (r.pieces ++ [.fixed .close]))
  | andAll ps => .fixed .opening :: (allPieces ps ++ [.fixed .close])
where
  /-- Predicates joined by `and`. -/
  allPieces : List Pred -> List Piece
    | [] => []
    | [p] => p.pieces
    | p :: q :: rest => p.pieces ++ .fixed .conj :: allPieces (q :: rest)

/-- The parameters a predicate names, left to right. -/
def paramNames (p : Pred) : List String :=
  p.pieces.filterMap Piece.placeholder?

/-- The identifiers a predicate names. -/
def words (p : Pred) : List String :=
  p.pieces.filterMap Piece.word?

end Pred

/-! ## The text is the pieces -/

@[simp] theorem Piece.join_nil : Piece.join [] = "" := rfl

@[simp] theorem Piece.join_cons (x : Piece) (rest : List Piece) :
    Piece.join (x :: rest) = x.text ++ Piece.join rest := by
  simp [Piece.join, String.join_cons]

@[simp] theorem Piece.join_append (xs ys : List Piece) :
    Piece.join (xs ++ ys) = Piece.join xs ++ Piece.join ys := by
  simp [Piece.join, String.join_append]

theorem Term.join_pieces (t : Term) : Piece.join t.pieces = t.render := by
  cases t with
  | column dict field => simp [pieces, render, Piece.text, Fragment.text, String.append_assoc]
  | param name => simp [pieces, render, Piece.text]
  | element numeric => cases numeric <;> simp [pieces, render, Piece.text, Fragment.text]

theorem join_listPieces (items : List Term) : Piece.join (listPieces items) = renderList items := by
  match items with
  | [] => rfl
  | [t] => simp [listPieces, renderList, Term.join_pieces]
  | t :: u :: rest =>
    have rest_text := join_listPieces (u :: rest)
    simp only [renderList, List.map_cons] at rest_text ⊢
    simp [listPieces, Term.join_pieces, rest_text, String.intercalate_cons_cons, Piece.text,
      Fragment.text, String.append_assoc]

mutual

/-- The text of a predicate is the text of its pieces. -/
theorem Pred.join_pieces : (p : Pred) -> Piece.join p.pieces = p.render
  | .const b => by cases b <;> rfl
  | .isNull t => by
    rw [Pred.render.eq_def]
    simp [Pred.pieces, Term.join_pieces, Piece.text, Fragment.text]
  | .isNotNull t => by
    rw [Pred.render.eq_def]
    simp [Pred.pieces, Term.join_pieces, Piece.text, Fragment.text]
  | .compare op l r => by
    rw [Pred.render.eq_def]
    simp [Pred.pieces, Term.join_pieces, Piece.text, Fragment.text, String.append_assoc]
  | .member t items negated => by
    rw [Pred.render.eq_def]
    cases negated <;>
      simp [Pred.pieces, Term.join_pieces, join_listPieces, Piece.text, Fragment.text,
        String.append_assoc]
  | .like s p noCase => by
    rw [Pred.render.eq_def]
    cases noCase <;>
      simp [Pred.pieces, Term.join_pieces, Piece.text, Fragment.text, String.append_assoc]
  | .between s lo hi => by
    rw [Pred.render.eq_def]
    simp [Pred.pieces, Term.join_pieces, Piece.text, Fragment.text, String.append_assoc]
  | .anyElement column condition => by
    rw [Pred.render.eq_def]
    simp [Pred.pieces, Term.join_pieces, Pred.join_pieces condition, Piece.text, Fragment.text,
      String.append_assoc]
  | .coversAll column element items count => by
    rw [Pred.render.eq_def]
    simp [Pred.pieces, Term.join_pieces, join_listPieces, Piece.text, Fragment.text,
      String.append_assoc]
  | .not p => by
    rw [Pred.render.eq_def]
    simp [Pred.pieces, Pred.join_pieces p, Piece.text, Fragment.text]
  | .notCoalesce p => by
    rw [Pred.render.eq_def]
    simp [Pred.pieces, Pred.join_pieces p, Piece.text, Fragment.text, String.append_assoc]
  | .and l r => by
    rw [Pred.render.eq_def]
    simp [Pred.pieces, Pred.join_pieces l, Pred.join_pieces r, Piece.text, Fragment.text,
      String.append_assoc]
  | .or l r => by
    rw [Pred.render.eq_def]
    simp [Pred.pieces, Pred.join_pieces l, Pred.join_pieces r, Piece.text, Fragment.text,
      String.append_assoc]
  | .andAll ps => by
    rw [Pred.render.eq_def]
    simp [Pred.pieces, Pred.join_allPieces ps, Piece.text, Fragment.text, String.append_assoc]

theorem Pred.join_allPieces : (ps : List Pred) ->
    Piece.join (Pred.pieces.allPieces ps) = Pred.render.renderAll ps
  | [] => rfl
  | [p] => by
    rw [Pred.render.renderAll.eq_def]
    simp [Pred.pieces.allPieces, Pred.join_pieces p]
  | p :: q :: rest => by
    rw [Pred.render.renderAll.eq_def]
    simp [Pred.pieces.allPieces, Pred.join_pieces p, Pred.join_allPieces (q :: rest), Piece.text,
      Fragment.text, String.append_assoc]

end

/-! ## Reading the parameters a text names -/

/-- The characters a parameter name runs over after its colon: ASCII
letters and digits, `_`, `$`, and every character beyond ASCII. -/
def isNameChar (c : Char) : Bool :=
  c.isAlphanum || c == '_' || c == '$' || 128 ≤ c.toNat

/-- How far a left-to-right reading of a text has got: the parameter names
read so far, and the name being read after a colon, backwards. -/
structure Scan where
  names : List String
  reading : Option (List Char)
  deriving DecidableEq, Repr

namespace Scan

/-- Read one more character. -/
def step (s : Scan) (c : Char) : Scan :=
  match s.reading with
  | some name =>
    if isNameChar c then { s with reading := some (c :: name) }
    else { names := s.names ++ [String.ofList name.reverse],
           reading := if c = ':' then some [] else none }
  | none => { s with reading := if c = ':' then some [] else none }

/-- End the name being read, if any. -/
def flush (s : Scan) : Scan :=
  match s.reading with
  | some name => { names := s.names ++ [String.ofList name.reverse], reading := none }
  | none => s

/-- Outside a name, text without a colon is read without a change. -/
theorem foldl_quiet {names : List String} {cs : List Char} (quiet : ':' ∉ cs) :
    cs.foldl step ⟨names, none⟩ = ⟨names, none⟩ := by
  induction cs with
  | nil => rfl
  | cons c rest ih =>
    have notColon : c ≠ ':' := fun same => quiet (same ▸ List.mem_cons_self)
    have restQuiet : ':' ∉ rest := fun mem => quiet (List.mem_cons_of_mem c mem)
    simp only [List.foldl_cons, step, notColon, if_false]
    exact ih restQuiet

/-- Inside a name, name characters extend it. -/
theorem foldl_name {names : List String} {read cs : List Char}
    (name : ∀ c ∈ cs, isNameChar c = true) :
    cs.foldl step ⟨names, some read⟩ = ⟨names, some (cs.reverse ++ read)⟩ := by
  induction cs generalizing read with
  | nil => rfl
  | cons c rest ih =>
    have first : isNameChar c = true := name c List.mem_cons_self
    simp only [List.foldl_cons, step, first, if_true]
    rw [ih fun c' mem => name c' (List.mem_cons_of_mem c mem)]
    simp

/-- A character that can neither continue a name nor start one ends the
name being read. -/
theorem step_apart (s : Scan) {c : Char} (apart : (!isNameChar c && c != ':') = true) :
    step s c = flush s := by
  simp only [Bool.and_eq_true, Bool.not_eq_true', bne_iff_ne] at apart
  obtain ⟨notName, notColon⟩ := apart
  cases s with
  | mk names reading =>
    cases reading <;> simp [step, flush, notName, notColon]

end Scan

/-- The parameters a text names, in order: each colon and the longest run
of name characters after it. -/
def placeholders (text : String) : List String :=
  (text.toList.foldl Scan.step ⟨[], none⟩).flush.names

/-- A fragment whose first character ends a name. -/
def Fragment.startsApart (f : Fragment) : Bool :=
  match f.text.toList with
  | c :: _ => !isNameChar c && c != ':'
  | [] => false

theorem Fragment.colon_not_mem (f : Fragment) : ':' ∉ f.text.toList := by
  cases f with
  | symbol op => cases op <;> decide
  | _ => decide

/-- Quoting adds only double quotes. -/
theorem colon_not_mem_quoteIdentifier {word : String} (quiet : ':' ∉ word.toList) :
    ':' ∉ (quoteIdentifier word).toList := by
  unfold quoteIdentifier
  split
  · intro mem
    simp only [String.toList_append, String.toList_join, List.mem_append, List.mem_flatMap,
      List.mem_map] at mem
    rcases mem with (quote | ⟨chars, ⟨c, inWord, rfl⟩, inChars⟩) | quote
    · exact absurd quote (by decide)
    · split at inChars
      · exact absurd inChars (by decide)
      · simp only [Char.toString, String.toList_singleton, List.mem_singleton] at inChars
        exact quiet (inChars ▸ inWord)
    · exact absurd quote (by decide)
  · exact quiet

theorem colon_not_mem_toString (n : Nat) : ':' ∉ (toString n).toList := by
  intro mem
  rw [Nat.toString_eq_repr, Nat.toList_repr] at mem
  simpa using Nat.isDigit_of_mem_toDigits (by decide) (by decide) mem

/-- The condition under which a piece reads as it is meant to: an identifier
holds no colon, a placeholder's name only name characters. -/
def Piece.Clean : Piece -> Prop
  | word name => ':' ∉ name.toList
  | placeholder name => ∀ c ∈ name.toList, isNameChar c = true
  | _ => True

/-- A piece other than a placeholder has no colon in its text. -/
theorem Piece.colon_not_mem_text {x : Piece} (other : x.placeholder? = none) (clean : x.Clean) :
    ':' ∉ x.text.toList := by
  cases x with
  | fixed f => exact f.colon_not_mem
  | word name => exact colon_not_mem_quoteIdentifier clean
  | placeholder name => cases other
  | count n => exact colon_not_mem_toString n

/-- Pieces whose reading, from outside a name and once the last name is
ended, adds exactly their placeholders, when all of them are clean. -/
def Settles (pieces : List Piece) : Prop :=
  (∀ x ∈ pieces, x.Clean) -> ∀ names : List String,
    ((Piece.join pieces).toList.foldl Scan.step ⟨names, none⟩).flush =
      ⟨names ++ pieces.filterMap Piece.placeholder?, none⟩

theorem settles_nil : Settles [] := by
  intro _ names
  simp [Scan.flush]

theorem settles_placeholder (name : String) : Settles [.placeholder name] := by
  intro clean names
  have nameChars : ∀ c ∈ name.toList, isNameChar c = true := clean _ List.mem_cons_self
  simp only [Piece.join_cons, Piece.join_nil, Piece.text, String.append_empty,
    String.toList_append, List.foldl_append]
  rw [show (":" : String).toList = [':'] from rfl, List.foldl_cons, List.foldl_nil]
  simp only [Scan.step, if_true]
  rw [Scan.foldl_name nameChars]
  simp [Scan.flush]

/-- A piece other than a placeholder is crossed without a change. -/
theorem settles_cons {x : Piece} {rest : List Piece} (other : x.placeholder? = none)
    (settles : Settles rest) : Settles (x :: rest) := by
  intro clean names
  have quiet := Piece.colon_not_mem_text other (clean x List.mem_cons_self)
  simp only [Piece.join_cons, String.toList_append, List.foldl_append, Scan.foldl_quiet quiet,
    List.filterMap_cons, other]
  exact settles (fun y mem => clean y (List.mem_cons_of_mem x mem)) names

/-- A fragment whose first character ends a name settles whatever came
before it. -/
theorem settles_append {first rest : List Piece} (firstSettles : Settles first) {f : Fragment}
    (apart : f.startsApart = true) (restSettles : Settles rest) :
    Settles (first ++ .fixed f :: rest) := by
  intro clean names
  have firstClean : ∀ x ∈ first, x.Clean := fun x mem => clean x (List.mem_append_left _ mem)
  have restClean : ∀ x ∈ rest, x.Clean := fun x mem =>
    clean x (List.mem_append_right _ (List.mem_cons_of_mem _ mem))
  obtain ⟨c, cs, text, startApart⟩ :
      ∃ c cs, f.text.toList = c :: cs ∧ (!isNameChar c && c != ':') = true := by
    unfold Fragment.startsApart at apart
    split at apart
    · exact ⟨_, _, ‹_›, apart⟩
    · cases apart
  have quiet : ':' ∉ cs := fun mem => f.colon_not_mem (text ▸ List.mem_cons_of_mem c mem)
  simp only [Piece.join_append, Piece.join_cons, Piece.text, String.toList_append,
    List.foldl_append, text, List.foldl_cons]
  rw [Scan.step_apart _ startApart, firstSettles firstClean names, Scan.foldl_quiet quiet,
    restSettles restClean]
  simp [List.filterMap_append, List.filterMap_cons]

theorem Term.settles (t : Term) : Settles t.pieces := by
  cases t with
  | column dict field =>
    exact settles_cons rfl (settles_cons rfl (settles_cons rfl settles_nil))
  | param name => exact settles_placeholder name
  | element numeric => exact settles_cons (by cases numeric <;> rfl) settles_nil

theorem listPieces_settles : (items : List Term) -> Settles (listPieces items)
  | [] => settles_nil
  | [t] => t.settles
  | t :: u :: rest => settles_append t.settles (by decide) (listPieces_settles (u :: rest))

mutual

/-- The pieces of every predicate settle: each placeholder is followed by
a blank, a comma or a closing parenthesis, or ends the predicate. -/
theorem Pred.settles : (p : Pred) -> Settles p.pieces
  | .const b => settles_cons (by cases b <;> rfl) settles_nil
  | .isNull t => settles_append t.settles (by decide) settles_nil
  | .isNotNull t => settles_append t.settles (by decide) settles_nil
  | .compare op l r =>
    settles_append l.settles (by decide) (settles_cons rfl (settles_cons rfl r.settles))
  | .member t items negated =>
    settles_append t.settles (by cases negated <;> decide)
      (settles_append (listPieces_settles items) (by decide) settles_nil)
  | .like s p noCase => by
    cases noCase with
    | true =>
      exact settles_cons rfl (settles_append s.settles (by decide)
        (settles_append p.settles (by decide) settles_nil))
    | false =>
      exact settles_append s.settles (by decide) (settles_append p.settles (by decide) settles_nil)
  | .between s lo hi =>
    settles_append s.settles (by decide) (settles_append lo.settles (by decide) hi.settles)
  | .anyElement column condition =>
    settles_cons rfl (settles_append column.settles (by decide)
      (settles_append (Pred.settles condition) (by decide) settles_nil))
  | .coversAll column element items count =>
    settles_cons rfl (settles_append element.settles (by decide)
      (settles_append column.settles (by decide) (settles_append element.settles (by decide)
        (settles_append (listPieces_settles items) (by decide) (settles_cons rfl settles_nil)))))
  | .not p => settles_cons rfl (Pred.settles p)
  | .notCoalesce p => settles_cons rfl (settles_append (Pred.settles p) (by decide) settles_nil)
  | .and l r =>
    settles_cons rfl (settles_append (Pred.settles l) (by decide)
      (settles_append (Pred.settles r) (by decide) settles_nil))
  | .or l r =>
    settles_cons rfl (settles_append (Pred.settles l) (by decide)
      (settles_append (Pred.settles r) (by decide) settles_nil))
  | .andAll ps =>
    settles_cons rfl (settles_append (Pred.allPieces_settles ps) (by decide) settles_nil)

theorem Pred.allPieces_settles : (ps : List Pred) -> Settles (Pred.pieces.allPieces ps)
  | [] => settles_nil
  | [p] => Pred.settles p
  | p :: q :: rest =>
    settles_append (Pred.settles p) (by decide) (Pred.allPieces_settles (q :: rest))

end

/-- The parameters the text of a predicate names are its placeholders, in
order, when its identifiers hold no colon and its parameter names only name
characters. -/
theorem placeholders_render (p : Pred) (clean : ∀ x ∈ p.pieces, x.Clean) :
    placeholders p.render = p.paramNames := by
  unfold placeholders
  rw [← Pred.join_pieces, p.settles clean []]
  rfl

end Sql
end Refbook
