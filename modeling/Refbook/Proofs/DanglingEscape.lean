import Refbook.Proofs.LikePatterns
import Mathlib.Logic.Relation

namespace Refbook
namespace Document

/-!
# The dangling escape of a `like` pattern

`likeToRegex` reads a pattern from left to right, one turn at a time: a backslash takes the
character after it along, every other character is a turn of its own.  The one turn that
finds a backslash with nothing after it writes `\b\B`, which no text matches.  The query
reader checks the other end instead: it refuses a pattern whose trailing run of backslashes
is odd (`Query.endsWithEscape`).

The two agree (`endsWithEscape_iff_scan_dangles`).  A turn keeps the parity of the trailing
run (`ScanStep.trailingEscapes_mod`), and every scan ends on the empty rest or on a lone
backslash (`scan_ends`), so it ends on the lone backslash exactly when the run is odd.  The
regular expression holds the text `\b\B` exactly then: a turn writes its part before the
rest of the scan (`ScanReaches.likeBody_eq`), and the pieces a pattern with paired
backslashes is written as never spell it (`Undangled`).
-/

/-- One turn of the scan of a pattern, from the rest before it to the rest after it: a
backslash takes the character after it along, every other character is a turn of its own. -/
inductive ScanStep : List Char → List Char → Prop
  | single {c : Char} (rest : List Char) : c ≠ '\\' → ScanStep (c :: rest) rest
  | pair (c : Char) (rest : List Char) : ScanStep ('\\' :: c :: rest) rest

/-- The rests of a pattern at which its scan begins a turn. -/
def ScanReaches (cs rest : List Char) : Prop :=
  Relation.ReflTransGen ScanStep cs rest

/-- A character other than a backslash is written on its own: `%` as `.*`, `_` as `.`, any
other as itself. -/
theorem likeBody_cons_of_ne {c : Char} (rest : List Char) (notEscape : c ≠ '\\') :
    likeBody (c :: rest) =
      (if c = '%' then ".*" else if c = '_' then "." else escapeChar c) ++ likeBody rest := by
  by_cases run : c = '%'
  · subst run
    rfl
  by_cases one : c = '_'
  · subst one
    rfl
  cases rest <;> simp [likeBody, run, one, notEscape]

namespace ScanStep

theorem trailingEscapes_mod {rest rest' : List Char} (turn : ScanStep rest rest') :
    trailingEscapes rest % 2 = trailingEscapes rest' % 2 := by
  cases turn with
  | single _ notEscape => rw [trailingEscapes_cons_of_ne notEscape]
  | pair c _ => exact trailingEscapes_pair c _

/-- A turn writes its part of the regular expression before the rest of the scan. -/
theorem likeBody_eq {rest rest' : List Char} (turn : ScanStep rest rest') :
    ∃ part, likeBody rest = part ++ likeBody rest' := by
  cases turn with
  | single _ notEscape => exact ⟨_, likeBody_cons_of_ne _ notEscape⟩
  | pair c _ => exact ⟨escapeChar c, rfl⟩

end ScanStep

namespace ScanReaches

variable {cs rest : List Char}

theorem trailingEscapes_mod (reaches : ScanReaches cs rest) :
    trailingEscapes cs % 2 = trailingEscapes rest % 2 := by
  induction reaches with
  | refl => rfl
  | tail _ turn ih => rw [ih, turn.trailingEscapes_mod]

/-- What the scan has written by the time it reaches a rest comes before all it writes
from there. -/
theorem likeBody_eq (reaches : ScanReaches cs rest) :
    ∃ written, likeBody cs = written ++ likeBody rest := by
  induction reaches with
  | refl => exact ⟨"", String.empty_append.symm⟩
  | tail _ turn ih =>
    obtain ⟨written, before⟩ := ih
    obtain ⟨part, after⟩ := turn.likeBody_eq
    exact ⟨written ++ part, by rw [before, after, String.append_assoc]⟩

end ScanReaches

/-- A scan that ends from the rest after a turn ends from the rest before it. -/
theorem ScanStep.ends {rest rest' : List Char} (turn : ScanStep rest rest')
    (ends : ScanReaches rest' [] ∨ ScanReaches rest' ['\\']) :
    ScanReaches rest [] ∨ ScanReaches rest ['\\'] :=
  ends.imp (.head turn) (.head turn)

/-- Every scan ends, on the empty rest or on a backslash with nothing after it. -/
theorem scan_ends (cs : List Char) : ScanReaches cs [] ∨ ScanReaches cs ['\\'] := by
  fun_induction likeBody cs with
  | case1 => exact .inl .refl
  | case2 rest ih => exact (ScanStep.single rest (by decide)).ends ih
  | case3 rest ih => exact (ScanStep.single rest (by decide)).ends ih
  | case4 => exact .inr .refl
  | case5 c rest ih => exact (ScanStep.pair c rest).ends ih
  | case6 c rest _ _ notLone notPair ih =>
    exact (ScanStep.single rest (ne_escape_of_unpaired notLone notPair)).ends ih

/-- The scan reaches a backslash with nothing after it exactly when the pattern ends with an
odd run of backslashes. -/
theorem scanReaches_lone_iff (cs : List Char) :
    ScanReaches cs ['\\'] ↔ trailingEscapes cs % 2 = 1 := by
  constructor
  · intro reaches
    rw [reaches.trailingEscapes_mod]
    rfl
  · intro odd
    refine (scan_ends cs).resolve_left fun ends => ?_
    have even := ends.trailingEscapes_mod
    rw [odd] at even
    exact absurd even (by decide)

/-- A text that does not hold `\b\B` and that no piece written before it can complete to
`\b\B`: it starts with neither `b\B` (after an escaped backslash) nor `\B` (after a `b`). -/
def Undangled (t : List Char) : Prop :=
  ¬ ['\\', 'b', '\\', 'B'] <:+: t ∧ ¬ ['b', '\\', 'B'] <+: t ∧ ¬ ['\\', 'B'] <+: t

theorem undangled_dollar : Undangled ['$'] := by
  unfold Undangled
  decide

/-- A backslash in the text of a piece is followed by a character with a meaning, never by
`b` or `B`. -/
theorem Undangled.piece {tail : List Char} (t : Regex.Piece) (after : Undangled tail) :
    Undangled (t.text ++ tail) := by
  obtain ⟨none, notAfterEscape, notAfterB⟩ := after
  cases t with
  | anyOne | anyRun => simp [Undangled, Regex.Piece.text, List.infix_cons_iff, none]
  | char c =>
    simp only [Regex.Piece.text]
    split
    · rename_i special
      have notB : 'b' ≠ c := by rintro rfl; exact absurd special (by decide)
      have notCapital : 'B' ≠ c := by rintro rfl; exact absurd special (by decide)
      simp [Undangled, List.infix_cons_iff, none, notB, notCapital, notAfterEscape]
    · rename_i plain
      have notEscape : '\\' ≠ c := by rintro rfl; exact plain (by decide)
      simp [Undangled, List.infix_cons_iff, none, notEscape, notAfterB]

theorem Undangled.pieces {tail : List Char} (pieces : List Regex.Piece) (after : Undangled tail) :
    Undangled (pieces.flatMap Regex.Piece.text ++ tail) := by
  induction pieces with
  | nil => exact after
  | cons t ts ih =>
    rw [List.flatMap_cons, List.append_assoc]
    exact ih.piece t

theorem likeToRegex_toList_of_even {pattern : String}
    (even : trailingEscapes pattern.toList % 2 = 0) :
    (likeToRegex pattern).toList =
      '^' :: ((likePieces pattern.toList).flatMap Regex.Piece.text ++ ['$']) := by
  rw [likeToRegex, String.toList_append, String.toList_append, likeBody_toList _ even]
  rfl

theorem dangling_toList : "\\b\\B".toList = ['\\', 'b', '\\', 'B'] := by
  decide

/-- The regular expression of a pattern holds `\b\B` exactly when the pattern ends with an odd
run of backslashes. -/
theorem dangling_in_likeToRegex_iff (pattern : String) :
    "\\b\\B".toList <:+: (likeToRegex pattern).toList ↔
      trailingEscapes pattern.toList % 2 = 1 := by
  constructor
  · intro written
    by_contra notOdd
    rw [likeToRegex_toList_of_even (by omega), dangling_toList] at written
    rcases List.infix_cons_iff.mp written with front | inner
    · simp at front
    · exact (Undangled.pieces (likePieces pattern.toList) undangled_dollar).1 inner
  · intro odd
    obtain ⟨written, body⟩ := ((scanReaches_lone_iff _).mpr odd).likeBody_eq
    refine ⟨'^' :: written.toList, ['$'], ?_⟩
    rw [likeToRegex, body]
    simp [likeBody]

/-- Three backslashes: the first two are one escaped backslash, the third dangles. -/
example : likeToRegex "a\\\\\\" = "^a\\\\\\b\\B$" := by decide

theorem endsWithEscape_iff (pattern : String) :
    Query.endsWithEscape pattern = true ↔ trailingEscapes pattern.toList % 2 = 1 := by
  simp only [Query.endsWithEscape, trailingEscapes, decide_eq_true_eq]

/-- The query reader refuses a `like` pattern exactly when its scan reaches a backslash with
nothing after it, and so exactly when its regular expression would hold `\b\B`. -/
theorem endsWithEscape_iff_scan_dangles (pattern : String) :
    (Query.endsWithEscape pattern = true ↔ ScanReaches pattern.toList ['\\']) ∧
      (Query.endsWithEscape pattern = true ↔
        "\\b\\B".toList <:+: (likeToRegex pattern).toList) := by
  rw [endsWithEscape_iff, scanReaches_lone_iff, dangling_in_likeToRegex_iff]
  exact ⟨.rfl, .rfl⟩

end Document
end Refbook
