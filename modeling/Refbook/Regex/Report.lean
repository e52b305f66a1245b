import Refbook.Regex.Ast

namespace Refbook
namespace Regex

/-!
# Showing a refused pattern

`PatternError.render` shows the pattern with carets under each span the error
points at, then the error's words:

    regex parse error:
        a)
         ^
    error: unopened group

A pattern of several lines is framed by lines of tildes and its lines are
numbered; a span that runs over several lines is described in words below
the frame instead of being underlined.  A span is underlined from its first
column to the column before its end, with at least one caret.
-/

/-- The lines of a text: split at line feeds, a carriage return right before
a feed dropped, and no empty last line after a final feed. -/
def textLines (s : String) : List String :=
  let strip (line : String) : String :=
    if line.endsWith "\r" then String.ofList line.toList.dropLast else line
  match (s.splitOn "\n").reverse with
  | [] => []
  | last :: earlier =>
    let earlier := earlier.reverse.map strip
    if last.isEmpty then earlier else earlier ++ [last]

/-- The number of decimal digits of `n`. -/
def digitCount (n : Nat) : Nat :=
  (toString n).length

/-- Spaces to make `s` at least `width` wide, put before it. -/
def padLeft (s : String) (width : Nat) : String :=
  String.ofList (List.replicate (width - s.length) ' ') ++ s

/-- The caret line under one line of the pattern: spaces up to each span,
then carets along it. -/
def caretLine (spans : List Span) : String :=
  let (_, out) := spans.foldl (fun (pos, out) (s : Span) =>
    let gap := s.start.column - 1 - pos
    let width := max 1 (s.stop.column - s.start.column)
    (max pos (s.start.column - 1) + width,
      out ++ List.replicate gap ' ' ++ List.replicate width '^')) (0, [])
  String.ofList out

/-- Spans in order of their start, then of their end. -/
def sortSpans (spans : List Span) : List Span :=
  spans.mergeSort fun a b =>
    a.start.offset < b.start.offset ||
      (a.start.offset == b.start.offset && a.stop.offset ≤ b.stop.offset)

/-- The pattern with its lines numbered when there are several, and carets
under the one-line spans. -/
def notate (pattern : String) (spans : List Span) : String :=
  let lines := textLines pattern
  let count := lines.length + (if pattern.endsWith "\n" then 1 else 0)
  let width := if count ≤ 1 then 0 else digitCount count
  let oneLine := spans.filter Span.isOneLine
  let (_, out) := lines.foldl (fun (i, out) line =>
    let lead := if width = 0 then "    " else padLeft (toString (i + 1)) width ++ ": "
    let here := oneLine.filter fun s => s.start.line = i + 1
    let notes :=
      if here.isEmpty then ""
      else
        String.ofList (List.replicate (if width = 0 then 4 else width + 2) ' ') ++
          caretLine here ++ "\n"
    (i + 1, out ++ lead ++ line ++ "\n" ++ notes)) (0, "")
  out

/-- The words for a span over several lines. -/
def spanWords (s : Span) : String :=
  "on line " ++ toString s.start.line ++ " (column " ++ toString s.start.column ++
    ") through line " ++ toString s.stop.line ++ " (column " ++ toString (s.stop.column - 1) ++ ")"

/-- A refused pattern, shown with the pattern and carets. -/
def PatternError.render (e : PatternError) (pattern : String) : String :=
  let spans := sortSpans (e.span :: e.aux.toList)
  let notated := notate pattern spans
  if (pattern.splitOn "\n").length > 1 then
    let divider := String.ofList (List.replicate 79 '~')
    let far := spans.filter fun s => !s.isOneLine
    let words :=
      if far.isEmpty then ""
      else "\n".intercalate (far.map spanWords) ++ "\n"
    "regex parse error:\n" ++ divider ++ "\n" ++ notated ++ divider ++ "\n" ++ words ++
      "error: " ++ e.kind.message
  else "regex parse error:\n" ++ notated ++ "error: " ++ e.kind.message

end Regex
end Refbook
