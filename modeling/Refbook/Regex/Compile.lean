import Refbook.Regex.Parse
import Refbook.Regex.Report
import Refbook.Regex.Translate
import Refbook.Regex.Budget
import Refbook.Regex.Match

namespace Refbook
namespace Regex

/-!
# Compiling a pattern

`compile` reads a pattern, translates it under the initial flags (`i` when
case is ignored, `s` when `.` matches a line feed, Unicode mode on), checks
the memory budget of its automata and lays out the program that searches
with it.  A refused pattern comes back as the message shown to the user:
the pattern with carets under the fault and the error's words, or the
budget's limit.
-/

/-- The message of a pattern whose automata are over the budget. -/
def budgetMessage : String :=
  "Compiled regex exceeds size limit of " ++ toString sizeLimit ++ " bytes."

/-- The initial flags: case ignored or not, `.` matching a line feed or not,
Unicode mode on. -/
def initialFlags (noCase dotAll : Bool) : Flags :=
  { caseInsensitive := noCase, multiLine := false, dotMatchesNewLine := dotAll,
    swapGreed := false, unicode := true, crlf := false }

/-- Compile a pattern, or say why it is refused. -/
def compile (pattern : String) (noCase dotAll : Bool) : Except String Program := do
  let ast ← (parse pattern).mapError (·.render pattern)
  let hir ← (translate (initialFlags noCase dotAll) ast).mapError (·.render pattern)
  if !Budget.fits hir then throw budgetMessage
  return Program.ofHir hir

end Regex
end Refbook
