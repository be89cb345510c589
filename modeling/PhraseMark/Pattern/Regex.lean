import PhraseMark.Pattern.Defect
import PhraseMark.Pattern.Search
import PhraseMark.Pattern.Size
import PhraseMark.Pattern.Syntax

/-!
# Compiled patterns

A pattern that was read and is small enough, ready to be searched for.
-/

namespace PhraseMark.Pattern

/-- A pattern ready to be searched for, with the text it was read from. -/
structure Regex where
  source : String
  program : Program
  deriving Inhabited

namespace Regex

def compile (source : String) : Except Defect Regex :=
  match Expr.ofText? source.toList with
  | none => .error .malformed
  | some e => if Size.fits e then .ok { source, program := .ofExpr e } else .error .tooLarge

def spans (r : Regex) (text : String) : List Span := r.program.spans text.toList.toArray

def isMatch (r : Regex) (text : String) : Bool := r.program.isMatch text.toList.toArray

end Regex

end PhraseMark.Pattern
