/-!
# Refused patterns

Why a text is no pattern that can be searched for.
-/

namespace PhraseMark.Pattern

inductive Defect where
  /-- The text does not follow the pattern language. -/
  | malformed
  /-- The pattern needs too much room. -/
  | tooLarge
  deriving DecidableEq, Repr

def Defect.message : Defect → String
  | malformed => "regex parse error:"
  | tooLarge => "Compiled regex exceeds size limit of 10485760 bytes."

end PhraseMark.Pattern
