/-!
# Shortened text

Log lines show at most a given number of characters of a page's text.
-/

namespace PhraseMark.Text

/-- The first `limit` characters, with three dots after them when some were left out. -/
def cap (text : String) (limit : Nat) : String :=
  let cs := text.toList
  if (cs.drop limit).isEmpty then text else .ofList (cs.take limit) ++ "..."

end PhraseMark.Text
