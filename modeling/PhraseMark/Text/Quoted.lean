import PhraseMark.Pattern.Property

/-!
# Quoted text

Text in double quotes for a reader of a log. Characters that would not show, or would join the
character before them, are written by their number.
-/

namespace PhraseMark.Text

/-- Characters that extend the character before them. -/
def isExtending (c : Char) : Bool :=
  (Pattern.Property.named? "graphemeextend").any (·.contains c)

/-- Control characters, format characters, separators but the blank, and code points without a
character of their own. -/
def isUnprintable (c : Char) : Bool :=
  c != ' ' && (["c", "z"].filterMap Pattern.Property.category?).any (·.contains c)

/-- The number of a character in hexadecimal digits, in braces. -/
def numberEscape (c : Char) : String :=
  "\\u\x7b" ++ .ofList (Nat.toDigits 16 c.toNat) ++ "\x7d"

def quotedChar (c : Char) : String :=
  if c = '\x00' then "\\0"
  else if c = '\t' then "\\t"
  else if c = '\n' then "\\n"
  else if c = '\r' then "\\r"
  else if c = '"' then "\\\""
  else if c = '\\' then "\\\\"
  else if ' ' ≤ c ∧ c ≤ '~' then c.toString
  else if isExtending c || isUnprintable c then numberEscape c
  else c.toString

def quoted (s : String) : String := "\"" ++ String.join (s.toList.map quotedChar) ++ "\""

/-- Quoted texts in brackets, with commas between them. -/
def quotedList (texts : List String) : String :=
  "[" ++ String.intercalate ", " (texts.map quoted) ++ "]"

end PhraseMark.Text
