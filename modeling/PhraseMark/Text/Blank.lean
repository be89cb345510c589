/-!
# Blank characters

The characters with the White_Space property, and the five that separate tokens in markup.
Trimming and tokenizing are stated on lists of characters.
-/

namespace PhraseMark.Text

/-- The characters with the Unicode property White_Space. -/
def isBlank (c : Char) : Bool :=
  let n := c.toNat
  (0x9 ≤ n && n ≤ 0xD) || n == 0x20 || n == 0x85 || n == 0xA0 || n == 0x1680 ||
    (0x2000 ≤ n && n ≤ 0x200A) || n == 0x2028 || n == 0x2029 || n == 0x202F || n == 0x205F ||
    n == 0x3000

/-- Space, tab, line feed, form feed and carriage return: what separates the tokens of an
attribute value. -/
def isTokenBlank (c : Char) : Bool :=
  c == ' ' || c == '\t' || c == '\n' || c == '\x0c' || c == '\r'

/-- Drops the characters satisfying `p` at both ends. -/
def trimList (p : Char → Bool) (cs : List Char) : List Char :=
  ((cs.dropWhile p).reverse.dropWhile p).reverse

/-- The non-empty runs between token blanks, in order. -/
def tokens (s : String) : List String :=
  ((s.toList.splitOnP isTokenBlank).filter (! ·.isEmpty)).map .ofList

end PhraseMark.Text
