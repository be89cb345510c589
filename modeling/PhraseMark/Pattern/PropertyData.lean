import PhraseMark.Pattern.CharSet
import PhraseMark.Text.Ascii

/-!
# Written tables of characters

Properties of characters are kept as lines of text. A range is written as the distance of its first
member from the last member of the range before, in hexadecimal digits, and, after a plus sign,
the number of its further members.
-/

namespace PhraseMark.Pattern

/-- A property of characters: its names, with small letters only, and its ranges as lines of
text. -/
structure PropertyData where
  names : List String
  ranges : List String

namespace PropertyData

/-- The number that hexadecimal digits denote; other characters count nothing. -/
def hexNumber (cs : List Char) : Nat :=
  cs.foldl (fun n c => n * 16 + (Text.hexDigit? c).getD 0) 0

/-- Adds one written range after a given last member. -/
def pushRange (state : Nat × List (Nat × Nat)) (word : List Char) : Nat × List (Nat × Nat) :=
  let first := state.1 + hexNumber (word.takeWhile (· ≠ '+'))
  let last := first + hexNumber ((word.dropWhile (· ≠ '+')).drop 1)
  (last, (first, last) :: state.2)

def readRanges (lines : List String) : List (Nat × Nat) :=
  ((lines.flatMap (·.toList.splitOn ' ')).foldl pushRange (0, [])).2.reverse

def set (d : PropertyData) : CharSet := ⟨readRanges d.ranges⟩

def find? (table : List PropertyData) (name : String) : Option PropertyData :=
  table.find? (·.names.contains name)

end PropertyData

end PhraseMark.Pattern
