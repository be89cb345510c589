import PhraseMark.Pattern.WordData

/-!
# Conditions on a place in a text

Beginnings and ends of the text and its lines, and the places around words.
-/

namespace PhraseMark.Pattern

/-- A place at or beside the border of a word. The half kinds look at one side only. -/
inductive WordPlace where
  | boundary
  | notBoundary
  | start
  | stop
  | startHalf
  | stopHalf
  deriving DecidableEq, Repr

/-- A condition on a place between two characters. -/
inductive Look where
  | textStart
  | textEnd
  /-- Lines end with a line feed. -/
  | lineStart
  | lineEnd
  /-- Lines end with a carriage return, a line feed or both together. -/
  | crlfLineStart
  | crlfLineEnd
  /-- Words consist of the letters, digits and underscore of ASCII, or of Unicode. -/
  | word (place : WordPlace) (ascii : Bool)
  deriving DecidableEq, Repr

def isAsciiWordChar (c : Char) : Bool :=
  ('a' ≤ c && c ≤ 'z') || ('A' ≤ c && c ≤ 'Z') || ('0' ≤ c && c ≤ '9') || c == '_'

/-- The characters of words: letters, marks, digits, joiners and connecting punctuation. -/
def isWordChar (c : Char) : Bool :=
  if c.toNat < 0x80 then isAsciiWordChar c
  else wordRanges.any (fun r => r.1 ≤ c.toNat && c.toNat ≤ r.2)

namespace WordPlace

/-- Whether the condition holds, given whether the characters on both sides belong to words. -/
def holds (place : WordPlace) (before after : Bool) : Bool :=
  match place with
  | boundary => before != after
  | notBoundary => before == after
  | start => !before && after
  | stop => before && !after
  | startHalf => !before
  | stopHalf => !after

end WordPlace

namespace Look

/-- Whether the condition holds between two characters; `none` stands for an end of the text. -/
def holds (look : Look) (before after : Option Char) : Bool :=
  match look with
  | textStart => before.isNone
  | textEnd => after.isNone
  | lineStart => before.isNone || before == some '\n'
  | lineEnd => after.isNone || after == some '\n'
  | crlfLineStart =>
    before.isNone || before == some '\n' || (before == some '\r' && after != some '\n')
  | crlfLineEnd =>
    after.isNone || after == some '\r' || (after == some '\n' && before != some '\r')
  | word place ascii =>
    let inWord := if ascii then isAsciiWordChar else isWordChar
    place.holds (before.any inWord) (after.any inWord)

end Look

end PhraseMark.Pattern
