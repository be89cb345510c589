import PhraseMark.Pattern.CharSet
import PhraseMark.Pattern.Expr
import PhraseMark.Pattern.WordData

/-!
# Flags of a pattern

Switches that change what the parts of a pattern stand for. They hold from where they are set to
the end of the group around them.
-/

namespace PhraseMark.Pattern

/-- The switches in force at a place of a pattern. -/
structure Flags where
  ignoreCase : Bool := true
  multiLine : Bool := false
  dotMatchesAll : Bool := false
  swapGreed : Bool := false
  unicode : Bool := true
  crlf : Bool := false
  /-- Blanks and comments in the pattern are left out. -/
  spaced : Bool := false
  deriving DecidableEq, Repr, Inhabited

namespace Flags

def set? (f : Flags) (letter : Char) (value : Bool) : Option Flags :=
  match letter with
  | 'i' => some { f with ignoreCase := value }
  | 'm' => some { f with multiLine := value }
  | 's' => some { f with dotMatchesAll := value }
  | 'U' => some { f with swapGreed := value }
  | 'u' => some { f with unicode := value }
  | 'R' => some { f with crlf := value }
  | 'x' => some { f with spaced := value }
  | _ => none

/-- The code points a class may hold: all, or, without Unicode, bytes. -/
def limit (f : Flags) : Nat := if f.unicode then CharSet.maxCode else 0xFF

/-- A class with both cases of its letters. -/
def fold (f : Flags) (s : CharSet) : CharSet :=
  if f.unicode then s.foldClosure else s.asciiFoldClosure

/-- Without Unicode a class must not hold bytes that are no character of their own. -/
def checked? (f : Flags) (s : CharSet) : Option CharSet :=
  if f.unicode || s.below 0x80 then some s else none

def negateIf (f : Flags) (negated : Bool) (s : CharSet) : CharSet :=
  if negated then s.complement f.limit else s

/-- A finished class: both cases if case is ignored, then the others if it is negated. -/
def finish? (f : Flags) (negated : Bool) (s : CharSet) : Option CharSet :=
  f.checked? (f.negateIf negated (if f.ignoreCase then f.fold s else s))

def char (f : Flags) (c : Char) : CharSet :=
  if !f.ignoreCase then .singleton c
  else if f.unicode then .folded c
  else (CharSet.singleton c).asciiFoldClosure

def dot? (f : Flags) : Option CharSet :=
  if !f.unicode then none
  else if f.dotMatchesAll then some .all
  else if f.crlf then some ((CharSet.union (.singleton '\n') (.singleton '\r')).complement f.limit)
  else some ((CharSet.singleton '\n').complement f.limit)

def lineStart (f : Flags) : Look :=
  if !f.multiLine then .textStart else if f.crlf then .crlfLineStart else .lineStart

def lineEnd (f : Flags) : Look :=
  if !f.multiLine then .textEnd else if f.crlf then .crlfLineEnd else .lineEnd

def word (f : Flags) (place : WordPlace) : Look := .word place (!f.unicode)

/-- Digits, blanks and word characters by their letter. -/
def letterClass? (f : Flags) (letter : Char) : Option CharSet :=
  match letter with
  | 'd' => some (if f.unicode then ⟨digitRanges⟩ else .range 0x30 0x39)
  | 's' =>
    some
      (if f.unicode then
        ⟨[(0x9, 0xD), (0x20, 0x20), (0x85, 0x85), (0xA0, 0xA0), (0x1680, 0x1680),
          (0x2000, 0x200A), (0x2028, 0x2029), (0x202F, 0x202F), (0x205F, 0x205F),
          (0x3000, 0x3000)]⟩
      else ⟨[(0x9, 0xD), (0x20, 0x20)]⟩)
  | 'w' =>
    some (if f.unicode then ⟨wordRanges⟩
      else ⟨[(0x30, 0x39), (0x41, 0x5A), (0x5F, 0x5F), (0x61, 0x7A)]⟩)
  | _ => none

end Flags

def asciiClasses : List (String × CharSet) :=
  [("alnum", ⟨[(0x30, 0x39), (0x41, 0x5A), (0x61, 0x7A)]⟩),
    ("alpha", ⟨[(0x41, 0x5A), (0x61, 0x7A)]⟩),
    ("ascii", ⟨[(0x0, 0x7F)]⟩),
    ("blank", ⟨[(0x9, 0x9), (0x20, 0x20)]⟩),
    ("cntrl", ⟨[(0x0, 0x1F), (0x7F, 0x7F)]⟩),
    ("digit", ⟨[(0x30, 0x39)]⟩),
    ("graph", ⟨[(0x21, 0x7E)]⟩),
    ("lower", ⟨[(0x61, 0x7A)]⟩),
    ("print", ⟨[(0x20, 0x7E)]⟩),
    ("punct", ⟨[(0x21, 0x2F), (0x3A, 0x40), (0x5B, 0x60), (0x7B, 0x7E)]⟩),
    ("space", ⟨[(0x9, 0xD), (0x20, 0x20)]⟩),
    ("upper", ⟨[(0x41, 0x5A)]⟩),
    ("word", ⟨[(0x30, 0x39), (0x41, 0x5A), (0x5F, 0x5F), (0x61, 0x7A)]⟩),
    ("xdigit", ⟨[(0x30, 0x39), (0x41, 0x46), (0x61, 0x66)]⟩)]

end PhraseMark.Pattern
