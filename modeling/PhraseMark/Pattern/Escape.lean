import PhraseMark.Pattern.Flags
import PhraseMark.Pattern.Property
import PhraseMark.Text.Blank

/-!
# Escapes

Writing a text as a pattern that matches it, and reading what stands after a backslash in a
pattern.
-/

namespace PhraseMark.Pattern

/-- The characters that have a meaning of their own in patterns. -/
def isMeta (c : Char) : Bool :=
  "\\.+*?()|[]\x7b\x7d^$#&-~".toList.contains c

/-- A pattern that stands for the characters as they are. -/
def escape (cs : List Char) : List Char :=
  cs.flatMap (fun c => if isMeta c then ['\\', c] else [c])

/-- What an escape stands for. -/
inductive Atom where
  /-- A character; `byte` if it was written as the number of a byte. -/
  | char (c : Char) (byte : Bool)
  | letterClass (letter : Char) (negated : Bool)
  | property (s : CharSet) (negated : Bool)
  | look (l : Look)

namespace Escape

/-- Drops a comment up to the end of its line, if blanks and comments are left out. -/
def skipSpace (f : Flags) (cs : List Char) : List Char :=
  if f.spaced then go false cs else cs
where
  /-- Drops blanks, and everything while inside a comment. -/
  go (inComment : Bool) : List Char → List Char
    | [] => []
    | c :: cs =>
      if inComment then go (c != '\n') cs
      else if Text.isBlank c then go false cs
      else if c == '#' then go true cs
      else c :: cs

/-- Reads exactly `n` hexadecimal digits onto a number. -/
def hexDigits? (f : Flags) : Nat → Nat → List Char → Option (Nat × List Char)
  | 0, value, cs => some (value, cs)
  | _ + 1, _, [] => none
  | n + 1, value, c :: cs =>
    match Text.hexDigit? c with
    | some d => hexDigits? f n (value * 16 + d) (skipSpace f cs)
    | none => none

/-- Reads the characters up to a closing brace, leaving out blanks where flags say so. -/
def upToBrace? (f : Flags) : Nat → List Char → Option (List Char × List Char)
  | 0, _ => none
  | fuel + 1, cs =>
    match skipSpace f cs with
    | [] => none
    | '\x7d' :: cs => some ([], cs)
    | c :: cs => (upToBrace? f fuel cs).map (fun r => (c :: r.1, r.2))

/-- The number that a text of hexadecimal digits denotes; there has to be one. -/
def hexText? (cs : List Char) : Option Nat :=
  if cs.isEmpty then none
  else cs.foldlM (fun n c => (Text.hexDigit? c).map (n * 16 + ·)) 0

def charOfCode? (n : Nat) : Option Char := if n.isValidChar then some (.ofNat n) else none

/-- Reads the number of a character after `x`, `u` or `U`: so many digits, or any number of them in
braces. -/
def hex? (f : Flags) (letter : Char) (cs : List Char) : Option (Atom × List Char) :=
  match skipSpace f cs with
  | '\x7b' :: cs => do
    let (text, rest) ← upToBrace? f (cs.length + 1) cs
    let c ← charOfCode? (← hexText? text)
    return (.char c false, skipSpace f rest)
  | cs => do
    let size := if letter = 'x' then 2 else if letter = 'u' then 4 else 8
    let (n, rest) ← hexDigits? f size 0 cs
    let c ← charOfCode? n
    return (.char c (letter = 'x'), rest)

/-- Reads the name of a property after `p` or `P`: one letter, or a text in braces. -/
def property? (f : Flags) (negated : Bool) (cs : List Char) : Option (Atom × List Char) :=
  match skipSpace f cs with
  | [] => none
  | '\x7b' :: cs => do
    let (text, rest) ← upToBrace? f (cs.length + 1) cs
    let (s, others) ← Property.ofText? text
    return (.property s (negated != others), rest)
  | '\\' :: _ => none
  | c :: cs => do
    let s ← Property.named? (Property.normalizeName [c])
    return (.property s negated, skipSpace f cs)

/-- The letters of which the names of places around words consist. -/
def isPlaceLetter (c : Char) : Bool :=
  ('A' ≤ c && c ≤ 'Z') || ('a' ≤ c && c ≤ 'z') || c == '-'

/-- Reads the letters of a name, leaving out blanks where flags say so. -/
def placeLetters (f : Flags) : Nat → List Char → List Char × List Char
  | 0, cs => ([], cs)
  | _ + 1, [] => ([], [])
  | fuel + 1, c :: cs =>
    if isPlaceLetter c then
      let (name, rest) := placeLetters f fuel (skipSpace f cs)
      (c :: name, rest)
    else ([], c :: cs)

def placeOfName? (name : String) : Option WordPlace :=
  if name == "start" then some .start
  else if name == "end" then some .stop
  else if name == "start-half" then some .startHalf
  else if name == "end-half" then some .stopHalf
  else none

/-- Reads what may follow `b`: a place in braces. Braces that do not begin with a letter belong to a
repetition. -/
def wordPlace? (f : Flags) (cs : List Char) : Option (Atom × List Char) :=
  match cs with
  | '\x7b' :: inner =>
    match skipSpace f inner with
    | [] => none
    | c :: rest =>
      if isPlaceLetter c then
        match placeLetters f (rest.length + 1) (c :: rest) with
        | (name, '\x7d' :: rest) =>
          (placeOfName? (.ofList name)).map (fun place => (.look (f.word place), rest))
        | _ => none
      else some (.look (f.word .boundary), cs)
  | _ => some (.look (f.word .boundary), cs)

/-- The characters of ASCII that an escape leaves as they are. -/
def isPlainEscape (c : Char) : Bool :=
  isMeta c || (c.toNat < 0x80 && !c.isAlphanum && c != '<' && c != '>')

def read? (f : Flags) : List Char → Option (Atom × List Char)
  | [] => none
  | c :: cs =>
    if '0' ≤ c ∧ c ≤ '9' then none
    else if c = 'x' ∨ c = 'u' ∨ c = 'U' then hex? f c cs
    else if c = 'p' ∨ c = 'P' then property? f (c = 'P') cs
    else if c = 'd' ∨ c = 's' ∨ c = 'w' then some (.letterClass c false, cs)
    else if c = 'D' ∨ c = 'S' ∨ c = 'W' then some (.letterClass c.toLower true, cs)
    else if isPlainEscape c then some (.char c false, cs)
    else
      match c with
      | 'a' => some (.char '\x07' false, cs)
      | 'f' => some (.char '\x0c' false, cs)
      | 't' => some (.char '\t' false, cs)
      | 'n' => some (.char '\n' false, cs)
      | 'r' => some (.char '\r' false, cs)
      | 'v' => some (.char '\x0b' false, cs)
      | 'A' => some (.look .textStart, cs)
      | 'z' => some (.look .textEnd, cs)
      | 'b' => wordPlace? f cs
      | 'B' => some (.look (f.word .notBoundary), cs)
      | '<' => some (.look (f.word .start), cs)
      | '>' => some (.look (f.word .stop), cs)
      | _ => none

end Escape

namespace Atom

/-- The code point of an atom that stands for one character. Without Unicode a number of a byte
above 127 stands for no character. -/
def code? (f : Flags) : Atom → Option Nat
  | char c byte => if !f.unicode && byte && 0x80 ≤ c.toNat then none else some c.toNat
  | _ => none

/-- The class that an atom stands for; places are no classes. -/
def class? (f : Flags) : Atom → Option CharSet
  | char _ _ => none
  | letterClass letter negated => do
    let s ← f.letterClass? letter
    f.checked? (f.negateIf negated s)
  | property s negated => if f.unicode then f.finish? negated s else none
  | look _ => none

/-- The expression that an atom stands for outside of brackets. -/
def expr? (f : Flags) : Atom → Option Expr
  | char c byte => ((char c byte).code? f).map (fun _ => .set (f.char c))
  | look l => some (.look l)
  | a => (a.class? f).map .set

end Atom

end PhraseMark.Pattern
