import PhraseMark.Pattern.Property
import PhraseMark.Url.Composition
import PhraseMark.Url.DirectionData
import PhraseMark.Url.JoiningData
import PhraseMark.Url.MappingData
import PhraseMark.Url.Punycode

/-!
# Domain names

The written form of an international domain name. Characters are replaced by those they are
looked up by, and every label that is not basic Latin is checked and encoded. A label that is
encoded already has to denote one that would be encoded that way.
-/

namespace PhraseMark.Url.Domain

/-! ## Replacement of characters -/

/-- Characters that are replaced in the same way: those from `first` to `last` in steps. -/
structure ReplacementRun where
  first : Nat
  last : Nat
  step : Nat
  replacement : List Nat

/-- What stands instead of a character; the last character moves along with it. -/
def ReplacementRun.replace? (r : ReplacementRun) (c : Char) : Option (List Char) :=
  let n := c.toNat
  if r.first ≤ n ∧ n ≤ r.last ∧ (n - r.first) % r.step = 0 then
    match r.replacement with
    | [m] => some [.ofNat (m + (n - r.first))]
    | ms => some (ms.map .ofNat)
  else none

/-- Reads one written run after the first character of the one before. -/
def pushRun (state : Nat × List ReplacementRun) (word : List Char) : Nat × List ReplacementRun :=
  let source := word.takeWhile (· ≠ '=')
  let replacement := (((word.dropWhile (· ≠ '=')).drop 1).splitOn ',').map
    Pattern.PropertyData.hexNumber
  let step := if source.getLast? == some '*' then 2 else 1
  let source := source.filter (· ≠ '*')
  let first := state.1 + Pattern.PropertyData.hexNumber (source.takeWhile (· ≠ '+'))
  let more := Pattern.PropertyData.hexNumber ((source.dropWhile (· ≠ '+')).drop 1)
  (first, ⟨first, first + more * step, step, replacement⟩ :: state.2)

def replacements (words : List String) : List ReplacementRun :=
  ((words.flatMap (·.toList.splitOn ' ')).foldl pushRun (0, [])).2.reverse

def charSet (ranges : List String) : Pattern.CharSet := ⟨Pattern.PropertyData.readRanges ranges⟩

def isKept (c : Char) : Bool := (charSet keptRanges).contains c

/-- What becomes of a character; nothing if it must not stand in a name. -/
def mapChar? (c : Char) : Option (List Char) :=
  if isKept c then some [c]
  else if (charSet ignoredRanges).contains c then some []
  else (replacements replacementRuns).findSome? (·.replace? c)

/-! ## Joiners -/

def zeroWidthNonJoiner : Char := '\u200c'

def zeroWidthJoiner : Char := '\u200d'

/-- The combining class of signs that take the vowel from a letter. -/
def viramaClass : Nat := 9

def endsInVirama (before : List Char) : Bool :=
  before.head?.any (Composition.classOf · == viramaClass)

/-- The first letter that is not joined across. -/
def nextLetter? (cs : List Char) : Option Char :=
  (cs.dropWhile (charSet transparentJoiningRanges).contains).head?

/-- Whether letters join across a place. `before` is what stands before it, last first. -/
def joins (before after : List Char) : Bool :=
  let dual := charSet dualJoiningRanges
  (nextLetter? before).any (fun c => dual.contains c || (charSet leftJoiningRanges).contains c) &&
    (nextLetter? after).any (fun c => dual.contains c || (charSet rightJoiningRanges).contains c)

/-- Whether every joiner and non-joiner stands where it has an effect. -/
def joinersMatter (before : List Char) : List Char → Bool
  | [] => true
  | c :: cs =>
    (if c = zeroWidthJoiner then endsInVirama before
      else if c = zeroWidthNonJoiner then endsInVirama before || joins before cs
      else true) && joinersMatter (c :: before) cs

/-! ## Directions -/

/-- The direction of a character. -/
inductive Direction where
  | left
  | right
  | arabicLetter
  | arabicNumber
  | europeanNumber
  | europeanSeparator
  | commonSeparator
  | europeanTerminator
  | mark
  | neutralBoundary
  | neutral
  deriving DecidableEq, Repr

namespace Direction

/-- The directions other than from left to right, with their characters. -/
def table : List (Direction × List String) :=
  [(right, rightRanges), (arabicLetter, arabicLetterRanges), (arabicNumber, arabicNumberRanges),
    (europeanNumber, europeanNumberRanges), (europeanSeparator, europeanSeparatorRanges),
    (commonSeparator, commonSeparatorRanges), (europeanTerminator, europeanTerminatorRanges),
    (mark, markRanges), (neutralBoundary, neutralBoundaryRanges), (neutral, neutralRanges)]

def ofChar (c : Char) : Direction :=
  match table.find? (fun entry => (charSet entry.2).contains c) with
  | some entry => entry.1
  | none => left

/-- Directions that make a name one that runs in both directions. -/
def isRightToLeft (d : Direction) : Bool := [right, arabicLetter, arabicNumber].contains d

/-- Directions that a label may hold whatever way it runs. -/
def isShared (d : Direction) : Bool :=
  [europeanNumber, europeanSeparator, commonSeparator, europeanTerminator, neutral,
    neutralBoundary, mark].contains d

end Direction

/-- Whether a label can stand in a name that runs in both directions. -/
def hasOneDirection (label : List Char) : Bool :=
  let ds := label.map Direction.ofChar
  let last := (ds.reverse.dropWhile (· == .mark)).head?
  match ds.head? with
  | none => true
  | some .left =>
    ds.all (fun d => d == .left || d.isShared) &&
      last.any (fun d => d == .left || d == .europeanNumber)
  | some d =>
    (d == .right || d == .arabicLetter) &&
      ds.all (fun d => d.isRightToLeft || d.isShared) &&
      last.any (fun d => d.isRightToLeft || d == .europeanNumber) &&
      !(ds.contains .europeanNumber && ds.contains .arabicNumber)

/-! ## Labels -/

def encodedMark : List Char := "xn--".toList

/-- A label that is not basic Latin and in composed form may stand in a name if it does not begin
with a mark and its joiners matter. -/
def isProper (label : List Char) : Bool :=
  !(label.head?.any (fun c => (Pattern.Property.category? "m").any (·.contains c))) &&
    joinersMatter [] label

/-- A label as it is read and as it is written. -/
structure Label where
  shown : List Char
  written : List Char

/-- Labels longer than this are not encoded. -/
def maxEncoded : Nat := 1000

/-- Encoded labels longer than this are not decoded. -/
def maxDecoded : Nat := 2000

def label? (text : List Char) : Option Label :=
  if encodedMark.isPrefixOf text then
    let digits := text.drop encodedMark.length
    if maxDecoded < digits.length then none
    else
      match Punycode.decode? digits with
      | none => none
      | some shown =>
        if shown.all Punycode.isBasic || !shown.all isKept || composedForm shown != shown ||
            !isProper shown then none
        else some ⟨shown, text⟩
  else if text.all Punycode.isBasic then some ⟨text, text⟩
  else if isProper text && text.length ≤ maxEncoded then
    some ⟨text, encodedMark ++ Punycode.encode text⟩
  else none

def isForbidden (c : Char) : Bool :=
  c.toNat ≤ 0x20 || c.toNat == 0x7F ||
    ['%', '#', '/', ':', '<', '>', '?', '@', '[', '\\', ']', '^', '|'].contains c

def toWritten? (name : List Char) : Option (List Char) := do
  let mapped ← name.mapM mapChar?
  let labels ← ((composedForm mapped.flatten).splitOn '.').mapM label?
  let mixed := labels.any (·.shown.any (fun c => (Direction.ofChar c).isRightToLeft))
  let written := List.intercalate ['.'] (labels.map (·.written))
  if (mixed && !labels.all (hasOneDirection ·.shown)) || written.any isForbidden then none
  else some written

end PhraseMark.Url.Domain
