import PhraseMark.Pattern.PropertyData
import PhraseMark.Url.CompositionData

/-!
# Composed form

Brings the marks after a character into their canonical order and puts characters together that
have a composed form. Characters that are taken apart and never put together again do not stand
in names, so they are not taken apart here.
-/

namespace PhraseMark.Url

/-- A character that is composed of two others. -/
structure Composition where
  composed : Char
  first : Char
  second : Char

namespace Composition

/-- Reads one written composition after the number of the one before. -/
def pushWord (state : Nat × List Composition) (word : List Char) : Nat × List Composition :=
  let code := state.1 + Pattern.PropertyData.hexNumber (word.takeWhile (· ≠ '='))
  let parts := ((word.dropWhile (· ≠ '=')).drop 1).splitOn ','
  match parts.map Pattern.PropertyData.hexNumber with
  | [a, b] => (code, ⟨.ofNat code, .ofNat a, .ofNat b⟩ :: state.2)
  | _ => (code, state.2)

/-- All compositions but those of Hangul syllables. -/
def all (words : List String) : List Composition :=
  ((words.flatMap (·.toList.splitOn ' ')).foldl pushWord (0, [])).2

/-- The combining classes other than zero, with their ranges. -/
def classRanges (classes : List (Nat × List String)) : List (Nat × Pattern.CharSet) :=
  classes.map (fun k => (k.1, ⟨Pattern.PropertyData.readRanges k.2⟩))

def classOf (c : Char) : Nat :=
  match (classRanges combiningClassRanges).find? (·.2.contains c) with
  | some k => k.1
  | none => 0

def firstSyllable : Nat := 0xAC00

def syllableCount : Nat := 11172

def syllableLetters? (c : Char) : Option (List Char) :=
  let n := c.toNat - firstSyllable
  if firstSyllable ≤ c.toNat ∧ n < syllableCount then
    let last := n % 28
    some ([Char.ofNat (0x1100 + n / 588), Char.ofNat (0x1161 + n % 588 / 28)] ++
      (if last = 0 then [] else [Char.ofNat (0x11A7 + last)]))
  else none

/-- The Hangul syllable of two letters, or of an open syllable and a letter. -/
def syllable? (a b : Char) : Option Char :=
  let n := a.toNat - firstSyllable
  if 0x1100 ≤ a.toNat ∧ a.toNat < 0x1113 ∧ 0x1161 ≤ b.toNat ∧ b.toNat < 0x1176 then
    some (.ofNat (firstSyllable + (a.toNat - 0x1100) * 588 + (b.toNat - 0x1161) * 28))
  else if firstSyllable ≤ a.toNat ∧ n < syllableCount ∧ n % 28 = 0 ∧ 0x11A7 < b.toNat ∧
      b.toNat < 0x11C3 then
    some (.ofNat (a.toNat + (b.toNat - 0x11A7)))
  else none

def decompose (table : List Composition) : Nat → Char → List Char
  | 0, c => [c]
  | depth + 1, c =>
    match syllableLetters? c with
    | some letters => letters
    | none =>
      match table.find? (·.composed == c) with
      | some d => decompose table depth d.first ++ [d.second]
      | none => [c]

/-- The most marks that are composed with one character. -/
def maxMarks : Nat := 4

/-- The character that two characters are put together to. -/
def compose? (table : List Composition) (a b : Char) : Option Char :=
  match syllable? a b with
  | some c => some c
  | none => (table.find? (fun d => d.first == a && d.second == b)).map (·.composed)

/-- Puts a character with its class before others that are in order. It goes after marks of a
lower class. -/
def place (m : Nat × Char) : List (Nat × Char) → List (Nat × Char)
  | [] => [m]
  | n :: rest => if 0 < n.1 ∧ n.1 < m.1 then n :: place m rest else m :: n :: rest

/-- Puts a character together with what follows. `passed` holds the marks that stay after it, last
first, and `last` is the class of the last of them. -/
def composeAfter (table : List Composition) (starter : Char) (passed : List Char) (last : Nat) :
    List (Nat × Char) → List Char
  | [] => starter :: passed.reverse
  | (k, c) :: rest =>
    let blocked := !passed.isEmpty && k ≤ last
    match (if blocked then none else compose? table starter c) with
    | some s => composeAfter table s passed last rest
    | none =>
      if k = 0 then starter :: passed.reverse ++ composeAfter table c [] 0 rest
      else composeAfter table starter (c :: passed) k rest

def composeAll (table : List Composition) : List (Nat × Char) → List Char
  | [] => []
  | (0, c) :: rest => composeAfter table c [] 0 rest
  | (_, c) :: rest => c :: composeAll table rest

end Composition

def composedForm (cs : List Char) : List Char :=
  let table := Composition.all compositionWords
  let apart := cs.flatMap (Composition.decompose table Composition.maxMarks)
  let ordered := (apart.map (fun c => (Composition.classOf c, c))).foldr Composition.place []
  Composition.composeAll table ordered

end PhraseMark.Url
