import PhraseMark.Text.Case

/-!
# Sets of characters

Sets of code points as lists of closed ranges, with the operations that bracketed classes need
and the closure under simple case folding.
-/

namespace PhraseMark.Pattern

/-- A set of code points: those in one of the ranges. -/
structure CharSet where
  ranges : List (Nat × Nat) := []
  deriving DecidableEq, Repr, Inhabited

namespace CharSet

def maxCode : Nat := 0x10FFFF

def contains (s : CharSet) (c : Char) : Bool :=
  s.ranges.any (fun r => r.1 ≤ c.toNat && c.toNat ≤ r.2)

/-- Puts ranges together that meet or touch, given in order of their beginnings. -/
def merge : List (Nat × Nat) → List (Nat × Nat)
  | [] => []
  | [r] => [r]
  | (a, b) :: (c, d) :: rest =>
    if c ≤ b + 1 then merge ((a, max b d) :: rest) else (a, b) :: merge ((c, d) :: rest)
termination_by rs => rs.length

/-- The same set with its ranges in order, disjoint and not touching. -/
def normalize (s : CharSet) : CharSet :=
  ⟨merge (s.ranges.mergeSort (fun r t => r.1 ≤ t.1))⟩

def empty : CharSet := {}

def range (a b : Nat) : CharSet := ⟨[(a, b)]⟩

def singleton (c : Char) : CharSet := range c.toNat c.toNat

def all : CharSet := range 0 maxCode

def ofChars (cs : List Char) : CharSet := normalize ⟨cs.map (fun c => (c.toNat, c.toNat))⟩

def union (s t : CharSet) : CharSet := normalize ⟨s.ranges ++ t.ranges⟩

/-- The gaps between ranges in order, from `start` up to `limit`. -/
def gaps (limit start : Nat) : List (Nat × Nat) → List (Nat × Nat)
  | [] => if start ≤ limit then [(start, limit)] else []
  | (a, b) :: rest =>
    if start < a then (start, a - 1) :: gaps limit (b + 1) rest else gaps limit (b + 1) rest

/-- The code points up to `limit` that are not in the set. -/
def complement (limit : Nat) (s : CharSet) : CharSet := ⟨gaps limit 0 (normalize s).ranges⟩

def inter (s t : CharSet) : CharSet :=
  normalize
    ⟨s.ranges.flatMap (fun r => t.ranges.filterMap (fun u =>
      if max r.1 u.1 ≤ min r.2 u.2 then some (max r.1 u.1, min r.2 u.2) else none))⟩

def diff (s t : CharSet) : CharSet := inter s (complement maxCode t)

def symmDiff (s t : CharSet) : CharSet := union (diff s t) (diff t s)

def isEmpty (s : CharSet) : Bool := s.ranges.isEmpty

def below (limit : Nat) (s : CharSet) : Bool := s.ranges.all (·.2 < limit)

def single? (s : CharSet) : Option Nat :=
  match s.ranges with
  | [(a, b)] => if a = b then some a else none
  | _ => none

/-- The characters that folding changes, or that others are changed to. -/
def foldable : List Char :=
  Text.foldRuns.flatMap (fun r =>
    (List.range ((r.last - r.first) / r.step + 1)).flatMap (fun i =>
      [Char.ofNat (r.first + i * r.step), Char.ofNat (r.target + i * r.step)]))

/-- The set with all characters whose simple case folding is that of a member. -/
def foldClosure (s : CharSet) : CharSet :=
  let added := (foldable.filter s.contains).flatMap Text.foldClass
  normalize ⟨s.ranges ++ added.map (fun c => (c.toNat, c.toNat))⟩

/-- The set with the letters `a` to `z` and `A` to `Z` in both cases. -/
def asciiFoldClosure (s : CharSet) : CharSet :=
  let lower := (inter s (range 0x41 0x5A)).ranges.map (fun r => (r.1 + 32, r.2 + 32))
  let upper := (inter s (range 0x61 0x7A)).ranges.map (fun r => (r.1 - 32, r.2 - 32))
  normalize ⟨s.ranges ++ lower ++ upper⟩

/-- The set of the characters with the folding of `c`. -/
def folded (c : Char) : CharSet := ofChars (Text.foldClass c)

end CharSet

end PhraseMark.Pattern
