import PhraseMark.Pattern.CharSet
import PhraseMark.Pattern.Look

/-!
# Pattern expressions

What a pattern means once its flags are resolved: sets of characters, conditions, sequences,
alternatives in order of preference, and repetitions that prefer more or less.
-/

namespace PhraseMark.Pattern

/-- A pattern expression. -/
inductive Expr where
  | empty
  /-- One character of a set. -/
  | set (s : CharSet)
  | look (l : Look)
  /-- A group that is numbered. -/
  | group (e : Expr)
  /-- From `least` to `most` times, without a limit if `most` is none. -/
  | times (e : Expr) (least : Nat) (most : Option Nat) (greedy : Bool)
  | seq (es : List Expr)
  | alt (es : List Expr)
  deriving Inhabited

namespace Expr

mutual

/-- Whether the expression matches no character at all, only places. -/
def isPlace : Expr → Bool
  | empty => true
  | set _ => false
  | look _ => true
  | group e => isPlace e
  | times e _ most _ => most == some 0 || isPlace e
  | seq es => allPlaces es
  | alt es => allPlaces es

def allPlaces : List Expr → Bool
  | [] => true
  | e :: es => isPlace e && allPlaces es

end

mutual

/-- Whether every match holds at least one character. -/
def isSolid : Expr → Bool
  | empty => false
  | set s => !s.isEmpty
  | look _ => false
  | group e => isSolid e
  | times e least _ _ => 0 < least && isSolid e
  | seq es => someSolid es
  | alt es => !es.isEmpty && allSolid es

def someSolid : List Expr → Bool
  | [] => false
  | e :: es => isSolid e || someSolid es

def allSolid : List Expr → Bool
  | [] => true
  | e :: es => isSolid e && allSolid es

end

/-- A repetition. Repeating what matches only places more than once adds nothing. -/
def repeated (e : Expr) (least : Nat) (most : Option Nat) (greedy : Bool) : Expr :=
  let (least, most) :=
    if isPlace e then (min least 1, some ((most.map (min · 1)).getD 1)) else (least, most)
  if least = 0 ∧ most = some 0 then empty
  else if least = 1 ∧ most = some 1 then e
  else times e least most greedy

def sets? : List Expr → Option (List CharSet)
  | [] => some []
  | set s :: es => (sets? es).map (s :: ·)
  | _ => none

/-- Alternatives; single characters and sets become one set. -/
def alternatives (es : List Expr) : Expr :=
  match sets? es with
  | some ss => set (CharSet.normalize ⟨ss.flatMap (·.ranges)⟩)
  | none => alt es

end Expr

end PhraseMark.Pattern
