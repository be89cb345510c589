import PhraseMark.Pattern.Escape

/-!
# Bracketed classes

Reads a class in brackets: characters, ranges, escapes, named classes and classes in brackets,
joined, intersected or subtracted. With the class comes its height, the number of brackets and
operations inside one another, which is limited for a pattern as a whole.
-/

namespace PhraseMark.Pattern.Bracket

/-- How two classes are combined. -/
inductive Operation where
  | inter
  | diff
  | symmDiff
  deriving DecidableEq, Repr

def Operation.apply : Operation → CharSet → CharSet → CharSet
  | inter, s, t => s.inter t
  | diff, s, t => s.diff t
  | symmDiff, s, t => s.symmDiff t

/-- A class with its height. -/
structure Measured where
  set : CharSet
  height : Nat

/-- Items that stand beside one another. -/
structure Union where
  ranges : List (Nat × Nat) := []
  count : Nat := 0
  height : Nat := 0

namespace Union

def push (u : Union) (s : CharSet) (height : Nat) : Union :=
  { ranges := s.ranges ++ u.ranges, count := u.count + 1, height := max u.height height }

/-- Items beside one another add a level if there are two or more. -/
def toMeasured (u : Union) : Measured :=
  { set := CharSet.normalize ⟨u.ranges⟩, height := if u.count < 2 then u.height else u.height + 1 }

end Union

/-- A combination whose right side is being read. -/
structure Pending where
  operation : Operation
  left : Measured

/-- The class read so far, with the combination around it carried out. -/
def combine (f : Flags) (pending : Option Pending) (u : Union) : Measured :=
  let right := u.toMeasured
  match pending with
  | none => right
  | some p =>
    let fold (s : CharSet) : CharSet := if f.ignoreCase then f.fold s else s
    { set := p.operation.apply (fold p.left.set) (fold right.set)
      height := max p.left.height right.height + 1 }

/-- Reads a bar of hyphens at the beginning of a class. -/
def openHyphens (f : Flags) (u : Union) : Nat → List Char → Union × List Char
  | 0, cs => (u, cs)
  | fuel + 1, cs =>
    match cs with
    | '-' :: cs => openHyphens f (u.push (.singleton '-') 0) fuel (Escape.skipSpace f cs)
    | cs => (u, cs)

/-- Reads the beginning of a class after its bracket: whether it is negated, hyphens, and a closing
bracket that stands for itself. -/
def openClass (f : Flags) (cs : List Char) : Bool × Union × List Char :=
  let cs := Escape.skipSpace f cs
  let (negated, cs) := match cs with
    | '^' :: cs => (true, Escape.skipSpace f cs)
    | cs => (false, cs)
  let (u, cs) := openHyphens f {} cs.length cs
  match cs with
  | ']' :: rest =>
    if u.count = 0 then (negated, u.push (.singleton ']') 0, Escape.skipSpace f rest)
    else (negated, u, cs)
  | cs => (negated, u, cs)

/-- Reads a named class after its opening bracket, as `:alpha:]`. -/
def named? (f : Flags) (cs : List Char) : Option (Option CharSet × List Char) :=
  match cs with
  | ':' :: cs =>
    let (negated, cs) := match cs with
      | '^' :: cs => (true, cs)
      | cs => (false, cs)
    let name := cs.takeWhile (· ≠ ':')
    match cs.dropWhile (· ≠ ':') with
    | ':' :: ']' :: rest =>
      match asciiClasses.lookup (.ofList name) with
      | some s => some (f.finish? negated s, rest)
      | none => none
    | _ => none
  | _ => none

def item? (f : Flags) : List Char → Option (Atom × List Char)
  | [] => none
  | '\\' :: cs => Escape.read? f cs
  | c :: cs => some (.char c false, cs)

/-- What a single item stands for. Without Unicode it has to be of ASCII. -/
def itemSet? (f : Flags) (a : Atom) : Option CharSet :=
  match a with
  | .char _ _ => do
    let n ← a.code? f
    f.checked? (.range n n)
  | a => a.class? f

/-- The character after the next one, blanks left out. -/
def peek (f : Flags) (cs : List Char) : Option Char := (Escape.skipSpace f cs).head?

def range? (f : Flags) (cs : List Char) : Option (CharSet × List Char) := do
  let (first, rest) ← item? f cs
  match Escape.skipSpace f rest with
  | [] => none
  | '-' :: rest =>
    if peek f rest = some ']' ∨ peek f rest = some '-' then
      return (← itemSet? f first, '-' :: rest)
    else
      let (last, rest) ← item? f (Escape.skipSpace f rest)
      let a ← first.code? f
      let b ← last.code? f
      if a ≤ b then return (← f.checked? (.range a b), rest) else none
  | rest => return (← itemSet? f first, rest)

/-- Reads the rest of a class, after its items `u`, up to its closing bracket. -/
def classRest? (f : Flags) :
    Nat → Bool → Option Pending → Union → List Char → Option (Measured × List Char)
  | 0, _, _, _, _ => none
  | fuel + 1, negated, pending, u, cs =>
    let operate (operation : Operation) (rest : List Char) : Option (Measured × List Char) :=
      classRest? f fuel negated (some { operation, left := combine f pending u }) {} rest
    match Escape.skipSpace f cs with
    | [] => none
    | ']' :: rest =>
      let m := combine f pending u
      (f.finish? negated m.set).map (fun s => ({ set := s, height := m.height + 1 }, rest))
    | '[' :: rest =>
      match named? f rest with
      | some (s, rest) => do classRest? f fuel negated pending (u.push (← s) 0) rest
      | none => do
        let (innerNegated, innerUnion, inner) := openClass f rest
        let (m, rest) ← classRest? f fuel innerNegated none innerUnion inner
        classRest? f fuel negated pending (u.push m.set m.height) rest
    | '&' :: '&' :: rest => operate .inter rest
    | '-' :: '-' :: rest => operate .diff rest
    | '~' :: '~' :: rest => operate .symmDiff rest
    | cs => do
      let (s, rest) ← range? f cs
      classRest? f fuel negated pending (u.push s 0) rest

def class? (f : Flags) (cs : List Char) : Option (Measured × List Char) :=
  let (negated, u, rest) := openClass f cs
  classRest? f (cs.length + 1) negated none u rest

end PhraseMark.Pattern.Bracket
