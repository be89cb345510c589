import PhraseMark.Pattern.Expr
import Std.Data.HashMap.Basic

/-!
# The size of a pattern

A pattern is refused when a machine over the bytes of UTF-8 for it, or for it read backwards,
would grow too large. The size counts 32 units for a state, 8 for a transition of a state over
bytes, and 4 for an alternative of a branching state.
-/

namespace PhraseMark.Pattern.Size

/-- The greatest size of a pattern: ten times `2 ^ 20`. -/
def limit : Nat := 10 * Nat.pow 2 20

def stateUnits : Nat := 32

def transitionUnits : Nat := 8

def branchUnits : Nat := 4

abbrev ByteRange := Nat × Nat

def utf8 (n : Nat) : List Nat :=
  if n < 0x80 then [n]
  else if n < 0x800 then [0xC0 + n / 0x40, 0x80 + n % 0x40]
  else if n < 0x10000 then [0xE0 + n / 0x1000, 0x80 + n / 0x40 % 0x40, 0x80 + n % 0x40]
  else
    [0xF0 + n / 0x40000, 0x80 + n / 0x1000 % 0x40, 0x80 + n / 0x40 % 0x40, 0x80 + n % 0x40]

/-- Where a range of code points has to be parted: at the surrogates, where the number of bytes
changes, and where a first or last block of continuation bytes is not whole. Gives the last code
point of the first part and the first of the second. -/
def cut? (a b : Nat) : Option (Nat × Nat) :=
  if a < 0xE000 ∧ 0xD7FF < b then some (0xD7FF, 0xE000)
  else
    match [0x7F, 0x7FF, 0xFFFF].find? (fun m => a ≤ m && m < b) with
    | some m => some (m, m + 1)
    | none =>
      if b < 0x80 then none
      else
        [0x40, 0x1000, 0x40000].findSome? (fun block =>
          if a / block = b / block then none
          else if a % block ≠ 0 then some (a / block * block + block - 1, a / block * block + block)
          else if b % block ≠ block - 1 then some (b / block * block - 1, b / block * block)
          else none)

/-- The sequences of byte ranges for a range of code points, in order. -/
def sequences : Nat → Nat → Nat → List (List ByteRange)
  | 0, _, _ => []
  | fuel + 1, a, b =>
    if b < a ∨ (0xD800 ≤ a ∧ b < 0xE000) then []
    else
      match cut? a b with
      | some (m, n) => sequences fuel a m ++ sequences fuel n b
      | none => [(utf8 a).zip (utf8 b)]

def setSequences (s : CharSet) : List (List ByteRange) :=
  s.ranges.flatMap (fun r => sequences 32 r.1 r.2)

/-- The states of a machine that reads sequences of bytes, each under its transitions. -/
abbrev Nodes := Std.HashMap (List (Nat × Nat × Nat)) Nat

/-- Adds the states that read given sequences; equal states are kept once. The state reached at
the end of a sequence is number 0. -/
def addNode : Nat → List (List ByteRange) → Nodes → Nat × Nodes
  | 0, _, nodes => (0, nodes)
  | depth + 1, seqs, nodes =>
    if seqs.all (·.isEmpty) then (0, nodes)
    else
      let groups := seqs.splitBy (fun s t => s.head? == t.head?)
      let (transitions, nodes) := groups.foldl (fun (acc : List (Nat × Nat × Nat) × Nodes) g =>
        match g with
        | (r :: _) :: _ =>
          let (id, nodes) := addNode depth (g.map (·.drop 1)) acc.2
          ((r.1, r.2, id) :: acc.1, nodes)
        | _ => acc) ([], nodes)
      match nodes[transitions]? with
      | some id => (id, nodes)
      | none => (nodes.size + 1, nodes.insert transitions (nodes.size + 1))

/-- The size of a machine that reads one of the sequences. -/
def forward (seqs : List (List ByteRange)) : Nat :=
  let (_, nodes) := addNode 5 seqs {}
  nodes.fold (fun n transitions _ => n + stateUnits + transitionUnits * transitions.length)
    stateUnits

/-- The number of different beginnings of sequences in order. -/
def beginnings : List ByteRange → List (List ByteRange) → Nat
  | _, [] => 0
  | before, s :: rest =>
    let shared := ((before.zip s).takeWhile (fun p => p.1 == p.2)).length
    (s.length - shared) + beginnings s rest

/-- The size of a machine that reads one of the sequences backwards. -/
def backward (seqs : List (List ByteRange)) : Nat :=
  2 * stateUnits + branchUnits * seqs.length + stateUnits * beginnings [] seqs

def ofSet (reversed : Bool) (s : CharSet) : Nat :=
  match s.single? with
  | some n => stateUnits * (utf8 n).length
  | none =>
    if s.isEmpty then stateUnits
    else if s.below 0x80 then 2 * stateUnits + transitionUnits * s.ranges.length
    else if reversed then backward (setSequences s)
    else forward (setSequences s)

/-- The size of a repetition of something with the size `n`. -/
def ofTimes (n : Nat) (solid : Bool) (least : Nat) (most : Option Nat) : Nat :=
  let branch := stateUnits + 2 * branchUnits
  let exactly := if least = 0 then stateUnits else least * n
  match least, most with
  | 0, none => if solid then n + branch else n + 2 * branch + stateUnits
  | 0, some 1 => n + branch + stateUnits
  | _, none => exactly + branch
  | least, some most =>
    if least = most then exactly else exactly + stateUnits + (most - least) * (n + branch)

mutual

def ofExpr (reversed : Bool) : Expr → Nat
  | .empty => stateUnits
  | .set s => ofSet reversed s
  | .look _ => stateUnits
  | .group e => ofExpr reversed e + if reversed then 0 else 2 * stateUnits
  | .times e least most _ => ofTimes (ofExpr reversed e) e.isSolid least most
  | .seq es => if es.isEmpty then stateUnits else ofAll reversed es
  | .alt es => ofAll reversed es + 2 * stateUnits + branchUnits * es.length

def ofAll (reversed : Bool) : List Expr → Nat
  | [] => 0
  | e :: es => ofExpr reversed e + ofAll reversed es

end

/-- What stands around every pattern: the search for its beginning, its borders and its end. -/
def frame (reversed : Bool) : Nat :=
  3 * stateUnits + 2 * branchUnits + transitionUnits + stateUnits +
    if reversed then 0 else 2 * stateUnits

def fits (e : Expr) : Bool :=
  ofExpr false e + frame false ≤ limit && ofExpr true e + frame true ≤ limit

end PhraseMark.Pattern.Size
