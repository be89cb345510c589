import PhraseMark.Pattern.Expr

/-!
# Pattern programs

A pattern as a list of states. Each state names the states that come after it, and a state that
splits names the preferred one first. Programs are built from the end: an expression is compiled
against the state that follows it.
-/

namespace PhraseMark.Pattern

/-- A state of a program. -/
inductive State where
  | accept
  /-- Takes one character of a set. -/
  | take (s : CharSet) (next : Nat)
  | check (l : Look) (next : Nat)
  | split (first second : Nat)
  deriving Inhabited

abbrev States := Array State

namespace States

/-- Adds a state; its number comes first. -/
def add (states : States) (s : State) : Nat × States := (states.size, states.push s)

/-- A split that prefers `more` if `greedy` holds. -/
def branch (greedy : Bool) (more done : Nat) : State :=
  if greedy then .split more done else .split done more

/-- Compiles something `n` times in a row before the state `next`. -/
def copies (compile : Nat → States → Nat × States) : Nat → Nat → States → Nat × States
  | 0, next, states => (next, states)
  | n + 1, next, states =>
    let (entry, states) := compile next states
    copies compile n entry states

/-- Compiles something up to `n` times before the state `next`, each time inside the one before. -/
def nested (compile : Nat → States → Nat × States) (greedy : Bool) (done : Nat) :
    Nat → Nat → States → Nat × States
  | 0, next, states => (next, states)
  | n + 1, next, states =>
    let (entry, states) := compile next states
    let (entry, states) := states.add (branch greedy entry done)
    nested compile greedy done n entry states

/-- Compiles something that is tried again after itself, at least once. -/
def loop (compile : Nat → States → Nat × States) (greedy : Bool) (next : Nat)
    (states : States) : Nat × Nat × States :=
  let (again, states) := states.add .accept
  let (entry, states) := compile again states
  (entry, again, states.setIfInBounds again (branch greedy entry next))

/-- Compiles a repetition. What may match nothing is repeated inside an optional part, which keeps
the order of preference. -/
def repetition (compile : Nat → States → Nat × States) (solid : Bool) (least : Nat)
    (most : Option Nat) (greedy : Bool) (next : Nat) (states : States) : Nat × States :=
  match least, most with
  | 0, none =>
    let (entry, again, states) := loop compile greedy next states
    if solid then (again, states) else states.add (branch greedy entry next)
  | n + 1, none =>
    let (entry, _, states) := loop compile greedy next states
    copies compile n entry states
  | least, some most =>
    let (entry, states) := nested compile greedy next (most - least) next states
    copies compile least entry states

mutual

/-- Compiles an expression before the state `next`; the state it begins with comes first. -/
def compile : Expr → Nat → States → Nat × States
  | .empty, next, states => (next, states)
  | .set s, next, states => states.add (.take s next)
  | .look l, next, states => states.add (.check l next)
  | .group e, next, states => compile e next states
  | .times e least most greedy, next, states =>
    repetition (compile e) e.isSolid least most greedy next states
  | .seq es, next, states => compileSeq es next states
  | .alt es, next, states => compileAlt es next states

def compileSeq : List Expr → Nat → States → Nat × States
  | [], next, states => (next, states)
  | e :: es, next, states =>
    let (entry, states) := compileSeq es next states
    compile e entry states

/-- Compiles alternatives, the preferred one first. -/
def compileAlt : List Expr → Nat → States → Nat × States
  | [], next, states => states.add (.take .empty next)
  | [e], next, states => compile e next states
  | e :: f :: es, next, states =>
    let (others, states) := compileAlt (f :: es) next states
    let (entry, states) := compile e next states
    states.add (.split entry others)

end

end States

/-- The states of a pattern and the one it begins with. -/
structure Program where
  states : States
  start : Nat
  deriving Inhabited

/-- The program of an expression; its first state accepts. -/
def Program.ofExpr (e : Expr) : Program :=
  let (start, states) := States.compile e 0 #[.accept]
  { states, start }

end PhraseMark.Pattern
