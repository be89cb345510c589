import PhraseMark.Pattern.Program
import Std.Data.HashSet.Basic

/-!
# Searching a text

Runs a program on a text: a state at a place is tried at most once, in order of preference, from
every place of the text on. The first match found is the leftmost one, and among those that begin
there the preferred one.
-/

namespace PhraseMark.Pattern

/-- A part of a text, from character `start` up to, but not including, character `stop`. -/
structure Span where
  start : Nat
  stop : Nat
  deriving DecidableEq, Repr, Inhabited

namespace Span

def isEmpty (s : Span) : Bool := s.start == s.stop

def slice (s : Span) (text : List Char) : List Char := (text.drop s.start).take (s.stop - s.start)

end Span

namespace Program

/-- A state at a place of the text. -/
structure Thread where
  state : Nat
  place : Nat

/-- The threads that follow a thread, the preferred one first. -/
def follow (p : Program) (text : Array Char) (t : Thread) : List Thread :=
  match p.states[t.state]? with
  | none => []
  | some .accept => []
  | some (.take s next) =>
    match text[t.place]? with
    | some c => if s.contains c then [⟨next, t.place + 1⟩] else []
    | none => []
  | some (.check l next) =>
    let before := if t.place = 0 then none else text[t.place - 1]?
    if l.holds before text[t.place]? then [⟨next, t.place⟩] else []
  | some (.split first second) => [⟨first, t.place⟩, ⟨second, t.place⟩]

def isAccept (p : Program) (t : Thread) : Bool :=
  match p.states[t.state]? with
  | some .accept => true
  | _ => false

/-- The number of a thread in the set of those tried. -/
def key (p : Program) (t : Thread) : Nat := t.place * p.states.size + t.state

/-- Tries threads in order. The place where the first of them accepts, and what was tried. -/
def explore (p : Program) (text : Array Char) :
    Nat → List Thread → Std.HashSet Nat → Option Nat × Std.HashSet Nat
  | 0, _, tried => (none, tried)
  | _ + 1, [], tried => (none, tried)
  | fuel + 1, t :: rest, tried =>
    if p.isAccept t then (some t.place, tried)
    else if tried.contains (p.key t) then explore p text fuel rest tried
    else explore p text fuel (p.follow text t ++ rest) (tried.insert (p.key t))

/-- Enough steps for every thread on a text: each is tried once and leads to at most two more. -/
def stepLimit (p : Program) (text : Array Char) : Nat :=
  2 * (p.states.size + 1) * (text.size + 1) + 2

/-- The first match that begins at `start` or at one of the `more` places after it. -/
def findAt (p : Program) (text : Array Char) (start : Nat) :
    Nat → Std.HashSet Nat → Option Span
  | 0, _ => none
  | more + 1, tried =>
    match p.explore text (p.stepLimit text) [⟨p.start, start⟩] tried with
    | (some stop, _) => some ⟨start, stop⟩
    | (none, tried) => findAt p text (start + 1) more tried

/-- The first match that begins at `start` or later. -/
def find? (p : Program) (text : Array Char) (start : Nat) : Option Span :=
  p.findAt text start (text.size + 1 - start) {}

/-- All matches from `start` on. An empty match is not taken where the match before it ended; the
search then goes on one character later. -/
def spansFrom (p : Program) (text : Array Char) : Nat → Nat → Option Nat → List Span
  | 0, _, _ => []
  | fuel + 1, start, lastStop =>
    match p.find? text start with
    | none => []
    | some s =>
      if s.isEmpty ∧ lastStop = some s.stop then
        match p.find? text (start + 1) with
        | none => []
        | some s => s :: spansFrom p text fuel s.stop (some s.stop)
      else s :: spansFrom p text fuel s.stop (some s.stop)

def spans (p : Program) (text : Array Char) : List Span :=
  p.spansFrom text (2 * text.size + 2) 0 none

def isMatch (p : Program) (text : Array Char) : Bool := (p.find? text 0).isSome

end Program

end PhraseMark.Pattern
