import PhraseMark.Pattern.Bracket
import PhraseMark.Pattern.AlphabeticData

/-!
# Reading patterns

Reads the text of a pattern as an expression, with flags resolved on the way. Groups that are
open are kept on a stack, so that one loop over the text reads everything.
-/

namespace PhraseMark.Pattern

/-- A part of a pattern. Its height is the number of constructs inside one another in it; a part
that only sets flags must not be repeated. -/
structure Part where
  expr : Expr
  height : Nat
  setsFlags : Bool := false

/-- Parts that follow one another as one part, given last part first. -/
def Part.sequence (parts : List Part) : Part :=
  match parts with
  | [] => { expr := .empty, height := 0 }
  | [p] => p
  | ps =>
    { expr := .seq ((ps.reverse.filter (! ·.setsFlags)).map (·.expr))
      height := (ps.map (·.height)).foldl max 0 + 1 }

/-- The inside of a group: the alternatives that are complete and the parts of the one being read,
both last first. -/
structure Inside where
  alternatives : List Part := []
  parts : List Part := []

namespace Inside

def push (i : Inside) (p : Part) : Inside := { i with parts := p :: i.parts }

/-- A bar begins a new alternative. -/
def bar (i : Inside) : Inside := { alternatives := .sequence i.parts :: i.alternatives }

def toPart (i : Inside) : Part :=
  match i.alternatives with
  | [] => .sequence i.parts
  | alternatives =>
    let all := Part.sequence i.parts :: alternatives
    { expr := .alternatives (all.reverse.map (·.expr))
      height := (all.map (·.height)).foldl max 0 + 1 }

end Inside

/-- A group that is open: what was around it, and the flags to go back to. -/
structure OpenGroup where
  outside : Inside
  flags : Flags
  numbered : Bool

/-- The state of reading a pattern. -/
structure Reading where
  rest : List Char
  flags : Flags := {}
  inside : Inside := {}
  groups : List OpenGroup := []
  names : List (List Char) := []

namespace Reading

/-- How far constructs may stand inside one another. -/
def maxHeight : Nat := 250

def isNameStart (c : Char) : Bool := c == '_' || isAlphabetic c

def isNameRest (c : Char) : Bool :=
  c == '_' || c == '.' || c == '[' || c == ']' || isAlphabetic c || isNumeric c

def groupName? (cs : List Char) : Option (List Char × List Char) :=
  match cs.takeWhile (· ≠ '>'), cs.dropWhile (· ≠ '>') with
  | first :: more, '>' :: rest =>
    if isNameStart first && more.all isNameRest then some (first :: more, rest) else none
  | _, _ => none

/-- Letters of flags being read: the flags so far, the letters seen, whether they are being
switched off, and whether a letter came last. -/
structure FlagLetters where
  flags : Flags
  seen : List Char := []
  off : Bool := false
  afterHyphen : Bool := false

/-- Reads letters of flags up to a colon or a closing parenthesis. -/
def flagLetters? (l : FlagLetters) : List Char → Option (FlagLetters × List Char)
  | [] => none
  | c :: cs =>
    if c = ':' ∨ c = ')' then if l.afterHyphen then none else some (l, c :: cs)
    else if c = '-' then
      if l.off then none else flagLetters? { l with off := true, afterHyphen := true } cs
    else if l.seen.contains c then none
    else
      match l.flags.set? c (!l.off) with
      | none => none
      | some flags =>
        flagLetters? { l with flags, seen := c :: l.seen, afterHyphen := false } cs

/-- Whether an inside look at other places is asked for, which patterns do not have. -/
def isLookAround (cs : List Char) : Bool :=
  ["?=", "?!", "?<=", "?<!"].any (fun p => p.toList.isPrefixOf cs)

def openWith (r : Reading) (numbered : Bool) (flags : Flags) (rest : List Char) : Reading :=
  { r with
    rest, flags
    inside := {}
    groups := { outside := r.inside, flags := r.flags, numbered } :: r.groups }

/-- Reads what follows an opening parenthesis: a group with or without a name, or flags. -/
def openGroup? (r : Reading) (cs : List Char) : Option Reading :=
  let cs := Escape.skipSpace r.flags cs
  let named (cs : List Char) : Option Reading := do
    let (name, rest) ← groupName? cs
    if r.names.contains name then none
    else some { r.openWith true r.flags rest with names := name :: r.names }
  if isLookAround cs then none
  else
    match cs with
    | '?' :: 'P' :: '<' :: cs => named cs
    | '?' :: '<' :: cs => named cs
    | '?' :: cs => do
      let (l, rest) ← flagLetters? { flags := r.flags } cs
      match rest with
      | ')' :: rest =>
        if l.seen.isEmpty && !l.off then none
        else
          some
            { r with
              rest
              flags := l.flags
              inside := r.inside.push { expr := .empty, height := 0, setsFlags := true } }
      | _ :: rest => some (r.openWith false l.flags rest)
      | [] => none
    | cs => some (r.openWith true r.flags cs)

def closeGroup? (r : Reading) (rest : List Char) : Option Reading :=
  match r.groups with
  | [] => none
  | g :: groups =>
    let p := r.inside.toPart
    let part : Part :=
      { expr := if g.numbered then .group p.expr else p.expr, height := p.height + 1 }
    some { r with rest, flags := g.flags, inside := g.outside.push part, groups }

/-- Repeats the last part; a question mark after the operator prefers fewer times. -/
def repeatLast? (r : Reading) (least : Nat) (most : Option Nat) (greedy : Bool)
    (rest : List Char) : Option Reading :=
  match r.inside.parts with
  | [] => none
  | p :: parts =>
    if p.setsFlags then none
    else
      let greedy := greedy != r.flags.swapGreed
      let part : Part :=
        { expr := .repeated p.expr least most greedy, height := p.height + 1 }
      some { r with rest, inside := { r.inside with parts := part :: parts } }

/-- Whether a question mark follows, and the rest after it. -/
def preference (cs : List Char) : Bool × List Char :=
  match cs with
  | '?' :: rest => (false, rest)
  | rest => (true, rest)

/-- Reads a decimal number with blanks around it; it has to fit 32 bits. -/
def count? (f : Flags) (cs : List Char) : Option Nat × List Char :=
  let (digits, rest) := digitsOf f cs.length (cs.dropWhile Text.isBlank)
  let rest := (Escape.skipSpace f rest).dropWhile Text.isBlank
  (if digits.isEmpty then none else some (digits.foldl (fun n d => n * 10 + d) 0),
    Escape.skipSpace f rest)
where
  digitsOf (f : Flags) : Nat → List Char → List Nat × List Char
    | 0, cs => ([], cs)
    | _ + 1, [] => ([], [])
    | fuel + 1, c :: cs =>
      match Text.digit? c with
      | some d =>
        let (ds, rest) := digitsOf f fuel (Escape.skipSpace f cs)
        (d :: ds, rest)
      | none => ([], c :: cs)

def fitting? (n : Option Nat) : Option Nat := n.filter (· < Nat.pow 2 32)

/-- Reads a counted repetition after its opening brace. -/
def counted? (r : Reading) (cs : List Char) : Option Reading :=
  let f := r.flags
  let finish (least : Nat) (most : Option Nat) (rest : List Char) : Option Reading :=
    let (greedy, rest) := preference (Escape.skipSpace f rest)
    if most.all (least ≤ ·) then r.repeatLast? least most greedy rest else none
  let (first, rest) := count? f (Escape.skipSpace f cs)
  match rest with
  | '\x7d' :: rest => do
    let n ← fitting? first
    finish n (some n) rest
  | ',' :: rest =>
    match Escape.skipSpace f rest with
    | '\x7d' :: rest => do finish (← fitting? first) none rest
    | rest =>
      match count? f rest with
      | (second, '\x7d' :: rest) => do finish (← fitting? first) (some (← fitting? second)) rest
      | _ => none
  | _ => none

def leaf (r : Reading) (e : Expr) (rest : List Char) : Reading :=
  { r with rest, inside := r.inside.push { expr := e, height := 0 } }

def step? (r : Reading) (c : Char) (cs : List Char) : Option Reading :=
  let f := r.flags
  match c with
  | '(' => r.openGroup? cs
  | ')' => r.closeGroup? cs
  | '|' => some { r with rest := cs, inside := r.inside.bar }
  | '[' => do
    let (m, rest) ← Bracket.class? f cs
    return { r with rest, inside := r.inside.push { expr := .set m.set, height := m.height } }
  | '?' => let (greedy, rest) := preference cs; r.repeatLast? 0 (some 1) greedy rest
  | '*' => let (greedy, rest) := preference cs; r.repeatLast? 0 none greedy rest
  | '+' => let (greedy, rest) := preference cs; r.repeatLast? 1 none greedy rest
  | '\x7b' => r.counted? cs
  | '\\' => do
    let (a, rest) ← Escape.read? f cs
    return r.leaf (← a.expr? f) rest
  | '.' => do return r.leaf (.set (← f.dot?)) cs
  | '^' => some (r.leaf (.look f.lineStart) cs)
  | '$' => some (r.leaf (.look f.lineEnd) cs)
  | c => some (r.leaf (.set (f.char c)) cs)

/-- Reads everything that is left. Each step takes at least one character. -/
def run? : Nat → Reading → Option Part
  | 0, _ => none
  | fuel + 1, r =>
    match Escape.skipSpace r.flags r.rest with
    | [] => if r.groups.isEmpty then some r.inside.toPart else none
    | c :: cs =>
      match r.step? c cs with
      | some r => run? fuel r
      | none => none

end Reading

/-- Reads a pattern. Constructs must not stand inside one another too far. -/
def Expr.ofText? (pattern : List Char) : Option Expr :=
  match Reading.run? (pattern.length + 1) { rest := pattern } with
  | some p => if p.height ≤ Reading.maxHeight then some p.expr else none
  | none => none

end PhraseMark.Pattern
