import PhraseMark.Json.Number

/-!
# Reading JSON

A reader looks at a text through a shape, which says which members of an object matter. What
matters has to be sound: strings that denote characters, numbers in range, brackets nested at
most 127 deep. What does not matter only has to be well-formed and is left out of the value.
-/

namespace PhraseMark.Json

/-- Which parts of a text a reader looks at. -/
inductive Shape where
  /-- Everything. -/
  | whole
  /-- The members with these names, or, of an array, the items in the order of the names. -/
  | record (fields : List (String × Shape))
  deriving Inhabited

namespace Reader

/-- The brackets that may be open at once. -/
def maxDepth : Nat := 127

/-- Space, tab, line feed and carriage return. -/
def isGap (c : Char) : Bool := c == ' ' || c == '\t' || c == '\n' || c == '\r'

def skipGap (cs : List Char) : List Char := cs.dropWhile isGap

def hexQuad? (a b c d : Char) : Option Nat := do
  let a ← Text.hexDigit? a
  let b ← Text.hexDigit? b
  let c ← Text.hexDigit? c
  let d ← Text.hexDigit? d
  return ((a * 16 + b) * 16 + c) * 16 + d

def simpleEscape? : Char → Option Char
  | '"' => some '"'
  | '\\' => some '\\'
  | '/' => some '/'
  | 'b' => some '\x08'
  | 'f' => some '\x0c'
  | 'n' => some '\n'
  | 'r' => some '\r'
  | 't' => some '\t'
  | _ => none

def ofSurrogates (high low : Nat) : Char :=
  .ofNat (0x10000 + (high - 0xD800) * 0x400 + (low - 0xDC00))

/-- Reads a string after its opening quote, up to its closing quote. `read` holds what was read,
last character first. -/
def readString (read : List Char) : List Char → Option (String × List Char)
  | [] => none
  | '"' :: cs => some (.ofList read.reverse, cs)
  | '\\' :: 'u' :: a :: b :: c :: d :: cs =>
    match hexQuad? a b c d with
    | none => none
    | some n =>
      if n < 0xD800 ∨ 0xE000 ≤ n then readString (.ofNat n :: read) cs
      else if 0xDC00 ≤ n then none
      else
        match cs with
        | '\\' :: 'u' :: a :: b :: c :: d :: cs =>
          match hexQuad? a b c d with
          | none => none
          | some m =>
            if 0xDC00 ≤ m ∧ m < 0xE000 then readString (ofSurrogates n m :: read) cs else none
        | _ => none
  | '\\' :: c :: cs =>
    match simpleEscape? c with
    | some d => readString (d :: read) cs
    | none => none
  | c :: cs => if c.toNat < 0x20 then none else readString (c :: read) cs
termination_by cs => cs.length
decreasing_by all_goals simp_wf <;> omega

/-- Skips a string after its opening quote. Escapes are only counted off. -/
def skipString : List Char → Option (List Char)
  | [] => none
  | '"' :: cs => some cs
  | '\\' :: 'u' :: a :: b :: c :: d :: cs =>
    if (hexQuad? a b c d).isSome then skipString cs else none
  | '\\' :: c :: cs => if (simpleEscape? c).isSome then skipString cs else none
  | c :: cs => if c.toNat < 0x20 then none else skipString cs
termination_by cs => cs.length
decreasing_by all_goals simp_wf <;> omega

def expect? (word : String) (cs : List Char) : Option (List Char) :=
  if word.toList.isPrefixOf cs then some (cs.drop word.length) else none

mutual

def skipValue : Nat → List Char → Option (List Char)
  | 0, _ => none
  | fuel + 1, cs =>
    match skipGap cs with
    | 'n' :: cs => expect? "ull" cs
    | 't' :: cs => expect? "rue" cs
    | 'f' :: cs => expect? "alse" cs
    | '"' :: cs => skipString cs
    | '[' :: cs =>
      match skipGap cs with
      | ']' :: cs => some cs
      | cs => skipItems fuel cs
    | '{' :: cs =>
      match skipGap cs with
      | '}' :: cs => some cs
      | cs => skipMembers fuel cs
    | cs => (Numeral.read? cs).map (·.2)

/-- Skips the items of an array and its closing bracket. -/
def skipItems : Nat → List Char → Option (List Char)
  | 0, _ => none
  | fuel + 1, cs => do
    match skipGap (← skipValue fuel cs) with
    | ',' :: cs => skipItems fuel cs
    | ']' :: cs => some cs
    | _ => none

/-- Skips the members of an object and its closing bracket. -/
def skipMembers : Nat → List Char → Option (List Char)
  | 0, _ => none
  | fuel + 1, cs =>
    match skipGap cs with
    | '"' :: cs => do
      match skipGap (← skipString cs) with
      | ':' :: cs =>
        match skipGap (← skipValue fuel cs) with
        | ',' :: cs => skipMembers fuel cs
        | '}' :: cs => some cs
        | _ => none
      | _ => none
    | _ => none

end

/-- The shape of an item and the shapes of the items after it; none where no item may follow. -/
def itemShape? : Option (List Shape) → Option (Shape × Option (List Shape))
  | none => some (.whole, none)
  | some [] => none
  | some (s :: rest) => some (s, some rest)

/-- The shapes of the items of an array; `none` stands for any number of whole items. -/
def Shape.items : Shape → Option (List Shape)
  | .whole => none
  | .record fields => some (fields.map (·.2))

def Shape.member? (name : String) : Shape → Option Shape
  | .whole => some .whole
  | .record fields => (fields.find? (·.1 == name)).map (·.2)

mutual

/-- Reads a value with at most `depth` brackets open at once. -/
def readValue : Nat → Nat → Shape → List Char → Option (Json × List Char)
  | 0, _, _, _ => none
  | fuel + 1, depth, shape, cs =>
    match skipGap cs with
    | 'n' :: cs => (expect? "ull" cs).map (.null, ·)
    | 't' :: cs => (expect? "rue" cs).map (.bool true, ·)
    | 'f' :: cs => (expect? "alse" cs).map (.bool false, ·)
    | '"' :: cs => (readString [] cs).map (fun r => (.string r.1, r.2))
    | '[' :: cs =>
      match depth with
      | 0 => none
      | depth + 1 =>
        match skipGap cs with
        | ']' :: cs => some (.array [], cs)
        | cs => (readItems fuel depth (Shape.items shape) cs).map (fun r => (.array r.1, r.2))
    | '{' :: cs =>
      match depth with
      | 0 => none
      | depth + 1 =>
        match skipGap cs with
        | '}' :: cs => some (.object [], cs)
        | cs => (readMembers fuel depth shape cs).map (fun r => (.object r.1, r.2))
    | cs => do
      let (n, rest) ← Numeral.read? cs
      if n.isWhole && !n.value.isFraction then some (n.value, rest)
      else if n.inRange then some (.fraction, rest)
      else none

/-- Reads the items of an array and its closing bracket. -/
def readItems : Nat → Nat → Option (List Shape) → List Char → Option (List Json × List Char)
  | 0, _, _, _ => none
  | fuel + 1, depth, shapes, cs => do
    let (shape, shapes) ← itemShape? shapes
    let (item, rest) ← readValue fuel depth shape cs
    match skipGap rest with
    | ',' :: cs => (readItems fuel depth shapes cs).map (fun r => (item :: r.1, r.2))
    | ']' :: cs => some ([item], cs)
    | _ => none

/-- Reads the members of an object and its closing bracket. -/
def readMembers : Nat → Nat → Shape → List Char → Option (List (String × Json) × List Char)
  | 0, _, _, _ => none
  | fuel + 1, depth, shape, cs =>
    match skipGap cs with
    | '"' :: cs => do
      let (name, rest) ← readString [] cs
      match skipGap rest with
      | ':' :: cs =>
        let (found, rest) ←
          match Shape.member? name shape with
          | some inner => (readValue fuel depth inner cs).map (fun r => ([(name, r.1)], r.2))
          | none => (skipValue fuel cs).map (fun rest => ([], rest))
        match skipGap rest with
        | ',' :: cs => (readMembers fuel depth shape cs).map (fun r => (found ++ r.1, r.2))
        | '}' :: cs => some (found, cs)
        | _ => none
      | _ => none
    | _ => none

end

end Reader

/-- The value of a text, as far as the shape looks at it. -/
def ofText? (shape : Shape) (text : String) : Option Json :=
  let cs := text.toList
  match Reader.readValue (2 * (cs.length + 1)) Reader.maxDepth shape cs with
  | some (j, rest) => if (Reader.skipGap rest).isEmpty then some j else none
  | none => none

/-- The value of a text that is looked at as a whole. -/
def parse? (text : String) : Option Json := ofText? .whole text

end PhraseMark.Json
