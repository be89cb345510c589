/-!
# JSON values

Values as they are read from a text. Whole numbers keep their value where it fits 64 bits; of
all other numbers only their presence matters here. Objects keep their members in order.
-/

namespace PhraseMark

/-- A JSON value. -/
inductive Json where
  | null
  | bool (b : Bool)
  /-- A whole number below `2 ^ 64`, written without sign, point or exponent. -/
  | natural (n : Nat)
  /-- The number `-n`, with `n` from 1 to `2 ^ 63`, written without point or exponent. -/
  | negative (n : Nat)
  /-- Any other number. -/
  | fraction
  | string (s : String)
  | array (items : List Json)
  | object (members : List (String × Json))
  deriving Inhabited, Repr

namespace Json

/-- The value of the last member with a name; only objects have members. -/
def get? (j : Json) (name : String) : Option Json :=
  match j with
  | object members => (members.reverse.find? (·.1 == name)).map (·.2)
  | _ => none

def isFraction : Json → Bool
  | fraction => true
  | _ => false

def nat? : Json → Option Nat
  | natural n => some n
  | _ => none

def str? : Json → Option String
  | string s => some s
  | _ => none

def bool? : Json → Option Bool
  | bool b => some b
  | _ => none

def items? : Json → Option (List Json)
  | array items => some items
  | _ => none

/-- A whole number that is below a bound. -/
def below? (bound : Nat) (j : Json) : Option Nat := j.nat?.filter (· < bound)

/-- All items of an array read by one reader; one refused item refuses the array. -/
def listOf? {α : Type} (read : Json → Option α) (j : Json) : Option (List α) :=
  match j with
  | array items => items.mapM read
  | _ => none

/-- `null` is read as nothing. -/
def optional? {α : Type} (read : Json → Option α) : Json → Option (Option α)
  | null => some none
  | j => (read j).map some

end Json

end PhraseMark
