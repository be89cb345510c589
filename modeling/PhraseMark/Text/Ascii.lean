/-!
# Letters of the basic Latin range

Tag names and the words of inline style are compared without regard to the case of the
letters `a` to `z`. All other characters stand for themselves.
-/

namespace PhraseMark.Text

/-- The letters `A` to `Z` become small, all else stays. -/
def asciiLower (s : String) : String := s.map Char.toLower

/-- The letters `a` to `z` become capital, all else stays. -/
def asciiUpper (s : String) : String := s.map Char.toUpper

/-- Equality up to the case of the letters `a` to `z`. -/
def eqIgnoringCase (s t : String) : Bool := asciiLower s == asciiLower t

theorem eqIgnoringCase_iff {s t : String} :
    eqIgnoringCase s t = true ↔ asciiLower s = asciiLower t := by
  simp [eqIgnoringCase]

def hexDigit? (c : Char) : Option Nat :=
  if '0' ≤ c ∧ c ≤ '9' then some (c.toNat - '0'.toNat)
  else if 'a' ≤ c ∧ c ≤ 'f' then some (c.toNat - 'a'.toNat + 10)
  else if 'A' ≤ c ∧ c ≤ 'F' then some (c.toNat - 'A'.toNat + 10)
  else none

/-- The capital hexadecimal digit of a number below sixteen. -/
def upperHexDigit (n : Nat) : Char :=
  if n < 10 then Char.ofNat ('0'.toNat + n) else Char.ofNat ('A'.toNat + (n - 10))

/-- The small hexadecimal digit of a number below sixteen. -/
def lowerHexDigit (n : Nat) : Char :=
  if n < 10 then Char.ofNat ('0'.toNat + n) else Char.ofNat ('a'.toNat + (n - 10))

def digit? (c : Char) : Option Nat :=
  if '0' ≤ c ∧ c ≤ '9' then some (c.toNat - '0'.toNat) else none

end PhraseMark.Text
