import PhraseMark.Json.Basic
import PhraseMark.Text.Ascii

/-!
# Numbers in JSON texts

How far a written number is looked at: its digits as far as they fit 64 bits, its exponent, and
whether the binary number of 64 bits that it denotes is finite.
-/

namespace PhraseMark.Json

/-- Nearest number with 53 binary digits, a tie going to the even one. -/
def roundBits (n : Nat) : Nat :=
  let size := Nat.log2 n + 1
  if n = 0 ∨ size ≤ 53 then n
  else
    let unit := Nat.pow 2 (size - 53)
    let q := n / unit
    let r := n % unit
    if 2 * r > unit ∨ (2 * r = unit ∧ q % 2 = 1) then (q + 1) * unit else q * unit

/-- Whether `digits * 10 ^ exponent`, both factors and the product rounded to 53 binary digits,
stays finite. -/
def isFinite (digits : Nat) (exponent : Int) : Bool :=
  if digits = 0 then true
  else if exponent < 0 then true
  else if 308 < exponent then false
  else roundBits digits * roundBits (Nat.pow 10 exponent.toNat) <
    (Nat.pow 2 54 - 1) * Nat.pow 2 970

/-- The digits of a number as far as they fit 64 bits, and the power of ten that the digits left
out before the point, or taken in after it, call for. -/
structure Mantissa where
  digits : Nat := 0
  exponent : Int := 0
  /-- Some digit did not fit. -/
  full : Bool := false

namespace Mantissa

/-- Takes in a digit before the point. -/
def pushWhole (m : Mantissa) (d : Nat) : Mantissa :=
  if m.full ∨ Nat.pow 2 64 ≤ m.digits * 10 + d then
    { m with exponent := m.exponent + 1, full := true }
  else { m with digits := m.digits * 10 + d }

/-- Takes in a digit after the point. -/
def pushFraction (m : Mantissa) (d : Nat) : Mantissa :=
  if m.full ∨ Nat.pow 2 64 ≤ m.digits * 10 + d then { m with full := true }
  else { m with digits := m.digits * 10 + d, exponent := m.exponent - 1 }

end Mantissa

/-- The values of the decimal digits a text begins with, and the rest. -/
def spanDigits : List Char → List Nat × List Char
  | [] => ([], [])
  | c :: cs =>
    match Text.digit? c with
    | some d => let (ds, rest) := spanDigits cs; (d :: ds, rest)
    | none => ([], c :: cs)

/-- A number as it is written. -/
structure Numeral where
  negative : Bool
  whole : List Nat
  /-- The digits after a point, if there is one. -/
  fraction : Option (List Nat)
  /-- Sign and digits of an exponent, if there is one. -/
  exponent : Option (Bool × List Nat)

namespace Numeral

def natOfDigits (ds : List Nat) : Nat := ds.foldl (fun n d => n * 10 + d) 0

/-- Reads a point with the digits after it, of which there has to be one. -/
def fraction? : List Char → Option (Option (List Nat) × List Char)
  | '.' :: cs =>
    match spanDigits cs with
    | ([], _) => none
    | (ds, rest) => some (some ds, rest)
  | cs => some (none, cs)

def exponentDigits? (cs : List Char) : Option (Option (Bool × List Nat) × List Char) :=
  let (negative, cs) := match cs with
    | '+' :: cs => (false, cs)
    | '-' :: cs => (true, cs)
    | cs => (false, cs)
  match spanDigits cs with
  | ([], _) => none
  | (ds, rest) => some (some (negative, ds), rest)

/-- Reads an exponent, of which there has to be a digit. -/
def exponent? : List Char → Option (Option (Bool × List Nat) × List Char)
  | 'e' :: cs => exponentDigits? cs
  | 'E' :: cs => exponentDigits? cs
  | cs => some (none, cs)

/-- Reads a minus sign, if there is one. -/
def sign : List Char → Bool × List Char
  | '-' :: cs => (true, cs)
  | cs => (false, cs)

/-- Reads a number: there are no zeros in front of other digits. -/
def read? (cs : List Char) : Option (Numeral × List Char) := do
  let (negative, cs) := sign cs
  match spanDigits cs with
  | ([], _) => none
  | (0 :: _ :: _, _) => none
  | (whole, rest) =>
    let (fraction, rest) ← fraction? rest
    let (exponent, rest) ← exponent? rest
    some ({ negative, whole, fraction, exponent }, rest)

def isWhole (n : Numeral) : Bool := n.fraction.isNone && n.exponent.isNone

/-- Whether the number is in range; an exponent that does not fit 32 bits counts as infinite. -/
def inRange (n : Numeral) : Bool :=
  let m := (n.fraction.getD []).foldl Mantissa.pushFraction
    (n.whole.foldl Mantissa.pushWhole {})
  match n.exponent with
  | none => isFinite m.digits m.exponent
  | some (negative, ds) =>
    let e := natOfDigits ds
    if negative then true
    else if Nat.pow 2 31 ≤ e then m.digits == 0
    else isFinite m.digits (m.exponent + e)

/-- The value of a number. Minus zero is no whole number. -/
def value (n : Numeral) : Json :=
  let v := natOfDigits n.whole
  if !n.isWhole then .fraction
  else if n.negative then
    if v = 0 ∨ Nat.pow 2 63 < v then .fraction else .negative v
  else if v < Nat.pow 2 64 then .natural v
  else .fraction

end Numeral

end PhraseMark.Json
