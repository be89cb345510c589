import PhraseMark.Text.Ascii

/-!
# Decimal numbers as text

The sign of a number written in decimal notation, judged after rounding to a binary number of
64 bits: a positive number below half of the smallest such number counts as zero.
-/

namespace PhraseMark.Text

/-- A number as written: `digits * 10 ^ exponent` with a sign, or one of the two words that are
no finite number. -/
inductive Decimal where
  | finite (negative : Bool) (digits : Nat) (exponent : Int)
  | infinity (negative : Bool)
  | nan
  deriving DecidableEq, Repr

namespace Decimal

/-- Reads decimal digits: their value, their number and the rest of the text. -/
def digits (value count : Nat) : List Char → Nat × Nat × List Char
  | [] => (value, count, [])
  | c :: cs =>
    match digit? c with
    | some d => digits (value * 10 + d) (count + 1) cs
    | none => (value, count, c :: cs)

/-- Reads an optional sign; true stands for a minus. -/
def sign : List Char → Bool × List Char
  | '-' :: cs => (true, cs)
  | '+' :: cs => (false, cs)
  | cs => (false, cs)

/-- Reads an exponent part up to the end of the text. -/
def exponent? : List Char → Option Int
  | [] => some 0
  | c :: cs =>
    if c = 'e' ∨ c = 'E' then
      let (negative, cs) := sign cs
      match digits 0 0 cs with
      | (value, count, []) =>
        if count = 0 then none else some (if negative then - (value : Int) else value)
      | _ => none
    else none

def unsigned? (negative : Bool) (cs : List Char) : Option Decimal :=
  let (whole, wholeCount, rest) := digits 0 0 cs
  let (value, fractionCount, rest) : Nat × Nat × List Char :=
    match rest with
    | '.' :: rest => digits whole 0 rest
    | rest => (whole, 0, rest)
  if wholeCount + fractionCount = 0 then none
  else
    match exponent? rest with
    | some e => some (.finite negative value (e - fractionCount))
    | none => none

/-- Reads a whole text as a number, or as `inf`, `infinity` or `nan` in any case. -/
def ofText? (s : String) : Option Decimal :=
  let (negative, cs) := sign s.toList
  let word := asciiLower (.ofList cs)
  if word == "inf" || word == "infinity" then some (.infinity negative)
  else if word == "nan" then some .nan
  else unsigned? negative cs

/-- Whether `n * 10 ^ e` is at most `2 ^ (-1075)`, so that it rounds to zero. Numbers far from
that bound are told by their number of digits. -/
def vanishes (n : Nat) (e : Int) : Bool :=
  if n = 0 then true
  else
    let size : Int := (Nat.log2 n : Int) / 4 + 1
    if 0 ≤ e then false
    else if e + size * 2 < -400 then true
    else if -300 < e then false
    else n * Nat.pow 2 1075 ≤ Nat.pow 10 e.natAbs

/-- Whether the number, rounded to 64 bits, is zero or less. -/
def isNonPositive : Decimal → Bool
  | finite negative n e => negative || vanishes n e
  | infinity negative => negative
  | nan => false

end Decimal

end PhraseMark.Text
