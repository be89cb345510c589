/-!
# Punycode

Writes a label of a domain name with letters, digits and hyphens only: first its basic
characters, then, in ascending order of the others, the distances between the states of a
decoder that inserts them. Distances are numbers of variable length whose digits have thresholds
that follow a running bias.
-/

namespace PhraseMark.Url.Punycode

/-- The digit of a number below 36: `a` to `z`, then `0` to `9`. -/
def digit (n : Nat) : Char :=
  if n < 26 then Char.ofNat ('a'.toNat + n) else Char.ofNat ('0'.toNat + (n - 26))

def digitValue? (c : Char) : Option Nat :=
  if 'a' ≤ c ∧ c ≤ 'z' then some (c.toNat - 'a'.toNat)
  else if '0' ≤ c ∧ c ≤ '9' then some (c.toNat - '0'.toNat + 26)
  else none

/-- The threshold of the digit at a place; places are counted in steps of 36. -/
def threshold (bias place : Nat) : Nat := max 1 (min 26 (place - bias))

theorem one_le_threshold (bias place : Nat) : 1 ≤ threshold bias place := Nat.le_max_left ..

/-- Divides a distance by 35 until it is at most 455, counting 36 for every time. -/
def scale (delta place : Nat) : Nat × Nat :=
  if 455 < delta then scale (delta / 35) (place + 36) else (delta, place)
termination_by delta
decreasing_by omega

/-- The bias after a distance. `count` is the number of characters so far. -/
def adapt (delta count : Nat) (isFirst : Bool) : Nat :=
  let delta := if isFirst then delta / 700 else delta / 2
  let (delta, place) := scale (delta + delta / count) 0
  place + 36 * delta / (delta + 38)

/-- The digits of a distance, the lowest first. -/
def writeNumber (bias place n : Nat) : List Char :=
  let t := threshold bias place
  if n < t then [digit n]
  else digit (t + (n - t) % (36 - t)) :: writeNumber bias (place + 36) ((n - t) / (36 - t))
termination_by n
decreasing_by
  have h := one_le_threshold bias place
  exact Nat.lt_of_le_of_lt (Nat.div_le_self ..) (by omega)

/-- Reads a distance: its value, and the digits after it. -/
def readNumber? (bias : Nat) : Nat → Nat → Nat → List Char → Option (Nat × List Char)
  | _, _, _, [] => none
  | place, weight, n, c :: cs =>
    match digitValue? c with
    | none => none
    | some d =>
      let t := threshold bias place
      if d < t then some (n + d * weight, cs)
      else readNumber? bias (place + 36) (weight * (36 - t)) (n + d * weight) cs

theorem length_of_readNumber? {bias place weight n value : Nat} {cs rest : List Char}
    (h : readNumber? bias place weight n cs = some (value, rest)) : rest.length < cs.length := by
  induction cs generalizing place weight n with
  | nil => simp [readNumber?] at h
  | cons c cs ih =>
      simp only [readNumber?] at h
      split at h
      · simp at h
      · split at h
        · simp only [Option.some.injEq, Prod.mk.injEq] at h
          simp [h.2]
        · exact Nat.lt_succ_of_lt (ih h)

/-- Where an encoder stands. -/
structure Encoder where
  written : List Char := []
  delta : Nat := 0
  bias : Nat := 72
  /-- The number of characters the decoder has at this point. -/
  count : Nat

/-- Goes over one character while the characters with number `code` are written. -/
def Encoder.step (basic code : Nat) (e : Encoder) (c : Char) : Encoder :=
  if c.toNat < code then { e with delta := e.delta + 1 }
  else if c.toNat = code then
    { written := e.written ++ writeNumber e.bias 36 e.delta
      delta := 0
      bias := adapt e.delta (e.count + 1) (e.count == basic)
      count := e.count + 1 }
  else e

/-- Writes the characters with the given numbers, which are in ascending order; the numbers below
`next` are done. -/
def writeCodes (label : List Char) (basic : Nat) : List Nat → Nat → Encoder → Encoder
  | [], _, e => e
  | code :: codes, next, e =>
    let e := { e with delta := e.delta + (code - next) * (e.count + 1) }
    let e := label.foldl (Encoder.step basic code) e
    writeCodes label basic codes (code + 1) { e with delta := e.delta + 1 }

def isBasic (c : Char) : Bool := c.toNat < 0x80

def encode (label : List Char) : List Char :=
  let basic := label.filter isBasic
  let codes := (((label.filter (! isBasic ·)).map Char.toNat).eraseDups).mergeSort (· ≤ ·)
  let e := writeCodes label basic.length codes 0x80 { count := basic.length }
  basic ++ (if basic.isEmpty then [] else ['-']) ++ e.written

/-- Inserts characters into a label until no digits are left. `code` is the number of the character
that was inserted last, and `place` where the next search begins: zero only before the first. -/
def insertAll (bias code place : Nat) (label digits : List Char) : Option (List Char) :=
  match h : readNumber? bias 36 1 0 digits with
  | none => if digits.isEmpty then some label else none
  | some (delta, rest) =>
    have := length_of_readNumber? h
    let count := label.length + 1
    let next := code + (place + delta) / count
    let index := (place + delta) % count
    if next < 0xD800 ∨ (0xE000 ≤ next ∧ next ≤ 0x10FFFF) then
      insertAll (adapt delta count (place == 0)) next (index + 1)
        (label.insertIdx index (Char.ofNat next)) rest
    else none
termination_by digits.length

/-- The basic characters before the last hyphen, and the digits after it. -/
def split (written : List Char) : List Char × List Char :=
  let digits := (written.reverse.takeWhile (· ≠ '-')).reverse
  let basic := (written.take (written.length - digits.length)).dropLast
  if basic.isEmpty then ([], written) else (basic, digits)

def decode? (written : List Char) : Option (List Char) :=
  let (basic, digits) := split written
  if basic.all isBasic then insertAll 72 0x80 0 basic digits else none

end PhraseMark.Url.Punycode
