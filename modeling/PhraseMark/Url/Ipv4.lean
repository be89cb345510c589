import PhraseMark.Text.Ascii

/-!
# Numeric hosts

A host whose last part is a number is an address of four bytes. It may be written with fewer
parts, the last of which then stands for several bytes, and its parts may be octal or
hexadecimal.
-/

namespace PhraseMark.Url.Ipv4

/-- The parts between points; a point at the end is left out. -/
def parts (host : List Char) : List (List Char) :=
  let all := host.splitOn '.'
  if all.getLast? == some [] then all.dropLast else all

def number? (base : Nat) (digits : List Char) : Option Nat :=
  digits.foldlM (fun n c => do
    let d ← Text.hexDigit? c
    if d < base then some (n * base + d) else none) 0

/-- The value of a part: hexadecimal after `0x`, octal after another zero, else decimal. -/
def part? : List Char → Option Nat
  | [] => none
  | '0' :: 'x' :: digits => number? 16 digits
  | '0' :: 'X' :: digits => number? 16 digits
  | '0' :: d :: digits => number? 8 (d :: digits)
  | digits => number? 10 digits

/-- Whether the last part of a host is a number, or at least has digits only. -/
def endsInNumber (host : List Char) : Bool :=
  match (parts host).getLast? with
  | none => false
  | some [] => false
  | some last => last.all (·.isDigit) || (part? last).isSome

/-- The number that bytes denote, the first of them the highest. -/
def ofBytes (bytes : List Nat) : Nat := bytes.foldl (fun n b => n * 256 + b) 0

/-- The address that a host denotes. The last part fills the bytes that the others leave. -/
def ofHost? (host : List Char) : Option Nat := do
  let numbers ← (parts host).mapM part?
  let last ← numbers.getLast?
  let bytes := numbers.dropLast
  let room := Nat.pow 256 (4 - bytes.length)
  if numbers.length ≤ 4 ∧ last < room ∧ bytes.all (· < 256) then
    some (ofBytes bytes * room + last)
  else none

/-- The four bytes of an address with points between them. -/
def text (address : Nat) : String :=
  ".".intercalate ([16777216, 65536, 256, 1].map (fun unit => Nat.repr (address / unit % 256)))

end PhraseMark.Url.Ipv4
