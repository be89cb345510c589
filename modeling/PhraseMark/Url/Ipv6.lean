import PhraseMark.Text.Ascii

/-!
# Hosts in brackets

An address of eight pieces of two bytes, written in hexadecimal digits. One run of zeros may be
left out, and the last two pieces may be written as four decimal numbers.
-/

namespace PhraseMark.Url.Ipv6

/-- The pieces read so far, and the place of the gap that stands for zeros. -/
structure Draft where
  pieces : List Nat := []
  gap : Option Nat := none
  deriving DecidableEq, Repr

namespace Draft

def push (d : Draft) (piece : Nat) : Draft := { d with pieces := d.pieces ++ [piece] }

/-- A gap stands for at least one zero. -/
def pushGap (d : Draft) : Draft :=
  { pieces := d.pieces ++ [0], gap := some (d.pieces.length + 1) }

def complete? (d : Draft) : Option (List Nat) :=
  match d.gap with
  | some place =>
    some (d.pieces.take place ++ List.replicate (8 - d.pieces.length) 0 ++ d.pieces.drop place)
  | none => if d.pieces.length = 8 then some d.pieces else none

end Draft

def isHexDigit (c : Char) : Bool := (Text.hexDigit? c).isSome

def hexNumber (digits : List Char) : Nat :=
  digits.foldl (fun n c => n * 16 + (Text.hexDigit? c).getD 0) 0

/-- A decimal number below 256 without needless zeros. -/
def decimalByte? (digits : List Char) : Option Nat :=
  if digits.isEmpty || !digits.all (·.isDigit) || (digits.head? == some '0' && digits != ['0']) then
    none
  else
    let n := digits.foldl (fun n c => n * 10 + (Text.digit? c).getD 0) 0
    if n < 256 then some n else none

def decimalPieces? (cs : List Char) : Option (List Nat) := do
  match ← (cs.splitOn '.').mapM decimalByte? with
  | [a, b, c, d] => some [a * 256 + b, c * 256 + d]
  | _ => none

def readPieces (d : Draft) : List Char → Option Draft
  | [] => some d
  | ':' :: rest =>
    if d.pieces.length = 8 ∨ d.gap.isSome then none else readPieces d.pushGap rest
  | c :: cs =>
    if d.pieces.length = 8 then none
    else
      let digits := ((c :: cs).take 4).takeWhile isHexDigit
      match digits, (c :: cs).drop digits.length with
      | [], _ => none
      | _, [] => some (d.push (hexNumber digits))
      | _, '.' :: _ =>
        if 6 < d.pieces.length then none
        else (decimalPieces? (c :: cs)).map (fun ps => { d with pieces := d.pieces ++ ps })
      | _, [':'] => none
      | _ :: digits, ':' :: _ =>
        readPieces (d.push (hexNumber (c :: digits))) (cs.drop (digits.length + 1))
      | _, _ => none
termination_by cs => cs.length
decreasing_by
  · simp
  · simp only [List.length_drop, List.length_cons]
    omega

def ofText? (cs : List Char) : Option (List Nat) :=
  match cs with
  | ':' :: ':' :: rest => (readPieces { pieces := [0], gap := some 1 } rest).bind (·.complete?)
  | ':' :: _ => none
  | [_] => none
  | _ => (readPieces {} cs).bind (·.complete?)

/-- The lengths of the runs of zeros from each place on. -/
def zeroRuns : List Nat → List Nat
  | [] => []
  | p :: ps => (if p = 0 then 1 + (zeroRuns ps).headD 0 else 0) :: zeroRuns ps

/-- The place and length of the longest run of two zeros or more, the first of several. -/
def longestRun? (pieces : List Nat) : Option (Nat × Nat) :=
  (zeroRuns pieces).zipIdx.foldl
    (fun best r =>
      if 2 ≤ r.1 ∧ best.all (fun (b : Nat × Nat) => b.2 < r.1) then some (r.2, r.1) else best)
    none

def pieceText (p : Nat) : String := .ofList (Nat.toDigits 16 p)

def piecesText (ps : List Nat) : String := ":".intercalate (ps.map pieceText)

/-- The pieces with colons between them; the longest run of zeros is left out. -/
def text (pieces : List Nat) : String :=
  match longestRun? pieces with
  | some (place, length) =>
    piecesText (pieces.take place) ++ "::" ++ piecesText (pieces.drop (place + length))
  | none => piecesText pieces

end PhraseMark.Url.Ipv6
