import PhraseMark.Text.Ascii

/-!
# Percent encoding

Characters that must not stand in a part of an address are written as a percent sign and two
hexadecimal digits for each of their bytes. Each part has its own set of such characters;
controls and characters outside the basic Latin range are in all of them.
-/

namespace PhraseMark.Url

/-- A set of characters that are written by their bytes. -/
abbrev EncodeSet := Char → Bool

namespace EncodeSet

/-- Control characters and all beyond the basic Latin range. -/
def controls : EncodeSet := fun c => c.toNat < 0x20 || 0x7F ≤ c.toNat

def fragment : EncodeSet := fun c => controls c || [' ', '"', '<', '>', '\x60'].contains c

def query : EncodeSet := fun c => controls c || [' ', '"', '#', '<', '>'].contains c

/-- In addresses with a special scheme an apostrophe is encoded too. -/
def specialQuery : EncodeSet := fun c => query c || c == '\''

def path : EncodeSet := fun c => fragment c || ['#', '?', '\x7b', '\x7d'].contains c

def credentials : EncodeSet := fun c =>
  path c || ['/', ':', ';', '=', '@', '[', '\\', ']', '^', '|'].contains c

end EncodeSet

def percentByte (b : UInt8) : List Char :=
  ['%', Text.upperHexDigit (b.toNat / 16), Text.upperHexDigit (b.toNat % 16)]

/-- A character as it stands in a part of an address. -/
def encodeChar (set : EncodeSet) (c : Char) : List Char :=
  if set c then (String.utf8EncodeChar c).flatMap percentByte else [c]

def percentEncode (set : EncodeSet) (cs : List Char) : List Char := cs.flatMap (encodeChar set)

def hexByte? (high low : UInt8) : Option UInt8 := do
  let high ← Text.hexDigit? (Char.ofNat high.toNat)
  let low ← Text.hexDigit? (Char.ofNat low.toNat)
  return (high * 16 + low).toUInt8

/-- Replaces every percent sign before two hexadecimal digits, and these, by their byte. -/
def percentDecode : List UInt8 → List UInt8
  | 0x25 :: high :: low :: rest =>
    match hexByte? high low with
    | some b => b :: percentDecode rest
    | none => 0x25 :: percentDecode (high :: low :: rest)
  | b :: rest => b :: percentDecode rest
  | [] => []

end PhraseMark.Url
