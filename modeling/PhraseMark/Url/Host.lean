import PhraseMark.Url.Domain
import PhraseMark.Url.Error
import PhraseMark.Url.Ipv4
import PhraseMark.Url.Ipv6
import PhraseMark.Url.Percent

/-!
# Hosts

The host of an address is a name or a number. Addresses with a special scheme have domain names
for hosts; in all others a name has no structure.
-/

namespace PhraseMark

/-- The host of an address. -/
inductive Host where
  | name (text : String)
  | ipv4 (address : Nat)
  /-- Eight pieces of two bytes. -/
  | ipv6 (pieces : List Nat)
  deriving DecidableEq, Repr

namespace Host

/-- The host that is written as nothing. -/
def empty : Host := .name ""

def text : Host → String
  | name text => text
  | ipv4 address => Url.Ipv4.text address
  | ipv6 pieces => "[" ++ Url.Ipv6.text pieces ++ "]"

def isEmpty (h : Host) : Bool := h == empty

def ofBrackets (cs : List Char) : Except UrlError Host :=
  match cs.getLast?, Url.Ipv6.ofText? (cs.drop 1).dropLast with
  | some ']', some pieces => .ok (.ipv6 pieces)
  | _, _ => .error .invalidIpv6

/-- Characters that a name without structure must not hold. -/
def isRefused (c : Char) : Bool :=
  ['\x00', '\t', '\n', '\r', ' ', '#', '/', ':', '<', '>', '?', '@', '[', '\\', ']', '^',
    '|'].contains c

/-- The host of an address whose scheme is not special. -/
def ofPlain (cs : List Char) : Except UrlError Host :=
  if cs.head? == some '[' then ofBrackets cs
  else if cs.any isRefused then .error .invalidDomainCharacter
  else .ok (.name (.ofList (Url.percentEncode Url.EncodeSet.controls cs)))

/-- The characters of a domain name after percent decoding, if its bytes are text. -/
def decoded? (cs : List Char) : Option (List Char) :=
  let bytes := Url.percentDecode (cs.flatMap String.utf8EncodeChar)
  (String.fromUTF8? ⟨bytes.toArray⟩).map (·.toList)

def ofDomain (cs : List Char) : Except UrlError Host :=
  if cs.head? == some '[' then ofBrackets cs
  else
    match (decoded? cs).bind Url.Domain.toWritten? with
    | none => .error .invalidInternationalName
    | some [] => .error .emptyHost
    | some domain =>
      if Url.Ipv4.endsInNumber domain then
        match Url.Ipv4.ofHost? domain with
        | some address => .ok (.ipv4 address)
        | none => .error .invalidIpv4
      else .ok (.name (.ofList domain))

end Host

end PhraseMark
