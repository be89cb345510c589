/-!
# Refused addresses

Why a text is no address, and how each reason is worded.
-/

namespace PhraseMark

/-- Why an address could not be read. -/
inductive UrlError where
  | relativeWithoutBase
  | relativeToOpaque
  | emptyHost
  | invalidPort
  | invalidIpv4
  | invalidIpv6
  | invalidDomainCharacter
  | invalidInternationalName
  deriving DecidableEq, Repr

def UrlError.message : UrlError → String
  | relativeWithoutBase => "relative URL without a base"
  | relativeToOpaque => "relative URL with a cannot-be-a-base base"
  | emptyHost => "empty host"
  | invalidPort => "invalid port number"
  | invalidIpv4 => "invalid IPv4 address"
  | invalidIpv6 => "invalid IPv6 address"
  | invalidDomainCharacter => "invalid domain character"
  | invalidInternationalName => "invalid international domain name"

end PhraseMark
