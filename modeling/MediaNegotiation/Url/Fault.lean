/-!
# Faults of URLs

Why a text is not an absolute URL, in the words of the package `url`.
-/

namespace MediaNegotiation

/-- Why a text is not an absolute URL. -/
inductive UrlFault
  | relativeWithoutBase
  | emptyHost
  /-- A host that is to be a host name and is none. -/
  | invalidName
  /-- A character that a host of an unknown scheme may not have. -/
  | invalidHostCharacter
  | invalidIpv4
  | invalidIpv6
  | invalidNumber
  deriving DecidableEq, Repr

/-- The wording of a fault. -/
def UrlFault.message : UrlFault → String
  | .relativeWithoutBase => "relative URL without a base"
  | .emptyHost => "empty host"
  | .invalidName => "invalid international domain name"
  | .invalidHostCharacter => "invalid domain character"
  | .invalidIpv4 => "invalid IPv4 address"
  | .invalidIpv6 => "invalid IPv6 address"
  | .invalidNumber => "invalid port number"

end MediaNegotiation
