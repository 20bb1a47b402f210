/-!
# Faults of URLs
-/

namespace Retrace.Url

/-- Why a text is not a URL. -/
inductive Fault where
  /-- A special URL without a host, or a user or a port without a host. -/
  | emptyHost
  /-- A host that is no domain name. -/
  | badDomain
  /-- A port that is no number of 16 bits. -/
  | badPort
  /-- A host of numbers that is no IPv4 address. -/
  | badIpv4
  /-- A host in brackets that is no IPv6 address. -/
  | badIpv6
  /-- A host of a scheme of its own with a character that no host has. -/
  | badHostCharacter
  /-- A relative reference without a URL to see it from. -/
  | relativeWithoutBase
  /-- A relative reference seen from a URL whose path is opaque. -/
  | relativeToOpaque
  deriving Repr, DecidableEq

/-- What a message says of a fault. -/
def Fault.message : Fault → String
  | .emptyHost => "empty host"
  | .badDomain => "invalid international domain name"
  | .badPort => "invalid port number"
  | .badIpv4 => "invalid IPv4 address"
  | .badIpv6 => "invalid IPv6 address"
  | .badHostCharacter => "invalid domain character"
  | .relativeWithoutBase => "relative URL without a base"
  | .relativeToOpaque => "relative URL with a cannot-be-a-base base"

end Retrace.Url
