/-!
# What can be wrong with an address
-/

namespace ChatLink.Url

/-- Why a text is no address. -/
inductive Fault where
  /-- There is no scheme in front. -/
  | relative
  | emptyHost
  | port
  | ipv4
  | ipv6
  /-- The host name holds a forbidden character or a bad label. -/
  | domain
  /-- The host of an unknown kind of address holds a forbidden character. -/
  | domainCharacter
  deriving DecidableEq, Repr

/-- The sentence for a fault. -/
def Fault.message : Fault → String
  | relative => "relative URL without a base"
  | emptyHost => "empty host"
  | port => "invalid port number"
  | ipv4 => "invalid IPv4 address"
  | ipv6 => "invalid IPv6 address"
  | domain => "invalid international domain name"
  | domainCharacter => "invalid domain character"

end ChatLink.Url
