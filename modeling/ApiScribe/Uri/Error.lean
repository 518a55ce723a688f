/-!
# Why a text is no URI
-/

namespace ApiScribe.Uri

/-- Why a text is no URI. -/
inductive UriError where
  | noScheme
  /-- A host is needed and there is none. -/
  | emptyHost
  /-- The port is no number below 65536. -/
  | invalidPort
  /-- The host ends in a number and is no IPv4 address. -/
  | invalidIpv4
  /-- The host is in brackets and is no IPv6 address. -/
  | invalidIpv6
  /-- The host has a character that no domain has, or a label that stands for nothing. -/
  | invalidDomain
  /-- The host has a character that no host has. -/
  | invalidHostChar
deriving DecidableEq, Repr

namespace UriError

def message : UriError → String
  | .noScheme => "relative URL without a base"
  | .emptyHost => "empty host"
  | .invalidPort => "invalid port number"
  | .invalidIpv4 => "invalid IPv4 address"
  | .invalidIpv6 => "invalid IPv6 address"
  | .invalidDomain => "invalid international domain name"
  | .invalidHostChar => "invalid domain character"

end UriError

end ApiScribe.Uri
