/-!
# Texts that are no locations
-/

namespace Testbed.Url

/-- Why a text is no location with a path. -/
inductive Error where
  | relative
  | emptyHost
  | badPort
  | badDomain
  | badDomainCharacter
  | badV4
  | badV6
  /-- The text is well formed but what follows its scheme is no path. -/
  | pathless
  deriving DecidableEq, Repr

def Error.message? : Error → Option String
  | relative => some "relative URL without a base"
  | emptyHost => some "empty host"
  | badPort => some "invalid port number"
  | badDomain => some "invalid international domain name"
  | badDomainCharacter => some "invalid domain character"
  | badV4 => some "invalid IPv4 address"
  | badV6 => some "invalid IPv6 address"
  | pathless => none

end Testbed.Url
