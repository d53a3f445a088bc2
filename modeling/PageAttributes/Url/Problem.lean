/-
**Why a text is not a URL.**
-/

namespace PageAttributes.Url

/-- Why a text is not a URL. -/
inductive Problem where
  | noScheme
  | emptyHost
  | badPort
  | badAddress4
  | badAddress6
  | badDomainCharacter
  | badDomain
deriving DecidableEq, Repr

/-- The wording of a problem. -/
def Problem.message : Problem → String
  | .noScheme => "relative URL without a base"
  | .emptyHost => "empty host"
  | .badPort => "invalid port number"
  | .badAddress4 => "invalid IPv4 address"
  | .badAddress6 => "invalid IPv6 address"
  | .badDomainCharacter => "invalid domain character"
  | .badDomain => "invalid international domain name"

end PageAttributes.Url
