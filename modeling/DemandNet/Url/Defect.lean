/-!
# Defects of URLs

Why a text is not a URL. The wording stands in one place, `Defect.message`.

## Main definitions

* `Defect`: What is wrong with a URL.
* `Defect.message`: How that is worded.
-/

namespace DemandNet

namespace Url

/-- What is wrong with a URL. -/
inductive Defect where
  /-- There is no scheme, so the text could only be read relative to another URL. -/
  | noScheme
  | emptyHost
  /-- The host is no domain name. -/
  | domainName
  /-- The host of a URL with an unknown scheme holds a character that ends hosts. -/
  | domainCharacter
  | port
  | ipv4
  | ipv6
  deriving Repr, DecidableEq, Inhabited

/-- The wording of a defect. -/
def Defect.message : Defect → String
  | noScheme => "relative URL without a base"
  | emptyHost => "empty host"
  | domainName => "invalid international domain name"
  | domainCharacter => "invalid domain character"
  | port => "invalid port number"
  | ipv4 => "invalid IPv4 address"
  | ipv6 => "invalid IPv6 address"

end Url

end DemandNet
