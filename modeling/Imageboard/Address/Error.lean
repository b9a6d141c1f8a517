/-! Why a text is no address. -/
namespace Imageboard

inductive AddressError where
  | emptyHost
  | invalidDomainName
  | invalidHostCharacter
  | invalidPort
  | invalidIPv4
  | invalidIPv6
  | relativeWithoutBase
  deriving DecidableEq

def AddressError.message : AddressError → String
  | emptyHost => "empty host"
  | invalidDomainName => "invalid international domain name"
  | invalidHostCharacter => "invalid domain character"
  | invalidPort => "invalid port number"
  | invalidIPv4 => "invalid IPv4 address"
  | invalidIPv6 => "invalid IPv6 address"
  | relativeWithoutBase => "relative URL without a base"

end Imageboard
