/-!
Why a text is no web address.
-/
namespace Plugboard.Http

inductive UrlError
  | noScheme
  | emptyHost
  | badName
  | badHostCharacter
  | badAddress4
  | badAddress6
  | badPortNumber
  deriving Repr, DecidableEq

def UrlError.message : UrlError → String
  | .noScheme => "relative URL without a base"
  | .emptyHost => "empty host"
  | .badName => "invalid international domain name"
  | .badHostCharacter => "invalid domain character"
  | .badAddress4 => "invalid IPv4 address"
  | .badAddress6 => "invalid IPv6 address"
  | .badPortNumber => "invalid port number"

end Plugboard.Http
