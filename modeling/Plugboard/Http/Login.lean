import Plugboard.Http.Url

/-!
The name and the password that an address may hold. The client takes both off the address before it
sends a request there, and sends them in a header, in base64. What is not UTF-8 once its percent
escapes are undone is not sent: a password is left out then, and with a name nothing is sent, and the
address stays as it is.
-/
namespace Plugboard.Http

/-! ## Base64 -/

def base64Alphabet : List Char :=
  "ABCDEFGHIJKLMNOPQRSTUVWXYZabcdefghijklmnopqrstuvwxyz0123456789+/".toList

/-- The character for six bits. -/
def sextet (n : Nat) : Char := base64Alphabet.getD n '='

/-- Four characters for three bytes, the last ones filled up. -/
def base64 : List Nat → List Char
  | [] => []
  | [a] => [sextet (a / 4), sextet (a % 4 * 16), '=', '=']
  | [a, b] => [sextet (a / 4), sextet (a % 4 * 16 + b / 16), sextet (b % 16 * 4), '=']
  | a :: b :: c :: rest =>
    sextet (a / 4) :: sextet (a % 4 * 16 + b / 16) :: sextet (b % 16 * 4 + c / 64) ::
      sextet (c % 64) :: base64 rest

/-! ## Names and passwords -/

/-- The text whose percent escapes are undone, if it is one. -/
def unescaped? (s : String) : Option String := Text.ofUtf8? (percentDecode s.toList)

/-- The name and the password as they are sent. -/
def Authority.login? (a : Authority) : Option String := do
  let user ← unescaped? a.user
  let password := a.password.bind unescaped?
  if user.isEmpty && password.isNone then none
  else
    return String.ofList (base64 (Text.toUtf8 (user ++ ":" ++ password.getD "").toList))

namespace Url

def login? (u : Url) : Option String := u.authority.bind Authority.login?

/-- The address without the name and the password that are sent in a header. -/
def withoutUser (u : Url) : Url :=
  { u with authority := u.authority.map fun a =>
      if a.login?.isSome then { a with user := "", password := none } else a }

end Url

/-- The login that an address brings. -/
def loginOf? (address : String) : Option String :=
  match Url.parse address with
  | .error _ => none
  | .ok u => u.login?

end Plugboard.Http
