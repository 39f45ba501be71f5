import Plugboard.Json.Writer
import Plugboard.Plugin.Definition
import Plugboard.Session.Error

/-!
Calls that a plugin makes to the backend through its context. They go below the plugin's own
address and carry the token of the context, whatever headers the plugin names.
-/
namespace Plugboard

structure ApiRequest where
  method : String
  body : Option Json
  headers : List (String × String)

namespace ApiRequest

open Http

def plain : ApiRequest := ⟨"GET", none, []⟩

/-- Whether a header is set by the host and not by the plugin. -/
def isReserved (name : String) : Bool :=
  Text.sameAsciiLetters "authorization" name || Text.sameAsciiLetters "content-type" name

def sentHeaders (r : ApiRequest) (token : String) : List (String × String) :=
  r.headers.filter (fun h => !isReserved h.1) ++
    [("authorization", "Bearer " ++ token), ("content-type", "application/json")]

/-- What is sent to the backend. -/
def request (r : ApiRequest) (config : HostConfig) (plugin token endpoint : String) : Request :=
  ⟨r.method, config.endpointUrl plugin endpoint, r.sentHeaders token, r.body.map Json.compact⟩

/-- The value of a successful answer: null for a blank one, and the text itself when it is not
JSON. -/
def value (text : String) : Json :=
  if Text.allBlank text then .null else (Json.parse? text).getD (.string text)

def readResponse (url : String) (answer : Except TransportError Response) :
    Except SessionError Json :=
  match answer with
  | .error e => .error (.transport url e)
  | .ok r => if r.isSuccess then .ok (value r.text) else .error (.rejected url r.status r.text)

end ApiRequest
end Plugboard
