import Plugboard.Json.Writer
import Plugboard.Storage.Call

/-!
A store behind HTTP: what it asks of the backend, and how it reads the answers. All of its
addresses lie below one collection of the backend.
-/
namespace Plugboard.RemoteStore

open Http

def headers (token : String) : List (String × String) :=
  [("authorization", "Bearer " ++ token), ("content-type", "application/json")]

/-- An address in the collection of the user's plugins. -/
def address (config : HostConfig) (path : String) : String :=
  config.apiUrl ("user-plugins/" ++ path)

def fetchRequest (config : HostConfig) (token : String) : Request :=
  ⟨"GET", address config "", headers token, none⟩

/-- The last part of the address of a write. -/
def action : Write → String
  | .toggle _ true => "enable"
  | .toggle _ false => "disable"
  | .replaceSettings _ _ => "config"

def method : Write → String
  | .toggle _ _ => "PATCH"
  | .replaceSettings _ _ => "PUT"

def body : Write → Option String
  | .toggle _ _ => none
  | .replaceSettings _ settings =>
    some (Json.compact (.object [("config", Json.ofSettings settings)]))

/-- The name is a part of the address, so it has to be a proper one. -/
def writeRequest (config : HostConfig) (token : String) (w : Write) :
    Except StorageError Request :=
  match PluginName.check w.plugin with
  | .error e => .error (.invalidName w.plugin e)
  | .ok () =>
    .ok ⟨method w, address config (w.plugin ++ "/" ++ action w), headers token, body w⟩

/-- The `detail` text of a body, or the body itself. -/
def detail (text : String) : String :=
  (((Json.parse? text).bind fun j => j.member? "detail").bind Json.string?).getD text

/-- What an answer says, when it is of the right form. -/
def readResponse {α : Type} (operation : String) (read : Written → Option α)
    (answer : Except TransportError Response) : Except StorageError α :=
  match answer with
  | .error e => .error (.transport operation e)
  | .ok r =>
    if r.isSuccess then
      match (Json.written? r.text).bind read with
      | some a => .ok a
      | none => .error (.malformed "json")
    else .error (.status operation r.status (detail r.text))

end Plugboard.RemoteStore
