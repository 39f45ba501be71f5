import Plugboard.Event
import Plugboard.Failure
import Plugboard.Session.Error

/-!
All errors in one type, each told as an error of the part it comes from.
-/
namespace Plugboard

/-- Any error of the host, as it is told to the user. -/
inductive HostError
  | plugin (e : PluginError)
  | event (e : EventError)
  | storage (e : StorageError)
  | session (e : SessionError)
  | render (f : Failure)
  | other (text : String)
  deriving Repr, DecidableEq

def HostError.message : HostError → String
  | .plugin e => "Plugin system error: " ++ e.message
  | .event e => "Event system error: " ++ e.message
  | .storage e => "Storage system error: " ++ e.message
  | .session e => "Provider error: " ++ e.message
  | .render f => "Render error: " ++ f.display
  | .other text => "Error: " ++ text

end Plugboard
