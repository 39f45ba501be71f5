import Plugboard.Storage.Entry
import Plugboard.Storage.Error

/-!
Calls to a store. Reading gives all entries of a user; writing changes one entry and gives it back.
Every call carries the token of the user it is made for.
-/
namespace Plugboard

inductive Write
  | toggle (plugin : String) (enabled : Bool)
  | replaceSettings (plugin : String) (settings : Settings)
  deriving DecidableEq

namespace Write

def plugin : Write → String
  | .toggle plugin _ => plugin
  | .replaceSettings plugin _ => plugin

/-- The name of the write in messages. -/
def operation : Write → String
  | .toggle _ true => "enable"
  | .toggle _ false => "disable"
  | .replaceSettings _ _ => "update_config"

def apply (w : Write) (e : Entry) : Entry :=
  match w with
  | .toggle _ enabled => { e with enabled := enabled }
  | .replaceSettings _ settings => { e with settings := settings }

end Write

inductive StoreCall
  | fetch (token : String)
  | write (token : String) (w : Write)
  deriving DecidableEq

/-- The name of the fetch in messages. -/
def StoreCall.fetchOperation : String := "fetch_user_plugins"

end Plugboard
