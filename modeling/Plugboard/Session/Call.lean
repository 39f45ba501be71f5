import Plugboard.Event
import Plugboard.Session.Basic
import Plugboard.Session.Error

/-!
Calls of a session. A call goes in steps from one call to the store to the next: a refresh needs one
fetch, a write needs the write itself and then the fetch of its refresh. Between two steps anything
else may happen to the session.
-/
namespace Plugboard

inductive SessionCall
  | refresh
  | toggle (plugin : String) (enabled : Bool)
  /-- The changes go over the settings that the session holds. -/
  | update (plugin : String) (changes : Settings)
  deriving DecidableEq

/-- What a call that went well hands back. -/
inductive Outcome
  | refreshed
  | toggled
  | updated (settings : Settings)
  deriving DecidableEq

/-- The settings that were written; none but an update writes any. -/
def Outcome.settings : Outcome → Settings
  | .updated settings => settings
  | _ => .empty

/-- A call that waits for the store. -/
inductive Waiting
  /-- The write itself. -/
  | write (token : String) (w : Write)
  /-- The fetch of a refresh, and what the call hands back after it. -/
  | fetch (r : Refresh) (outcome : Outcome)
  deriving DecidableEq

/-- Where a call is. -/
inductive Progress
  | finished (result : Except SessionError Outcome)
  | waiting (w : Waiting)

namespace Waiting

def storeCall : Waiting → StoreCall
  | .write token w => .write token w
  | .fetch r _ => .fetch r.token

end Waiting

namespace Write

/-- The event that tells of a write. -/
def event : Write → Event
  | .toggle plugin true => .enabled plugin
  | .toggle plugin false => .disabled plugin
  | .replaceSettings plugin settings => .configUpdated plugin settings

def outcome : Write → Outcome
  | .toggle _ _ => .toggled
  | .replaceSettings _ settings => .updated settings

end Write

namespace Session

/-- The write that a call asks for. -/
def writeOf (s : Session) : SessionCall → Option Write
  | .refresh => none
  | .toggle plugin enabled => some (.toggle plugin enabled)
  | .update plugin changes =>
    some (.replaceSettings plugin ((s.settingsOf plugin).overlay changes))

/-- The first step of a call. Without a token nothing is written. -/
def begin (s : Session) (call : SessionCall) : Progress × Session :=
  match s.writeOf call with
  | none =>
    match s.startRefresh with
    | (none, s) => (.finished (.ok .refreshed), s)
    | (some r, s) => (.waiting (.fetch r .refreshed), s)
  | some w =>
    match s.token with
    | none => (.finished (.error .notAuthenticated), s)
    | some token => (.waiting (.write token w), s)

/-- Takes over what the store has written, and starts the refresh that ends the call. -/
def afterWrite (s : Session) (token : String) (written : Entry) : Option Refresh × Session :=
  (s.applyWritten token written).startRefresh

end Session
end Plugboard
