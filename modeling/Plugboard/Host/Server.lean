import Plugboard.Host.Sessions

/-!
Serving plugin code. Code may make the host run other code in turn, as a handler that emits an event
does; how deep that may go is a number, and code that goes deeper is given up.
-/
namespace Plugboard.Host

/-- A change of the session with a label, if there is one. -/
def changeLabelled (label : String) (f : Session → Session) : HostRun Unit := do
  match ← sessionLabelled? label with
  | none => pure ()
  | some id => changeSession id f

/-- Does what plugin code asks for; `play` runs the code that this leads to. -/
def fulfil (play : Player) {a : Answer} : Op Code a → HostRun a.Carrier
  | .note n => record (.noted n)
  | .fresh => fresh
  | .count c => count c
  | .emit e => emit play e
  | .subscribe label type handler => subscribeAs label type handler
  | .unsubscribe label => unsubscribeAs label
  | .clearBus => clearBus
  | .register d => register d
  | .unregister plugin => do return (← unregister play plugin).map Installed.name
  | .clearRegistry => clearRegistry
  | .look label => do
    match ← sessionLabelled? label with
    | none => return none
    | some id => return some (← view id)
  | .detach label => changeLabelled label Session.detach
  | .setToken label token => changeLabelled label fun s => s.setToken token
  | .update c changes => update play c.session c.plugin changes
  | .callApi c endpoint r => callApi c endpoint r

/-- Serves one request of plugin code. -/
def serve (play : Player) {a : Answer} (op : Op Code a) : HostRun a.Carrier := do
  record (.asked op)
  fulfil play op

/-- Serves code that nests at most so deep. -/
def server : Nat → Server Host
  | 0 => fun _ => Run.exhausted
  | depth + 1 => serve (Code.run (server depth))

def player (depth : Nat) : Player := Code.run (server depth)

/-- As deep as code is followed that nobody has asked to be followed less deep. -/
def usualDepth : Nat := 1000

end Plugboard.Host
