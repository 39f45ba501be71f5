import Plugboard.Code

/-!
The journal: what happened on a host, in its order.
-/
namespace Plugboard

inductive Level
  | warn
  | error
  deriving Repr, DecidableEq

def Level.name : Level → String
  | .warn => "warn"
  | .error => "error"

/-- Who calls plugin code. -/
inductive Caller
  | registry
  | panel (serial : Nat)
  deriving Repr, DecidableEq

inductive Happening
  | noted (n : Note)
  /-- Something that plugin code asks of the host, before the host does it. -/
  | asked {a : Answer} (op : Op Code a)
  | logged (level : Level) (text : String)
  /-- A call that goes to the store. -/
  | stored (c : StoreCall)
  /-- A request that arrives at the backend. -/
  | requested (r : Http.Request)
  /-- An event that starts on its way to the handlers. -/
  | published (e : Event)
  /-- A handler that is given an event. -/
  | delivered (handler : Nat) (e : Event)
  /-- A call into the code of an installed plugin. -/
  | entered (caller : Caller) (plugin : String) (phase : Phase) (installation : Nat)

end Plugboard
