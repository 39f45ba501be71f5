import Plugboard.Bus
import Plugboard.Registry
import Plugboard.Run
import Plugboard.Session.Api
import Plugboard.Session.Basic

/-!
Plugin code as a tree: it asks the host for something, goes on with the answer, and in the end is
done, fails or panics. Loaders and init hooks first run up to the point where they hand over the
rest of their work; only that rest runs inside the boundary of a panel.
-/
namespace Plugboard

/-- What plugin code leaves in the journal. -/
inductive Note
  | said (j : Json)
  | emitted (handlers : Nat)
  | subscribed (s : Subscription)
  | unsubscribed (found : Option Bool)
  | registered (result : Except PluginError Registration)
  | unregistered (plugin : Option String)
  | saw (view : Option SessionView)
  | updated (settings : Settings)
  | answered (j : Json)
  | loaded (tag : String) (n : Nat)
  | rendered (tag : String) (n : Nat)
  | initialised (c : Context)
  | destroyed (plugin : String)
  | handled (label : String) (e : Event)

/-- A counter of a plugin: its owner, and what it counts. -/
structure Counter where
  owner : Nat
  name : String
  deriving Repr, DecidableEq

/-- The kinds of answers that the host gives. -/
inductive Answer
  | nothing
  | number
  | subscription
  | found
  | registration
  | removed
  | view
  | settings
  | response

abbrev Answer.Carrier : Answer → Type
  | .nothing => Unit
  | .number => Nat
  | .subscription => Subscription
  | .found => Option Bool
  | .registration => Except PluginError Registration
  | .removed => Option String
  | .view => Option SessionView
  | .settings => Except SessionError Settings
  | .response => Except SessionError Json

/-- What plugin code can ask of the host. Subscriptions and sessions go by labels. -/
inductive Op (Code : Type) : Answer → Type
  | note (n : Note) : Op Code .nothing
  /-- A number that was never handed out before. -/
  | fresh : Op Code .number
  /-- The value of a counter before it goes up by one. -/
  | count (c : Counter) : Op Code .number
  | emit (e : Event) : Op Code .number
  | subscribe (label : String) (type : EventType) (handler : Event → Code) : Op Code .subscription
  | unsubscribe (label : String) : Op Code .found
  | clearBus : Op Code .nothing
  | register (d : Definition Code) : Op Code .registration
  | unregister (plugin : String) : Op Code .removed
  | clearRegistry : Op Code .nothing
  | look (session : String) : Op Code .view
  | detach (session : String) : Op Code .nothing
  | setToken (session : String) (token : Option String) : Op Code .nothing
  | update (c : Context) (changes : Settings) : Op Code .settings
  | callApi (c : Context) (endpoint : String) (r : ApiRequest) : Op Code .response

inductive Code
  | done (text : String)
  | fail (f : Fault)
  | panic (p : Panic)
  /-- Hands the rest over to whoever called. -/
  | later (rest : Code)
  | ask {a : Answer} (op : Op Code a) (rest : a.Carrier → Code)

/-- Serves what plugin code asks for. -/
abbrev Server (σ : Type) := ∀ {a : Answer}, Op Code a → Run σ a.Carrier

namespace Code

variable {σ : Type}

/-- Code that does nothing and succeeds. -/
def skip : Code := .done ""

/-- Runs code to its end. -/
def run (serve : Server σ) : Code → Run σ Ending
  | .done text => pure (.ok text)
  | .fail f => pure (.error f)
  | .panic p => throw p
  | .later rest => rest.run serve
  | .ask op rest => do (rest (← serve op)).run serve

/-- Runs code up to the point where it hands over the rest. -/
def begin (serve : Server σ) : Code → Run σ Code
  | .done text => pure (.done text)
  | .fail f => pure (.fail f)
  | .panic p => throw p
  | .later rest => pure rest
  | .ask op rest => do (rest (← serve op)).begin serve

end Code

/-- A component that loads at once and whose text depends on its context alone. -/
def Component.ofText (text : Context → Except String String) : Component Code where
  load := .later .skip
  render := fun c =>
    match text c with
    | .ok body => .done body
    | .error message => .fail ⟨message, []⟩

end Plugboard
