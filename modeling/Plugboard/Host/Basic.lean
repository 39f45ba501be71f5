import Plugboard.Journal
import Plugboard.Storage.Memory
import Plugboard.Storage.Remote

/-!
The host: one registry, one bus, one store, the sessions that were opened, and a journal of what
happened. Sessions are known by number; plugin code names sessions and subscriptions by labels.
-/
namespace Plugboard

/-- What a handler does with an event. -/
inductive Listener
  | code (body : Event → Code)
  /-- Marks a panel for its next sync when the event is about its plugin. -/
  | mark (panel : Nat) (plugin : String)

inductive Store
  | memory (m : MemoryStore)
  | remote

def Store.name : Store → String
  | .memory _ => "memory"
  | .remote => "http"

structure Host where
  config : HostConfig
  bus : Bus Listener
  registry : Registry Code
  store : Store
  sessions : List Session
  sessionLabels : Table String Nat
  subscriptions : Table String Subscription
  /-- The panels that wait for a sync. -/
  marked : List Nat
  counters : Table Counter Nat
  backend : Http.Backend
  journal : List Happening
  lastSerial : Nat

abbrev HostRun := Run Host

/-- Runs plugin code. -/
abbrev Player := Code → HostRun Ending

namespace Host

def new (config : HostConfig) (policy : DuplicatePolicy) (store : Store) (backend : Http.Backend) :
    Host where
  config := config
  bus := .empty
  registry := .empty policy
  store := store
  sessions := []
  sessionLabels := []
  subscriptions := []
  marked := []
  counters := []
  backend := backend
  journal := []
  lastSerial := 0

def record (x : Happening) : HostRun Unit := modify fun h => { h with journal := h.journal ++ [x] }

def log (level : Level) (text : String) : HostRun Unit := record (.logged level text)

/-- A number that was never handed out before. -/
def fresh : HostRun Nat := do
  modify fun h => { h with lastSerial := h.lastSerial + 1 }
  return (← get).lastSerial

/-- The value of a counter before it goes up by one. -/
def count (c : Counter) : HostRun Nat := do
  let n := (Table.get? c (← get).counters).getD 0
  modify fun h => { h with counters := Table.put c (n + 1) h.counters }
  return n

/-! ## Events -/

def subscribe (type : EventType) (l : Listener) : HostRun Subscription := do
  let (s, bus) := (← get).bus.on type l
  modify fun h => { h with bus := bus }
  return s

def unsubscribe (s : Subscription) : HostRun Bool := do
  let (found, bus) := (← get).bus.off s
  modify fun h => { h with bus := bus }
  return found

def handlerPanic (handler : Nat) (e : Event) (p : Panic) : String :=
  "Handler " ++ toString handler ++ " for '" ++ e.type.name ++ "' (plugin '" ++ e.plugin ++
    "') panicked: " ++ p.message

/-- A handler that fails or panics keeps no other handler from the event. -/
def deliver (play : Player) (e : Event) (handler : Handler Listener) : HostRun Unit := do
  record (.delivered handler.id e)
  match handler.listener with
  | .mark panel plugin =>
    if e.plugin = plugin then modify fun h => { h with marked := panel :: h.marked }
  | .code body =>
    match ← Run.contain (play (body e)) with
    | .ok _ => pure ()
    | .error p => log .error (handlerPanic handler.id e p)

/-- Delivers an event to the handlers that are there when it starts; says how many they were. -/
def emit (play : Player) (e : Event) : HostRun Nat := do
  record (.published e)
  let handlers := (← get).bus.handlersFor e.type
  handlers.forM (deliver play e)
  return handlers.length

/-! ## Subscriptions by label -/

/-- A label that is in use goes over to the new subscription; the old handler stays. -/
def subscribeAs (label : String) (type : EventType) (body : Event → Code) :
    HostRun Subscription := do
  let s ← subscribe type (.code body)
  modify fun h => { h with subscriptions := Table.put label s h.subscriptions }
  return s

/-- Gives up the subscription kept under a label. -/
def takeSubscription (label : String) : HostRun (Option Subscription) := do
  let s := Table.get? label (← get).subscriptions
  modify fun h => { h with subscriptions := Table.erase label h.subscriptions }
  return s

def unsubscribeAs (label : String) : HostRun (Option Bool) := do
  match ← takeSubscription label with
  | none => return none
  | some s => return some (← unsubscribe s)

/-! ## Plugins -/

def duplicateWarning (plugin : String) : String :=
  "Plugin '" ++ plugin ++ "' is already registered; ignoring duplicate registration"

def register (d : Definition Code) : HostRun (Except PluginError Registration) := do
  let h ← get
  match h.registry.register ⟨d, h.lastSerial + 1⟩ with
  | .error e => return .error e
  | .ok (result, registry) => do
    set { h with registry := registry, lastSerial := h.lastSerial + 1 }
    if result = .duplicate then log .warn (duplicateWarning d.name)
    return .ok result

/-- What is said of a destroy hook that did not succeed. -/
def hookFailure : Except Panic Ending → Option String
  | .ok (.ok _) => none
  | .ok (.error f) => some f.message
  | .error p => some ("panic: " ++ p.message)

/-- Tells of a destroy hook that failed while its plugin was unregistered. -/
def reportHook (play : Player) (plugin text : String) : HostRun Unit := do
  log .error ("onDestroy for plugin '" ++ plugin ++ "' failed during unregister: " ++ text)
  let payload := Json.object [("error", .string text), ("phase", .string Phase.destroy.name)]
  let _ ← emit play (.error plugin payload)

/-- The plugin is gone before its hook runs, and stays gone when the hook fails. -/
def unregister (play : Player) (plugin : String) : HostRun (Option (Installed Code)) := do
  match (← get).registry.get? plugin with
  | none => return none
  | some p => do
    modify fun h => { h with registry := h.registry.remove plugin }
    match p.definition.destroy with
    | none => return some p
    | some hook => do
      record (.entered .registry plugin .destroy p.serial)
      match hookFailure (← Run.contain (play hook)) with
      | none => return some p
      | some text => do
        reportHook play plugin text
        return some p

/-- Takes all plugins and all handlers away without running any hook. -/
def clearRegistry : HostRun Unit :=
  modify fun h => { h with registry := h.registry.clear, bus := h.bus.clear }

def clearBus : HostRun Unit := modify fun h => { h with bus := h.bus.clear }

end Host
end Plugboard
