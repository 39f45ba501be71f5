import Plugboard.Host.Server
import Plugboard.Panel.Basic

/-!
The life of a panel on its host: mounting in two halves with the load between them, syncing after
something has changed, rendering, and dropping. Plugin code runs inside a boundary that turns its
errors and panics into failures; only what a loader or an init hook does before it hands over the
rest runs outside.
-/
namespace Plugboard

/-- A run of a panel beside its host. -/
abbrev PanelRun := Run (Panel × Host)

namespace Panel

def onHost {α : Type} (m : HostRun α) : PanelRun α := Run.below m

def current : PanelRun Panel := return (← get).1

def change (f : Panel → Panel) : PanelRun Unit := modify fun s => (f s.1, s.2)

def goTo (next : Stage) : PanelRun Unit := change fun p => p.enter next

/-! ## Failures -/

/-- Logs a failure and tells the bus of it. The event names the plugin of the panel, which need not
be the one that failed when the panel was handed the load of another. -/
def report (serve : Server Host) (p : Panel) (f : Failure) : HostRun Unit := do
  Host.log .error f.display
  let _ ← Host.emit (Code.run serve) (.error p.name f.payload)

/-- Stops the panel with a failure. -/
def fail (serve : Server Host) (f : Failure) : PanelRun Unit := do
  onHost (report serve (← current) f)
  change fun p => { p with failure := some f }
  goTo .errored

/-- Runs plugin code inside the boundary. -/
def guarded (serve : Server Host) (plugin : String) (phase : Phase) (code : Code) :
    HostRun (Except Failure String) := do
  return contained plugin phase (← Run.contain (code.run serve))

/-- Calls a loader or an init hook: its first part runs outside the boundary. -/
def guardedRest (serve : Server Host) (plugin : String) (phase : Phase) (code : Code) :
    HostRun (Except Failure String) := do
  guarded serve plugin phase (← code.begin serve)

/-! ## Mounting -/

/-- A panel that marks itself when its plugin is enabled or disabled. -/
def create (surface : Surface) (session : Nat) (name : String) : HostRun Panel := do
  let serial ← Host.fresh
  let enabled ← Host.subscribe .enabled (.mark serial name)
  let disabled ← Host.subscribe .disabled (.mark serial name)
  return {
    name := name
    surface := surface
    session := session
    serial := serial
    stage := .resolving
    transitions := [.resolving]
    installed := none
    component := none
    failure := none
    initFired := false
    loads := 0
    subscriptions := [enabled, disabled] }

def isEnabled (p : Panel) : HostRun Bool := return (← Host.session p.session).isEnabled p.name

/-- Starts one more load. -/
def startLoad (i : Installed Code) (c : Component Code) : PanelRun PendingLoad := do
  change fun p => { p with loads := p.loads + 1 }
  let p ← current
  return ⟨p.name, p.loads, c, p.serial, i.serial⟩

/-- Gates the plugin that was found, and starts the load of its component. -/
def startFound (serve : Server Host) (i : Installed Code) : PanelRun (Option PendingLoad) := do
  change fun p => { p with installed := some i }
  let p ← current
  match p.surface with
  | .main => do
    if ← onHost p.isEnabled then
      goTo .loading
      match i.definition.panel with
      | none => do
        fail serve (.missingLoader p.name)
        return none
      | some c => return some (← startLoad i c)
    else
      goTo .disabled
      return none
  | .settings =>
    match i.definition.settings with
    | none => do
      goTo .notFound
      return none
    | some c => do
      goTo .loading
      return some (← startLoad i c)

/-- The first half of mounting. Without a load to run it is also the last. -/
def startMount (serve : Server Host) : PanelRun (Option PendingLoad) := do
  let p ← current
  match p.stage with
  | .mounted | .errored | .notFound => return none
  | .resolving | .disabled | .loading =>
    match (← get).2.registry.get? p.name with
    | none => do
      onHost (Host.log .warn ("Plugin '" ++ p.name ++ "' is not registered"))
      goTo .notFound
      return none
    | some i => startFound serve i

/-- Runs a load. -/
def load (serve : Server Host) (l : PendingLoad) : HostRun LoadOutcome := do
  Host.record (.entered (.panel l.panel) l.plugin .load l.installation)
  let result ← guardedRest serve l.plugin .load l.component.load
  return ⟨l.cycle, result.map fun _ => l.component⟩

/-- Calls the init hook. A failed hook does not unmount the plugin. -/
def runInit (serve : Server Host) (i : Installed Code) : PanelRun Unit := do
  let p ← current
  if !p.initFired then
    change fun p => { p with initFired := true }
    match i.definition.init with
    | none => pure ()
    | some hook => onHost do
      Host.record (.entered (.panel p.serial) p.name .init i.serial)
      let c ← Host.context p.session p.name
      match ← guardedRest serve p.name .init (hook c) with
      | .ok _ => pure ()
      | .error f => report serve p f

/-- Whether an outcome is the one that the panel waits for. -/
def awaits (p : Panel) (o : LoadOutcome) : Bool := p.stage == .loading && o.cycle == p.loads

/-- The second half of mounting. An outcome that the panel does not wait for is dropped. -/
def finishMount (serve : Server Host) (o : LoadOutcome) : PanelRun Stage := do
  let p ← current
  if p.awaits o then
    match o.result with
    | .error f => fail serve f
    | .ok c => do
      change fun p => { p with component := some c }
      goTo .mounted
      match p.surface, p.installed with
      | .main, some i => runInit serve i
      | _, _ => pure ()
  return (← current).stage

/-- Mounts as far as it goes. -/
def mount (serve : Server Host) : PanelRun Stage := do
  match ← startMount serve with
  | none => return (← current).stage
  | some l => do
    let o ← onHost (load serve l)
    finishMount serve o

/-! ## Unmounting -/

/-- Calls the destroy hook of a main panel that holds a component. -/
def runDestroy (serve : Server Host) (p : Panel) : HostRun Unit := do
  match p.component, p.surface, p.installed with
  | some _, .main, some i =>
    match i.definition.destroy with
    | none => pure ()
    | some hook => do
      Host.record (.entered (.panel p.serial) p.name .destroy i.serial)
      match ← guarded serve p.name .destroy hook with
      | .ok _ => pure ()
      | .error f => report serve p f
  | _, _, _ => pure ()

/-- Takes the component out of the panel, and calls the destroy hook if there was one. -/
def teardown (serve : Server Host) : PanelRun Unit := do
  let p ← current
  change fun p => { p with component := none }
  onHost (runDestroy serve p)

/-- Takes a panel out of use. What is left of the panel goes with it, so of its teardown only the
call of the hook is seen; a panel that was torn down before holds no component to call one for. -/
def drop (serve : Server Host) (p : Panel) : HostRun Unit := do
  runDestroy serve p
  p.subscriptions.forM fun s => do
    let _ ← Host.unsubscribe s

/-- Leaves the mounted stage; the init hook may be called again. -/
def leave (serve : Server Host) (next : Stage) : PanelRun Unit := do
  teardown serve
  change fun p => { p with initFired := false }
  goTo next

/-! ## Syncing -/

def needsSync (p : Panel) (h : Host) : Bool := h.marked.contains p.serial

def unmark (p : Panel) : HostRun Unit :=
  modify fun h => { h with marked := h.marked.filter fun serial => serial != p.serial }

/-- Looks again at what decides about the panel. -/
def sync (serve : Server Host) : PanelRun Stage := do
  let p ← current
  onHost p.unmark
  match p.stage with
  | .mounted => do
    if !(← get).2.registry.contains p.name then leave serve .notFound
    else if p.surface = .main then
      if !(← onHost p.isEnabled) then leave serve .disabled
    return (← current).stage
  | .resolving | .disabled | .loading => mount serve
  | .notFound | .errored => return p.stage

/-! ## Rendering -/

/-- Renders the component, if there is one. A failure stops the panel. -/
def renderComponent (serve : Server Host) : PanelRun View := do
  let p ← current
  match p.component with
  | none => return .resolving
  | some c => do
    let result ← onHost do
      Host.record (.entered (.panel p.serial) p.name .render ((p.installed.map (·.serial)).getD 0))
      guarded serve p.name .render (c.render (← Host.context p.session p.name))
    match result with
    | .ok body => return .content p.name body
    | .error f => do
      teardown serve
      fail serve f
      return (← current).errorView

def render (serve : Server Host) : PanelRun View := do
  match (← current).stillView with
  | some v => return v
  | none => renderComponent serve

end Panel
end Plugboard
