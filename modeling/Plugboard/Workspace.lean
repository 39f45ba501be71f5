import Plugboard.Panel.Dashboard

/-!
Workspaces: a host together with the panels, dashboards, loads, contexts and waiting calls that are
kept under names. A name that is in use goes over to the new thing before the old one is given up.
-/
namespace Plugboard

/-- A call of a session that waits for the store. -/
structure Task where
  session : Nat
  waiting : Waiting

structure Workspace where
  host : Host
  panels : Table String Panel
  dashboards : Table String Dashboard
  pending : Table String PendingLoad
  outcomes : Table String LoadOutcome
  contexts : Table String Context
  tasks : Table String Task

abbrev WorkspaceRun := Run Workspace

namespace Workspace

def new (h : Host) : Workspace := ⟨h, [], [], [], [], [], []⟩

def serve : Server Host := Host.server Host.usualDepth

def play : Player := Host.player Host.usualDepth

def onHost {α : Type} (m : HostRun α) : WorkspaceRun α := fun w =>
  (Run.start m w.host).map fun r => (r.1, { w with host := r.2 })

/-- Runs something with a part beside the host; the part is handed back, after a panic too. -/
def lend {α β : Type} (m : Run (α × Host) β) (a : α) : WorkspaceRun (Except Panic β × α) :=
  onHost (Run.beside m a)

/-! ## Panels -/

def setPanel (name : String) (p : Panel) : WorkspaceRun Unit :=
  modify fun w => { w with panels := Table.put name p w.panels }

/-- Runs something on the panel with a name, if there is one. -/
def onPanel {α : Type} (name : String) (m : PanelRun α) : WorkspaceRun (Option α) := do
  match Table.get? name (← get).panels with
  | none => return none
  | some p => do
    let (result, p) ← lend m p
    setPanel name p
    return some (← Run.resume result)

/-- Makes a panel and keeps it. -/
def openPanel (name : String) (surface : Surface) (session : Nat) (plugin : String) :
    WorkspaceRun Panel := do
  let p ← onHost (Panel.create surface session plugin)
  let old := Table.get? name (← get).panels
  setPanel name p
  if let some old := old then onHost (Panel.drop serve old)
  return p

/-- Takes the panel with a name out of use; says whether there was one. -/
def dropPanel (name : String) : WorkspaceRun Bool := do
  match Table.get? name (← get).panels with
  | none => return false
  | some p => do
    modify fun w => { w with panels := Table.erase name w.panels }
    onHost (Panel.drop serve p)
    return true

/-! ## Loads -/

/-- Starts to mount the panel with a name, and keeps the load under a name of its own. -/
def startMount (name pending : String) : WorkspaceRun (Option (Option PendingLoad)) := do
  match ← onPanel name (Panel.startMount serve) with
  | none => return none
  | some none => return some none
  | some (some l) => do
    modify fun w => { w with pending := Table.put pending l w.pending }
    return some (some l)

/-- Runs the load with a name, which is used up, and keeps its outcome under the same name. -/
def load (pending : String) : WorkspaceRun (Option LoadOutcome) := do
  match Table.get? pending (← get).pending with
  | none => return none
  | some l => do
    modify fun w => { w with pending := Table.erase pending w.pending }
    let o ← onHost (Panel.load serve l)
    modify fun w => { w with outcomes := Table.put pending o w.outcomes }
    return some o

/-- Uses up the outcome with a name. -/
def takeOutcome (outcome : String) : WorkspaceRun (Option LoadOutcome) := do
  let o := Table.get? outcome (← get).outcomes
  modify fun w => { w with outcomes := Table.erase outcome w.outcomes }
  return o

/-- Ends the mounting of the panel with a name; the second part is none without an outcome. -/
def finishMount (name outcome : String) : WorkspaceRun (Option (Option Stage)) := do
  match ← takeOutcome outcome with
  | none => return (Table.get? name (← get).panels).map fun _ => none
  | some o => return (← onPanel name (Panel.finishMount serve o)).map some

/-! ## Dashboards -/

def setDashboard (name : String) (d : Dashboard) : WorkspaceRun Unit :=
  modify fun w => { w with dashboards := Table.put name d w.dashboards }

/-- Makes a dashboard and keeps it. -/
def openDashboard (name : String) (make : HostRun Dashboard) : WorkspaceRun Dashboard := do
  let d ← onHost make
  let old := Table.get? name (← get).dashboards
  setDashboard name d
  if let some old := old then onHost (Dashboard.dropAll serve old.panels)
  return d

/-- Runs something on the dashboard with a name, if there is one. -/
def onDashboard {α : Type} (name : String) (m : Run (Dashboard × Host) α) :
    WorkspaceRun (Option α) := do
  match Table.get? name (← get).dashboards with
  | none => return none
  | some d => do
    let (result, d) ← lend m d
    setDashboard name d
    return some (← Run.resume result)

/-- Closes the dashboard with a name; hands back its session. -/
def closeDashboard (name : String) : WorkspaceRun (Option Nat) := do
  match Table.get? name (← get).dashboards with
  | none => return none
  | some d => do
    modify fun w => { w with dashboards := Table.erase name w.dashboards }
    onHost (Dashboard.close serve d)
    return some d.session

/-! ## Contexts and tasks -/

def openContext (name : String) (session : Nat) (plugin : String) : WorkspaceRun Context := do
  let c ← onHost (Host.context session plugin)
  modify fun w => { w with contexts := Table.put name c w.contexts }
  return c

/-- Keeps a task while it waits. -/
def keepTask (name : String) (session : Nat) : Progress → WorkspaceRun Unit
  | .waiting waiting =>
    modify fun w => { w with tasks := Table.put name ⟨session, waiting⟩ w.tasks }
  | .finished _ => modify fun w => { w with tasks := Table.erase name w.tasks }

/-- Begins a call up to its first call to the store, which waits. -/
def startTask (name : String) (session : Nat) (c : SessionCall) : WorkspaceRun Progress := do
  let progress ← onHost (Host.beginCall session c)
  keepTask name session progress
  return progress

/-- Lets the waiting store call of a task happen, and goes on up to the next one. -/
def advanceTask (name : String) : WorkspaceRun (Option Progress) := do
  match Table.get? name (← get).tasks with
  | none => return none
  | some t => do
    let progress ← onHost (Host.resumeCall play t.session t.waiting)
    keepTask name t.session progress
    return some progress

/-- Gives a task up where it stands; says whether there was one. -/
def cancelTask (name : String) : WorkspaceRun Bool := do
  let there := (Table.get? name (← get).tasks).isSome
  modify fun w => { w with tasks := Table.erase name w.tasks }
  return there

end Workspace
end Plugboard
