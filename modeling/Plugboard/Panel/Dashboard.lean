import Plugboard.Panel.Lifecycle

/-!
Dashboards: panels of one session beside each other. What fails in one panel stays in it.
-/
namespace Plugboard

structure Dashboard where
  session : Nat
  panels : List Panel

namespace Dashboard

/-- Takes panels out of use, in their order. -/
def dropAll (serve : Server Host) (panels : List Panel) : HostRun Unit :=
  panels.forM (Panel.drop serve)

/-- Mounts panels for the plugins that are wanted when their turn comes. After a panic the panels
that are there already are taken out of use, the newest one first. -/
def mountEach (serve : Server Host) (session : Nat) (wanted : String → HostRun Bool)
    (ready : List Panel) : List String → HostRun (List Panel)
  | [] => return ready
  | name :: rest => do
    if ← wanted name then
      let p ← Panel.create .main session name
      match ← Run.beside (Panel.mount serve) p with
      | (.ok _, p) => mountEach serve session wanted (ready ++ [p]) rest
      | (.error panic, p) => do
        dropAll serve (p :: ready)
        throw panic
    else mountEach serve session wanted ready rest

/-- Panels for some plugins, in the order of their names. -/
def mount (serve : Server Host) (session : Nat) (names : List String) : HostRun Dashboard := do
  return ⟨session, ← mountEach serve session (fun _ => return true) [] names⟩

/-- Panels for the enabled plugins of the sidebar, in the order of the sidebar. -/
def mountSidebar (serve : Server Host) (session : Nat) : HostRun Dashboard := do
  let names := (← get).registry.sidebar.map Installed.name
  let wanted := fun name => return (← Host.session session).isEnabled name
  return ⟨session, ← mountEach serve session wanted [] names⟩

/-- The first panel of a plugin. -/
def panel? (d : Dashboard) (name : String) : Option Panel := d.panels.find? fun p => p.name == name

def stages (d : Dashboard) : List (String × Stage) := d.panels.map fun p => (p.name, p.stage)

/-- Runs something on every panel in turn. -/
def onPanels {α : Type} (m : PanelRun α) : Run (Dashboard × Host) (List α) := do
  let d := (← get).1
  let (result, panels) ← Run.below (Run.each m d.panels)
  modify fun s => ({ s.1 with panels := panels }, s.2)
  Run.resume result

def renderAll (serve : Server Host) : Run (Dashboard × Host) (List View) :=
  onPanels (Panel.render serve)

/-- Syncs a panel if it is marked. -/
def syncMarked (serve : Server Host) : PanelRun Unit := do
  let (p, h) ← get
  if p.needsSync h then
    let _ ← Panel.sync serve

/-- Syncs the panels that are marked when their turn comes. -/
def sync (serve : Server Host) : Run (Dashboard × Host) Unit := do
  let _ ← onPanels (syncMarked serve)

/-- Detaches the session and takes all panels out of use. -/
def close (serve : Server Host) (d : Dashboard) : HostRun Unit := do
  Host.changeSession d.session Session.detach
  dropAll serve d.panels

end Dashboard
end Plugboard
