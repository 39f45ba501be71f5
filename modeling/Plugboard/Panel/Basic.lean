import Plugboard.Code

/-!
Panels: places where one plugin is shown. A panel resolves its plugin, waits for its component,
shows it, and stops for good when the plugin is not there or has failed.
-/
namespace Plugboard

/-- Which component of a plugin a panel shows. Only the main one is gated and has hooks. -/
inductive Surface
  | main
  | settings
  deriving Repr, DecidableEq

def Surface.caption : Surface → String
  | .main => "Main"
  | .settings => "Settings"

/-- The stages a panel goes through. -/
inductive Stage
  | resolving
  | notFound
  | disabled
  | loading
  | mounted
  | errored
  deriving Repr, DecidableEq

namespace Stage

def name : Stage → String
  | .resolving => "resolving"
  | .notFound => "not-found"
  | .disabled => "disabled"
  | .loading => "loading"
  | .mounted => "mounted"
  | .errored => "errored"

def caption : Stage → String
  | .resolving => "Resolving"
  | .notFound => "NotFound"
  | .disabled => "Disabled"
  | .loading => "Loading"
  | .mounted => "Mounted"
  | .errored => "Errored"

end Stage

/-- A panel. What it shows and what it holds are fields of their own: that it holds a component only
while it is mounted, and a failure only when it has failed, is for its operations to see to. -/
structure Panel where
  name : String
  surface : Surface
  session : Nat
  serial : Nat
  stage : Stage
  /-- Every stage the panel has entered, oldest first. -/
  transitions : List Stage
  /-- The plugin as it was found last. -/
  installed : Option (Installed Code)
  component : Option (Component Code)
  failure : Option Failure
  initFired : Bool
  /-- How many loads were started. The count has 64 bits and is taken not to wrap. -/
  loads : Nat
  subscriptions : List Subscription

/-- A load that was started and has to be run. -/
structure PendingLoad where
  plugin : String
  cycle : Nat
  component : Component Code
  panel : Nat
  installation : Nat

/-- What a load came to. -/
structure LoadOutcome where
  cycle : Nat
  result : Except Failure (Component Code)

/-- What a panel shows. -/
inductive View
  | resolving
  | loading (label : String)
  | disabled (plugin notice : String)
  | notFound (plugin notice : String)
  | content (plugin body : String)
  | errored (plugin message hint : String)
  deriving Repr, DecidableEq

namespace View

def text : View → String
  | .resolving => "..."
  | .loading label => label
  | .disabled _ notice => notice
  | .notFound _ notice => notice
  | .content _ body => body
  | .errored plugin message hint =>
    "Plugin '" ++ plugin ++ "' crashed: " ++ message ++ "\n" ++ hint

def isContent : View → Bool
  | .content _ _ => true
  | _ => false

def isError : View → Bool
  | .errored _ _ _ => true
  | _ => false

end View

namespace Panel

/-- A stage that is entered again is not noted a second time. -/
def enter (p : Panel) (next : Stage) : Panel :=
  if p.stage = next then p else { p with stage := next, transitions := p.transitions ++ [next] }

def displayName (p : Panel) : String :=
  match p.installed with
  | some i => i.definition.displayName
  | none => p.name

def reloadHint : String := "Reload the page to try again."

def errorView (p : Panel) : View :=
  .errored p.name ((p.failure.map Failure.message).getD "") reloadHint

def notFoundNotice (p : Panel) : String :=
  match p.installed, p.surface with
  | some i, .settings => i.definition.displayName ++ " has no settings page"
  | _, _ => "Plugin '" ++ p.name ++ "' not found"

/-- What is shown without calling the plugin; none for a mounted panel. -/
def stillView (p : Panel) : Option View :=
  match p.stage with
  | .resolving => some .resolving
  | .loading => some (.loading ("Loading " ++ p.displayName ++ "..."))
  | .notFound => some (.notFound p.name p.notFoundNotice)
  | .disabled =>
    some (.disabled p.name (p.displayName ++ " is disabled. Enable it in plugin settings."))
  | .errored => some p.errorView
  | .mounted => none

def describe (p : Panel) : String :=
  Text.record "PluginRenderer" [("name", Text.quote p.name), ("surface", p.surface.caption),
    ("state", p.stage.caption),
    ("transitions", Text.bracketed (p.transitions.map Stage.caption)),
    ("failure", Text.optional (p.failure.map Failure.describe)),
    ("init_fired", Text.flag p.initFired)] true

end Panel

def PendingLoad.describe (l : PendingLoad) : String :=
  Text.record "PendingLoad" [("plugin", Text.quote l.plugin), ("cycle", toString l.cycle)] true

def LoadOutcome.describe (o : LoadOutcome) : String :=
  Text.record "LoadOutcome" [("cycle", toString o.cycle),
    ("loaded", Text.flag (match o.result with | .ok _ => true | .error _ => false))] false

end Plugboard
