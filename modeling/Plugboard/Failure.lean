import Plugboard.Json.Basic
import Plugboard.Text.Quoted

/-!
How plugin code fails: by an error with its chain of causes, or by a panic. A failure that was
contained says which plugin failed in which phase, and becomes the payload of an error event.
-/
namespace Plugboard

/-- What a panic carries. -/
inductive Panic
  | owned (text : String)
  | static (text : String)
  | other
  deriving Repr, DecidableEq

def Panic.message : Panic → String
  | .owned s => s
  | .static s => s
  | .other => "Unknown panic reason"

/-- An error and the errors it came from, outermost first. -/
structure Fault where
  message : String
  causes : List String
  deriving Repr, DecidableEq

namespace Fault

def ofMessages : List String → Fault
  | [] => ⟨"", []⟩
  | m :: rest => ⟨m, rest⟩

def chain (f : Fault) : List String := f.message :: f.causes

end Fault

/-- The calls into plugin code that a panel makes. -/
inductive Phase
  | load
  | init
  | render
  | destroy
  deriving Repr, DecidableEq

namespace Phase

def name : Phase → String
  | .load => "load"
  | .init => "init"
  | .render => "render"
  | .destroy => "destroy"

def caption : Phase → String
  | .load => "Load"
  | .init => "Init"
  | .render => "Render"
  | .destroy => "Destroy"

def ofName? (s : String) : Option Phase :=
  [load, init, render, destroy].find? fun p => p.name == s

end Phase

/-- A failure of plugin code that was kept inside its panel. -/
structure Failure where
  plugin : String
  phase : Phase
  message : String
  /-- The messages of the error and its causes; empty for a panic. -/
  stack : List String
  panicked : Bool
  deriving Repr, DecidableEq

namespace Failure

def ofFault (plugin : String) (phase : Phase) (f : Fault) : Failure :=
  ⟨plugin, phase, f.message, f.chain, false⟩

def ofPanic (plugin : String) (phase : Phase) (p : Panic) : Failure :=
  ⟨plugin, phase, p.message, [], true⟩

def missingLoader (plugin : String) : Failure :=
  ⟨plugin, .load, "definition has no component loader", [], false⟩

/-- Where in the host the failure was caught. -/
def componentStack (f : Failure) : String :=
  "in " ++ f.phase.name ++ " (plugin '" ++ f.plugin ++ "')\nin PluginBoundary\nin PluginRenderer"

def display (f : Failure) : String :=
  "Plugin '" ++ f.plugin ++ "' failed during " ++ f.phase.name ++ ": " ++ f.message

/-- The payload of the error event that reports the failure. -/
def payload (f : Failure) : Json :=
  .object [("error", .string f.message), ("stack", .string ("\n".intercalate f.stack)),
    ("componentStack", .string f.componentStack), ("phase", .string f.phase.name)]

def describe (f : Failure) : String :=
  Text.record "RenderFailure" [("plugin", Text.quote f.plugin), ("phase", f.phase.caption),
    ("message", Text.quote f.message), ("stack", Text.bracketed (f.stack.map Text.quote)),
    ("component_stack", Text.quote f.componentStack), ("panicked", Text.flag f.panicked)] false

end Failure

/-- How a call into plugin code ended, when it did not panic. -/
abbrev Ending := Except Fault String

/-- Turns every way a call can end into its text or a failure of the plugin. -/
def contained (plugin : String) (phase : Phase) : Except Panic Ending → Except Failure String
  | .ok (.ok text) => .ok text
  | .ok (.error f) => .error (.ofFault plugin phase f)
  | .error p => .error (.ofPanic plugin phase p)

end Plugboard
