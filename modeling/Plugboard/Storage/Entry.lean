import Plugboard.Json.Record

/-!
Entries: what a store keeps about one plugin for one user. The name in an entry need not be the name
of an installed plugin.
-/
namespace Plugboard

structure Entry where
  plugin : String
  enabled : Bool
  settings : Settings
  core : Bool
  deriving DecidableEq

namespace Entry

def new (plugin : String) (enabled : Bool) : Entry := ⟨plugin, enabled, .empty, false⟩

def toJson (e : Entry) : Json :=
  .object [("plugin_name", .string e.plugin), ("enabled", .bool e.enabled),
    ("config", Json.ofSettings e.settings), ("is_core", .bool e.core)]

def ofWritten? (w : Written) : Option Entry := do
  match ← Json.fields? ["plugin_name", "enabled", "config", "is_core"] w with
  | [plugin, enabled, settings, core] =>
    let plugin ← Json.requiredField Json.text? plugin
    let enabled ← Json.requiredField Json.truth? enabled
    let settings ← Json.optionalField Json.settings? .empty settings
    let core ← Json.optionalField Json.truth? false core
    some ⟨plugin, enabled, settings, core⟩
  | _ => none

def listOfWritten? : Written → Option (List Entry)
  | .array items => items.mapM ofWritten?
  | _ => none

end Entry

end Plugboard
