import Plugboard.Plugin.Category
import Plugboard.Plugin.Schema

/-!
Plugin definitions: what a plugin says about itself, and the code it brings. The kind of code is a
parameter here; definitions of this library use `Code`.
-/
namespace Plugboard

/-- A place in a plugin's own navigation. -/
structure Route where
  path : String
  label : String
  deriving Repr, DecidableEq

def Route.ofWritten? (w : Written) : Option Route := do
  match ← Json.fields? ["path", "label"] w with
  | [path, label] =>
    let path ← Json.requiredField Json.text? path
    let label ← Json.requiredField Json.text? label
    some ⟨path, label⟩
  | _ => none

/-- Whether and where a plugin shows up in the sidebar. -/
structure Sidebar where
  shown : Bool
  icon : Option String
  label : Option String
  order : Option Int
  deriving Repr, DecidableEq

namespace Sidebar

def hidden : Sidebar := ⟨false, none, none, none⟩

/-- A plugin without an order of its own comes at 99. -/
def effectiveOrder (s : Sidebar) : Int := s.order.getD 99

def describe (s : Sidebar) : String :=
  Text.record "SidebarPlacement" [("show_in_sidebar", Text.flag s.shown),
    ("icon", Text.optional (s.icon.map Text.quote)),
    ("label", Text.optional (s.label.map Text.quote)),
    ("order", Text.optional (s.order.map toString))] false

end Sidebar

/-- What a plugin instance is handed: its name, its settings and the token as they were when it was
made, and the session that it acts in. -/
structure Context where
  plugin : String
  settings : Settings
  token : Option String
  session : Nat
  deriving DecidableEq

def Context.describe (c : Context) : String :=
  let entries := c.settings.entries.map fun e => Text.quote e.1 ++ ": " ++ Text.quote e.2
  Text.record "PluginContext" [("plugin_name", Text.quote c.plugin),
    ("config", "\x7b" ++ ", ".intercalate entries ++ "\x7d"),
    ("has_token", Text.flag c.token.isSome)] true

/-- A component: the code that loads it, and what it renders for a context. -/
structure Component (Code : Type) where
  load : Code
  render : Context → Code

structure Definition (Code : Type) where
  name : String
  displayName : String
  description : String
  version : String
  author : String
  tags : List String
  core : Bool
  category : Category
  routes : List Route
  schema : Option Schema
  sidebar : Sidebar
  panel : Option (Component Code)
  settings : Option (Component Code)
  init : Option (Context → Code)
  destroy : Option Code

namespace Definition

/-- A definition with a name and nothing else. -/
def plain {Code : Type} (name displayName : String) : Definition Code where
  name := name
  displayName := displayName
  description := ""
  version := "0.1.0"
  author := ""
  tags := []
  core := false
  category := .other
  routes := []
  schema := none
  sidebar := .hidden
  panel := none
  settings := none
  init := none
  destroy := none

/-- What keeps a definition from being registered; the name is looked at first. -/
def check {Code : Type} (d : Definition Code) : Except PluginError Unit :=
  match PluginName.check d.name with
  | .error e => .error e
  | .ok () =>
    if Text.allBlank d.displayName then .error (.invalidDefinition d.name .missingDisplayName)
    else if d.panel.isNone then .error (.invalidDefinition d.name .missingComponentLoader)
    else .ok ()

/-- The texts that a search looks at. -/
def searchTexts {Code : Type} (d : Definition Code) : List String :=
  d.name :: d.displayName :: d.description :: d.tags

/-- Whether the query, in lower case, occurs in one of the texts in lower case. -/
def isMatch {Code : Type} (d : Definition Code) (query : String) : Bool :=
  d.searchTexts.any fun t => Text.occursIn (Text.lowerChars query.toList) (Text.lowerChars t.toList)

def sidebarLabel {Code : Type} (d : Definition Code) : String :=
  d.sidebar.label.getD d.displayName

def describe {Code : Type} (d : Definition Code) : String :=
  Text.record "PluginDefinition" [("name", Text.quote d.name),
    ("display_name", Text.quote d.displayName), ("version", Text.quote d.version),
    ("is_core", Text.flag d.core), ("category", d.category.caption),
    ("has_component", Text.flag d.panel.isSome),
    ("has_settings_component", Text.flag d.settings.isSome),
    ("has_on_init", Text.flag d.init.isSome), ("has_on_destroy", Text.flag d.destroy.isSome),
    ("sidebar", d.sidebar.describe)] true

end Definition
end Plugboard
