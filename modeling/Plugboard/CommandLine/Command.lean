import Plugboard.CommandLine.Invocation
import Plugboard.Host.Error
import Plugboard.Panel.Lifecycle

/-!
The commands at work on a host. A command prints lines, and may end with an error after them. Those
that need the user's plugins open a session first and give up when it does not load.
-/
namespace Plugboard.CommandLine

/-- What a command has printed, and the error it ended with. -/
structure Printed where
  out : List String
  err : List String
  error : Option HostError

namespace Printed

def lines (out : List String) : Printed := ⟨out, [], none⟩

def failure (e : HostError) : Printed := ⟨[], [], some e⟩

end Printed

/-! ## Plugins of the host -/

/-- A line about a plugin. -/
def describe (d : Definition Code) : String :=
  "  - " ++ d.name ++ " (" ++ d.displayName ++ ") v" ++ d.version ++
    " [" ++ d.category.name ++ "]" ++
    (if d.core then " core" else "") ++
    (if d.sidebar.shown then " sidebar:" ++ toString d.sidebar.effectiveOrder else "")

def describeAll (plugins : List (Installed Code)) : List String :=
  if plugins.isEmpty then ["  No plugins found."]
  else plugins.map fun p => describe p.definition

/-- The plugins of a category, or all of them. -/
def ofCategory (c : Option Category) (p : Installed Code) : Bool :=
  match c with
  | none => true
  | some c => p.definition.category == c

def list (r : Registry Code) (category : Option String) (sidebar core : Bool) : Printed :=
  match category.mapM Category.parse with
  | .error e => .failure (.plugin e)
  | .ok c =>
    let base := if sidebar then r.sidebar else r.plugins
    let shown := base.filter fun p => ofCategory c p && (!core || p.definition.core)
    .lines ("Registered plugins:" :: describeAll shown)

def search (r : Registry Code) (query : String) : Printed :=
  .lines (("Plugins matching '" ++ query ++ "':") :: describeAll (r.search query))

/-! ## Sessions -/

def missingToken : String := "No session token: pass --token or set PANELHOST_TOKEN"

/-- Opens the session of the host's token. -/
def openSession (play : Player) : HostRun (Except HostError Nat) := do
  match (← get).config.token with
  | none => return .error (.other missingToken)
  | some token => do
    let id ← Host.addSession (some token)
    Host.refresh play id
    match (← Host.session id).error with
    | some message => return .error (.other message)
    | none => return .ok id

def withSession (play : Player) (act : Nat → HostRun Printed) : HostRun Printed := do
  match ← openSession play with
  | .error e => return .failure e
  | .ok id => act id

def withPlugin (plugin : String) (act : Installed Code → HostRun Printed) : HostRun Printed := do
  match (← get).registry.get? plugin with
  | none => return .failure (.plugin (.notRegistered plugin))
  | some p => act p

def enabledWord (enabled : Bool) : String := if enabled then "Enabled" else "Disabled"

/-- The lines about the plugins of a session; entries without a plugin come last. -/
def statusLines (s : Session) (r : Registry Code) : List String :=
  (s.availablePlugins r).map (fun p => "  - " ++ p.1.name ++ ": " ++ enabledWord p.2) ++
    (s.entries.filter fun e => !r.contains e.plugin).map fun e =>
      "  - " ++ e.plugin ++ ": " ++ enabledWord e.enabled ++ " (not installed on this host)"

def status (play : Player) : HostRun Printed := withSession play fun id => do
  return .lines ("Plugin status:" :: statusLines (← Host.session id) (← get).registry)

def toggle (play : Player) (plugin : String) (enabled : Bool) : HostRun Printed :=
  withPlugin plugin fun _ => withSession play fun id => do
    match ← Host.call play id (.toggle plugin enabled) with
    | .error e => return .failure (.session e)
    | .ok _ =>
      let word := if enabled then "enabled" else "disabled"
      return .lines ["Plugin '" ++ plugin ++ "' " ++ word ++ "."]

/-! ## Settings of a plugin -/

def masked : String := "********"

/-- How a value is shown: a secret that is not empty stays hidden. -/
def maskedValue (type : FieldType) (value : String) : String :=
  if type = .secret && !value.isEmpty then masked else value

/-- The line about one field of a schema. -/
def fieldLine (s : Settings) (key : String) (f : Field) : String :=
  match s.get? key, f.default with
  | some value, _ => "  " ++ key ++ " = " ++ maskedValue f.type value
  | none, some value => "  " ++ key ++ " = " ++ maskedValue f.type value ++ " (default)"
  | none, none => "  " ++ key ++ " is unset"

/-- The lines about some settings: the fields of the schema first, then all other keys. -/
def settingsLines (schema : Option Schema) (s : Settings) : List String :=
  match schema with
  | none =>
    if s.entries.isEmpty then ["  (empty)"]
    else s.entries.map fun e => "  " ++ e.1 ++ " = " ++ e.2
  | some schema =>
    schema.fields.map (fun p => fieldLine s p.1 p.2) ++
      (s.entries.filter fun e => (schema.get? e.1).isNone).map fun e =>
        "  " ++ e.1 ++ " = " ++ e.2 ++ " (not in schema)"

def settingsGet (play : Player) (plugin : String) : HostRun Printed :=
  withPlugin plugin fun p => withSession play fun id => do
    let s := (← Host.session id).settingsOf plugin
    return .lines (("Config for '" ++ plugin ++ "':") :: settingsLines p.definition.schema s)

/-- A key and its value around the first equals sign; blanks around the key do not count. -/
def parseAssignment (raw : String) : Except HostError (String × String) :=
  let key := raw.toList.takeWhile (· != '=')
  match raw.toList.dropWhile (· != '=') with
  | _ :: value =>
    if key.all Text.isBlank then .error (.other ("Expected KEY=VALUE, got '" ++ raw ++ "'"))
    else .ok (String.ofList (Text.trimChars key), String.ofList value)
  | [] => .error (.other ("Expected KEY=VALUE, got '" ++ raw ++ "'"))

def parseAssignments (raw : List String) : Except HostError Settings :=
  (raw.mapM parseAssignment).map Settings.ofList

def invalidCount (n : Nat) (plugin : String) : String :=
  toString n ++ " invalid config value(s) for plugin '" ++ plugin ++ "'"

/-- Writes settings that the schema accepts as they will be after the update. -/
def settingsSet (play : Player) (plugin : String) (raw : List String) : HostRun Printed :=
  withPlugin plugin fun p =>
    match parseAssignments raw with
    | .error e => return .failure e
    | .ok changes => withSession play fun id => do
      let merged := ((← Host.session id).settingsOf plugin).overlay changes
      let violations := (p.definition.schema.getD .empty).violations merged
      if violations.isEmpty then
        match ← Host.update play id plugin changes with
        | .error e => return .failure (.session e)
        | .ok updated =>
          return .lines ["Updated config for '" ++ plugin ++ "' (" ++
            toString updated.entries.length ++ " keys)."]
      else
        return ⟨[], violations.map fun v => "  " ++ v.message,
          some (.other (invalidCount violations.length plugin))⟩

/-! ## Rendering -/

/-- The error that a rendered panel ends the command with. -/
def renderError (r : Registry Code) (p : Panel) (v : View) : Option HostError :=
  match p.failure, v with
  | some f, _ => some (.render f)
  | none, .notFound plugin _ =>
    if r.contains plugin then none else some (.plugin (.notRegistered plugin))
  | none, _ => none

/-- Mounts a panel and renders it. -/
def mountAndRender (serve : Server Host) : PanelRun View := do
  let _ ← Panel.mount serve
  Panel.render serve

/-- Shows a panel once and takes it out of use before anything is printed. -/
def renderOnce (serve : Server Host) (surface : Surface) (plugin : String) (id : Nat) :
    HostRun Printed := do
  let p ← Panel.create surface id plugin
  let (result, p) ← Run.beside (mountAndRender serve) p
  Panel.drop serve p
  let v ← Run.resume result
  return ⟨[v.text], [], renderError (← get).registry p v⟩

def render (serve : Server Host) (surface : Surface) (plugin : String) : HostRun Printed :=
  let play := Code.run serve
  match surface with
  | .main => withSession play (renderOnce serve .main plugin)
  | .settings => withPlugin plugin fun _ => withSession play (renderOnce serve .settings plugin)

/-! ## All commands -/

def Command.run (serve : Server Host) (c : Command) : HostRun Printed :=
  let play := Code.run serve
  match c with
  | .list category sidebar core => return CommandLine.list (← get).registry category sidebar core
  | .search query => return CommandLine.search (← get).registry query
  | .status => CommandLine.status play
  | .toggle plugin enabled => CommandLine.toggle play plugin enabled
  | .settingsGet plugin => CommandLine.settingsGet play plugin
  | .settingsSet plugin raw => CommandLine.settingsSet play plugin raw
  | .render plugin => CommandLine.render serve .main plugin
  | .renderSettings plugin => CommandLine.render serve .settings plugin

end Plugboard.CommandLine
