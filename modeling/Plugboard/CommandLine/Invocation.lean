import Plugboard.CommandLine.Grammar

/-!
The command line of this host: its commands, and the options that all of them share.
-/
namespace Plugboard.CommandLine

inductive Command
  | list (category : Option String) (sidebar core : Bool)
  | search (query : String)
  | status
  | toggle (plugin : String) (enabled : Bool)
  | settingsGet (plugin : String)
  | settingsSet (plugin : String) (assignments : List String)
  | render (plugin : String)
  | renderSettings (plugin : String)
  deriving Repr, DecidableEq

structure Invocation where
  ping : Bool
  config : Option String
  apiUrl : Option String
  token : Option String
  /-- None of them means that the host just shows itself. -/
  command : Option Command
  deriving Repr, DecidableEq

/-! ## Grammar -/

def globalOptions : List OptionSpec :=
  [⟨"verbose", some 'v', .none⟩, ⟨"config", none, .path⟩, ⟨"api-url", none, .text⟩,
   ⟨"token", none, .text⟩]

/-- A command without subcommands. -/
def leaf (name : String) (options : List OptionSpec) (positionals : Nat) (repeats : Bool) :
    Grammar :=
  .command name (options ++ globalOptions) positionals repeats [] false

/-- A command that needs a subcommand. -/
def branch (name : String) (subcommands : List Grammar) : Grammar :=
  .command name globalOptions 0 false subcommands true

def listOptions : List OptionSpec :=
  [⟨"category", none, .text⟩, ⟨"sidebar", none, .none⟩, ⟨"core", none, .none⟩]

def grammar : Grammar :=
  .command "panelhost" (⟨"ping", none, .none⟩ :: globalOptions) 0 false
    [branch "plugin" [
      leaf "list" listOptions 0 false,
      leaf "search" [] 1 false,
      leaf "status" [] 0 false,
      leaf "enable" [] 1 false,
      leaf "disable" [] 1 false,
      branch "config" [leaf "get" [] 1 false, leaf "set" [] 2 true],
      leaf "render" [] 1 false,
      leaf "settings" [] 1 false]] false

/-! ## Reading -/

/-- The command of a path of subcommands. -/
def Command.ofParsed (p : Parsed) : Option Command :=
  let has := fun name => (Table.get? name p.options).isSome
  match p.path, p.positionals with
  | ["plugin", "list"], [] =>
    some (.list (Table.get? "category" p.options) (has "sidebar") (has "core"))
  | ["plugin", "search"], [query] => some (.search query)
  | ["plugin", "status"], [] => some .status
  | ["plugin", "enable"], [plugin] => some (.toggle plugin true)
  | ["plugin", "disable"], [plugin] => some (.toggle plugin false)
  | ["plugin", "config", "get"], [plugin] => some (.settingsGet plugin)
  | ["plugin", "config", "set"], plugin :: assignments => some (.settingsSet plugin assignments)
  | ["plugin", "render"], [plugin] => some (.render plugin)
  | ["plugin", "settings"], [plugin] => some (.renderSettings plugin)
  | _, _ => none

def Invocation.ofParsed (p : Parsed) : Invocation where
  ping := (Table.get? "ping" p.options).isSome
  config := Table.get? "config" p.options
  apiUrl := Table.get? "api-url" p.options
  token := Table.get? "token" p.options
  command := Command.ofParsed p

end Plugboard.CommandLine
