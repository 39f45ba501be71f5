import Plugboard.CommandLine.Command
import Plugboard.Config.Format
import Plugboard.Core.Chat
import Plugboard.Core.Drive

/-!
A run of the host from its command line: what it prints, and the code it exits with.
-/
namespace Plugboard.CommandLine

/-- What a run can see around it. -/
structure Surroundings where
  environment : String → Option String
  bytesAt : String → Except FileError (List Nat)
  backend : Http.Backend

/-- What a run leaves behind. -/
structure Report where
  code : Nat
  out : List String
  err : List String
  journal : List Happening

def Report.quiet (code : Nat) : Report := ⟨code, [], [], []⟩

def programName : String := "panelhost"

def appName : String := "Panelhost"

def version : String := "0.1.0"

def errorLine (e : HostError) : String := "Error: " ++ e.message

/-- Defaults, then the file, then the environment, then the options. -/
def loadConfig (around : Surroundings) (i : Invocation) : Except StorageError HostConfig := do
  let base ← match i.config with
    | some path => HostConfig.load around.bytesAt path
    | none => .ok .default
  let c := base.withEnvironment around.environment
  return { c with baseUrl := i.apiUrl.getD c.baseUrl, token := i.token.or c.token }

/-- The configuration of the host, which has to be a proper one. -/
def hostConfig (around : Surroundings) (i : Invocation) : Except StorageError HostConfig := do
  let c ← loadConfig around i
  match c.check with
  | .error fault => .error (.invalidConfig fault)
  | .ok () => .ok c

/-- Registers the plugins that every host has. -/
def registerCore : HostRun Unit := do
  let _ ← Host.register Chat.definition
  let _ ← Host.register Drive.definition

/-- What a host says of itself when it is asked for nothing. -/
def summary : List String :=
  [appName ++ " v" ++ version ++ ": " ++ toString [Chat.definition, Drive.definition].length ++
    " plugins registered.",
   "Run `" ++ programName ++ " plugin --help` for available commands."]

/-- Runs a command on a fresh host with the core plugins. -/
def runCommand (around : Surroundings) (c : HostConfig) (command : Command) : Report :=
  let host := Host.new c .ignore .remote around.backend
  let run : HostRun Printed := do
    registerCore
    command.run (Host.server Host.usualDepth)
  match Run.start run host with
  | none => .quiet 101
  | some (.error p, h) => ⟨101, [], [p.message], h.journal⟩
  | some (.ok printed, h) =>
    match printed.error with
    | none => ⟨0, printed.out, printed.err, h.journal⟩
    | some e => ⟨1, printed.out, printed.err ++ [errorLine e], h.journal⟩

def runInvocation (around : Surroundings) (i : Invocation) : Report :=
  if i.ping then ⟨0, ["pong"], [], []⟩
  else
    match i.command with
    | none => ⟨0, summary, [], []⟩
    | some command =>
      match hostConfig around i with
      | .error e => ⟨1, [], [errorLine (.storage e)], []⟩
      | .ok c => runCommand around c command

def usage : String := "Usage: " ++ programName ++ " [OPTIONS] [COMMAND]"

/-- A whole run for some arguments. -/
def run (around : Surroundings) (args : List String) : Report :=
  match grammar.read args with
  | .help => ⟨0, [usage], [], []⟩
  | .version => ⟨0, [programName ++ " " ++ version], [], []⟩
  | .usageError => ⟨2, [], [usage], []⟩
  | .parsed p => runInvocation around (Invocation.ofParsed p)

/-- The file that a run will want to read, if its arguments name one. -/
def wantedFile (args : List String) : Option String :=
  match grammar.read args with
  | .parsed p => (Invocation.ofParsed p).config
  | _ => none

end Plugboard.CommandLine
