import Plugboard.Registry
import Plugboard.Storage.Call

/-!
Sessions: what the host knows about one user between calls to the store. A refresh is numbered, and
only the newest one may change the session; what belongs to another token, or comes after the
session was detached, is dropped.
-/
namespace Plugboard

structure Session where
  token : Option String
  entries : List Entry
  loading : Bool
  error : Option String
  detached : Bool
  /-- The number of the newest refresh. It has 64 bits and is taken not to wrap. -/
  refreshes : Nat
  deriving DecidableEq

/-- A refresh on its way: the token it was made with, and its number. -/
structure Refresh where
  token : String
  number : Nat
  deriving DecidableEq

namespace Session

/-- A session in which nothing has happened. -/
def new (token : Option String) : Session := ⟨token, [], false, none, false, 0⟩

/-- Logs in or out. Another token leaves nothing of the user before. -/
def setToken (s : Session) (token : Option String) : Session :=
  if s.token = token then s
  else { s with
    token := token, entries := [], loading := false, error := none, refreshes := s.refreshes + 1 }

def detach (s : Session) : Session := { s with detached := true }

/-! ## Refreshes -/

/-- Without a token, and after it was detached, a session does not refresh. -/
def startRefresh (s : Session) : Option Refresh × Session :=
  match s.token with
  | none => (none, s)
  | some token =>
    if s.detached then (none, s)
    else (some ⟨token, s.refreshes + 1⟩,
      { s with loading := true, refreshes := s.refreshes + 1 })

/-- Whether the session still waits for this refresh. -/
def awaits (s : Session) (r : Refresh) : Bool :=
  !s.detached && s.refreshes == r.number && s.token == some r.token

def failureText (e : StorageError) : String := "Failed to load plugins: " ++ e.message

/-- A failed refresh keeps the entries. -/
def finishRefresh (s : Session) (r : Refresh) (result : Except StorageError (List Entry)) :
    Session :=
  if s.awaits r then
    match result with
    | .ok entries => { s with loading := false, entries := entries, error := none }
    | .error e => { s with loading := false, error := some (failureText e) }
  else s

/-! ## Writes -/

/-- Puts an entry in the place of the first one for its plugin, or last. -/
def putEntry (e : Entry) : List Entry → List Entry
  | [] => [e]
  | a :: rest => if a.plugin = e.plugin then e :: rest else a :: putEntry e rest

/-- Takes over an entry that the store has just written for a token. -/
def applyWritten (s : Session) (token : String) (e : Entry) : Session :=
  if !s.detached && s.token == some token then { s with entries := putEntry e s.entries } else s

/-! ## Views -/

/-- The settings of the first entry for a plugin. -/
def settingsOf (s : Session) (plugin : String) : Settings :=
  ((s.entries.find? fun e => e.plugin == plugin).map (·.settings)).getD .empty

def isEnabled (s : Session) (plugin : String) : Bool :=
  s.token.isSome && s.entries.any fun e => e.plugin == plugin && e.enabled

/-- The installed plugins that have an enabled entry, in the order of the entries. -/
def enabledPlugins {Code : Type} (s : Session) (r : Registry Code) : List (Installed Code) :=
  r.byNames ((s.entries.filter (·.enabled)).map (·.plugin))

/-- All installed plugins, each with whether it is enabled. -/
def availablePlugins {Code : Type} (s : Session) (r : Registry Code) :
    List (Installed Code × Bool) :=
  r.plugins.map fun p => (p, s.isEnabled p.name)

/-- What a plugin instance is handed that is made now. -/
def context (s : Session) (id : Nat) (plugin : String) : Context :=
  ⟨plugin, s.settingsOf plugin, s.token, id⟩

def describe (s : Session) (store : String) : String :=
  Text.record "PluginProvider" [("store", Text.quote store),
    ("authenticated", Text.flag s.token.isSome),
    ("user_plugins", toString s.entries.length), ("loading", Text.flag s.loading),
    ("error", Text.optional (s.error.map Text.quote)), ("detached", Text.flag s.detached)] false

end Session

/-- What can be seen of a session from outside, together with the plugins installed at the time. -/
structure SessionView where
  token : Option String
  entries : List Entry
  enabled : List String
  available : List (String × Bool)
  loading : Bool
  error : Option String
  detached : Bool
  registered : Nat
  deriving DecidableEq

def Session.view {Code : Type} (s : Session) (r : Registry Code) : SessionView where
  token := s.token
  entries := s.entries
  enabled := (s.enabledPlugins r).map Installed.name
  available := (s.availablePlugins r).map fun p => (p.1.name, p.2)
  loading := s.loading
  error := s.error
  detached := s.detached
  registered := r.size

end Plugboard
