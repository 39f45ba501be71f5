import Plugboard.Host.Basic
import Plugboard.Session.Call

/-!
The host at work for its sessions: requests to the backend, calls to the store, and the steps of the
calls of a session.
-/
namespace Plugboard.Host

open Http

/-- Sends a request. One that cannot be built, and one to a backend out of reach, is never seen
there. -/
def exchange (r : Request) : HostRun (Except TransportError Response) := do
  match r.build with
  | .error e => return .error e
  | .ok url => do
    if (← get).backend.reachable then
      record (.requested (r.sentTo url))
      let (reply, backend) := (← get).backend.next
      modify fun h => { h with backend := backend }
      return reply.received url
    else return .error (.unsent url.text .unreachable)

/-! ## The store -/

def rejection (operation : String) (status : Nat) : String :=
  "Backend rejected '" ++ operation ++ "' with status " ++ statusLine status

/-- Asks the backend something for the store. -/
def ask {α : Type} (operation : String) (read : Written → Option α) (r : Request) :
    HostRun (Except StorageError α) := do
  let answer ← exchange r
  if let .ok response := answer then
    if !response.isSuccess then log .warn (rejection operation response.status)
  return RemoteStore.readResponse operation read answer

def fetch (token : String) : HostRun (Except StorageError (List Entry)) := do
  record (.stored (.fetch token))
  let h ← get
  match h.store with
  | .memory m => do
    let (result, m) := m.fetch token
    set { h with store := .memory m }
    return result
  | .remote =>
    ask StoreCall.fetchOperation Entry.listOfWritten? (RemoteStore.fetchRequest h.config token)

def write (token : String) (w : Write) : HostRun (Except StorageError Entry) := do
  record (.stored (.write token w))
  let h ← get
  match h.store with
  | .memory m => do
    let (result, m) := m.write token w
    set { h with store := .memory m }
    return result
  | .remote =>
    match RemoteStore.writeRequest h.config token w with
    | .error e => return .error e
    | .ok r => ask w.operation Entry.ofWritten? r

/-! ## Sessions -/

/-- A session by its number. -/
def sessionAt (h : Host) (id : Nat) : Session := h.sessions.getD id (.new none)

def session (id : Nat) : HostRun Session := return (← get).sessionAt id

def setSession (id : Nat) (s : Session) : HostRun Unit :=
  modify fun h => { h with sessions := h.sessions.set id s }

def changeSession (id : Nat) (f : Session → Session) : HostRun Unit := do
  setSession id (f (← session id))

/-- Adds a session that has not loaded anything yet. -/
def addSession (token : Option String) : HostRun Nat := do
  let h ← get
  set { h with sessions := h.sessions ++ [Session.new token] }
  return h.sessions.length

def nameSession (label : String) (id : Nat) : HostRun Unit :=
  modify fun h => { h with sessionLabels := Table.put label id h.sessionLabels }

def sessionLabelled? (label : String) : HostRun (Option Nat) :=
  return Table.get? label (← get).sessionLabels

def view (id : Nat) : HostRun SessionView := do
  return (← session id).view (← get).registry

/-! ## Calls of a session -/

/-- The first step of a call, up to its first call to the store. -/
def beginCall (id : Nat) (call : SessionCall) : HostRun Progress := do
  let (progress, s) := (← session id).begin call
  setSession id s
  return progress

/-- The fetch of a refresh. -/
def finishRefresh (id : Nat) (r : Refresh) : HostRun Unit := do
  let result ← fetch r.token
  let s ← session id
  setSession id (s.finishRefresh r result)
  if s.awaits r then
    if let .error e := result then log .error (Session.failureText e)

/-- A write, the event that tells of it, and the start of the refresh after it. -/
def finishWrite (play : Player) (id : Nat) (token : String) (w : Write) :
    HostRun (Except SessionError (Option Refresh)) := do
  match ← write token w with
  | .error e => return .error (.storage e)
  | .ok written => do
    let _ ← emit play w.event
    let (r, s) := (← session id).afterWrite token written
    setSession id s
    return .ok r

/-- Lets the store call happen that a call waits for, and goes on to the next one. -/
def resumeCall (play : Player) (id : Nat) : Waiting → HostRun Progress
  | .fetch r outcome => do
    finishRefresh id r
    return .finished (.ok outcome)
  | .write token w => do
    match ← finishWrite play id token w with
    | .error e => return .finished (.error e)
    | .ok none => return .finished (.ok w.outcome)
    | .ok (some r) => return .waiting (.fetch r w.outcome)

/-- Takes a waiting call to its end. -/
def settle (play : Player) (id : Nat) : Waiting → HostRun (Except SessionError Outcome)
  | .fetch r outcome => do
    finishRefresh id r
    return .ok outcome
  | .write token w => do
    match ← finishWrite play id token w with
    | .error e => return .error e
    | .ok r => do
      if let some r := r then finishRefresh id r
      return .ok w.outcome

/-- A whole call without a pause. -/
def call (play : Player) (id : Nat) (c : SessionCall) : HostRun (Except SessionError Outcome) := do
  match ← beginCall id c with
  | .finished result => return result
  | .waiting w => settle play id w

def refresh (play : Player) (id : Nat) : HostRun Unit := do
  let _ ← call play id .refresh

/-- Puts changes over the settings of a plugin; hands back what was written. -/
def update (play : Player) (id : Nat) (plugin : String) (changes : Settings) :
    HostRun (Except SessionError Settings) := do
  return (← call play id (.update plugin changes)).map Outcome.settings

/-! ## Contexts -/

/-- What a plugin instance is handed that is made now. -/
def context (id : Nat) (plugin : String) : HostRun Context := do
  return (← session id).context id plugin

def apiRejection (plugin url : String) (status : Nat) : String :=
  "Plugin '" ++ plugin ++ "' API call to " ++ url ++ " returned " ++ statusLine status

/-- A call to the backend with the token that the context was made with. -/
def callApi (c : Context) (endpoint : String) (r : ApiRequest) :
    HostRun (Except SessionError Json) := do
  match c.token with
  | none => return .error .notAuthenticated
  | some token => do
    let request := r.request (← get).config c.plugin token endpoint
    let answer ← exchange request
    if let .ok response := answer then
      if !response.isSuccess then
        log .warn (apiRejection c.plugin request.url response.status)
    return ApiRequest.readResponse request.url answer

/-! ## Diagnostics -/

def describe (h : Host) : String :=
  Text.record "DashboardHost" [("plugins", toString h.registry.size),
    ("store", Text.quote h.store.name), ("api_base_url", Text.quote h.config.baseUrl)] false

def describeRegistry (h : Host) : String :=
  Text.record "PluginRegistry" [("plugins", Text.bracketed (h.registry.order.map Text.quote)),
    ("duplicate_policy", h.registry.policy.caption), ("events", h.bus.describe)] false

end Plugboard.Host
