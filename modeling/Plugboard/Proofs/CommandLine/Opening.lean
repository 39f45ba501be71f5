import Plugboard.CommandLine.Command
import Plugboard.Core.Drive
import Plugboard.Proofs.Session.Calls

/-!
How a command opens the session of the host's token: one session more, one fetch, and nothing else
but log lines. The command goes on only if the store has answered with entries.

* `Host.opening`: the host whose new session waits for its entries.
* `Opened`: what the opening of a session comes to, by the answer of the store.
* `openSession_cases`: there is no token, or a session is opened.
-/
namespace Plugboard

open Run

/-- A new session that waits for its entries. -/
def Session.opening (token : String) : Session :=
  { Session.new (some token) with loading := true, refreshes := 1 }

/-- A new session that has the answer of the store. -/
def Session.opened (token : String) (answer : Except StorageError (List Entry)) : Session :=
  (Session.opening token).finishRefresh ⟨token, 1⟩ answer

namespace Session

theorem awaits_opening (token : String) : (opening token).awaits ⟨token, 1⟩ = true :=
  awaits_iff.mpr ⟨rfl, rfl, rfl⟩

theorem token_opened (token : String) (answer : Except StorageError (List Entry)) :
    (opened token answer).token = some token := token_finishRefresh _ _ _

theorem error_opened (token : String) (answer : Except StorageError (List Entry)) :
    (opened token answer).error = match answer with
      | .ok _ => none
      | .error e => some (failureText e) := by
  rw [opened, finishRefresh_of_awaited (awaits_opening token)]
  cases answer <;> rfl

theorem settingsOf_opened (token : String) (l : List Entry) (plugin : String) :
    (opened token (.ok l)).settingsOf plugin = settingsIn l plugin := by
  rw [settingsOf_eq, opened, entries_finishRefresh (awaits_opening token)]

end Session

/-- The host with a new session that waits for its entries. -/
def Host.opening (token : String) (h : Host) : Host :=
  { h with sessions := h.sessions ++ [.opening token] }

namespace CommandLine

/-- The newest session of the host has the answer that the store has given to its fetch. -/
structure Opened (token : String) (answer : Except StorageError (List Entry)) (h h' : Host) :
    Prop where
  asked : ∃ g, start (Host.fetch token) (h.opening token) = some (.ok answer, g)
  session : h'.sessionAt h.sessions.length = .opened token answer
  registry : h'.registry = h.registry
  journal : ∃ talk, h'.journal = h.journal ++ .stored (.fetch token) :: talk ∧
    ∀ x ∈ talk, x.IsTalk

/-- The entries that the store has for the token, or what the command says of the failure. -/
def openedResult (id : Nat) : Except StorageError (List Entry) → Except HostError Nat
  | .ok _ => .ok id
  | .error e => .error (.other (Session.failureText e))

section
variable (play : Player) {h : Host}

theorem start_openSession_of_none (hc : h.config.token = none) :
    start (openSession play) h = some (.ok (.error (.other missingToken)), h) := by
  simp [openSession, start_bind, hc]

theorem start_openSession {token : String} (hc : h.config.token = some token) :
    ∃ answer h', Opened token answer h h' ∧
      start (openSession play) h = some (.ok (openedResult h.sessions.length answer), h') := by
  let id := h.sessions.length
  let added : Host := { h with sessions := h.sessions ++ [Session.new (some token)] }
  have hadd : start (Host.addSession (some token)) h = some (.ok id, added) := rfl
  have hnew : added.sessionAt id = Session.new (some token) := by
    simp [added, id, Host.sessionAt]
  have hopening : added.withSession id (added.sessionAt id).startRefresh.2 = h.opening token := by
    rw [hnew]
    simp [added, id, Host.withSession, Host.opening, Session.startRefresh, Session.new,
      Session.opening]
  obtain ⟨answer, g, hfetch, hasked⟩ := Host.fetch_answers token (h.opening token)
  have hlogin : (added.sessionAt id).token = some token := by
    rw [hnew]
    rfl
  have hcall := Host.call_start_of_refresh play id hlogin (by rw [hnew]; rfl)
    (hopening.symm ▸ hfetch)
  have hrefresh : start (Host.refresh play id) added =
      some (.ok ⟨⟩, g.refreshed id ⟨token, 1⟩ answer) := by
    rw [Host.refresh, start_bind, hcall, hnew]
    rfl
  have hbefore : g.sessionAt id = .opening token := by
    rw [Host.sessionAt, hasked.sessions]
    simp [Host.opening, id]
  have hsession : (g.refreshed id ⟨token, 1⟩ answer).sessionAt id = .opened token answer := by
    have hwaiting : (g.sessionAt id).token = some token := by
      rw [hbefore]
      rfl
    rw [Host.sessionAt_refreshed hwaiting, hbefore]
    rfl
  obtain ⟨talk, hjournal, htalk⟩ := hasked.journal
  have hregistry : g.registry = h.registry := by
    rw [hasked.rest]
    rfl
  refine ⟨answer, g.refreshed id ⟨token, 1⟩ answer, ⟨⟨g, hfetch⟩, hsession, hregistry, ?_⟩, ?_⟩
  · refine ⟨talk ++ Host.complaint (g.sessionAt id) ⟨token, 1⟩ answer, ?_, ?_⟩
    · change g.journal ++ _ = _
      rw [hjournal, List.append_assoc, List.cons_append]
      rfl
    · exact List.forall_mem_append.mpr ⟨htalk, Host.talk_complaint _ _ _⟩
  · have hlast : start (Host.session id) (g.refreshed id ⟨token, 1⟩ answer) =
        some (.ok (.opened token answer), g.refreshed id ⟨token, 1⟩ answer) := by
      rw [← hsession]
      rfl
    simp only [openSession, start_bind, start_get, hc, hadd, hrefresh, hlast,
      Session.error_opened]
    cases answer <;> rfl

/-- There is no token, and nothing happens; or a session is opened. -/
theorem openSession_cases (h : Host) :
    (h.config.token = none ∧
      start (openSession play) h = some (.ok (.error (.other missingToken)), h)) ∨
    ∃ token answer h', h.config.token = some token ∧ Opened token answer h h' ∧
      start (openSession play) h = some (.ok (openedResult h.sessions.length answer), h') := by
  cases hc : h.config.token with
  | none => exact .inl ⟨rfl, start_openSession_of_none play hc⟩
  | some token =>
    obtain ⟨answer, h', hopened, e⟩ := start_openSession play hc
    exact .inr ⟨token, answer, h', rfl, hopened, e⟩

end

/-! ## What comes before the work of a command -/

section
variable {play : Player} {plugin : String} {h : Host}

theorem start_withPlugin_of_none (hr : h.registry.get? plugin = none)
    (act : Installed Code → HostRun Printed) :
    start (withPlugin plugin act) h =
      some (.ok (.failure (.plugin (.notRegistered plugin))), h) := by
  simp [withPlugin, start_bind, hr]

theorem start_withPlugin {p : Installed Code} (hr : h.registry.get? plugin = some p)
    (act : Installed Code → HostRun Printed) : start (withPlugin plugin act) h = start (act p) h := by
  simp [withPlugin, start_bind, hr]

theorem start_withSession_of_error {e : HostError} {h' : Host}
    (ho : start (openSession play) h = some (.ok (.error e), h')) (act : Nat → HostRun Printed) :
    start (withSession play act) h = some (.ok (.failure e), h') := by
  simp [withSession, start_bind, ho]

theorem start_withSession {id : Nat} {h' : Host}
    (ho : start (openSession play) h = some (.ok (.ok id), h')) (act : Nat → HostRun Printed) :
    start (withSession play act) h = start (act id) h' := by
  simp [withSession, start_bind, ho]

end

/-- A host with the drive, for a user with these entries. -/
def driveHost (l : List Entry) : Host :=
  { Host.new { HostConfig.default with token := some "ada" } .ignore
      (.memory (MemoryStore.empty.seed "ada" l)) .unreachable with
    registry := ((Registry.empty .ignore).install ⟨Drive.definition, 1⟩ rfl).2 }

end CommandLine
end Plugboard
