import Plugboard.Proofs.Journal
import Plugboard.Proofs.Session.Basic
import Plugboard.Proofs.Session.Traffic

/-!
The calls of a session as equations on hosts. A store always answers, so a call to it, the fetch of
a refresh, and all of a call but the delivery of its event come to an end.

* `Talked`, `Asked`: what is left behind by requests to the backend, and by a call to a store.
* `fetch_answers`, `write_answers`: a store answers every call. `callApi_answers`: so is every call
  answered that a plugin makes to the backend.
* `finishRefresh_start`: the host after the fetch of a refresh.
* `settle_start_of_refused`, `settle_start_of_written`: what a write comes to.
* `settle_eq`: a call without a pause takes the steps that it takes with pauses.
-/
namespace Plugboard

open Run

/-- A run that is never given up and never panics has a result. -/
theorem Run.Within.answers {σ α : Type} {m : Run σ α} (h : Within False False m) (s : σ) :
    ∃ a t, start m s = some (.ok a, t) := by
  obtain ⟨hnone, hpanic⟩ := h s
  match e : start m s with
  | none => exact (hnone e).elim
  | some (.error p, t) => exact (hpanic p t e).elim
  | some (.ok a, t) => exact ⟨a, t, rfl⟩

/-- Requests to the backend, and log lines. -/
def Happening.IsTalk : Happening → Prop
  | .requested _ | .logged _ _ => True
  | _ => False

namespace Host

/-! ## Calls to a store -/

/-- Between two hosts there was nothing but talk. -/
structure Talked (h h' : Host) : Prop where
  rest : h' = { h with backend := h'.backend, journal := h'.journal }
  journal : ∃ talk, h'.journal = h.journal ++ talk ∧ ∀ x ∈ talk, x.IsTalk

instance : Std.Refl Talked := ⟨fun h => ⟨rfl, [], (List.append_nil _).symm, by simp⟩⟩

instance : IsTrans Host Talked where
  trans h₁ h₂ h₃ := by
    rintro ⟨hrest, talk, hjournal, htalk⟩ ⟨hrest', talk', hjournal', htalk'⟩
    refine ⟨by rw [hrest', hrest], talk ++ talk', ?_, ?_⟩
    · rw [hjournal', hjournal, List.append_assoc]
    · intro x hx
      exact (List.mem_append.mp hx).elim (htalk x) (htalk' x)

/-- Between two hosts a store was called. -/
structure Asked (c : StoreCall) (h h' : Host) : Prop where
  rest : h' = { h with store := h'.store, backend := h'.backend, journal := h'.journal }
  journal : ∃ talk, h'.journal = h.journal ++ .stored c :: talk ∧ ∀ x ∈ talk, x.IsTalk

theorem Asked.sessions {c : StoreCall} {h h' : Host} (a : Asked c h h') :
    h'.sessions = h.sessions := by
  rw [a.rest]

/-- A call is written down before anything is said about it. -/
theorem asked_of_talked {c : StoreCall} {h h' : Host}
    (t : Talked { h with journal := h.journal ++ [.stored c] } h') : Asked c h h' := by
  obtain ⟨hrest, talk, hjournal, htalk⟩ := t
  refine ⟨?_, talk, ?_, htalk⟩
  · rw [hrest]
  · rw [hjournal, List.append_assoc, List.singleton_append]

theorem log_talked (level : Level) (text : String) : Along Talked (log level text) :=
  along_modify fun _ => ⟨rfl, [.logged level text], rfl, by simp [Happening.IsTalk]⟩

theorem exchange_talked (r : Http.Request) : Along Talked (exchange r) :=
  exchange_along (fun _ => along_modify fun _ => ⟨rfl, _, rfl, by simp [Happening.IsTalk]⟩)
    fun _ => along_modify fun _ => ⟨rfl, [], (List.append_nil _).symm, by simp⟩

section
variable {tires breaks : Prop}

theorem exchange_within (r : Http.Request) : Within tires breaks (exchange r) := by
  unfold exchange
  cases r.build with
  | error e => exact within_pure _
  | ok url =>
    refine within_bind within_get fun h => ?_
    split
    · exact within_bind (record_within _) fun _ => within_bind within_get fun _ =>
        within_bind (within_modify _) fun _ => within_pure _
    · exact within_pure _

variable {α : Type} (operation : String) (read : Written → Option α) (r : Http.Request)

theorem ask_within : Within tires breaks (ask operation read r) := by
  refine within_bind (exchange_within r) fun answer => ?_
  cases answer with
  | error e => exact within_pure _
  | ok response =>
    dsimp only
    split
    · exact within_bind (record_within _) fun _ => within_pure _
    · exact within_pure _

theorem ask_talked : Along Talked (ask operation read r) := by
  refine along_bind (exchange_talked r) fun answer => ?_
  cases answer with
  | error e => exact along_pure _
  | ok response =>
    dsimp only
    split
    · exact along_bind (log_talked _ _) fun _ => along_pure _
    · exact along_pure _

end

theorem fetch_memory {h : Host} {m : MemoryStore} (hm : h.store = .memory m) (token : String) :
    start (fetch token) h = some (.ok (m.fetch token).1,
      { h with
        store := .memory (m.fetch token).2
        journal := h.journal ++ [.stored (.fetch token)] }) := by
  simp [fetch, record, start_bind, start_map, Except.map, hm]

theorem write_memory {h : Host} {m : MemoryStore} (hm : h.store = .memory m) (token : String)
    (w : Write) : start (write token w) h = some (.ok (m.write token w).1,
      { h with
        store := .memory (m.write token w).2
        journal := h.journal ++ [.stored (.write token w)] }) := by
  simp [write, record, start_bind, start_map, Except.map, hm]

theorem fetched_of_memory {h h' : Host} {m : MemoryStore} {token : String}
    {answer : Except StorageError (List Entry)} (hm : h.store = .memory m)
    (e : start (fetch token) h = some (.ok answer, h')) :
    answer = (m.fetch token).1 ∧ h'.store = .memory (m.fetch token).2 ∧
      ∀ id, h'.sessionAt id = h.sessionAt id := by
  cases e.symm.trans (fetch_memory hm token)
  exact ⟨rfl, rfl, fun _ => rfl⟩

private theorem answers_of_talked {α : Type} {m : HostRun α} (hw : Within False False m)
    (ht : Along Talked m) (c : StoreCall) (h : Host) :
    ∃ a h', start m { h with journal := h.journal ++ [.stored c] } = some (.ok a, h') ∧
      Asked c h h' := by
  obtain ⟨a, h', e⟩ := hw.answers { h with journal := h.journal ++ [.stored c] }
  exact ⟨a, h', e, asked_of_talked (ht _ _ _ e)⟩

/-- A store answers every fetch. -/
theorem fetch_answers (token : String) (h : Host) : ∃ answer h',
    start (fetch token) h = some (.ok answer, h') ∧ Asked (.fetch token) h h' := by
  cases hs : h.store with
  | memory m => exact ⟨_, _, fetch_memory hs token, rfl, [], rfl, by simp⟩
  | remote =>
    obtain ⟨answer, h', e, hasked⟩ := answers_of_talked
      (ask_within StoreCall.fetchOperation Entry.listOfWritten?
        (RemoteStore.fetchRequest h.config token)) (ask_talked _ _ _) (.fetch token) h
    refine ⟨answer, h', ?_, hasked⟩
    simpa [fetch, record, start_bind, hs] using e

/-- A store answers every write. -/
theorem write_answers (token : String) (w : Write) (h : Host) : ∃ answer h',
    start (write token w) h = some (.ok answer, h') ∧ Asked (.write token w) h h' := by
  cases hs : h.store with
  | memory m => exact ⟨_, _, write_memory hs token w, rfl, [], rfl, by simp⟩
  | remote =>
    cases hr : RemoteStore.writeRequest h.config token w with
    | error cause =>
      refine ⟨.error cause, { h with journal := h.journal ++ [.stored (.write token w)] }, ?_,
        rfl, [], rfl, by simp⟩
      simp [write, record, start_bind, hs, hr]
    | ok r =>
      obtain ⟨answer, h', e, hasked⟩ := answers_of_talked
        (ask_within w.operation Entry.ofWritten? r) (ask_talked _ _ _) (.write token w) h
      refine ⟨answer, h', ?_, hasked⟩
      simpa [write, record, start_bind, hs, hr] using e

/-! ## Calls to the backend -/

section
variable {c : Context} (endpoint : String) (r : ApiRequest)

theorem callApi_start_of_none (hc : c.token = none) (h : Host) :
    start (callApi c endpoint r) h = some (.ok (.error .notAuthenticated), h) := by
  rw [callApi, hc]
  rfl

/-- With a token a call comes to what the answer of the backend says. -/
theorem callApi_start_of_some {token : String} (hc : c.token = some token) (h : Host) :
    ∃ url answer h',
      start (callApi c endpoint r) h = some (.ok (ApiRequest.readResponse url answer), h') := by
  have hexchange : Within False False (exchange (r.request h.config c.plugin token endpoint)) :=
    exchange_within _
  obtain ⟨answer, h₁, e⟩ := hexchange.answers h
  refine ⟨(r.request h.config c.plugin token endpoint).url, answer, ?_⟩
  simp only [callApi, hc, start_bind, start_get, e]
  cases answer with
  | error cause => exact ⟨h₁, rfl⟩
  | ok response =>
    cases hs : response.isSuccess with
    | true => exact ⟨h₁, by simp only [hs]; rfl⟩
    | false => exact ⟨_, by simp only [hs]; rfl⟩

/-- Every call is answered, if only with a refusal. -/
theorem callApi_answers (c : Context) (h : Host) : ∃ answer h',
    start (callApi c endpoint r) h = some (.ok answer, h') ∧ Talked h h' := by
  have htalked : Along Talked (callApi c endpoint r) :=
    callApi_along endpoint r (fun _ _ _ => exchange_talked _) log_talked
  cases hc : c.token with
  | none =>
    have e := callApi_start_of_none endpoint r hc h
    exact ⟨_, h, e, htalked _ _ _ e⟩
  | some token =>
    obtain ⟨url, answer, h', e⟩ := callApi_start_of_some endpoint r hc h
    exact ⟨_, h', e, htalked _ _ _ e⟩

end

/-! ## Sessions -/

/-- The host with another session under a number. -/
def withSession (id : Nat) (s : Session) (h : Host) : Host :=
  { h with sessions := h.sessions.set id s }

@[simp] theorem journal_withSession (id : Nat) (s : Session) (h : Host) :
    (h.withSession id s).journal = h.journal := rfl

@[simp] theorem withSession_sessionAt (h : Host) (id : Nat) :
    h.withSession id (h.sessionAt id) = h := by
  rw [withSession, set_sessionAt]

/-- A host with one session on a store in memory, and nothing installed. -/
def alone (s : Session) (m : MemoryStore) : Host :=
  { Host.new .default .ignore (.memory m) .unreachable with sessions := [s] }

/-- A session that has a token is there. -/
theorem sessionAt_withSession {h : Host} {id : Nat} {token : String}
    (ht : (h.sessionAt id).token = some token) (s : Session) :
    (h.withSession id s).sessionAt id = s := by
  have hid : id < h.sessions.length := by
    refine Nat.lt_of_not_le fun hle => ?_
    rw [sessionAt, List.getD_eq_getElem?_getD, List.getElem?_eq_none hle] at ht
    cases ht
  rw [sessionAt, List.getD_eq_getElem?_getD, withSession, List.getElem?_set_self hid,
    Option.getD_some]

/-- What is logged when the answer of a refresh reaches a session. -/
def complaint (s : Session) (r : Refresh) : Except StorageError (List Entry) → List Happening
  | .ok _ => []
  | .error e => if s.awaits r then [.logged .error (Session.failureText e)] else []

/-- The host when the answer of a refresh has reached its session. -/
def refreshed (id : Nat) (r : Refresh) (answer : Except StorageError (List Entry)) (h : Host) :
    Host :=
  { h.withSession id ((h.sessionAt id).finishRefresh r answer) with
    journal := h.journal ++ complaint (h.sessionAt id) r answer }

theorem talk_complaint (s : Session) (r : Refresh) (answer : Except StorageError (List Entry)) :
    ∀ x ∈ complaint s r answer, x.IsTalk := by
  cases answer with
  | ok l => simp [complaint]
  | error e =>
    rw [complaint]
    split <;> simp [Happening.IsTalk]

theorem sessionAt_refreshed {h : Host} {id : Nat} {token : String}
    (ht : (h.sessionAt id).token = some token) (r : Refresh)
    (answer : Except StorageError (List Entry)) :
    (h.refreshed id r answer).sessionAt id = (h.sessionAt id).finishRefresh r answer :=
  sessionAt_withSession ht _

/-- The fetch of a refresh comes to an end when the store answers, and the store always does. -/
theorem finishRefresh_start {id : Nat} {r : Refresh} {h h' : Host}
    {answer : Except StorageError (List Entry)}
    (e : start (fetch r.token) h = some (.ok answer, h')) :
    start (finishRefresh id r) h = some (.ok ⟨⟩, h'.refreshed id r answer) := by
  cases answer with
  | ok l =>
    simp [finishRefresh, start_bind, e, session, setSession, refreshed, complaint, withSession]
  | error cause =>
    by_cases hr : (h'.sessionAt id).awaits r = true <;>
      simp [finishRefresh, start_bind, e, session, setSession, refreshed, complaint, withSession,
        hr, log, record]

/-! ## Calls -/

theorem beginCall_start (id : Nat) (c : SessionCall) (h : Host) : start (beginCall id c) h =
    some (.ok ((h.sessionAt id).begin c).1, h.withSession id ((h.sessionAt id).begin c).2) := by
  simp [beginCall, start_bind, start_map, session, setSession, withSession]
  rfl

section
variable {play : Player}

/-- An event is published once, before it is delivered to any handler. -/
theorem emit_start {e : Event} {n : Nat} {h h' : Host}
    (he : start (emit play e) h = some (.ok n, h')) :
    start ((h.bus.handlersFor e.type).forM (deliver play e))
      { h with journal := h.journal ++ [.published e] } = some (.ok ⟨⟩, h') := by
  simp only [emit, record, start_bind, start_modify, start_get] at he
  split at he
  · cases he
  · cases he
  next hforM =>
    cases he
    exact hforM

/-- An event that is delivered to the end raises no panic. -/
theorem emit_ok {e : Event} {h h' : Host} {x : Except Panic Nat}
    (he : start (emit play e) h = some (x, h')) : ∃ n, x = .ok n :=
  Calm.ends (emit_within (fun _ => within_true _) e) h x h' he

variable (play) (id : Nat) {token : String} {w : Write} {h h₁ h₂ : Host}

theorem finishWrite_start_of_refused {cause : StorageError}
    (e : start (write token w) h = some (.ok (.error cause), h₁)) :
    start (finishWrite play id token w) h = some (.ok (.error (.storage cause)), h₁) := by
  simp [finishWrite, start_bind, e]

theorem finishWrite_start_of_written {entry : Entry} {n : Nat}
    (e : start (write token w) h = some (.ok (.ok entry), h₁))
    (he : start (emit play w.event) h₁ = some (.ok n, h₂)) :
    start (finishWrite play id token w) h =
      some (.ok (.ok ((h₂.sessionAt id).afterWrite token entry).1),
        h₂.withSession id ((h₂.sessionAt id).afterWrite token entry).2) := by
  simp [finishWrite, start_bind, start_map, Except.map, e, he, session, setSession,
    withSession]

/-- A write is given up only with the delivery of its event. -/
theorem finishWrite_start_of_exhausted {entry : Entry}
    (e : start (write token w) h = some (.ok (.ok entry), h₁))
    (he : start (emit play w.event) h₁ = none) :
    start (finishWrite play id token w) h = none := by
  simp [finishWrite, start_bind, e, he]

/-- All that can happen when the answer of a write reaches its session: the session takes over the
entry, and the refresh that it starts, if it starts one, is fetched. -/
inductive Landed (id : Nat) (token : String) (entry : Entry) (h : Host) : Host → Prop
  | still {s : Session} (ha : (h.sessionAt id).afterWrite token entry = (none, s)) :
      Landed id token entry h (h.withSession id s)
  | refreshed {r : Refresh} {s : Session} {answer : Except StorageError (List Entry)} {h' : Host}
      (ha : (h.sessionAt id).afterWrite token entry = (some r, s))
      (e : start (fetch r.token) (h.withSession id s) = some (.ok answer, h')) :
      Landed id token entry h (h'.refreshed id r answer)

theorem settle_start_of_refused {cause : StorageError}
    (e : start (write token w) h = some (.ok (.error cause), h₁)) :
    start (settle play id (.write token w)) h = some (.ok (.error (.storage cause)), h₁) := by
  simp [settle, start_bind, finishWrite_start_of_refused play id e]

/-- A write that the store has taken is a success, whatever becomes of the refresh after it. -/
theorem settle_start_of_written {entry : Entry} {n : Nat}
    (e : start (write token w) h = some (.ok (.ok entry), h₁))
    (he : start (emit play w.event) h₁ = some (.ok n, h₂)) :
    ∃ h', start (settle play id (.write token w)) h = some (.ok (.ok w.outcome), h') ∧
      Landed id token entry h₂ h' := by
  have hfinish := finishWrite_start_of_written play id e he
  rcases ha : (h₂.sessionAt id).afterWrite token entry with ⟨_ | r, s⟩ <;> rw [ha] at hfinish
  · refine ⟨_, ?_, .still ha⟩
    simp [settle, start_bind, hfinish]
  · obtain ⟨answer, h', hfetch, -⟩ := fetch_answers r.token (h₂.withSession id s)
    refine ⟨_, ?_, .refreshed ha hfetch⟩
    simp [settle, start_bind, start_map, Except.map, hfinish, finishRefresh_start hfetch]

theorem settle_start_of_exhausted {entry : Entry}
    (e : start (write token w) h = some (.ok (.ok entry), h₁))
    (he : start (emit play w.event) h₁ = none) :
    start (settle play id (.write token w)) h = none := by
  simp [settle, start_bind, finishWrite_start_of_exhausted play id e he]

/-- With nothing to wait for, a call is over and leaves the host alone. -/
theorem call_start_of_finished {c : SessionCall} {result : Except SessionError Outcome}
    (hb : (h.sessionAt id).begin c = (.finished result, h.sessionAt id)) :
    start (call play id c) h = some (.ok result, h) := by
  simp [call, start_bind, beginCall_start, hb]

/-- A call that writes goes straight to its write. -/
theorem call_start_of_write {c : SessionCall}
    (hb : (h.sessionAt id).begin c = (.waiting (.write token w), h.sessionAt id)) :
    start (call play id c) h = start (settle play id (.write token w)) h := by
  simp [call, start_bind, beginCall_start, hb]

/-- A refresh of a session that is attached to its token is its fetch. -/
theorem call_start_of_refresh {h₁ : Host} {answer : Except StorageError (List Entry)}
    (ht : (h.sessionAt id).token = some token) (hd : (h.sessionAt id).detached = false)
    (e : start (fetch token) (h.withSession id (h.sessionAt id).startRefresh.2) =
      some (.ok answer, h₁)) :
    start (call play id .refresh) h = some (.ok (.ok .refreshed),
      h₁.refreshed id ⟨token, (h.sessionAt id).refreshes + 1⟩ answer) := by
  have hfetch : start (fetch (⟨token, (h.sessionAt id).refreshes + 1⟩ : Refresh).token) _ =
    some (.ok answer, h₁) := e
  rw [Session.startRefresh_of_attached ht hd] at hfetch
  simp [call, settle, start_bind, start_map, Except.map, beginCall_start,
    Session.begin_refresh_of_attached ht hd, finishRefresh_start hfetch]

theorem resumeCall_start_of_refused {cause : StorageError}
    (e : start (write token w) h = some (.ok (.error cause), h₁)) :
    start (resumeCall play id (.write token w)) h =
      some (.ok (.finished (.error (.storage cause))), h₁) := by
  simp [resumeCall, start_bind, finishWrite_start_of_refused play id e]

theorem resumeCall_start_of_written {entry : Entry} {n : Nat}
    (e : start (write token w) h = some (.ok (.ok entry), h₁))
    (he : start (emit play w.event) h₁ = some (.ok n, h₂)) :
    start (resumeCall play id (.write token w)) h =
      some (.ok (match ((h₂.sessionAt id).afterWrite token entry).1 with
          | none => .finished (.ok w.outcome)
          | some r => .waiting (.fetch r w.outcome)),
        h₂.withSession id ((h₂.sessionAt id).afterWrite token entry).2) := by
  rcases ha : (h₂.sessionAt id).afterWrite token entry with ⟨_ | r, s⟩ <;>
    simp [resumeCall, start_bind, finishWrite_start_of_written play id e he, ha]

theorem resumeCall_start_of_exhausted {entry : Entry}
    (e : start (write token w) h = some (.ok (.ok entry), h₁))
    (he : start (emit play w.event) h₁ = none) :
    start (resumeCall play id (.write token w)) h = none := by
  simp [resumeCall, start_bind, finishWrite_start_of_exhausted play id e he]

theorem resumeCall_start_of_fetched {r : Refresh} {answer : Except StorageError (List Entry)}
    (e : start (fetch r.token) h = some (.ok answer, h₁)) (o : Outcome) :
    start (resumeCall play id (.fetch r o)) h =
      some (.ok (.finished (.ok o)), h₁.refreshed id r answer) := by
  simp [resumeCall, start_map, Except.map, finishRefresh_start e]

/-- A call that is not interrupted takes the same steps as one that is resumed. -/
theorem settle_eq (id : Nat) (waiting : Waiting) : settle play id waiting = (do
    match ← resumeCall play id waiting with
    | .finished result => return result
    | .waiting next => settle play id next) := by
  cases waiting with
  | fetch r outcome => simp [settle, resumeCall]
  | write token w =>
    simp only [settle, resumeCall, bind_assoc]
    refine bind_congr fun result => ?_
    cases result with
    | error e => simp
    | ok r => cases r <;> simp

end

/-! ## One session on a store in memory -/

/-- The settings that a store in memory has for a plugin. -/
def persisted (h : Host) (token plugin : String) : Settings :=
  match h.store with
  | .memory m => m.settings token plugin
  | .remote => .empty

theorem persisted_of_memory {h : Host} {m : MemoryStore} (hm : h.store = .memory m)
    (token plugin : String) : h.persisted token plugin = m.settings token plugin := by
  rw [persisted, hm]

/-- On the way from one host to the other the session keeps its token and its entries, and a store
in memory what it has for the token. The session may be detached. -/
structure Keeps (id : Nat) (token : String) (h h' : Host) : Prop where
  login : (h'.sessionAt id).token = (h.sessionAt id).token
  entries : (h'.sessionAt id).entries = (h.sessionAt id).entries
  store : ∀ m, h.store = .memory m →
    ∃ m', h'.store = .memory m' ∧ m'.entries? token = m.entries? token

/-- The session also stays attached. -/
structure Spares (id : Nat) (token : String) (h h' : Host) : Prop extends Keeps id token h h' where
  attached : (h'.sessionAt id).detached = (h.sessionAt id).detached

/-- The handlers that are told of a write, if the store takes it. -/
def HandlersWithin (R : Host → Host → Prop) (play : Player) (token : String) (w : Write)
    (h : Host) : Prop :=
  ∀ entry h₁ n h₂, start (write token w) h = some (.ok (.ok entry), h₁) →
    start (emit play w.event) h₁ = some (.ok n, h₂) → R h₁ h₂

/-- An event that nobody listens to changes nothing. -/
theorem unheard_spares {play : Player} {w : Write} {h : Host}
    (hb : h.bus.handlersFor w.event.type = []) (id : Nat) (token : String) :
    HandlersWithin (Spares id token) play token w h := by
  intro entry h₁ n h₂ e he
  obtain ⟨answer, h₁', e', hasked⟩ := write_answers token w h
  cases e.symm.trans e'
  have hbus : h₁.bus.handlersFor w.event.type = [] := by
    rw [hasked.rest]
    exact hb
  have hforM := emit_start he
  rw [hbus] at hforM
  cases hforM
  exact ⟨⟨rfl, rfl, fun m hm => ⟨m, hm, rfl⟩⟩, rfl⟩

end Host
end Plugboard
