import Plugboard.Host.Server
import Plugboard.Proofs.Run

/-!
What a host does aside from its registry and its bus: for its sessions, its store and its backend.

* `Host.Aside`: nothing of the kind changes, the journal grows by what has to do with neither, and
  serial numbers only go up.
* `settle_along`, `update_along`, `unregister_ends` and the like: a relation that holds along such
  work holds along a whole request, if it does along the code that the request leads to.
* `server_along`: then it holds along requests of any depth, and along code.
-/
namespace Plugboard

open Run

/-- What is written down aside from events, requests of plugin code and calls of its hooks. -/
def Happening.IsAside : Happening → Prop
  | .noted _ | .logged _ _ | .stored _ | .requested _ => True
  | .asked _ | .published _ | .delivered _ _ | .entered _ _ _ _ => False

/-- Requests that neither change the registry or the bus nor lead to plugin code. -/
def Op.IsAside {a : Answer} : Op Code a → Prop
  | .note _ | .fresh | .count _ | .look _ | .detach _ | .setToken _ _ | .callApi _ _ _ => True
  | _ => False

namespace Host

/-- The host with one more entry in its journal. -/
def recorded (h : Host) (x : Happening) : Host := { h with journal := h.journal ++ [x] }

structure Aside (h h' : Host) : Prop where
  journal : ∃ l, h'.journal = h.journal ++ l ∧ ∀ x ∈ l, x.IsAside
  registry : h'.registry = h.registry
  bus : h'.bus = h.bus
  subscriptions : h'.subscriptions = h.subscriptions
  marked : h'.marked = h.marked
  serial : h.lastSerial ≤ h'.lastSerial

instance : Std.Refl Aside :=
  ⟨fun _ => ⟨⟨[], (List.append_nil _).symm, List.forall_mem_nil _⟩, rfl, rfl, rfl, rfl,
    Nat.le_refl _⟩⟩

instance : IsTrans Host Aside where
  trans _ _ _ := by
    rintro ⟨⟨l, hl, hall⟩, hr, hb, hs, hm, hn⟩ ⟨⟨l', hl', hall'⟩, hr', hb', hs', hm', hn'⟩
    refine ⟨⟨l ++ l', ?_, ?_⟩, hr'.trans hr, hb'.trans hb, hs'.trans hs, hm'.trans hm,
      Nat.le_trans hn hn'⟩
    · rw [hl', hl, List.append_assoc]
    · intro x hx
      exact (List.mem_append.mp hx).elim (hall x) (hall' x)

theorem aside_of_eq {h h' : Host} (hj : h'.journal = h.journal) (hr : h'.registry = h.registry)
    (hb : h'.bus = h.bus) (hs : h'.subscriptions = h.subscriptions) (hm : h'.marked = h.marked)
    (hn : h.lastSerial ≤ h'.lastSerial) : Aside h h' :=
  ⟨⟨[], by rw [hj, List.append_nil], List.forall_mem_nil _⟩, hr, hb, hs, hm, hn⟩

/-! ## Requests to the backend -/

section
variable {R : Host → Host → Prop} [Std.Refl R] [IsTrans Host R]

/-- A request that arrives is written down, and takes its answer from the backend. -/
theorem exchange_along {r : Http.Request}
    (hrequested : ∀ u, Along R (record (.requested (r.sentTo u))))
    (hbackend : ∀ backend, Along R (modify fun h => { h with backend := backend } : HostRun PUnit)) :
    Along R (exchange r) := by
  unfold exchange
  cases r.build with
  | error e => exact along_pure _
  | ok url =>
    refine along_bind along_get fun h => ?_
    split
    · exact along_bind (hrequested _) fun _ => along_bind along_get fun _ =>
        along_bind (hbackend _) fun _ => along_pure _
    · exact along_pure _

/-- A call with a token is one exchange, with the configuration there is, and a log line at most. -/
theorem callApi_ends {c : Context} {token : String} (hc : c.token = some token) (endpoint : String)
    (r : ApiRequest) (hlog : ∀ level text, Along R (log level text)) {h : Host}
    (hexchange : Along R (exchange (r.request h.config c.plugin token endpoint))) :
    Ends (callApi c endpoint r) h fun _ h' => R h h' := by
  unfold callApi
  rw [hc]
  refine (ends_bind get _ h _).mpr ((ends_get h _).mpr (along_bind hexchange (fun answer => ?_) h))
  cases answer with
  | error e => exact along_pure _
  | ok response =>
    dsimp only
    split
    · exact along_bind (hlog _ _) fun _ => along_pure _
    · exact along_pure _

theorem callApi_along {c : Context} (endpoint : String) (r : ApiRequest)
    (hexchange : ∀ config token, c.token = some token →
      Along R (exchange (r.request config c.plugin token endpoint)))
    (hlog : ∀ level text, Along R (log level text)) : Along R (callApi c endpoint r) := by
  intro h
  cases hc : c.token with
  | none =>
    unfold callApi
    rw [hc]
    exact along_pure _ h
  | some token => exact callApi_ends hc endpoint r hlog (hexchange _ token hc)

end

/-! ## Work aside -/

theorem record_aside {x : Happening} (hx : x.IsAside) : Along Aside (record x) :=
  along_modify fun _ => ⟨⟨[x], rfl, by simpa using hx⟩, rfl, rfl, rfl, rfl, Nat.le_refl _⟩

theorem log_aside (level : Level) (text : String) : Along Aside (log level text) :=
  record_aside trivial

theorem fresh_aside : Along Aside fresh :=
  along_bind (along_modify fun _ => aside_of_eq rfl rfl rfl rfl rfl (Nat.le_succ _)) fun _ =>
    along_bind along_get fun _ => along_pure _

theorem count_aside (c : Counter) : Along Aside (count c) :=
  along_bind along_get fun _ =>
    along_bind (along_modify fun _ => aside_of_eq rfl rfl rfl rfl rfl (Nat.le_refl _)) fun _ =>
      along_pure _

theorem exchange_aside (r : Http.Request) : Along Aside (exchange r) :=
  exchange_along (fun _ => record_aside trivial) fun _ =>
    along_modify fun _ => aside_of_eq rfl rfl rfl rfl rfl (Nat.le_refl _)

theorem ask_aside {α : Type} (operation : String) (read : Written → Option α)
    (r : Http.Request) : Along Aside (ask operation read r) := by
  refine along_bind (exchange_aside r) fun answer => ?_
  cases answer with
  | error e => exact along_pure _
  | ok response =>
    dsimp only
    split
    · exact along_bind (log_aside _ _) fun _ => along_pure _
    · exact along_pure _

theorem fetch_aside (token : String) : Along Aside (fetch token) := by
  refine along_bind (record_aside trivial) fun _ => along_get_bind fun h => ?_
  cases h.store with
  | memory m =>
    dsimp only
    rw [ends_bind, ends_set, ends_pure]
    exact aside_of_eq rfl rfl rfl rfl rfl (Nat.le_refl _)
  | remote => exact ask_aside _ _ _ h

theorem write_aside (token : String) (w : Write) : Along Aside (write token w) := by
  refine along_bind (record_aside trivial) fun _ => along_get_bind fun h => ?_
  cases h.store with
  | memory m =>
    dsimp only
    rw [ends_bind, ends_set, ends_pure]
    exact aside_of_eq rfl rfl rfl rfl rfl (Nat.le_refl _)
  | remote =>
    dsimp only
    cases RemoteStore.writeRequest h.config token w with
    | error e => exact along_pure _ h
    | ok r => exact ask_aside _ _ _ h

theorem session_aside (id : Nat) : Along Aside (session id) :=
  along_bind along_get fun _ => along_pure _

theorem setSession_aside (id : Nat) (s : Session) : Along Aside (setSession id s) :=
  along_modify fun _ => aside_of_eq rfl rfl rfl rfl rfl (Nat.le_refl _)

theorem changeSession_aside (id : Nat) (f : Session → Session) :
    Along Aside (changeSession id f) :=
  along_bind (session_aside id) fun _ => setSession_aside id _

theorem sessionLabelled?_aside (label : String) : Along Aside (sessionLabelled? label) :=
  along_bind along_get fun _ => along_pure _

theorem changeLabelled_aside (label : String) (f : Session → Session) :
    Along Aside (changeLabelled label f) := by
  refine along_bind (sessionLabelled?_aside label) fun id => ?_
  cases id with
  | none => exact along_pure _
  | some id => exact changeSession_aside id f

theorem beginCall_aside (id : Nat) (c : SessionCall) : Along Aside (beginCall id c) :=
  along_bind (session_aside id) fun _ => along_bind (setSession_aside id _) fun _ => along_pure _

theorem finishRefresh_aside (id : Nat) (r : Refresh) : Along Aside (finishRefresh id r) := by
  refine along_bind (fetch_aside _) fun result => along_bind (session_aside id) fun s =>
    along_bind (setSession_aside id _) fun _ => ?_
  split
  · cases result with
    | error e => exact log_aside _ _
    | ok _ => exact along_pure _
  · exact along_pure _

theorem context_aside (id : Nat) (plugin : String) : Along Aside (context id plugin) :=
  along_bind (session_aside id) fun _ => along_pure _

theorem callApi_aside (c : Context) (endpoint : String) (r : ApiRequest) :
    Along Aside (callApi c endpoint r) :=
  callApi_along endpoint r (fun _ _ _ => exchange_aside _) log_aside

theorem look_aside (play : Player) (label : String) : Along Aside (fulfil play (.look label)) := by
  refine along_bind (sessionLabelled?_aside label) fun id => ?_
  cases id with
  | none => exact along_pure _
  | some id =>
    exact along_bind (along_bind (session_aside id) fun _ =>
      along_bind along_get fun _ => along_pure _) fun _ => along_pure _

theorem fulfil_aside (play : Player) {a : Answer} {op : Op Code a} (hop : op.IsAside) :
    Along Aside (fulfil play op) := by
  cases op with
  | note n => exact record_aside trivial
  | fresh => exact fresh_aside
  | count c => exact count_aside c
  | look label => exact look_aside play label
  | detach label => exact changeLabelled_aside label _
  | setToken label token => exact changeLabelled_aside label _
  | callApi c endpoint r => exact callApi_aside c endpoint r
  | _ => exact hop.elim

/-! ## Requests that change the registry or the bus -/

/-- A definition that is refused changes nothing; any other changes the registry, and is logged at
most. -/
theorem register_ends (d : Definition Code) (h : Host) :
    Ends (register d) h fun r h' =>
      (∃ e, h.registry.register ⟨d, h.lastSerial + 1⟩ = .error e ∧ r = .ok (.error e) ∧ h' = h) ∨
        ∃ result registry, h.registry.register ⟨d, h.lastSerial + 1⟩ = .ok (result, registry) ∧
          r = .ok (.ok result) ∧ Aside { h with registry := registry } h' := by
  rw [register, ends_bind, ends_get]
  dsimp only
  cases h.registry.register ⟨d, h.lastSerial + 1⟩ with
  | error e => exact (ends_pure _ _ _).mpr (.inl ⟨e, rfl, rfl, rfl⟩)
  | ok q =>
    obtain ⟨result, registry⟩ := q
    dsimp only
    rw [ends_bind, ends_set]
    dsimp only
    split
    · simp only [log, record, ends_bind, ends_modify, ends_pure]
      have hlogged : ∀ x ∈ [Happening.logged .warn (duplicateWarning d.name)], x.IsAside :=
        List.forall_mem_singleton.mpr trivial
      exact .inr ⟨result, registry, rfl, rfl, ⟨_, rfl, hlogged⟩, rfl, rfl, rfl, rfl, Nat.le_succ _⟩
    · rw [ends_pure]
      exact .inr ⟨result, registry, rfl, rfl, aside_of_eq rfl rfl rfl rfl rfl (Nat.le_succ _)⟩

/-- A new handler comes last, and its label is the newest. -/
theorem start_subscribeAs (label : String) (type : EventType) (body : Event → Code) (h : Host) :
    start (subscribeAs label type body) h = some (.ok ⟨h.bus.lastId + 1, type⟩,
      { h with
        bus := h.bus.add type (.code body)
        subscriptions := Table.put label ⟨h.bus.lastId + 1, type⟩ h.subscriptions }) := rfl

theorem start_unsubscribeAs (label : String) (h : Host) :
    start (unsubscribeAs label) h =
      some (.ok ((Table.get? label h.subscriptions).map fun s => (h.bus.off s).1),
        { h with
          bus := (Table.get? label h.subscriptions).elim h.bus fun s => (h.bus.off s).2
          subscriptions := Table.erase label h.subscriptions }) := by
  have htake : start (takeSubscription label) h = some (.ok (Table.get? label h.subscriptions),
    { h with subscriptions := Table.erase label h.subscriptions }) := rfl
  rw [unsubscribeAs, start_bind, htake]
  cases Table.get? label h.subscriptions <;> rfl

/-! ## Requests that lead to plugin code -/

section
variable {R : Host → Host → Prop} [Std.Refl R] [IsTrans Host R]

/-- What holds along every request holds along code, and along its first part. -/
theorem run_along {serve : Server Host} (hs : ∀ a (op : Op Code a), Along R (serve op))
    (code : Code) : Along R (code.run serve) := by
  induction code using Code.run.induct with
  | case1 text => exact along_pure _
  | case2 f => exact along_pure _
  | case3 p => exact along_throw p
  | case4 rest ih => exact ih
  | case5 a op rest ih => exact along_bind (hs a op) ih

theorem begin_along {serve : Server Host} (hs : ∀ a (op : Op Code a), Along R (serve op))
    (code : Code) : Along R (code.begin serve) := by
  induction code using Code.run.induct with
  | case1 text => exact along_pure _
  | case2 f => exact along_pure _
  | case3 p => exact along_throw p
  | case4 rest ih => exact along_pure _
  | case5 a op rest ih => exact along_bind (hs a op) ih

/-- What holds along a request, if it does along the code that the request leads to, holds along
requests of any depth. -/
theorem server_along (hserve : ∀ depth, (∀ code, Along R (player depth code)) →
      ∀ a (op : Op Code a), Along R (serve (player depth) op)) (depth : Nat) :
    ∀ a (op : Op Code a), Along R (server depth op) := by
  induction depth with
  | zero => exact fun _ _ => along_exhausted
  | succ depth ih => exact hserve depth (run_along ih)

variable (haside : ∀ h h', Aside h h' → R h h')
include haside

omit [Std.Refl R] [IsTrans Host R] in
theorem along_of_aside {α : Type} {m : HostRun α} (hm : Along Aside m) : Along R m :=
  fun h => (hm h).mono fun _ h' => haside h h'

/-- What emits an event, or runs the handlers of one. -/
theorem deliver_along {play : Player} (hplay : ∀ code, Along R (play code)) {e : Event}
    (hdelivered : ∀ id, Along R (record (.delivered id e)))
    (hmark : ∀ panel, Along R (modify fun h : Host => { h with marked := panel :: h.marked }))
    (handler : Handler Listener) : Along R (deliver play e handler) := by
  refine along_bind (hdelivered _) fun _ => ?_
  cases handler.listener with
  | mark panel plugin =>
    dsimp only
    split
    · exact hmark panel
    · exact along_pure _
  | code body =>
    refine along_bind (along_contain (hplay (body e))) fun r => ?_
    cases r with
    | ok _ => exact along_pure _
    | error p => exact along_of_aside haside (log_aside _ _)

section
variable {play : Player} (hemit : ∀ e, Along R (emit play e))
include hemit

theorem finishWrite_along (id : Nat) (token : String) (w : Write) :
    Along R (finishWrite play id token w) := by
  refine along_bind (along_of_aside haside (write_aside token w)) fun result => ?_
  cases result with
  | error e => exact along_pure _
  | ok written =>
    exact along_bind (hemit _) fun _ => along_of_aside haside
      (along_bind (session_aside id) fun _ =>
        along_bind (setSession_aside id _) fun _ => along_pure _)

theorem settle_along (id : Nat) (w : Waiting) : Along R (settle play id w) := by
  have hfetch : ∀ r, Along R (finishRefresh id r) := fun r =>
    along_of_aside haside (finishRefresh_aside id r)
  cases w with
  | fetch r outcome => exact along_bind (hfetch r) fun _ => along_pure _
  | write token w =>
    refine along_bind (finishWrite_along haside hemit id token w) fun result => ?_
    cases result with
    | error e => exact along_pure _
    | ok r =>
      cases r with
      | none => exact along_bind (along_pure _) fun _ => along_pure _
      | some r => exact along_bind (hfetch r) fun _ => along_pure _

theorem resumeCall_along (id : Nat) (w : Waiting) : Along R (resumeCall play id w) := by
  cases w with
  | fetch r outcome =>
    exact along_bind (along_of_aside haside (finishRefresh_aside id r)) fun _ => along_pure _
  | write token w =>
    refine along_bind (finishWrite_along haside hemit id token w) fun result => ?_
    cases result with
    | error e => exact along_pure _
    | ok r => cases r <;> exact along_pure _

theorem call_along (id : Nat) (c : SessionCall) : Along R (call play id c) := by
  refine along_bind (along_of_aside haside (beginCall_aside id c)) fun progress => ?_
  cases progress with
  | finished result => exact along_pure _
  | waiting w => exact settle_along haside hemit id w

theorem update_along (id : Nat) (plugin : String) (changes : Settings) :
    Along R (update play id plugin changes) :=
  along_bind (call_along haside hemit id _) fun _ => along_pure _

theorem reportHook_along (plugin text : String) : Along R (reportHook play plugin text) :=
  along_bind (along_of_aside haside (log_aside _ _)) fun _ =>
    along_bind (hemit _) fun _ => along_pure _

/-- What follows when a plugin was taken out: its hook, and news of its failure. -/
theorem hook_along (hplay : ∀ code, Along R (play code))
    (hentered : ∀ plugin installation,
      Along R (record (.entered .registry plugin .destroy installation)))
    (plugin : String) (p : Installed Code) :
    Along R (match p.definition.destroy with
      | none => return some p
      | some hook => do
        record (.entered .registry plugin .destroy p.serial)
        match hookFailure (← contain (play hook)) with
        | none => return some p
        | some text => do
          reportHook play plugin text
          return some p) := by
  cases p.definition.destroy with
  | none => exact along_pure _
  | some hook =>
    refine along_bind (hentered _ _) fun _ => along_bind (along_contain (hplay hook)) fun r => ?_
    cases hookFailure r with
    | none => exact along_pure _
    | some text =>
      exact along_bind (reportHook_along haside hemit plugin text) fun _ => along_pure _

/-- A plugin that is there is taken out before anything else happens. -/
theorem unregister_ends (hplay : ∀ code, Along R (play code))
    (hentered : ∀ plugin installation,
      Along R (record (.entered .registry plugin .destroy installation)))
    (plugin : String) (h : Host) :
    Ends (unregister play plugin) h fun _ h' =>
      h.registry.get? plugin = none ∧ h' = h ∨
        R { h with registry := h.registry.remove plugin } h' := by
  rw [unregister, ends_bind, ends_get]
  dsimp only
  cases hget : h.registry.get? plugin with
  | none => exact (ends_pure _ _ _).mpr (.inl ⟨rfl, rfl⟩)
  | some p =>
    dsimp only
    rw [ends_bind, ends_modify]
    exact (hook_along haside hemit hplay hentered plugin p _).mono fun _ _ hr => .inr hr

end
end
end Host
end Plugboard
