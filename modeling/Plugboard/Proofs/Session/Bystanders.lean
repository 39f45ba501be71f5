import Plugboard.Proofs.Session.Desks

/-!
Handlers that leave all sessions alone: they leave notes, count, look at sessions and call the
backend, and may fail or panic, but change no session, and neither the store nor the bus.

* `Code.Bystander`, `Listener.IsBystander`: code and listeners of this kind.
* `emit_bystander`: an event that only such listeners hear is delivered, and nothing has changed.
* `handlersAloof_of_bystanders`: so they leave any seats alone, for good.
-/
namespace Plugboard

open Run Relation

/-- What leaves all sessions, the store and the bus as they are. -/
def Op.IsBystander {a : Answer} : Op Code a → Prop
  | .note _ | .fresh | .count _ | .look _ | .callApi _ _ _ => True
  | _ => False

inductive Code.Bystander : Code → Prop
  | done (text : String) : Bystander (.done text)
  | fail (f : Fault) : Bystander (.fail f)
  | panic (p : Panic) : Bystander (.panic p)
  | later {rest : Code} (h : Bystander rest) : Bystander (.later rest)
  | ask {a : Answer} {op : Op Code a} {rest : a.Carrier → Code} (hop : op.IsBystander)
    (h : ∀ x, Bystander (rest x)) : Bystander (.ask op rest)

def Listener.IsBystander : Listener → Prop
  | .code body => ∀ e, (body e).Bystander
  | .mark _ _ => True

namespace Host

/-- Neither the sessions nor the store nor the bus have changed. -/
def Idle (h h' : Host) : Prop :=
  h' = { h with
    marked := h'.marked, counters := h'.counters, backend := h'.backend, journal := h'.journal
    lastSerial := h'.lastSerial }

theorem Idle.trans {h₁ h₂ h₃ : Host} (hi : Idle h₁ h₂) (hi' : Idle h₂ h₃) : Idle h₁ h₃ := by
  rw [Idle, hi', hi]

theorem idle_recorded (h : Host) (x : Happening) : Idle h (h.recorded x) := rfl

theorem aloof_of_idle {h h' : Host} (hi : Idle h h') (seats : List Seat) : Aloof seats h h' := by
  constructor
  · intro s _
    rw [hi]
    rfl
  · intro hsteady
    rw [hi]
    exact hsteady

theorem fulfil_bystander (play : Player) {a : Answer} {op : Op Code a} (hop : op.IsBystander)
    (h : Host) : ∃ x h', start (fulfil play op) h = some (.ok x, h') ∧ Idle h h' := by
  cases op with
  | note | fresh | count => exact ⟨_, _, rfl, rfl⟩
  | look label =>
    have hlabel : start (sessionLabelled? label) h =
      some (.ok (Table.get? label h.sessionLabels), h) := rfl
    cases hl : Table.get? label h.sessionLabels with
    | none =>
      refine ⟨none, h, ?_, rfl⟩
      simp only [fulfil, start_bind, hlabel, hl, start_pure]
    | some id =>
      have hview : start (view id) h = some (.ok ((h.sessionAt id).view h.registry), h) := rfl
      refine ⟨some ((h.sessionAt id).view h.registry), h, ?_, rfl⟩
      simp only [fulfil, start_bind, hlabel, hl, hview, start_pure]
  | callApi c endpoint r =>
    obtain ⟨x, h', e, ht⟩ := callApi_answers endpoint r c h
    refine ⟨x, h', e, ?_⟩
    rw [Idle, ht.rest]
  | _ => exact hop.elim

section
variable (depth : Nat)

/-- Code that stands by comes to an end, if only in a panic. -/
theorem play_bystander {code : Code} (hcode : code.Bystander) (h : Host) : ∃ r h',
    start (player (depth + 1) code) h = some (r, h') ∧ Idle h h' := by
  induction hcode generalizing h with
  | done | fail | panic => exact ⟨_, h, rfl, rfl⟩
  | later _ ih => exact ih h
  | @ask a op rest hop _ ih =>
    obtain ⟨x, h₁, e, hi⟩ := fulfil_bystander (player depth) hop (h.recorded (.asked op))
    obtain ⟨r, h₂, e', hi'⟩ := ih x h₁
    refine ⟨r, h₂, ?_, (idle_recorded h _).trans (hi.trans hi')⟩
    have hserve : start (server (depth + 1) op) h = some (.ok x, h₁) := e
    rw [player, Code.run, start_bind, hserve]
    exact e'

theorem deliver_bystander {handler : Handler Listener} (hl : handler.listener.IsBystander)
    (e : Event) (h : Host) : ∃ h',
      start (deliver (player (depth + 1)) e handler) h = some (.ok ⟨⟩, h') ∧ Idle h h' := by
  obtain ⟨id, type, listener⟩ := handler
  have hdelivered := idle_recorded h (.delivered id e)
  have hrecord : start (record (.delivered id e)) h =
    some (.ok ⟨⟩, h.recorded (.delivered id e)) := rfl
  cases listener with
  | mark panel plugin =>
    by_cases hp : e.plugin = plugin
    · let h' : Host := { h.recorded (.delivered id e) with marked := panel :: h.marked }
      refine ⟨h', ?_, rfl⟩
      simp only [deliver, start_bind, hrecord, if_pos hp]
      rfl
    · refine ⟨_, ?_, hdelivered⟩
      simp only [deliver, start_bind, hrecord, if_neg hp, start_pure]
  | code body =>
    obtain ⟨r, h', eplay, hi⟩ := play_bystander depth (hl e) (h.recorded (.delivered id e))
    have hcontain : start (contain (player (depth + 1) (body e))) (h.recorded (.delivered id e)) =
        some (.ok r, h') := by
      simp only [start_contain, eplay, Option.map_some]
    cases r with
    | ok ending =>
      refine ⟨h', ?_, hdelivered.trans hi⟩
      simp only [deliver, start_bind, hrecord, hcontain, start_pure]
    | error p =>
      refine ⟨h'.recorded (.logged .error (handlerPanic id e p)), ?_,
        hdelivered.trans (hi.trans (idle_recorded h' _))⟩
      simp only [deliver, start_bind, hrecord, hcontain]
      rfl

theorem deliveries_bystander {l : List (Handler Listener)}
    (hl : ∀ x ∈ l, x.listener.IsBystander) (e : Event) (h : Host) : ∃ h',
      start (l.forM (deliver (player (depth + 1)) e)) h = some (.ok ⟨⟩, h') ∧ Idle h h' := by
  induction l generalizing h with
  | nil => exact ⟨h, rfl, rfl⟩
  | cons x l ih =>
    obtain ⟨hx, hl⟩ := List.forall_mem_cons.mp hl
    obtain ⟨h₁, ex, hi⟩ := deliver_bystander depth hx e h
    obtain ⟨h₂, el, hi'⟩ := ih hl h₁
    refine ⟨h₂, ?_, hi.trans hi'⟩
    change start (deliver (player (depth + 1)) e x >>= fun _ => l.forM _) h = _
    rw [start_bind, ex]
    exact el

theorem emit_bystander {h : Host} (hb : ∀ x ∈ h.bus.handlers, x.listener.IsBystander) (e : Event) :
    ∃ n h', start (emit (player (depth + 1)) e) h = some (.ok n, h') ∧ Idle h h' := by
  have hlistening : ∀ x ∈ h.bus.handlersFor e.type, x.listener.IsBystander :=
    fun x hx => hb x (List.mem_filter.mp hx).1
  obtain ⟨h', el, hi⟩ := deliveries_bystander depth hlistening e (h.recorded (.published e))
  refine ⟨(h.bus.handlersFor e.type).length, h', ?_, (idle_recorded h _).trans hi⟩
  have hrecord : start (record (.published e)) h = some (.ok ⟨⟩, h.recorded (.published e)) := rfl
  have hbus : (h.recorded (.published e)).bus = h.bus := rfl
  simp only [emit, start_bind, hrecord, start_get, hbus, el, start_pure]

theorem stride_bus {s : Seat} {h h' : Host} (hs : Stride s h h') : h'.bus = h.bus := by
  cases hs with
  | session | talked => rfl
  | fetched e => exact (fetch_aside _ _ _ _ e).bus
  | wrote e => exact (write_aside _ _ _ _ _ e).bus

/-- Handlers that all stand by leave any seats alone. -/
theorem handlersAloof_of_bystanders {h : Host}
    (hb : ∀ x ∈ h.bus.handlers, x.listener.IsBystander) (seats : List Seat) :
    HandlersAloof (player (depth + 1)) seats h := by
  intro g hg w
  -- Neither the calls of the seats nor the handlers themselves bring any other handler in.
  have hbus : g.bus = h.bus := by
    induction hg with
    | refl => rfl
    | @tail g g' _ hstep ih =>
      rw [← ih]
      cases hstep with
      | stride _ hs => exact stride_bus hs
      | @told w _ _ _ e =>
        obtain ⟨n, g₁, e', hi⟩ := emit_bystander depth (ih ▸ hb) w.event
        cases e.symm.trans e'
        rw [hi]
  obtain ⟨n, g', e, hi⟩ := emit_bystander depth (hbus ▸ hb) w.event
  exact ⟨n, g', e, aloof_of_idle hi seats⟩

end

end Host
end Plugboard
