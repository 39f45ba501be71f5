import Plugboard.Proofs.Aside

/-!
What serving plugin code does to a host, whatever the code asks for.

* `Host.Served`: no panel calls anything, serial numbers only go up, and panels that wait for a sync
  go on waiting. `server_served`: so it is, by induction on the depth.
* `Host.hooks`, `Host.Quiet`: the hook calls of a panel, and that it makes none. `server_quiet`: it
  makes none while plugin code is served.
-/
namespace Plugboard

open Run

/-- The phase and the installation of a hook that the panel has called. -/
def Happening.hookOf? (panel : Nat) : Happening → Option (Phase × Nat)
  | .entered (.panel n) _ phase installation =>
    if n = panel ∧ (phase = .init ∨ phase = .destroy) then some (phase, installation) else none
  | _ => none

/-- What may be written down while plugin code is served. -/
def Happening.IsServed : Happening → Prop
  | .entered (.panel _) _ _ _ => False
  | _ => True

namespace Host

/-- What may happen between two hosts while plugin code is served. -/
structure Served (h h' : Host) : Prop where
  journal : ∃ l, h'.journal = h.journal ++ l ∧ ∀ x ∈ l, x.IsServed
  serial : h.lastSerial ≤ h'.lastSerial
  marked : ∀ n ∈ h.marked, n ∈ h'.marked

instance : Std.Refl Served :=
  ⟨fun _ => ⟨⟨[], (List.append_nil _).symm, List.forall_mem_nil _⟩, Nat.le_refl _, fun _ => id⟩⟩

instance : IsTrans Host Served where
  trans _ _ _ := by
    rintro ⟨⟨l, hl, hall⟩, hn, hm⟩ ⟨⟨l', hl', hall'⟩, hn', hm'⟩
    refine ⟨⟨l ++ l', ?_, ?_⟩, Nat.le_trans hn hn', fun n hmem => hm' n (hm n hmem)⟩
    · rw [hl', hl, List.append_assoc]
    · intro x hx
      exact (List.mem_append.mp hx).elim (hall x) (hall' x)

theorem served_of_eq {h h' : Host} (hj : h'.journal = h.journal)
    (hn : h'.lastSerial = h.lastSerial) (hm : ∀ n ∈ h.marked, n ∈ h'.marked) : Served h h' :=
  ⟨⟨[], by rw [hj, List.append_nil], List.forall_mem_nil _⟩, Nat.le_of_eq hn.symm, hm⟩

theorem served_of_aside (h h' : Host) (ha : Aside h h') : Served h h' := by
  obtain ⟨l, hl, hall⟩ := ha.journal
  refine ⟨⟨l, hl, fun x hx => ?_⟩, ha.serial, fun n hn => ha.marked ▸ hn⟩
  have haside := hall x hx
  cases x with
  | entered => exact haside.elim
  | _ => trivial

theorem record_served {x : Happening} (hx : x.IsServed) : Along Served (record x) :=
  along_modify fun _ => ⟨⟨[x], rfl, List.forall_mem_singleton.mpr hx⟩, Nat.le_refl _, fun _ => id⟩

/-! ## Hook calls -/

/-- The hook calls that a panel has made, oldest first. -/
def hooks (h : Host) (panel : Nat) : List (Phase × Nat) :=
  h.journal.filterMap (Happening.hookOf? panel)

/-- The panel calls no hook on the way from one host to the other. -/
def Quiet (panel : Nat) (h h' : Host) : Prop := h'.hooks panel = h.hooks panel

variable {panel : Nat}

theorem quiet_of_journal_eq {h h' : Host} (e : h'.journal = h.journal) : Quiet panel h h' := by
  rw [Quiet, hooks, hooks, e]

instance : Std.Refl (Quiet panel) := ⟨fun _ => rfl⟩

instance : IsTrans Host (Quiet panel) := ⟨fun _ _ _ q q' => Eq.trans q' q⟩

theorem modify_quiet {f : Host → Host} (hf : ∀ h, (f h).journal = h.journal) :
    Along (Quiet panel) (modify f : HostRun PUnit) :=
  along_modify fun h => quiet_of_journal_eq (hf h)

theorem hooks_append (h : Host) (x : Happening) :
    { h with journal := h.journal ++ [x] }.hooks panel =
      h.hooks panel ++ (x.hookOf? panel).toList := by
  rw [hooks, hooks, List.filterMap_append]
  cases hx : x.hookOf? panel <;> simp [hx]

theorem record_quiet {x : Happening} (hx : x.hookOf? panel = none) :
    Along (Quiet panel) (record x) := by
  refine along_modify fun h => ?_
  rw [Quiet, hooks_append, hx, Option.toList_none, List.append_nil]

/-- No panel calls a hook while code is served. -/
theorem quiet_of_served (h h' : Host) (hs : Served h h') : Quiet panel h h' := by
  obtain ⟨l, hl, hall⟩ := hs.journal
  have hnone : l.filterMap (Happening.hookOf? panel) = [] := by
    rw [List.filterMap_eq_nil_iff]
    intro x hx
    have hserved := hall x hx
    cases x with
    | entered caller =>
      cases caller with
      | registry => rfl
      | panel => exact hserved.elim
    | _ => rfl
  rw [Quiet, hooks, hooks, hl, List.filterMap_append, hnone, List.append_nil]

theorem quiet_of_aside (h h' : Host) (ha : Aside h h') : Quiet panel h h' :=
  quiet_of_served h h' (served_of_aside h h' ha)

theorem log_quiet (level : Level) (text : String) : Along (Quiet panel) (log level text) :=
  record_quiet rfl

theorem context_quiet (id : Nat) (plugin : String) : Along (Quiet panel) (context id plugin) :=
  along_of_aside quiet_of_aside (context_aside id plugin)

/-! ## Events -/

theorem unsubscribe_quiet (s : Subscription) : Along (Quiet panel) (unsubscribe s) :=
  along_bind along_get fun _ => along_bind (modify_quiet fun _ => rfl) fun _ => along_pure _

theorem emit_quiet {play : Player} (hplay : ∀ code, Along (Quiet panel) (play code)) (e : Event) :
    Along (Quiet panel) (emit play e) := by
  refine along_bind (record_quiet rfl) fun _ => along_bind along_get fun _ =>
    along_bind (along_forM (fun handler => ?_) _) fun _ => along_pure _
  exact deliver_along quiet_of_aside hplay (fun _ => record_quiet rfl)
    (fun _ => modify_quiet fun _ => rfl) handler

section
variable {tires breaks : Prop}

theorem record_within (x : Happening) : Within tires breaks (record x) := within_modify _

/-- A handler that panics is only logged. -/
theorem deliver_within {play : Player} (hplay : ∀ code, Within tires True (play code)) (e : Event)
    (handler : Handler Listener) : Within tires breaks (deliver play e handler) := by
  refine within_bind (record_within _) fun _ => ?_
  cases handler.listener with
  | mark panel plugin =>
    dsimp only
    split
    · exact within_modify _
    · exact within_pure _
  | code body =>
    refine within_bind (within_contain (hplay _)) fun r => ?_
    cases r with
    | ok _ => exact within_pure _
    | error p => exact record_within _

theorem emit_within {play : Player} (hplay : ∀ code, Within tires True (play code)) (e : Event) :
    Within tires breaks (emit play e) :=
  within_bind (record_within _) fun _ => within_bind within_get fun _ =>
    within_bind (within_forM (deliver_within hplay e) _) fun _ => within_pure _

end

/-! ## Serving -/

/-- Whatever it is asked for, the server calls no hook of the panel. -/
def QuietServer (panel : Nat) (serve : Server Host) : Prop :=
  ∀ a (op : Op Code a), Along (Quiet panel) (serve op)

/-- The registry, the bus and the subscriptions may change as they will. -/
theorem modify_served {f : Host → Host} (hj : ∀ h, (f h).journal = h.journal)
    (hn : ∀ h, (f h).lastSerial = h.lastSerial) (hm : ∀ h, ∀ n ∈ h.marked, n ∈ (f h).marked) :
    Along Served (modify f : HostRun PUnit) :=
  along_modify fun h => served_of_eq (hj h) (hn h) (hm h)

section
variable {play : Player} (hplay : ∀ code, Along Served (play code))
include hplay

theorem emit_served (e : Event) : Along Served (emit play e) := by
  refine along_bind (record_served trivial) fun _ => along_bind along_get fun _ =>
    along_bind (along_forM (fun handler => ?_) _) fun _ => along_pure _
  exact deliver_along served_of_aside hplay (fun _ => record_served trivial)
    (fun _ => modify_served (fun _ => rfl) (fun _ => rfl) fun _ _ => List.mem_cons_of_mem _) handler

theorem unregister_served (plugin : String) : Along Served (unregister play plugin) := by
  intro h
  refine (unregister_ends served_of_aside (emit_served hplay) hplay
    (fun _ _ => record_served trivial) plugin h).mono fun _ h' hr => ?_
  rcases hr with ⟨-, rfl⟩ | hs
  · exact Std.Refl.refl _
  · have hout : Served h { h with registry := h.registry.remove plugin } :=
      served_of_eq rfl rfl fun _ => id
    exact IsTrans.trans _ _ _ hout hs

omit hplay in
theorem register_served (d : Definition Code) : Along Served (register d) := by
  intro h
  refine (register_ends d h).mono fun _ h' hr => ?_
  rcases hr with ⟨_, -, -, rfl⟩ | ⟨_, registry, -, -, ha⟩
  · exact Std.Refl.refl _
  · have hin : Served h { h with registry := registry } := served_of_eq rfl rfl fun _ => id
    exact IsTrans.trans _ _ _ hin (served_of_aside _ _ ha)

theorem serve_served {a : Answer} (op : Op Code a) : Along Served (serve play op) := by
  refine along_bind (record_served trivial) fun _ => ?_
  cases op with
  | note | fresh | count | look | detach | setToken | callApi =>
    exact along_of_aside served_of_aside (fulfil_aside play trivial)
  | emit e => exact emit_served hplay e
  | subscribe label type handler =>
    exact fun h => (ends_of_start (start_subscribeAs label type handler h)).mpr
      (served_of_eq rfl rfl fun _ => id)
  | unsubscribe label =>
    exact fun h => (ends_of_start (start_unsubscribeAs label h)).mpr
      (served_of_eq rfl rfl fun _ => id)
  | clearBus => exact modify_served (fun _ => rfl) (fun _ => rfl) fun _ _ => id
  | register d => exact register_served d
  | unregister plugin => exact along_bind (unregister_served hplay plugin) fun _ => along_pure _
  | clearRegistry => exact modify_served (fun _ => rfl) (fun _ => rfl) fun _ _ => id
  | update c changes =>
    exact update_along served_of_aside (emit_served hplay) c.session c.plugin changes

end

theorem server_served (depth : Nat) : ∀ a (op : Op Code a), Along Served (server depth op) :=
  server_along (fun _ hplay _ => serve_served hplay) depth

theorem server_quiet (panel depth : Nat) : QuietServer panel (server depth) := fun a op h =>
  (server_served depth a op h).mono fun _ h' => quiet_of_served h h'

end Host
end Plugboard
