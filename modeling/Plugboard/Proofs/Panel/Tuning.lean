import Plugboard.Proofs.Panel.Marks

/-!
Which events mark which panels, over any stretch of a run in which nobody asks for all handlers to be
taken away.

* `Roster.Tuned`: the events that mark a panel. `Roster.Stands`: what a subscription stands for;
  `Roster.Fair`: what code keeps under a label stands for a handler of code.
* `Roster.Leads`: who listens changes only by handlers of code that come and go. None of the three is
  lost on the way.
* `Host.Spreads`: a panel is marked afterwards if it was marked before, or if an event was published
  that it is tuned to. `server_spreads`: so it is whatever is served, by induction on the depth.
-/
namespace Plugboard

open Run

/-- The listener of a handler that code has subscribed. -/
def Listener.IsCode : Listener → Prop
  | .code _ => True
  | .mark _ _ => False

namespace Roster

/-- The events that mark the panel with this number are these. -/
def Tuned (r : Roster) (n : Nat) (news : Event → Prop) : Prop :=
  ∀ e, (∃ x ∈ r.listening e.type, x.listener = .mark n e.plugin) ↔ news e

/-- The handler of a subscription, if it is still there, has such a listener. -/
structure Stands (r : Roster) (s : Subscription) (kind : Listener → Prop) : Prop where
  id : s.id ≤ r.lastId
  listener : ∀ x ∈ r.handlers, Bus.isFor s x = true → kind x.listener

/-- Numbers go up, and what is kept under a label stands for code. -/
structure Fair (r : Roster) : Prop where
  bounded : ∀ x ∈ r.handlers, x.id ≤ r.lastId
  labels : ∀ label s, Table.get? label r.labels = some s → r.Stands s Listener.IsCode

/-- Some of the handlers stay. -/
def keep (r : Roster) (f : Handler Listener → Bool) : Roster :=
  { r with handlers := r.handlers.filter f }

section
variable {r r' : Roster} {n : Nat} {news : Event → Prop} {s : Subscription}
  {kind : Listener → Prop}

/-! ## Handlers that come -/

/-- A new handler has a number that no subscription has had. -/
theorem Stands.join (hs : r.Stands s kind) (type : EventType) (l : Listener) :
    (r.join type l).Stands s kind := by
  refine ⟨Nat.le_succ_of_le hs.id, fun x hx hfor => ?_⟩
  rcases List.mem_append.mp hx with hx | hx
  · exact hs.listener x hx hfor
  · obtain rfl := List.mem_singleton.mp hx
    have hid := hs.id
    simp [Bus.isFor] at hfor
    omega

theorem bounded_join (hr : ∀ x ∈ r.handlers, x.id ≤ r.lastId) (type : EventType) (l : Listener) :
    ∀ x ∈ (r.join type l).handlers, x.id ≤ (r.join type l).lastId := by
  refine List.forall_mem_append.mpr ⟨fun x hx => Nat.le_succ_of_le (hr x hx), ?_⟩
  exact List.forall_mem_singleton.mpr (Nat.le_refl _)

theorem Fair.join (hr : r.Fair) (type : EventType) (l : Listener) : (r.join type l).Fair :=
  ⟨bounded_join hr.bounded type l, fun label s hs => (hr.labels label s hs).join type l⟩

theorem mem_listening_join {type t : EventType} {l : Listener} {x : Handler Listener} :
    x ∈ (r.join type l).listening t ↔
      x ∈ r.listening t ∨ x = ⟨r.lastId + 1, type, l⟩ ∧ type = t := by
  unfold join listening
  rw [List.filter_append, List.mem_append]
  refine or_congr_right ?_
  rw [List.mem_filter, List.mem_singleton]
  refine and_congr_right fun hx => ?_
  rw [hx, beq_iff_eq]

/-- The subscription that a handler has joined with stands for it. -/
theorem stands_join (hr : ∀ x ∈ r.handlers, x.id ≤ r.lastId) (type : EventType) {l : Listener}
    (hl : kind l) : (r.join type l).Stands ⟨r.lastId + 1, type⟩ kind := by
  refine ⟨Nat.le_refl _, fun x hx hfor => ?_⟩
  rcases List.mem_append.mp hx with hx | hx
  · have := hr x hx
    simp [Bus.isFor] at hfor
    omega
  · obtain rfl := List.mem_singleton.mp hx
    exact hl

/-- A handler that does not mark the panel changes nothing for it. -/
theorem Tuned.join (ht : r.Tuned n news) (type : EventType) {l : Listener}
    (hl : ∀ plugin, l ≠ .mark n plugin) : (r.join type l).Tuned n news := by
  intro e
  rw [← ht e]
  refine exists_congr fun x => ?_
  rw [mem_listening_join]
  constructor
  · rintro ⟨hx | ⟨rfl, -⟩, hmark⟩
    · exact ⟨hx, hmark⟩
    · exact absurd hmark (hl _)
  · exact fun ⟨hx, hmark⟩ => ⟨.inl hx, hmark⟩

/-! ## Handlers that go -/

theorem Stands.keep (hs : r.Stands s kind) (f : Handler Listener → Bool) :
    (r.keep f).Stands s kind :=
  ⟨hs.id, fun x hx => hs.listener x (List.mem_filter.mp hx).1⟩

theorem Fair.keep (hr : r.Fair) (f : Handler Listener → Bool) : (r.keep f).Fair :=
  ⟨fun x hx => hr.bounded x (List.mem_filter.mp hx).1,
    fun label s hs => (hr.labels label s hs).keep f⟩

/-- Where no event marks a panel, no handler is there for it. -/
theorem Tuned.unmarked (ht : r.Tuned n fun _ => False) {x : Handler Listener}
    (hx : x ∈ r.handlers) (plugin : String) : x.listener ≠ .mark n plugin := fun hl =>
  (ht ⟨x.type, plugin, none⟩).mp ⟨x, List.mem_filter.mpr ⟨hx, beq_iff_eq.mpr rfl⟩, hl⟩

/-- As long as the handlers of a panel stay, so do the events that mark it. -/
theorem Tuned.keep (ht : r.Tuned n news) {f : Handler Listener → Bool}
    (hf : ∀ x ∈ r.handlers, ∀ plugin, x.listener = .mark n plugin → f x = true) :
    (r.keep f).Tuned n news := by
  intro e
  rw [← ht e]
  refine exists_congr fun x => and_congr_left fun hl => ?_
  simp only [listening, Roster.keep, List.mem_filter]
  constructor
  · exact fun ⟨⟨hx, _⟩, htype⟩ => ⟨hx, htype⟩
  · exact fun ⟨hx, htype⟩ => ⟨⟨hx, hf x hx _ hl⟩, htype⟩

/-! ## What code asks for -/

/-- Whether a handler stays when one is taken away by its label. -/
def stays (r : Roster) (label : String) (x : Handler Listener) : Bool :=
  match Table.get? label r.labels with
  | none => true
  | some s => !Bus.isFor s x

theorem unsubscribe_eq (r : Roster) (label : String) :
    r.unsubscribe label = { r.keep (r.stays label) with labels := Table.erase label r.labels } := by
  unfold Roster.unsubscribe Roster.keep stays
  cases Table.get? label r.labels with
  | none => rw [List.filter_eq_self.mpr fun _ _ => rfl]
  | some s => rfl

/-- The handlers that mark panels stay. -/
theorem Fair.stays (hr : r.Fair) (label : String) (x : Handler Listener) (hx : x ∈ r.handlers)
    (plugin : String) (hl : x.listener = .mark n plugin) : r.stays label x = true := by
  unfold Roster.stays
  cases hs : Table.get? label r.labels with
  | none => rfl
  | some s =>
    have hcode := (hr.labels label s hs).listener x hx
    rw [hl] at hcode
    simpa [Listener.IsCode] using hcode

theorem Fair.enrol (hr : r.Fair) {x : Happening} (hx : ¬ x.Clears) : (x.enrol r).Fair := by
  cases x with
  | asked op =>
    cases op with
    | subscribe label type body =>
      have hj := hr.join type (.code body)
      refine ⟨hj.bounded, fun label' s hs => ?_⟩
      have hstands : (r.join type (.code body)).Stands s Listener.IsCode := by
        change Table.get? label' (Table.put label _ r.labels) = some s at hs
        rw [Table.get?_put] at hs
        split at hs
        · cases hs
          exact stands_join hr.bounded type trivial
        · exact hj.labels label' s hs
      exact ⟨hstands.id, hstands.listener⟩
    | unsubscribe label =>
      have hk := hr.keep (r.stays label)
      change (r.unsubscribe label).Fair
      rw [unsubscribe_eq]
      refine ⟨hk.bounded, fun label' s hs => ?_⟩
      have hstands : (r.keep (r.stays label)).Stands s Listener.IsCode := by
        dsimp only at hs
        rw [Table.get?_erase] at hs
        split at hs
        · cases hs
        · exact hk.labels label' s hs
      exact ⟨hstands.id, hstands.listener⟩
    | clearBus | clearRegistry => exact absurd trivial hx
    | _ => exact hr
  | _ => exact hr

theorem Tuned.enrol (ht : r.Tuned n news) (hr : r.Fair) {x : Happening} (hx : ¬ x.Clears) :
    (x.enrol r).Tuned n news := by
  cases x with
  | asked op =>
    cases op with
    | subscribe label type body => exact ht.join type (l := .code body) (by simp)
    | unsubscribe label =>
      change (r.unsubscribe label).Tuned n news
      rw [unsubscribe_eq]
      exact ht.keep (hr.stays label)
    | clearBus | clearRegistry => exact absurd trivial hx
    | _ => exact ht
  | _ => exact ht

theorem Stands.enrol (hs : r.Stands s kind) {x : Happening} (hx : ¬ x.Clears) :
    (x.enrol r).Stands s kind := by
  cases x with
  | asked op =>
    cases op with
    | subscribe label type body =>
      have hj := hs.join type (.code body)
      exact ⟨hj.id, hj.listener⟩
    | unsubscribe label =>
      have hk := hs.keep (r.stays label)
      change (r.unsubscribe label).Stands s kind
      rw [unsubscribe_eq]
      exact ⟨hk.id, hk.listener⟩
    | clearBus | clearRegistry => exact absurd trivial hx
    | _ => exact hs
  | _ => exact hs

/-- Code may have asked for this, but not for all handlers to be taken away. -/
def Leads (r r' : Roster) : Prop := ∃ l, (∀ x ∈ l, ¬ x.Clears) ∧ r' = r.after l

theorem Leads.refl (r : Roster) : r.Leads r := ⟨[], List.forall_mem_nil _, rfl⟩

theorem Leads.trans {r'' : Roster} (h : r.Leads r') (h' : r'.Leads r'') : r.Leads r'' := by
  obtain ⟨l, hl, rfl⟩ := h
  obtain ⟨l', hl', rfl⟩ := h'
  exact ⟨l ++ l', List.forall_mem_append.mpr ⟨hl, hl'⟩, (after_append _ _ _).symm⟩

theorem leads_enrol {x : Happening} (hx : ¬ x.Clears) : r.Leads (x.enrol r) :=
  ⟨[x], List.forall_mem_singleton.mpr hx, rfl⟩

/-- Whatever each such request keeps is kept. -/
theorem Leads.induct {P : Roster → Prop} (h : r.Leads r')
    (hP : ∀ r x, ¬ Happening.Clears x → P r → P (x.enrol r)) (hr : P r) : P r' := by
  obtain ⟨l, hl, rfl⟩ := h
  induction l generalizing r with
  | nil => exact hr
  | cons x l ih =>
    obtain ⟨hx, hl⟩ := List.forall_mem_cons.mp hl
    exact ih (hP r x hx hr) hl

theorem Leads.fair (h : r.Leads r') (hr : r.Fair) : r'.Fair :=
  h.induct (fun _ _ hx hr => hr.enrol hx) hr

theorem Leads.tuned (h : r.Leads r') (hr : r.Fair) (ht : r.Tuned n news) : r'.Tuned n news := by
  have hboth : r'.Fair ∧ r'.Tuned n news :=
    h.induct (P := fun r => r.Fair ∧ r.Tuned n news)
      (fun _ _ hx hr => ⟨hr.1.enrol hx, hr.2.enrol hr.1 hx⟩) ⟨hr, ht⟩
  exact hboth.2

theorem Leads.stands (h : r.Leads r') (hs : r.Stands s kind) : r'.Stands s kind :=
  h.induct (P := fun r => r.Stands s kind) (fun _ _ hx hs => hs.enrol hx) hs

end
end Roster

namespace Host

/-! ## What marks a panel -/

/-- Serial numbers only go up. And over a stretch of the journal without a request to take all
handlers away, the panels that are marked are those that were marked before, those with such a number,
and those that an event was published for. -/
structure Spreads (reached : Nat → Prop) (h h' : Host) : Prop where
  serial : h.lastSerial ≤ h'.lastSerial
  marked : ∃ l, h'.journal = h.journal ++ l ∧ ((∀ x ∈ l, ¬ x.Clears) →
    h.roster.Leads h'.roster ∧ ∀ n news, h.roster.Fair → h.roster.Tuned n news →
      (n ∈ h'.marked ↔ n ∈ h.marked ∨ reached n ∨ ∃ e, .published e ∈ l ∧ news e))

/-- Nobody is reached otherwise than by an event. -/
abbrev Silent : Nat → Prop := fun _ => False

theorem Spreads.mono {reached reached' : Nat → Prop} {h h' : Host} (hs : Spreads reached h h')
    (hn : ∀ n, reached n ↔ reached' n) : Spreads reached' h h' :=
  (funext fun n => propext (hn n) : reached = reached') ▸ hs

theorem Spreads.trans {reached reached' : Nat → Prop} {h h' h'' : Host}
    (hs : Spreads reached h h') (hs' : Spreads reached' h' h'') :
    Spreads (fun n => reached n ∨ reached' n) h h'' := by
  obtain ⟨hserial, l, hl, hm⟩ := hs
  obtain ⟨hserial', l', hl', hm'⟩ := hs'
  refine ⟨Nat.le_trans hserial hserial', l ++ l', by rw [hl', hl, List.append_assoc], ?_⟩
  intro hclear
  obtain ⟨hc, hc'⟩ := List.forall_mem_append.mp hclear
  obtain ⟨hlead, hm⟩ := hm hc
  obtain ⟨hlead', hm'⟩ := hm' hc'
  refine ⟨hlead.trans hlead', fun n news hr ht => ?_⟩
  rw [hm' n news (hlead.fair hr) (hlead.tuned hr ht), hm n news hr ht]
  simp only [List.mem_append, or_and_right, exists_or, or_assoc, or_left_comm]

theorem spreads_of_still {h h' : Host} (x : List Happening) (hj : h'.journal = h.journal ++ x)
    (hx : ∀ e, .published e ∉ x) (hr : h'.roster = h.roster) (hm : h'.marked = h.marked)
    (hn : h.lastSerial ≤ h'.lastSerial) : Spreads Silent h h' := by
  refine ⟨hn, x, hj, fun _ => ⟨hr ▸ .refl _, fun n news _ _ => ?_⟩⟩
  simp [hm, hx]

instance : Std.Refl (Spreads Silent) :=
  ⟨fun h => spreads_of_still [] (List.append_nil _).symm (by simp) rfl rfl (Nat.le_refl _)⟩

instance : IsTrans Host (Spreads Silent) :=
  ⟨fun _ _ _ hs hs' => (hs.trans hs').mono fun _ => or_self_iff⟩

theorem spreads_of_aside (h h' : Host) (ha : Aside h h') : Spreads Silent h h' := by
  obtain ⟨l, hl, hall⟩ := ha.journal
  exact spreads_of_still l hl (fun e he => hall _ he) ha.roster ha.marked ha.serial

theorem record_spreads {x : Happening} (hx : ∀ e, x ≠ .published e) :
    Along (Spreads Silent) (record x) :=
  along_modify fun _ => spreads_of_still [x] rfl
    (fun e he => hx e (List.mem_singleton.mp he).symm) rfl rfl (Nat.le_refl _)

/-- A request that changes who listens. -/
theorem spreads_of_enrol {h h' : Host} {x : Happening} (hx : ¬ x.Clears)
    (hj : h'.journal = h.journal) (hr : h'.roster = x.enrol h.roster) (hm : h'.marked = h.marked)
    (hn : h.lastSerial ≤ h'.lastSerial) : Spreads Silent h h' := by
  refine ⟨hn, [], by rw [hj, List.append_nil], fun _ => ⟨hr ▸ Roster.leads_enrol hx, ?_⟩⟩
  intro n news _ _
  simp [hm]

theorem register_spreads (d : Definition Code) : Along (Spreads Silent) (register d) := by
  intro h
  refine (register_ends d h).mono fun _ h' hr => ?_
  rcases hr with ⟨_, -, -, rfl⟩ | ⟨_, registry, -, -, ha⟩
  · exact Std.Refl.refl _
  · have hs := spreads_of_aside _ _ ha
    exact ⟨hs.serial, hs.marked⟩

section
variable {depth : Nat} (hplay : ∀ code, Along (Spreads Silent) (player depth code))
include hplay

/-- A handler that marks a panel reaches it if the event is about its plugin. -/
theorem deliver_spreads (e : Event) (x : Handler Listener) (h : Host) :
    Ends (deliver (player depth) e x) h fun r h' => r = .ok ⟨⟩ ∧
      Spreads (fun n => x.listener = .mark n e.plugin) h h' := by
  rw [deliver, record, ends_bind, ends_modify]
  have hrecord : Spreads Silent h (h.recorded (.delivered x.id e)) :=
    record_spreads (by simp) h _ _ rfl
  cases hx : x.listener with
  | mark panel plugin =>
    dsimp only
    split
    next hplugin =>
      refine (ends_modify _ _ _).mpr ⟨rfl, Nat.le_refl _, [.delivered x.id e], rfl, fun _ => ?_⟩
      refine ⟨.refl _, fun n news _ _ => ?_⟩
      simp [hplugin, eq_comm, or_comm]
    next hplugin =>
      refine (ends_pure _ _ _).mpr ⟨rfl, hrecord.mono fun n => ?_⟩
      simp [Silent, Ne.symm hplugin]
  | code body =>
    have hnone : ∀ n, Silent n ↔ Listener.code body = .mark n e.plugin := by simp [Silent]
    dsimp only
    rw [ends_bind, ends_contain]
    refine (hplay (body e) _).mono fun r h₁ hs => ?_
    have hs₁ : Spreads Silent h h₁ := IsTrans.trans _ _ _ hrecord hs
    cases r with
    | ok ending => exact (ends_pure _ _ _).mpr ⟨rfl, hs₁.mono hnone⟩
    | error panic =>
      refine (ends_modify _ _ _).mpr ⟨rfl, Spreads.mono ?_ hnone⟩
      exact IsTrans.trans _ _ _ hs₁ (record_spreads (by simp) h₁ _ _ rfl)

/-- A pass over handlers. -/
theorem deliveries_spread (e : Event) (xs : List (Handler Listener)) (h : Host) :
    Ends (xs.forM (deliver (player depth) e)) h fun r h' => r = .ok ⟨⟩ ∧
      Spreads (fun n => ∃ x ∈ xs, x.listener = .mark n e.plugin) h h' := by
  induction xs generalizing h with
  | nil => exact (ends_pure _ _ _).mpr ⟨rfl, (Std.Refl.refl h : Spreads Silent h h).mono (by simp)⟩
  | cons x xs ih =>
    refine (ends_bind (deliver (player depth) e x) _ h _).mpr ?_
    refine (deliver_spreads hplay e x h).mono fun r h₁ hr => ?_
    obtain ⟨rfl, hs⟩ := hr
    refine (ih h₁).mono fun r h' hr => ?_
    obtain ⟨rfl, hs'⟩ := hr
    exact ⟨rfl, (hs.trans hs').mono fun n => by simp⟩

/-- The panels that an event marks are those that are tuned to it when it is published. -/
theorem emit_spreads (e : Event) : Along (Spreads Silent) (emit (player depth) e) := by
  intro h
  rw [emit, record, ends_bind, ends_modify]
  dsimp only
  rw [ends_bind, ends_get]
  dsimp only
  rw [ends_bind]
  refine (deliveries_spread hplay e _ _).mono fun r h' hr => ?_
  obtain ⟨rfl, hserial, l, hl, hm⟩ := hr
  refine (ends_pure _ _ _).mpr ⟨hserial, .published e :: l, ?_, fun hclear => ?_⟩
  · rw [hl, List.append_assoc, List.singleton_append]
  · obtain ⟨hlead, hm⟩ := hm (List.forall_mem_cons.mp hclear).2
    refine ⟨hlead, fun n news hr ht => ?_⟩
    have hreached := ht e
    rw [hm n news hr ht]
    simp only [List.mem_cons, Happening.published.injEq, Silent, false_or, or_and_right,
      exists_or, exists_eq_left]
    exact or_congr_right (or_congr_left hreached)

theorem unregister_spreads (plugin : String) :
    Along (Spreads Silent) (unregister (player depth) plugin) := by
  intro h
  refine (unregister_ends spreads_of_aside (emit_spreads hplay) hplay
    (fun _ _ => record_spreads (by simp)) plugin h).mono fun _ h' hr => ?_
  rcases hr with ⟨-, rfl⟩ | hs
  · exact Std.Refl.refl _
  · exact ⟨hs.serial, hs.marked⟩

variable {a : Answer}

/-- What is done for a request, other than to take all handlers away. -/
theorem fulfil_spreads (op : Op Code a) (hop : ¬ (Happening.asked op).Clears) :
    Along (Spreads Silent) (fulfil (player depth) op) := by
  cases op with
  | subscribe label type body =>
    intro h
    refine (ends_of_start (start_subscribeAs label type body h)).mpr ?_
    exact spreads_of_enrol (x := .asked (.subscribe label type body)) hop rfl rfl rfl (Nat.le_refl _)
  | unsubscribe label =>
    intro h
    refine (ends_of_start (start_unsubscribeAs label h)).mpr ?_
    exact spreads_of_enrol (x := .asked (.unsubscribe label)) hop rfl (roster_unsubscribed label h) rfl
      (Nat.le_refl _)
  | clearBus | clearRegistry => exact absurd trivial hop
  | note | fresh | count | look | detach | setToken | callApi =>
    exact along_of_aside spreads_of_aside (fulfil_aside _ trivial)
  | emit e => exact emit_spreads hplay e
  | register d => exact register_spreads d
  | unregister plugin => exact along_bind (unregister_spreads hplay plugin) fun _ => along_pure _
  | update c changes => exact update_along spreads_of_aside (emit_spreads hplay) _ _ _

theorem serve_spreads (op : Op Code a) : Along (Spreads Silent) (serve (player depth) op) := by
  have hrecord : Along (Spreads Silent) (record (.asked op)) := record_spreads (by simp)
  by_cases hop : (Happening.asked op).Clears
  · -- once it is written down that all handlers go, nothing is claimed
    have hclears : ∀ h h' : Host, h'.journal = h.journal ++ [.asked op] →
        h.lastSerial ≤ h'.lastSerial → Spreads Silent h h' := fun h h' hj hn =>
      ⟨hn, [.asked op], hj, fun hclear => absurd hop (hclear _ List.mem_cons_self)⟩
    intro h
    rw [serve, record, ends_bind, ends_modify]
    cases op with
    | clearBus | clearRegistry =>
      exact (ends_modify _ _ _).mpr (hclears _ _ rfl (Nat.le_refl _))
    | _ => exact hop.elim
  · exact along_bind hrecord fun _ => fulfil_spreads hplay op hop

end

theorem server_spreads (depth : Nat) :
    ∀ a (op : Op Code a), Along (Spreads Silent) (server depth op) :=
  server_along (fun _ hplay _ => serve_spreads hplay) depth

theorem player_spreads {depth : Nat} (code : Code) : Along (Spreads Silent) (player depth code) :=
  run_along (server_spreads depth) code

end Host
end Plugboard
