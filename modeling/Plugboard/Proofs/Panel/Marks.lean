import Plugboard.Proofs.Broadcast
import Plugboard.Proofs.Panel.Alongside
import Plugboard.Proofs.Session.Calls

/-!
The marks of panels. A panel listens for news of its plugin, such news marks it, and the mark stays
until the panel itself is synced.

* `Roster.Hears`: a panel listens. `Host.Broadcasts.hears`: it does so until all handlers are taken
  away.
* `Host.call_marks`: a session that enables or disables a plugin marks the panels that listen.
* `Host.Retains`: marks stay, and the numbers of panels go up. `Panel.sync_retains`: only the sync of
  a panel takes its mark away.
* `Panel.attentive`: what this comes to for a panel.
-/
namespace Plugboard

open Run

/-! ## Who goes on listening -/

/-- Code asks for all handlers to be taken away. -/
def Happening.Clears : Happening → Prop
  | .asked .clearBus | .asked .clearRegistry => True
  | _ => False

namespace Roster

/-- What is kept under a label was handed out by the bus. -/
def Numbered (r : Roster) : Prop :=
  ∀ label s, Table.get? label r.labels = some s → s.id ≤ r.lastId

/-- Both handlers of the panel are there, and no label stands for them. -/
def Hears (r : Roster) (p : Panel) : Prop :=
  ∀ type, type = .enabled ∨ type = .disabled → ∃ x ∈ r.handlers, x.type = type ∧
    x.listener = .mark p.serial p.name ∧ x.id ≤ r.lastId ∧
    ∀ label s, Table.get? label r.labels = some s → s.id ≠ x.id

variable {r : Roster} {p : Panel}

theorem Numbered.subscribe (hr : r.Numbered) (label : String) (type : EventType)
    (body : Event → Code) : (r.subscribe label type body).Numbered := by
  intro label' s hs
  rw [Roster.subscribe, Table.get?_put] at hs
  split at hs
  · cases hs
    exact Nat.le_refl _
  · exact Nat.le_succ_of_le (hr label' s hs)

theorem Numbered.unsubscribe (hr : r.Numbered) (label : String) :
    (r.unsubscribe label).Numbered := by
  intro label' s hs
  rw [Roster.unsubscribe, Table.get?_erase] at hs
  split at hs
  · cases hs
  · exact hr label' s hs

theorem Numbered.enrol (hr : r.Numbered) (x : Happening) : (x.enrol r).Numbered := by
  cases x with
  | asked op =>
    cases op with
    | subscribe label type body => exact hr.subscribe label type body
    | unsubscribe label => exact hr.unsubscribe label
    | _ => exact hr
  | _ => exact hr

/-- One more handler, which no label stands for. -/
def join (r : Roster) (type : EventType) (l : Listener) : Roster where
  handlers := r.handlers ++ [⟨r.lastId + 1, type, l⟩]
  lastId := r.lastId + 1
  labels := r.labels

theorem Numbered.join (hr : r.Numbered) (type : EventType) (l : Listener) :
    (r.join type l).Numbered := fun label s hs => Nat.le_succ_of_le (hr label s hs)

theorem Hears.join (hr : r.Hears p) (type : EventType) (l : Listener) :
    (r.join type l).Hears p := by
  intro t ht
  obtain ⟨x, hmem, htype, hx, hid, hlabels⟩ := hr t ht
  exact ⟨x, List.mem_append_left _ hmem, htype, hx, Nat.le_succ_of_le hid, hlabels⟩

/-- Once its two handlers have joined, the panel listens. -/
theorem Numbered.hears_join (hr : r.Numbered) :
    ((r.join .enabled (.mark p.serial p.name)).join .disabled
      (.mark p.serial p.name)).Hears p := by
  rintro type (rfl | rfl)
  · refine ⟨⟨r.lastId + 1, .enabled, _⟩, ?_, rfl, rfl, Nat.le_succ _, fun label s hs => ?_⟩
    · exact List.mem_append_left _ (List.mem_append_right _ List.mem_cons_self)
    · exact Nat.ne_of_lt (Nat.lt_succ_of_le (hr label s hs))
  · refine ⟨⟨r.lastId + 2, .disabled, _⟩, ?_, rfl, rfl, Nat.le_refl _, fun label s hs => ?_⟩
    · exact List.mem_append_right _ List.mem_cons_self
    · exact Nat.ne_of_lt (Nat.lt_succ_of_le (Nat.le_succ_of_le (hr label s hs)))

/-- A new handler has a number that no handler has had. -/
theorem Hears.subscribe (hr : r.Hears p) (label : String) (type : EventType)
    (body : Event → Code) : (r.subscribe label type body).Hears p := by
  intro t ht
  obtain ⟨x, hmem, htype, hx, hid, hlabels⟩ := hr t ht
  refine ⟨x, List.mem_append_left _ hmem, htype, hx, Nat.le_succ_of_le hid, fun label' s hs => ?_⟩
  rw [Roster.subscribe, Table.get?_put] at hs
  split at hs
  · cases hs
    exact Nat.ne_of_gt (Nat.lt_succ_of_le hid)
  · exact hlabels label' s hs

/-- Who takes a handler away by its label takes none of the panel's. -/
theorem Hears.unsubscribe (hr : r.Hears p) (label : String) : (r.unsubscribe label).Hears p := by
  intro t ht
  obtain ⟨x, hmem, htype, hx, hid, hlabels⟩ := hr t ht
  refine ⟨x, ?_, htype, hx, hid, fun label' s hs => ?_⟩
  · rw [Roster.unsubscribe]
    dsimp only
    cases hget : Table.get? label r.labels with
    | none => exact hmem
    | some s =>
      refine List.mem_filter.mpr ⟨hmem, ?_⟩
      simp [Bus.isFor, (hlabels label s hget).symm]
  · rw [Roster.unsubscribe, Table.get?_erase] at hs
    split at hs
    · cases hs
    · exact hlabels label' s hs

theorem Hears.enrol (hr : r.Hears p) {x : Happening} (hx : ¬ x.Clears) : (x.enrol r).Hears p := by
  cases x with
  | asked op =>
    cases op with
    | subscribe label type body => exact hr.subscribe label type body
    | unsubscribe label => exact hr.unsubscribe label
    | clearBus | clearRegistry => exact absurd trivial hx
    | _ => exact hr
  | _ => exact hr

theorem Numbered.after (hr : r.Numbered) (l : List Happening) : (r.after l).Numbered := by
  induction l generalizing r with
  | nil => exact hr
  | cons x l ih => exact ih (hr.enrol x)

theorem Hears.after (hr : r.Hears p) {l : List Happening} (hl : ∀ x ∈ l, ¬ x.Clears) :
    (r.after l).Hears p := by
  induction l generalizing r with
  | nil => exact hr
  | cons x l ih =>
    obtain ⟨hx, hl⟩ := List.forall_mem_cons.mp hl
    exact ih (hr.enrol hx) hl

end Roster

namespace Host

/-- Code has asked in between for all handlers to be taken away. -/
def Cleared (h h' : Host) : Prop := ∃ l, h'.journal = h.journal ++ l ∧ ∃ x ∈ l, x.Clears

theorem Cleared.before {h h' h'' : Host} (hc : Cleared h h') (hj : h'.journal <+: h''.journal) :
    Cleared h h'' := by
  obtain ⟨l, hl, x, hx, hclears⟩ := hc
  obtain ⟨l', hl'⟩ := hj
  exact ⟨l ++ l', by rw [← hl', hl, List.append_assoc], x, List.mem_append_left _ hx, hclears⟩

theorem Cleared.after {h h' h'' : Host} (hc : Cleared h' h'') (hj : h.journal <+: h'.journal) :
    Cleared h h'' := by
  obtain ⟨l, hl, x, hx, hclears⟩ := hc
  obtain ⟨l', hl'⟩ := hj
  exact ⟨l' ++ l, by rw [hl, ← hl', List.append_assoc], x, List.mem_append_right _ hx, hclears⟩

theorem Broadcasts.journal {h h' : Host} (hb : Broadcasts h h') : h.journal <+: h'.journal := by
  obtain ⟨l, hl, -⟩ := hb
  exact ⟨l, hl.symm⟩

theorem Broadcasts.numbered {h h' : Host} (hb : Broadcasts h h') (hr : h.roster.Numbered) :
    h'.roster.Numbered := by
  obtain ⟨l, -, hl⟩ := hb
  exact hl.eq_after ▸ hr.after l

theorem Broadcasts.hears {h h' : Host} (hb : Broadcasts h h') {p : Panel}
    (hp : h.roster.Hears p) : h'.roster.Hears p ∨ Cleared h h' := by
  obtain ⟨l, hjournal, hl⟩ := hb
  by_cases hclear : ∃ x ∈ l, x.Clears
  · exact .inr ⟨l, hjournal, hclear⟩
  · exact .inl (hl.eq_after ▸ hp.after fun x hx hc => hclear ⟨x, hx, hc⟩)

/-! ## What is kept -/

/-- Serial numbers only go up, and a panel that waits for a sync goes on waiting. -/
structure Retains (n : Nat) (h h' : Host) : Prop where
  serial : h.lastSerial ≤ h'.lastSerial
  marked : n ∈ h.marked → n ∈ h'.marked

variable {n : Nat}

instance : Std.Refl (Retains n) := ⟨fun _ => ⟨Nat.le_refl _, id⟩⟩

instance : IsTrans Host (Retains n) :=
  ⟨fun _ _ _ k k' => ⟨Nat.le_trans k.serial k'.serial, k'.marked ∘ k.marked⟩⟩

theorem retains_of_aside (h h' : Host) (ha : Aside h h') : Retains n h h' :=
  ⟨ha.serial, fun hn => ha.marked ▸ hn⟩

theorem record_retains (x : Happening) : Along (Retains n) (record x) :=
  along_modify fun _ => ⟨Nat.le_refl _, id⟩

variable {depth : Nat}

theorem retains_of_served (h h' : Host) (hs : Served h h') : Retains n h h' :=
  ⟨hs.serial, hs.marked n⟩

theorem server_retains {a : Answer} (op : Op Code a) : Along (Retains n) (server depth op) :=
  fun h => (server_served depth a op h).mono fun _ h' => retains_of_served h h'

theorem player_retains (code : Code) : Along (Retains n) (player depth code) :=
  run_along (fun _ op => server_retains op) code

theorem emit_retains (e : Event) : Along (Retains n) (emit (player depth) e) := fun h =>
  (emit_served (run_along (server_served depth)) e h).mono fun _ h' => retains_of_served h h'

theorem call_retains (id : Nat) (c : SessionCall) : Along (Retains n) (call (player depth) id c) :=
  call_along retains_of_aside emit_retains id c

/-! ## What marks a panel -/

variable {p : Panel}

/-- News of the plugin marks the panel, whatever other handlers do. -/
theorem emit_marks {e : Event} (htype : e.type = .enabled ∨ e.type = .disabled)
    (hplugin : e.plugin = p.name) {h : Host} (hp : h.roster.Hears p) :
    Ends (emit (player depth) e) h fun r h' => ∀ n, r = .ok n → p.serial ∈ h'.marked := by
  obtain ⟨x, hmem, hxtype, hlistener, -⟩ := hp e.type htype
  have hx : x ∈ h.bus.handlersFor e.type := List.mem_filter.mpr ⟨hmem, beq_iff_eq.mpr hxtype⟩
  have hkeep : ∀ y s, p.serial ∈ s.marked →
      Ends (deliver (player depth) e y) s fun _ t => p.serial ∈ t.marked := by
    intro y s hs
    have hdeliver : Along (Retains p.serial) (deliver (player depth) e y) :=
      deliver_along retains_of_aside player_retains (fun _ => record_retains _)
        (fun _ => along_modify fun _ => ⟨Nat.le_refl _, List.mem_cons_of_mem _⟩) y
    exact (hdeliver s).mono fun _ _ hk => hk.marked hs
  have hset : ∀ s, Ends (deliver (player depth) e x) s fun _ t => p.serial ∈ t.marked := by
    intro s
    rw [deliver, record, ends_bind, ends_modify, hlistener]
    dsimp only
    rw [if_pos hplugin, ends_modify]
    exact List.mem_cons_self
  rw [emit, record, ends_bind, ends_modify]
  dsimp only
  rw [ends_bind, ends_get]
  dsimp only
  rw [ends_bind]
  refine (ends_forM_of_mem hx hkeep hset _).mono fun r h' hr => ?_
  cases r with
  | error => rintro _ ⟨⟩
  | ok => exact (ends_pure _ _ _).mpr fun _ _ => hr _ rfl

/-- What is done aside leaves the mark. -/
theorem marked_of_aside {α : Type} {h : Host} (hm : p.serial ∈ h.marked)
    {m : HostRun (Except SessionError α)} (ha : Along Aside m) :
    Ends m h fun r h' => ∀ x, r = .ok (.ok x) → p.serial ∈ h'.marked :=
  (ha h).mono fun _ _ hk _ _ => hk.marked ▸ hm

theorem finishWrite_marks (id : Nat) (token : String) (enabled : Bool) {h : Host}
    (hp : h.roster.Hears p) :
    Ends (finishWrite (player depth) id token (.toggle p.name enabled)) h fun r h' =>
      ∀ x, r = .ok (.ok x) → p.serial ∈ h'.marked := by
  rw [finishWrite, ends_bind]
  refine (write_aside token _ h).mono fun r h₁ ha => ?_
  cases r with
  | error => rintro _ ⟨⟩
  | ok result =>
    cases result with
    | error e => exact (ends_pure _ _ _).mpr (by rintro _ ⟨⟩)
    | ok written =>
      have htype : (Write.toggle p.name enabled).event.type = .enabled ∨
          (Write.toggle p.name enabled).event.type = .disabled := by
        cases enabled
        · exact .inr rfl
        · exact .inl rfl
      have hplugin : (Write.toggle p.name enabled).event.plugin = p.name := by
        cases enabled <;> rfl
      dsimp only
      rw [ends_bind]
      refine (emit_marks htype hplugin (ha.roster ▸ hp)).mono fun r h₂ hr => ?_
      cases r with
      | error => rintro _ ⟨⟩
      | ok n =>
        have hmarked : p.serial ∈ h₂.marked := hr n rfl
        exact marked_of_aside hmarked (along_bind (session_aside id) fun _ =>
          along_bind (setSession_aside id _) fun _ => along_pure _)

theorem settle_marks (id : Nat) (token : String) (enabled : Bool) {h : Host}
    (hp : h.roster.Hears p) :
    Ends (settle (player depth) id (.write token (.toggle p.name enabled))) h fun r h' =>
      ∀ o, r = .ok (.ok o) → p.serial ∈ h'.marked := by
  rw [settle, ends_bind]
  refine (finishWrite_marks id token enabled hp).mono fun r h₁ hr => ?_
  cases r with
  | error => rintro _ ⟨⟩
  | ok result =>
    cases result with
    | error e => exact (ends_pure _ _ _).mpr (by rintro _ ⟨⟩)
    | ok next =>
      have hmarked : p.serial ∈ h₁.marked := hr next rfl
      refine marked_of_aside hmarked ?_
      cases next with
      | none => exact along_bind (along_pure _) fun _ => along_pure _
      | some r => exact along_bind (finishRefresh_aside id r) fun _ => along_pure _

/-- A session that enables or disables the plugin marks the panel. -/
theorem call_marks (id : Nat) (enabled : Bool) {h : Host} (hp : h.roster.Hears p) :
    Ends (call (player depth) id (.toggle p.name enabled)) h fun r h' =>
      ∀ o, r = .ok (.ok o) → p.serial ∈ h'.marked := by
  have hwrite : (h.sessionAt id).writeOf (.toggle p.name enabled) =
    some (.toggle p.name enabled) := rfl
  rw [call, ends_bind, ends_of_start (beginCall_start id _ h)]
  dsimp only
  cases ht : (h.sessionAt id).token with
  | none =>
    rw [Session.begin_of_token_none hwrite ht]
    exact (ends_pure _ _ _).mpr (by rintro _ ⟨⟩)
  | some token =>
    rw [Session.begin_of_writeOf hwrite ht, withSession_sessionAt]
    exact settle_marks id token enabled hp

/-- Plugin code runs on a host, or a session is called. -/
inductive Ran : Host → Host → Prop
  | code {depth code h r h'} (e : start (player depth code) h = some (r, h')) : Ran h h'
  | call {depth id c h r h'} (e : start (call (player depth) id c) h = some (r, h')) : Ran h h'

theorem Ran.retains {h h' : Host} (hr : Ran h h') : Retains n h h' := by
  cases hr with
  | code e => exact player_retains _ _ _ _ e
  | call e => exact call_retains _ _ _ _ _ e

theorem player_broadcasts (code : Code) : Along Broadcasts (player depth code) :=
  run_along (server_broadcasts depth) code

theorem Ran.broadcasts {h h' : Host} (hr : Ran h h') : Broadcasts h h' := by
  cases hr with
  | code e => exact player_broadcasts _ _ _ _ e
  | call e =>
    exact call_along broadcasts_of_aside (emit_broadcasts player_broadcasts) _ _ _ _ _ e

end Host

/-! ## A panel -/

namespace Panel

theorem needsSync_iff {p : Panel} {h : Host} : p.needsSync h = true ↔ p.serial ∈ h.marked := by
  rw [needsSync, List.contains_iff_mem]

variable {n depth : Nat}

theorem mount_retains : Along (Alongside (Host.Retains n)) (mount (Host.server depth)) :=
  mount_alongside Host.retains_of_aside (fun _ => Host.server_retains) Host.emit_retains
    fun _ _ _ _ => Host.record_retains _

/-- Only its own sync takes the mark of a panel away. -/
theorem sync_retains (p : Panel) (h : Host) (hn : n ≠ p.serial) :
    Ends (sync (Host.server depth)) (p, h) fun _ t => Host.Retains n h t.2 := by
  have hunmark : Host.Retains n h (p.unmarked h) := by
    refine ⟨Nat.le_refl _, fun hmem => ?_⟩
    rw [unmarked, List.mem_filter]
    exact ⟨hmem, by simpa using hn⟩
  exact sync_alongside Host.retains_of_aside (fun _ => Host.server_retains) Host.emit_retains
    (fun _ _ _ _ => Host.record_retains _) p h hunmark

/-- News of its plugin marks the panel as long as it listens, which it does until all handlers are
taken away; and its mark lasts until its own sync. -/
structure Attentive (p : Panel) : Prop where
  toggled : ∀ depth id enabled h h' o, h.roster.Hears p →
    start (Host.call (Host.player depth) id (.toggle p.name enabled)) h = some (.ok (.ok o), h') →
    p.needsSync h' = true
  heard : ∀ h h', Host.Ran h h' → h.roster.Hears p → h'.roster.Hears p ∨ Host.Cleared h h'
  marked : ∀ h h', Host.Ran h h' → p.needsSync h = true → p.needsSync h' = true
  kept : ∀ depth q h r t, start (sync (Host.server depth)) (q, h) = some (r, t) →
    p.serial ≠ q.serial → p.needsSync h = true → p.needsSync t.2 = true

theorem attentive (p : Panel) : p.Attentive where
  toggled _ id enabled _ _ o hp e :=
    needsSync_iff.mpr (Host.call_marks id enabled hp _ _ e o rfl)
  heard _ _ hr hp := hr.broadcasts.hears hp
  marked _ _ hr hm := needsSync_iff.mpr (hr.retains.marked (needsSync_iff.mp hm))
  kept _ q h _ _ e hn hm :=
    needsSync_iff.mpr ((sync_retains q h hn _ _ e).marked (needsSync_iff.mp hm))

end Panel
end Plugboard
