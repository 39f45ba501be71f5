import Mathlib.Data.List.Nodup
import Mathlib.Logic.Relation
import Plugboard.Proofs.Panel.Doings
import Plugboard.Proofs.Panel.Tuning

/-!
No news is lost on a panel. Any number of panels share a host with sessions and plugin code, and all
of them may be at work in any order; a panel is marked exactly when news of its plugin was published
since it was made, or since its last sync has begun.

* `Audience`: the panels that are in use, each with the place in the journal from which on it counts
  its news. A sync puts that place to where the journal is when it begins.
* `Member.Kept`, `Audience.Kept`: the invariant, for one panel and for all of them.
* `step_kept`: one case for each thing that may happen.
* `marked_iff_news`: what it comes to for a whole run.
-/
namespace Plugboard

open Run

namespace Panel

/-- The event says that the plugin of the panel was enabled or disabled. -/
def IsNews (p : Panel) (e : Event) : Prop :=
  (e.type = .enabled ∨ e.type = .disabled) ∧ e.plugin = p.name

/-- What a panel listens with. -/
def ears (p : Panel) : String × Nat × List Subscription := (p.name, p.serial, p.subscriptions)

theorem fixed_ears : Fixed ears := fun _ _ _ _ _ _ _ _ => rfl

end Panel

/-! ## Two handlers for a panel -/

namespace Roster

/-- The roster when a panel with this number has joined. -/
def welcome (r : Roster) (n : Nat) (name : String) : Roster :=
  (r.join .enabled (.mark n name)).join .disabled (.mark n name)

variable {r : Roster} {n : Nat} {name : String}

theorem Tuned.welcome_self (ht : r.Tuned n fun _ => False) :
    (r.welcome n name).Tuned n fun e => (e.type = .enabled ∨ e.type = .disabled) ∧ e.plugin = name := by
  intro e
  simp only [welcome, mem_listening_join]
  constructor
  · rintro ⟨x, (hx | ⟨rfl, htype⟩) | ⟨rfl, htype⟩, hl⟩
    · exact ((ht e).mp ⟨x, hx, hl⟩).elim
    · cases hl
      exact ⟨.inl htype.symm, rfl⟩
    · cases hl
      exact ⟨.inr htype.symm, rfl⟩
  · rintro ⟨htype | htype, rfl⟩
    · exact ⟨_, .inl (.inr ⟨rfl, htype.symm⟩), rfl⟩
    · exact ⟨_, .inr ⟨rfl, htype.symm⟩, rfl⟩

theorem Tuned.welcome {m : Nat} {news : Event → Prop} (ht : r.Tuned m news) (hm : m ≠ n) :
    (r.welcome n name).Tuned m news := by
  have hl : ∀ plugin, Listener.mark n name ≠ .mark m plugin := fun _ hl => by
    cases hl
    exact hm rfl
  exact (ht.join .enabled hl).join .disabled hl

theorem Stands.welcome {s : Subscription} {kind : Listener → Prop} (hs : r.Stands s kind) :
    (r.welcome n name).Stands s kind := (hs.join _ _).join _ _

theorem Fair.welcome (hr : r.Fair) : (r.welcome n name).Fair := (hr.join _ _).join _ _

end Roster

/-! ## What happens around a panel -/

namespace Host

/-- Something other than a panel is at work: plugin code, a request of the program itself that does
not take all handlers away, a call of a session or a part of one, or the load of a panel that is gone
perhaps. -/
inductive Stirred : Host → Host → Prop
  | ran {h h'} (hr : Ran h h') : Stirred h h'
  | asked {depth a} {op : Op Code a} {h r h'} (hop : ¬ (Happening.asked op).Clears)
      (e : start (fulfil (player depth) op) h = some (r, h')) : Stirred h h'
  | resumed {depth id w h r h'} (e : start (resumeCall (player depth) id w) h = some (r, h')) :
      Stirred h h'
  | loaded {depth l h r h'} (e : start (Panel.load (server depth) l) h = some (r, h')) :
      Stirred h h'
  | aside {h h'} (ha : Aside h h') : Stirred h h'

theorem Stirred.spreads {h h' : Host} (hw : Stirred h h') : Spreads Silent h h' := by
  have hemit : ∀ depth e, Along (Spreads Silent) (emit (player depth) e) := fun _ =>
    emit_spreads player_spreads
  cases hw with
  | ran hr =>
    cases hr with
    | code e => exact player_spreads _ _ _ _ e
    | call e => exact call_along spreads_of_aside (hemit _) _ _ _ _ _ e
  | asked hop e => exact fulfil_spreads player_spreads _ hop _ _ _ e
  | resumed e => exact resumeCall_along spreads_of_aside (hemit _) _ _ _ _ _ e
  | loaded e =>
    exact Panel.load_along (server_spreads _) (fun _ _ _ _ => record_spreads (by simp)) _ _ _ _ e
  | aside ha => exact spreads_of_aside _ _ ha

end Host

namespace Panel

variable {depth : Nat}

theorem entered_spreads (caller : Caller) (plugin : String) (phase : Phase) (installation : Nat) :
    Along (Host.Spreads Host.Silent)
      (Host.record (.entered caller plugin phase installation)) :=
  Host.record_spreads (by simp)

theorem emit_spreads (e : Event) :
    Along (Host.Spreads Host.Silent) (Host.emit (Code.run (Host.server depth)) e) :=
  Host.emit_spreads Host.player_spreads e

/-- Whatever a panel does but to sync or to go. -/
theorem call_spreads (call : Call) (hc : call ≠ .sync ∧ call ≠ .drop) :
    Along (Alongside (Host.Spreads Host.Silent)) (call.run (Host.server depth)) :=
  call_alongside Host.spreads_of_aside (Host.server_spreads depth) emit_spreads entered_spreads
    call hc

end Panel

/-! ## An audience -/

/-- A panel in use, with the length of the journal when it was made, or when its last sync began. -/
structure Member where
  panel : Panel
  since : Nat

structure Audience where
  host : Host
  members : List Member

/-- A host without panels. -/
def Audience.empty (config : HostConfig) (policy : DuplicatePolicy) (store : Store)
    (backend : Http.Backend) : Audience := ⟨.new config policy store backend, []⟩

/-- What may happen next. Calls may end in a panic. -/
inductive Audience.Step (s : Audience) : Audience → Prop
  | made {surface session name p h}
      (e : start (Panel.create surface session name) s.host = some (.ok p, h)) :
      Step s ⟨h, s.members ++ [⟨p, s.host.journal.length⟩]⟩
  | called {before x after depth call r p h} (hx : s.members = before ++ x :: after)
      (hc : call ≠ .sync ∧ call ≠ .drop)
      (e : start (Panel.Call.run (Host.server depth) call) (x.panel, s.host) = some (r, p, h)) :
      Step s ⟨h, before ++ ⟨p, x.since⟩ :: after⟩
  | synced {before x after depth r p h} (hx : s.members = before ++ x :: after)
      (e : start (Panel.sync (Host.server depth)) (x.panel, s.host) = some (r, p, h)) :
      Step s ⟨h, before ++ ⟨p, s.host.journal.length⟩ :: after⟩
  /-- A sync begins. The rest of it, which mounts the panel, may come in pieces later. -/
  | begun {before x after} (hx : s.members = before ++ x :: after) :
      Step s ⟨x.panel.unmarked s.host,
        before ++ ⟨x.panel, s.host.journal.length⟩ :: after⟩
  | dropped {before x after depth r h} (hx : s.members = before ++ x :: after)
      (e : start (Panel.drop (Host.server depth) x.panel) s.host = some (r, h)) :
      Step s ⟨h, before ++ after⟩
  | worked {h} (hw : s.host.Stirred h) : Step s ⟨h, s.members⟩

abbrev Audience.Reaches : Audience → Audience → Prop := Relation.ReflTransGen Audience.Step

/-- The panel has its number and its handlers for itself, and is marked if there is news. -/
structure Member.Kept (x : Member) (h : Host) : Prop where
  serial : x.panel.serial ≤ h.lastSerial
  tuned : h.roster.Tuned x.panel.serial x.panel.IsNews
  own : ∀ s ∈ x.panel.subscriptions,
    h.roster.Stands s fun l => ∃ plugin, l = .mark x.panel.serial plugin
  since : x.since ≤ h.journal.length
  marked : x.panel.serial ∈ h.marked ↔
    ∃ e, .published e ∈ h.journal.drop x.since ∧ x.panel.IsNews e

/-- And no number that is still to come is marked or listens. -/
structure Audience.Kept (s : Audience) : Prop where
  fair : s.host.roster.Fair
  unused : ∀ n, s.host.lastSerial < n →
    n ∉ s.host.marked ∧ s.host.roster.Tuned n fun _ => False
  apart : (s.members.map fun x => x.panel.serial).Nodup
  member : ∀ x ∈ s.members, x.Kept s.host

/-- Nobody has asked for all handlers to be taken away so far. -/
def Host.Uncleared (h : Host) : Prop := ∀ x ∈ h.journal, ¬ x.Clears

section
variable {h h' : Host} {x : Member} {members : List Member}

theorem Host.Spreads.before {reached : Nat → Prop} (hs : Host.Spreads reached h h')
    (hc : h'.Uncleared) : h.Uncleared := by
  obtain ⟨l, hl, -⟩ := hs.marked
  intro x hx
  exact hc x (hl ▸ List.mem_append_left _ hx)

theorem Member.Kept.spread (hk : x.Kept h) (hr : h.roster.Fair) (hs : Host.Spreads Host.Silent h h')
    (hc : h'.Uncleared) : x.Kept h' := by
  obtain ⟨l, hl, hm⟩ := hs.marked
  obtain ⟨hlead, hm⟩ := hm fun x hx => hc x (hl ▸ List.mem_append_right _ hx)
  refine ⟨Nat.le_trans hk.serial hs.serial, hlead.tuned hr hk.tuned,
    fun s hs => hlead.stands (hk.own s hs), ?_, ?_⟩
  · rw [hl, List.length_append]
    exact Nat.le_add_right_of_le hk.since
  · rw [hm _ _ hr hk.tuned, hk.marked, hl, List.drop_append_of_le_length hk.since]
    simp only [Host.Silent, false_or, List.mem_append, or_and_right, exists_or]

theorem Audience.Kept.spread (hk : Audience.Kept ⟨h, members⟩)
    (hs : Host.Spreads Host.Silent h h') (hc : h'.Uncleared) : Audience.Kept ⟨h', members⟩ := by
  obtain ⟨l, hl, hm⟩ := hs.marked
  obtain ⟨hlead, hm⟩ := hm fun x hx => hc x (hl ▸ List.mem_append_right _ hx)
  refine ⟨hlead.fair hk.fair, fun n hn => ?_, hk.apart,
    fun x hx => (hk.member x hx).spread hk.fair hs hc⟩
  obtain ⟨hno, ht⟩ := hk.unused n (Nat.lt_of_le_of_lt hs.serial hn)
  refine ⟨?_, hlead.tuned hk.fair ht⟩
  rw [hm n _ hk.fair ht]
  simp [hno, Host.Silent]

/-- What a panel changes of itself does not matter. -/
theorem Member.Kept.same (hk : x.Kept h) {p : Panel} (hp : p.ears = x.panel.ears) :
    Member.Kept ⟨p, x.since⟩ h := by
  obtain ⟨p₀, since⟩ := x
  simp only [Panel.ears, Prod.mk.injEq] at hp
  obtain ⟨hname, hserial, hsubs⟩ := hp
  have hnews : p.IsNews = p₀.IsNews := by
    unfold Panel.IsNews
    rw [hname]
  refine ⟨?_, ?_, ?_, hk.since, ?_⟩
  · rw [hserial]
    exact hk.serial
  · rw [hserial, hnews]
    exact hk.tuned
  · rw [hserial, hsubs]
    exact hk.own
  · rw [hserial, hnews]
    exact hk.marked

end

namespace Audience

section
variable {s s' : Audience} {h : Host} {before after members : List Member} {x : Member}

theorem Kept.made (hk : Kept ⟨h, members⟩) {surface : Surface} {session : Nat} {name : String}
    {p : Panel} {h' : Host}
    (e : start (Panel.create surface session name) h = some (.ok p, h')) :
    Kept ⟨h', members ++ [⟨p, h.journal.length⟩]⟩ := by
  rw [Panel.start_create] at e
  cases e
  obtain ⟨hfair, hunused, hapart, hmember⟩ := hk
  have hnew := hunused (h.lastSerial + 1) (Nat.lt_succ_self _)
  refine ⟨hfair.welcome, fun n hn => ?_, ?_, List.forall_mem_append.mpr ⟨fun y hy => ?_, ?_⟩⟩
  · have hn' : h.lastSerial + 1 < n := hn
    obtain ⟨hno, ht⟩ := hunused n (Nat.lt_of_succ_lt hn')
    exact ⟨hno, ht.welcome (Nat.ne_of_gt hn')⟩
  · rw [List.map_append, List.nodup_append]
    refine ⟨hapart, List.nodup_singleton _, fun a ha b hb => ?_⟩
    obtain ⟨y, hy, rfl⟩ := List.mem_map.mp ha
    obtain rfl := List.mem_singleton.mp hb
    exact Nat.ne_of_lt (Nat.lt_succ_of_le (hmember y hy).serial)
  · obtain ⟨hserial, ht, hown, hsince, hmarked⟩ := hmember y hy
    exact ⟨Nat.le_succ_of_le hserial, ht.welcome (Nat.ne_of_lt (Nat.lt_succ_of_le hserial)),
      fun s hs => (hown s hs).welcome, hsince, hmarked⟩
  · refine List.forall_mem_singleton.mpr ⟨Nat.le_refl _, hnew.2.welcome_self, ?_, Nat.le_refl _, ?_⟩
    · have hbound := Roster.bounded_join (r := h.roster) hfair.bounded .enabled
        (.mark (h.lastSerial + 1) name)
      refine List.forall_mem_cons.mpr ⟨?_, List.forall_mem_singleton.mpr ?_⟩
      · exact (Roster.stands_join hfair.bounded .enabled ⟨name, rfl⟩).join _ _
      · exact Roster.stands_join hbound .disabled ⟨name, rfl⟩
    · simp [hnew.1]

theorem Kept.replace (hk : Kept ⟨h, before ++ x :: after⟩) {y : Member}
    (hserial : y.panel.serial = x.panel.serial) (hy : y.Kept h) :
    Kept ⟨h, before ++ y :: after⟩ := by
  obtain ⟨hfair, hunused, hapart, hmember⟩ := hk
  refine ⟨hfair, hunused, ?_, ?_⟩
  · simpa [hserial] using hapart
  · obtain ⟨hbefore, hrest⟩ := List.forall_mem_append.mp hmember
    exact List.forall_mem_append.mpr
      ⟨hbefore, List.forall_mem_cons.mpr ⟨hy, (List.forall_mem_cons.mp hrest).2⟩⟩

/-- No other panel has the number of this one. -/
theorem Kept.ne (hk : Kept ⟨h, before ++ x :: after⟩) :
    ∀ y ∈ before ++ after, y.panel.serial ≠ x.panel.serial := by
  have hapart : ((before ++ x :: after).map fun y => y.panel.serial).Nodup := hk.apart
  rw [List.map_append, List.map_cons, List.nodup_middle, List.nodup_cons, ← List.map_append]
    at hapart
  exact fun y hy heq => hapart.1 (heq ▸ List.mem_map_of_mem hy)

/-- A sync begins: the panel counts from here on. -/
theorem Kept.unmarked (hk : Kept ⟨h, before ++ x :: after⟩) :
    Kept ⟨x.panel.unmarked h, before ++ ⟨x.panel, h.journal.length⟩ :: after⟩ := by
  have hne := hk.ne
  obtain ⟨hfair, hunused, hapart, hmember⟩ := hk
  have hmarked : ∀ n, n ∈ (x.panel.unmarked h).marked ↔ n ∈ h.marked ∧ n ≠ x.panel.serial := by
    intro n
    rw [Panel.unmarked, List.mem_filter, bne_iff_ne]
  have hother : ∀ y ∈ before ++ after, y.Kept h → y.Kept (x.panel.unmarked h) := by
    intro y hy hk
    refine ⟨hk.serial, hk.tuned, hk.own, hk.since, ?_⟩
    rw [hmarked, and_iff_left (hne y hy)]
    exact hk.marked
  obtain ⟨hbefore, hrest⟩ := List.forall_mem_append.mp hmember
  obtain ⟨hx, hafter⟩ := List.forall_mem_cons.mp hrest
  refine ⟨hfair, fun n hn => ⟨fun hm => (hunused n hn).1 ((hmarked n).mp hm).1, (hunused n hn).2⟩,
    by simpa using hapart, List.forall_mem_append.mpr ⟨fun y hy => ?_,
      List.forall_mem_cons.mpr ⟨?_, fun y hy => ?_⟩⟩⟩
  · exact hother y (List.mem_append_left _ hy) (hbefore y hy)
  · refine ⟨hx.serial, hx.tuned, hx.own, Nat.le_refl _, ?_⟩
    have hdrop : (x.panel.unmarked h).journal.drop h.journal.length = [] := List.drop_length
    rw [hmarked, hdrop]
    simp
  · exact hother y (List.mem_append_right _ hy) (hafter y hy)

/-- A panel goes with its handlers, and with no others. -/
theorem Kept.left (hk : Kept ⟨h, before ++ x :: after⟩) {bus : Bus Listener}
    (hid : bus.lastId = h.bus.lastId)
    (hbus : bus.handlers = h.bus.handlers.filter fun y =>
      !x.panel.subscriptions.any (Bus.isFor · y)) :
    Kept ⟨{ h with bus := bus }, before ++ after⟩ := by
  have hne := hk.ne
  obtain ⟨hfair, hunused, hapart, hmember⟩ := hk
  obtain ⟨hbefore, hrest⟩ := List.forall_mem_append.mp hmember
  obtain ⟨hx, hafter⟩ := List.forall_mem_cons.mp hrest
  have hothers := List.forall_mem_append.mpr ⟨hbefore, hafter⟩
  have hroster : Host.roster { h with bus := bus } = h.roster.keep fun y =>
      !x.panel.subscriptions.any (Bus.isFor · y) := by
    rw [Host.roster, hid, hbus]
    rfl
  have hstays : ∀ n, n ≠ x.panel.serial → ∀ y ∈ h.roster.handlers, ∀ plugin,
      y.listener = .mark n plugin → (!x.panel.subscriptions.any (Bus.isFor · y)) = true := by
    intro n hn y hy plugin hl
    rw [Bool.not_eq_true', List.any_eq_false]
    intro s hs hfor
    obtain ⟨plugin', hown⟩ := (hx.own s hs).listener y hy hfor
    cases hl.symm.trans hown
    exact hn rfl
  refine ⟨hroster ▸ hfair.keep _, fun n hn => ?_, ?_, fun y hy => ?_⟩
  · obtain ⟨hno, ht⟩ := hunused n hn
    have hn' : n ≠ x.panel.serial := fun heq => Nat.not_lt.mpr hx.serial (heq ▸ hn)
    exact ⟨hno, hroster ▸ ht.keep (hstays n hn')⟩
  · exact hapart.sublist (((List.sublist_cons_self x after).append_left before).map _)
  · have hy' := hothers y hy
    exact ⟨hy'.serial, hroster ▸ hy'.tuned.keep (hstays _ (hne y hy)),
      fun s hs => hroster ▸ (hy'.own s hs).keep _, hy'.since, hy'.marked⟩

/-- A panel goes: its plugin is taken away first, and then its handlers are. -/
theorem drop_leaves {depth : Nat} (p : Panel) (h : Host) :
    Ends (Panel.drop (Host.server depth) p) h fun _ h' => ∃ h₁ bus,
      Host.Spreads Host.Silent h h₁ ∧ h' = { h₁ with bus := bus } ∧ bus.lastId = h₁.bus.lastId ∧
      bus.handlers = h₁.bus.handlers.filter fun y => !p.subscriptions.any (Bus.isFor · y) := by
  have hdestroy := Panel.runDestroy_along Host.spreads_of_aside (Host.server_spreads depth)
    Panel.emit_spreads Panel.entered_spreads p h
  rw [Panel.drop, ends_bind]
  refine (hdestroy.and (Panel.runDestroy_parts p h)).mono fun r h₁ hr => ?_
  obtain ⟨hs, rfl, -⟩ := hr
  obtain ⟨bus, e, hid, hbus⟩ := Panel.start_unsubscribeAll p.subscriptions h₁
  exact (ends_of_start e).mpr ⟨h₁, bus, hs, rfl, hid, hbus⟩

/-- One step, if nobody has asked for all handlers to be taken away by the end of it. -/
theorem step_kept (hstep : Step s s') (hk : s.host.Uncleared → s.Kept) (hc : s'.host.Uncleared) :
    s'.Kept := by
  obtain ⟨host, members⟩ := s
  cases hstep with
  | made e =>
    have hmade := e
    rw [Panel.start_create] at hmade
    cases hmade
    exact (hk hc).made e
  | @called before x after depth call r p h hx hcall e =>
    obtain rfl : members = before ++ x :: after := hx
    have hs := Panel.call_spreads call hcall _ _ _ e
    have hk' := (hk (hs.before hc)).spread hs hc
    obtain ⟨ds, ha⟩ := Panel.call_acts call x.panel host _ _ e
    have hears := ha.keeps Panel.fixed_ears
    refine hk'.replace (congrArg (·.2.1) hears) ?_
    exact (hk'.member x (List.mem_append_right _ List.mem_cons_self)).same hears
  | @synced before x after depth r p h hx e =>
    obtain rfl : members = before ++ x :: after := hx
    have hs : Host.Spreads Host.Silent (x.panel.unmarked host) h :=
      Panel.sync_unmarked Host.spreads_of_aside (Host.server_spreads depth) Panel.emit_spreads
        Panel.entered_spreads x.panel host _ _ e
    have hk' := (hk (hs.before hc)).unmarked.spread hs hc
    obtain ⟨ds, ha⟩ := Panel.sync_syncs x.panel host _ _ e
    have hears := ha.keeps Panel.fixed_ears
    refine hk'.replace (congrArg (·.2.1) hears) ?_
    exact (hk'.member ⟨x.panel, _⟩ (List.mem_append_right _ List.mem_cons_self)).same hears
  | @begun before x after hx =>
    obtain rfl : members = before ++ x :: after := hx
    exact (hk hc).unmarked
  | @dropped before x after depth r h hx e =>
    obtain rfl : members = before ++ x :: after := hx
    obtain ⟨h₁, bus, hs, rfl, hid, hbus⟩ := drop_leaves x.panel host _ _ e
    exact ((hk (hs.before hc)).spread hs hc).left hid hbus
  | worked hw => exact (hk (hw.spreads.before hc)).spread hw.spreads hc

theorem reaches_kept (hr : Reaches s s') (hk : s.host.Uncleared → s.Kept)
    (hc : s'.host.Uncleared) : s'.Kept := by
  induction hr with
  | refl => exact hk hc
  | tail _ hstep ih => exact step_kept hstep ih hc

end

theorem empty_kept (config : HostConfig) (policy : DuplicatePolicy) (store : Store)
    (backend : Http.Backend) : (empty config policy store backend).Kept where
  fair := ⟨List.forall_mem_nil _, fun _ _ hs => nomatch hs⟩
  unused _ _ := ⟨List.not_mem_nil, fun _ => ⟨fun ⟨_, hx, _⟩ => absurd hx List.not_mem_nil, False.elim⟩⟩
  apart := List.nodup_nil
  member := List.forall_mem_nil _

/-- However panels come, work, look again and go, and whatever plugin code, handlers and sessions do
meanwhile, as long as nobody asks for all handlers to be taken away: a panel in use waits for a sync
if and only if news of its own plugin was published since it was made, or since its last sync has
begun, whichever is later. Who has published it, how deep in what other work, and what else came of
it, does not matter. -/
theorem marked_iff_news {config : HostConfig} {policy : DuplicatePolicy} {store : Store}
    {backend : Http.Backend} {s : Audience}
    (hr : Reaches (empty config policy store backend) s) (hc : s.host.Uncleared) {x : Member}
    (hx : x ∈ s.members) :
    x.panel.needsSync s.host = true ↔
      ∃ e, .published e ∈ s.host.journal.drop x.since ∧ x.panel.IsNews e := by
  rw [Panel.needsSync_iff]
  exact ((reaches_kept hr (fun _ => empty_kept config policy store backend) hc).member x hx).marked

/-! ## News from inside a sync -/

/-- A plugin whose init hook says that it was enabled. -/
def herald : Definition Code :=
  { Definition.plain "herald" "Herald" with
    panel := some ⟨.later .skip, fun _ => .skip⟩
    init := some fun _ => .later (.ask (.emit (.enabled "herald")) fun _ => .skip) }

/-- A host whose user has the plugin enabled. -/
def heraldAwaited : Host :=
  { Host.new .default .ignore (.memory .empty) .unreachable with
    sessions := [{ Session.new (some "ada") with entries := [.new "herald" true] }] }

/-- The host with the plugin. -/
def heraldThere : Host :=
  { heraldAwaited with
    registry := ((Registry.empty .ignore).install ⟨herald, 1⟩ rfl).2
    lastSerial := 1 }

theorem start_register_herald :
    start (Host.fulfil (Host.player 1) (.register herald)) heraldAwaited =
      some (.ok (.ok .registered), heraldThere) := by
  have hcheck : heraldAwaited.registry.register ⟨herald, 1⟩ =
      .ok ((Registry.empty .ignore).install ⟨herald, 1⟩ rfl) :=
    Registry.register_of_check rfl
  have hget : start get heraldAwaited = some (.ok heraldAwaited, heraldAwaited) := rfl
  rw [Host.fulfil, Host.register, start_bind, hget]
  dsimp only
  rw [show heraldAwaited.lastSerial + 1 = 1 from rfl, hcheck]
  rfl

/-- A sync mounts the panel. The init hook that it calls marks the panel anew. -/
theorem marked_iff_news_herald : ∃ s x,
    Reaches (empty .default .ignore (.memory .empty) .unreachable) s ∧ s.host.Uncleared ∧
    x ∈ s.members ∧ x.panel.stage = .mounted ∧ x.panel.needsSync s.host = true ∧
    ∃ e, .published e ∈ s.host.journal.drop x.since ∧ x.panel.IsNews e := by
  have haside : Host.Aside (Host.new .default .ignore (.memory .empty) .unreachable)
      heraldAwaited := Host.aside_of_eq rfl rfl rfl rfl rfl (Nat.le_refl _)
  obtain ⟨p, h, made, p', h', synced, hstage, hmarked, hjournal⟩ : ∃ p h,
      start (Panel.create .main 0 "herald") heraldThere = some (.ok p, h) ∧ ∃ p' h',
        start (Panel.sync (Host.server 1)) (p, h) = some (.ok .mounted, p', h') ∧
        p'.stage = .mounted ∧ p'.needsSync h' = true ∧
        h'.journal = [.entered (.panel 2) "herald" .load 1, .entered (.panel 2) "herald" .init 1,
          .asked (.emit (.enabled "herald")), .published (.enabled "herald"),
          .delivered 1 (.enabled "herald")] :=
    ⟨_, _, rfl, _, _, rfl, rfl, rfl, rfl⟩
  let s : Audience := ⟨h', [⟨p', h.journal.length⟩]⟩
  have hsync : Step ⟨h, [⟨p, heraldThere.journal.length⟩]⟩ s :=
    @Step.synced _ [] ⟨p, _⟩ [] 1 _ _ _ rfl synced
  have hopened : Step (empty .default .ignore (.memory .empty) .unreachable) ⟨heraldAwaited, []⟩ :=
    .worked (.aside haside)
  have hregistered : Step ⟨heraldAwaited, []⟩ ⟨heraldThere, []⟩ :=
    .worked (.asked id start_register_herald)
  have hmade : Step ⟨heraldThere, []⟩ ⟨h, [⟨p, heraldThere.journal.length⟩]⟩ := .made made
  have run : Reaches (empty .default .ignore (.memory .empty) .unreachable) s :=
    .tail (.tail (.tail (.single hopened) hregistered) hmade) hsync
  have hc : s.host.Uncleared := by
    intro x hx
    rw [hjournal] at hx
    simp only [List.mem_cons, List.not_mem_nil, or_false] at hx
    rcases hx with rfl | rfl | rfl | rfl | rfl <;> exact id
  have hx : (⟨p', h.journal.length⟩ : Member) ∈ s.members := List.mem_cons_self
  exact ⟨s, _, run, hc, hx, hstage, hmarked, (marked_iff_news run hc hx).mp hmarked⟩

end Audience
end Plugboard
