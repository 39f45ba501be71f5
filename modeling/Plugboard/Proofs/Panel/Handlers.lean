import Plugboard.Proofs.Panel.News
import Plugboard.Proofs.Subscriptions

/-!
Who takes which handler off the bus. Panels bring two handlers each and take them along when they
go; plugin code and the program subscribe others and give them up by their subscriptions.

* `Attendance`: a host with the panels in use, and with what was done to its bus so far, in order.
* `Explicit`: the subscriptions that were handed out to plugin code or to the program.
* `Accounted`: the invariant. Who is not the panel itself holds none of its subscriptions, and as
  long as nobody has taken all handlers away, the panels in use have theirs.
* `subscriptions_exact`: what it comes to for a whole run.
-/
namespace Plugboard

open Run

/-- Marks a panel, rather than running code that somebody has subscribed. -/
def Listener.isMark : Listener → Bool
  | .mark _ _ => true
  | .code _ => false

/-- The subscription was handed out for a handler of code. -/
def Explicit (acts : List (Bus.Act Listener)) (s : Subscription) : Prop :=
  ∃ past body later, Bus.Brings acts past ⟨s.id, s.type, .code body⟩ later

theorem Explicit.append {acts : List (Bus.Act Listener)} {s : Subscription} (hs : Explicit acts s)
    (more : List (Bus.Act Listener)) : Explicit (acts ++ more) s := by
  obtain ⟨past, body, later, rfl, hid⟩ := hs
  exact ⟨past, body, later ++ more, ⟨List.append_assoc _ _ _, hid⟩⟩

namespace Panel

/-- The handlers that a panel listens with. -/
def markers (p : Panel) : List (Handler Listener) :=
  p.subscriptions.map fun s => ⟨s.id, s.type, .mark p.serial p.name⟩

/-- The panel was made between these acts. Its handlers went at most together with all others. -/
structure MadeIn (p : Panel) (acts past later : List (Bus.Act Listener)) : Prop where
  acts : acts = past ++ .on .enabled (.mark p.serial p.name) ::
    .on .disabled (.mark p.serial p.name) :: later
  subscriptions : p.subscriptions =
    [⟨Bus.handedOut past + 1, .enabled⟩, ⟨Bus.handedOut past + 2, .disabled⟩]
  own : ∀ s ∈ p.subscriptions, .off s ∉ later

theorem MadeIn.same {p p' : Panel} {acts past later : List (Bus.Act Listener)}
    (hp : p.MadeIn acts past later) (hears : p'.ears = p.ears) : p'.MadeIn acts past later := by
  simp only [ears, Prod.mk.injEq] at hears
  obtain ⟨hname, hserial, hsubs⟩ := hears
  exact ⟨by rw [hname, hserial]; exact hp.acts, hsubs.trans hp.subscriptions, hsubs ▸ hp.own⟩

theorem markers_of_ears {p p' : Panel} (hears : p'.ears = p.ears) : p'.markers = p.markers := by
  simp only [ears, Prod.mk.injEq] at hears
  obtain ⟨hname, hserial, hsubs⟩ := hears
  rw [markers, markers, hname, hserial, hsubs]

section
variable {p : Panel} {acts past later : List (Bus.Act Listener)} (hp : p.MadeIn acts past later)
include hp

theorem MadeIn.append {more : List (Bus.Act Listener)}
    (hmore : ∀ s ∈ p.subscriptions, .off s ∉ more) :
    p.MadeIn (acts ++ more) past (later ++ more) where
  acts := by rw [hp.acts, List.append_assoc]; rfl
  subscriptions := hp.subscriptions
  own s hs hmem := (List.mem_append.mp hmem).elim (hp.own s hs) (hmore s hs)

theorem MadeIn.brings : Bus.Brings acts past
    ⟨Bus.handedOut past + 1, .enabled, .mark p.serial p.name⟩
    (.on .disabled (.mark p.serial p.name) :: later) := ⟨hp.acts, rfl⟩

theorem MadeIn.brings_second : Bus.Brings acts (past ++ [.on .enabled (.mark p.serial p.name)])
    ⟨Bus.handedOut past + 2, .disabled, .mark p.serial p.name⟩ later where
  acts := by
    rw [hp.acts, List.append_assoc]
    rfl
  id := by simp [Bus.handedOut, Bus.Act.isOn]

/-- What was handed out to the panel was handed out to nobody else. -/
theorem MadeIn.not_explicit {s : Subscription} (hs : s ∈ p.subscriptions) : ¬ Explicit acts s := by
  rintro ⟨past', body, later', hcode⟩
  rw [hp.subscriptions] at hs
  rcases List.mem_cons.mp hs with rfl | hs
  · cases hp.brings.unique hcode rfl
  · obtain rfl := List.mem_singleton.mp hs
    cases hp.brings_second.unique hcode rfl

theorem MadeIn.id_le {s : Subscription} (hs : s ∈ p.subscriptions) :
    s.id ≤ Bus.handedOut acts := by
  have hn : Bus.handedOut acts = Bus.handedOut past + (Bus.handedOut later + 1 + 1) := by
    rw [hp.acts, Bus.handedOut, List.countP_append, List.countP_cons, List.countP_cons]
    rfl
  rw [hp.subscriptions] at hs
  simp only [List.mem_cons, List.not_mem_nil, or_false] at hs
  rcases hs with rfl | rfl
  · dsimp only
    omega
  · dsimp only
    omega

/-- One handler for each of the two types. -/
theorem MadeIn.countP_markers {type : EventType} (ht : type = .enabled ∨ type = .disabled) :
    p.markers.countP (fun x => x.type == type) = 1 := by
  rw [markers, hp.subscriptions]
  rcases ht with rfl | rfl <;> rfl

/-- Giving up its subscriptions takes its two handlers away and no other one. -/
theorem MadeIn.offs (hc : .clear ∉ later) : ∃ xs ys,
    (Bus.empty.after acts).handlers = xs ++ (p.markers ++ ys) ∧
    ((Bus.empty.after acts).after (p.subscriptions.map .off)).handlers = xs ++ ys := by
  have hown := hp.own
  rw [hp.subscriptions] at hown
  obtain ⟨hfirst, hsecond⟩ := List.forall_mem_cons.mp hown
  have hsecond := List.forall_mem_singleton.mp hsecond
  obtain ⟨xs, hb⟩ := hp.brings.handlers_of_stays
    (Bus.stays_iff.mpr ⟨fun h => (List.mem_cons.mp h).elim nofun hc,
      fun h => (List.mem_cons.mp h).elim nofun hfirst⟩)
  have hstays : Bus.stays later
      ⟨Bus.handedOut past + 2, .disabled, .mark p.serial p.name⟩ = true :=
    Bus.stays_iff.mpr ⟨hc, hsecond⟩
  have hrest : Bus.standing (Bus.handedOut past + 1)
      (.on .disabled (.mark p.serial p.name) :: later) =
      ⟨Bus.handedOut past + 2, .disabled, .mark p.serial p.name⟩ ::
        Bus.standing (Bus.handedOut past + 2) later := by
    rw [← Bus.standing_on, List.filter_cons, hstays, List.filter_nil]
    rfl
  rw [hrest] at hb
  have hmarkers : p.markers = [⟨Bus.handedOut past + 1, .enabled, .mark p.serial p.name⟩,
      ⟨Bus.handedOut past + 2, .disabled, .mark p.serial p.name⟩] := by
    rw [markers, hp.subscriptions]
    rfl
  rw [hmarkers, hp.subscriptions]
  exact ⟨xs, _, hb, Bus.handlers_off_of_eq (Bus.handlers_off_of_eq hb)⟩

/-- When all handlers are gone that were there at the time, it takes nothing away. -/
theorem MadeIn.offs_of_clear (hc : .clear ∈ later) :
    (Bus.empty.after acts).after (p.subscriptions.map .off) = .after .empty acts := by
  have hgone : ∀ {x : Handler Listener}, Bus.stays later x = false := fun {x} =>
    Bool.eq_false_iff.mpr fun h => (Bus.stays_iff.mp h).1 hc
  have hfirst := Bus.off_of_not_has (hp.brings.has_of_gone hgone)
  have hsecond := Bus.off_of_not_has (hp.brings_second.has_of_gone hgone)
  rw [hp.subscriptions]
  exact (congrArg (fun b : Bus Listener => (b.off ⟨Bus.handedOut past + 2, .disabled⟩).2)
    hfirst).trans hsecond

end
end Panel

/-! ## Handlers that come and go -/

/-- Labels stand for subscriptions of code. The panels in use hold their own subscriptions, and as
long as nobody has taken all handlers away, the handlers that mark panels are theirs. -/
structure Accounted (panels : List Panel) (acts : List (Bus.Act Listener))
    (labels : Table String Subscription) : Prop where
  labels : ∀ label s, Table.get? label labels = some s → Explicit acts s
  made : ∀ p ∈ panels, ∃ past later, p.MadeIn acts past later
  apart : (panels.flatMap Panel.subscriptions).Nodup
  marks : .clear ∉ acts →
    (Bus.empty.after acts).handlers.filter (·.listener.isMark) = panels.flatMap Panel.markers

namespace Accounted

variable {panels : List Panel} {acts : List (Bus.Act Listener)}
  {labels : Table String Subscription}

/-- Something is done to the bus other than by a panel. -/
theorem act (ha : Accounted panels acts labels) {a : Bus.Act Listener}
    (hon : ∀ type l, a = .on type l → l.isMark = false)
    (hoff : ∀ s, a = .off s → Explicit acts s) : Accounted panels (acts ++ [a]) labels where
  labels label s hs := (ha.labels label s hs).append _
  made p hp := by
    obtain ⟨past, later, hm⟩ := ha.made p hp
    refine ⟨past, later ++ [a], hm.append fun s hs hmem => ?_⟩
    exact hm.not_explicit hs (hoff s (List.mem_singleton.mp hmem).symm)
  apart := ha.apart
  marks hc := by
    have hmarks := ha.marks fun hmem => hc (List.mem_append_left _ hmem)
    rw [Bus.act_history]
    cases a with
    | on type l =>
      rw [Bus.act, Bus.handlers_on, List.filter_append, hmarks, List.filter_cons, hon type l rfl]
      exact List.append_nil _
    | off s =>
      rw [Bus.act, Bus.handlers_off, List.filter_filter]
      simp only [Bool.and_comm (Listener.isMark _)]
      rw [← List.filter_filter, hmarks, List.filter_eq_self]
      intro x hx
      obtain ⟨p, hp, hx⟩ := List.mem_flatMap.mp hx
      obtain ⟨s', hs', rfl⟩ := List.mem_map.mp hx
      obtain ⟨past, later, hm⟩ := ha.made p hp
      rw [Bus.isFor_eq, Bool.not_eq_true', beq_eq_false_iff_ne]
      rintro rfl
      exact hm.not_explicit hs' (hoff _ rfl)
    | clear => exact absurd (List.mem_append_right _ List.mem_cons_self) hc

/-- Plugin code may have asked for something that changes who listens. -/
theorem enrol (ha : Accounted panels acts labels) (x : Happening) :
    Accounted panels (acts ++ x.acts labels)
      (x.enrol (.ofBus (.after .empty acts) labels)).labels := by
  cases x with
  | asked op =>
    cases op with
    | subscribe label type body =>
      have hon := ha.act (a := .on type (.code body)) (by rintro _ _ ⟨⟩; rfl) nofun
      refine { hon with labels := fun label' s hs => ?_ }
      change Table.get? label' (Table.put label _ labels) = some s at hs
      rw [Table.get?_put] at hs
      split at hs
      · cases hs
        exact ⟨acts, body, [], ⟨rfl, congrArg (· + 1) (Bus.lastId_history acts)⟩⟩
      · exact hon.labels label' s hs
    | unsubscribe label =>
      have herase : ∀ {acts'}, Accounted panels acts' labels →
          Accounted panels acts' (Table.erase label labels) := by
        refine fun ha' => { ha' with labels := fun label' s hs => ?_ }
        rw [Table.get?_erase] at hs
        split at hs
        · cases hs
        · exact ha'.labels label' s hs
      change Accounted panels (acts ++ (Table.get? label labels).toList.map .off)
        (Table.erase label labels)
      cases hs : Table.get? label labels with
      | none =>
        rw [Option.toList_none, List.map_nil, List.append_nil]
        exact herase ha
      | some s =>
        exact herase (ha.act nofun fun s' h => by
          cases h
          exact ha.labels label s hs)
    | clearBus | clearRegistry => exact ha.act nofun nofun
    | _ => exact (List.append_nil acts).symm ▸ ha
  | _ => exact (List.append_nil acts).symm ▸ ha

/-- Whatever plugin code has asked for. -/
theorem after (ha : Accounted panels acts labels) (l : List Happening) :
    Accounted panels (acts ++ (Roster.ofBus (.after .empty acts) labels).acts l)
      ((Roster.ofBus (.after .empty acts) labels).after l).labels := by
  induction l generalizing acts labels with
  | nil => exact (List.append_nil acts).symm ▸ ha
  | cons x l ih =>
    have hfirst := Roster.enrol_ofBus x (.after .empty acts) labels
    have hrest := ih (ha.enrol x)
    rw [Bus.after_append, ← hfirst, List.append_assoc] at hrest
    exact hrest

/-- A panel comes with its handlers. -/
theorem joined (ha : Accounted panels acts labels) {p : Panel}
    (hsubs : p.subscriptions =
      [⟨Bus.handedOut acts + 1, .enabled⟩, ⟨Bus.handedOut acts + 2, .disabled⟩]) :
    Accounted (panels ++ [p]) (acts ++ [.on .enabled (.mark p.serial p.name),
      .on .disabled (.mark p.serial p.name)]) labels where
  labels label s hs := (ha.labels label s hs).append _
  made := by
    refine List.forall_mem_append.mpr ⟨fun q hq => ?_, List.forall_mem_singleton.mpr ?_⟩
    · obtain ⟨past, later, hm⟩ := ha.made q hq
      exact ⟨past, _, hm.append fun s _ => by simp⟩
    · exact ⟨acts, [], rfl, hsubs, fun _ _ => List.not_mem_nil⟩
  apart := by
    rw [List.flatMap_append, List.flatMap_singleton, List.nodup_append]
    refine ⟨ha.apart, by simp [hsubs], fun s hs s' hs' => ?_⟩
    obtain ⟨q, hq, hs⟩ := List.mem_flatMap.mp hs
    obtain ⟨past, later, hm⟩ := ha.made q hq
    have hle := hm.id_le hs
    rw [hsubs] at hs'
    simp only [List.mem_cons, List.not_mem_nil, or_false] at hs'
    rintro rfl
    rcases hs' with rfl | rfl
    · dsimp only at hle
      omega
    · dsimp only at hle
      omega
  marks hc := by
    have hmarks := ha.marks fun hmem => hc (List.mem_append_left _ hmem)
    have hbus : (Bus.empty.after (acts ++ [.on .enabled (.mark p.serial p.name),
        .on .disabled (.mark p.serial p.name)])).handlers =
        (Bus.empty.after acts).handlers ++ p.markers := by
      rw [Bus.after_append, Panel.markers, hsubs, ← Bus.lastId_history]
      exact List.append_assoc _ _ _
    have hall : p.markers.filter (·.listener.isMark) = p.markers := by
      rw [Panel.markers, hsubs]
      rfl
    rw [hbus, List.filter_append, hmarks, hall, List.flatMap_append, List.flatMap_singleton]

/-- A panel goes with its handlers. -/
theorem left {before after : List Panel} {p : Panel}
    (ha : Accounted (before ++ p :: after) acts labels) :
    Accounted (before ++ after) (acts ++ p.subscriptions.map .off) labels := by
  have hperm : ((before ++ p :: after).flatMap Panel.subscriptions).Perm
      (p.subscriptions ++ (before ++ after).flatMap Panel.subscriptions) := by
    rw [← List.flatMap_cons]
    exact List.Perm.flatMap_right _ List.perm_middle
  obtain ⟨-, hrest, hapart⟩ := List.nodup_append.mp (hperm.nodup_iff.mp ha.apart)
  have hother : ∀ q ∈ before ++ after, ∀ s ∈ q.subscriptions, s ∉ p.subscriptions :=
    fun q hq s hs hmem => hapart s hmem s (List.mem_flatMap.mpr ⟨q, hq, hs⟩) rfl
  have hin : ∀ q ∈ before ++ after, q ∈ before ++ p :: after := fun q hq =>
    (List.mem_append.mp hq).elim (List.mem_append_left _) fun hq =>
      List.mem_append_right _ (List.mem_cons_of_mem _ hq)
  refine ⟨fun label s hs => (ha.labels label s hs).append _, fun q hq => ?_, hrest, fun hc => ?_⟩
  · obtain ⟨past, later, hm⟩ := ha.made q (hin q hq)
    refine ⟨past, _, hm.append fun s hs hmem => ?_⟩
    obtain ⟨s', hs', h⟩ := List.mem_map.mp hmem
    cases h
    exact hother q hq s hs hs'
  · have hmarks := ha.marks fun hmem => hc (List.mem_append_left _ hmem)
    have hkeeps : ∀ q ∈ before ++ after,
        q.markers.filter (fun x => !p.subscriptions.any (Bus.isFor · x)) = q.markers := by
      refine fun q hq => List.filter_eq_self.mpr fun x hx => ?_
      obtain ⟨s, hs, rfl⟩ := List.mem_map.mp hx
      rw [Bool.not_eq_true', List.any_eq_false]
      intro s' hs' hfor
      rw [Bus.isFor_eq, beq_iff_eq] at hfor
      obtain rfl : s' = s := hfor
      exact hother q hq s' hs hs'
    have hgoes : p.markers.filter (fun x => !p.subscriptions.any (Bus.isFor · x)) = [] := by
      refine List.filter_eq_nil_iff.mpr fun x hx => ?_
      obtain ⟨s, hs, rfl⟩ := List.mem_map.mp hx
      rw [Bool.not_eq_true', Bool.not_eq_false]
      exact List.any_eq_true.mpr ⟨s, hs, by rw [Bus.isFor_eq]; exact beq_self_eq_true _⟩
    rw [Bus.after_append, Bus.handlers_offs, List.filter_filter]
    simp only [Bool.and_comm (Listener.isMark _)]
    rw [← List.filter_filter, hmarks, List.filter_flatMap, List.flatMap_append, List.flatMap_cons,
      hgoes, List.nil_append, ← List.flatMap_append]
    exact List.flatMap_congr hkeeps

end Accounted

/-! ## What leaves the bus to plugin code -/

namespace Host

variable {depth : Nat}

theorem entered_broadcasts (caller : Caller) (plugin : String) (phase : Phase)
    (installation : Nat) : Along Broadcasts (record (.entered caller plugin phase installation)) :=
  record_broadcasts id fun _ => rfl

/-- Plugin code runs, a session is called or goes on with a call, or a load is run. -/
inductive Busied : Host → Host → Prop
  | ran {h h'} (hr : Ran h h') : Busied h h'
  | resumed {depth id w h r h'} (e : start (resumeCall (player depth) id w) h = some (r, h')) :
      Busied h h'
  | loaded {depth l h r h'} (e : start (Panel.load (server depth) l) h = some (r, h')) :
      Busied h h'

theorem Busied.broadcasts {h h' : Host} (hw : Busied h h') : Broadcasts h h' := by
  cases hw with
  | ran hr => exact hr.broadcasts
  | resumed e =>
    exact resumeCall_along broadcasts_of_aside (emit_broadcasts player_broadcasts) _ _ _ _ _ e
  | loaded e => exact Panel.load_along (server_broadcasts _) entered_broadcasts _ _ _ _ e

/-- What is done for a request: what the request itself changes of who listens comes first. -/
theorem fulfil_broadcasts {a : Answer} (op : Op Code a) (h : Host) :
    Ends (fulfil (player depth) op) h fun _ h' =>
      ∃ l, h'.journal = h.journal ++ l ∧ h'.roster = h.roster.after (.asked op :: l) := by
  have hchanged : ∀ h' : Host, h'.journal = h.journal → h'.roster = op.enrol h.roster →
      ∃ l, h'.journal = h.journal ++ l ∧ h'.roster = h.roster.after (.asked op :: l) :=
    fun h' hj hr => ⟨[], hj.trans (List.append_nil _).symm, hr⟩
  have hrun : (∀ r, op.enrol r = r) → Along Broadcasts (fulfil (player depth) op) →
      Ends (fulfil (player depth) op) h fun _ h' =>
        ∃ l, h'.journal = h.journal ++ l ∧ h'.roster = h.roster.after (.asked op :: l) := by
    refine fun hop hb => (hb h).mono fun _ h' ⟨l, hl, hp⟩ => ⟨l, hl, ?_⟩
    rw [hp.eq_after]
    exact congrArg (Roster.after · l) (hop h.roster).symm
  have hemit : ∀ e, Along Broadcasts (emit (player depth) e) := emit_broadcasts player_broadcasts
  cases op with
  | subscribe label type body =>
    exact (ends_of_start (start_subscribeAs label type body h)).mpr (hchanged _ rfl rfl)
  | unsubscribe label =>
    exact (ends_of_start (start_unsubscribeAs label h)).mpr
      (hchanged _ rfl (roster_unsubscribed label h))
  | clearBus | clearRegistry => exact (ends_modify _ _ _).mpr (hchanged _ rfl rfl)
  | note | fresh | count | look | detach | setToken | callApi =>
    exact hrun (fun _ => rfl) (along_of_aside broadcasts_of_aside (fulfil_aside _ trivial))
  | emit e => exact hrun (fun _ => rfl) (hemit e)
  | register d => exact hrun (fun _ => rfl) (register_broadcasts d)
  | unregister plugin =>
    exact hrun (fun _ => rfl)
      (along_bind (unregister_broadcasts player_broadcasts plugin) fun _ => along_pure _)
  | update c changes =>
    exact hrun (fun _ => rfl) (update_along broadcasts_of_aside hemit _ _ _)

end Host

namespace Panel

variable {depth : Nat}

theorem call_broadcasts (call : Call) (hc : call ≠ .drop) :
    Along (Alongside Host.Broadcasts) (call.run (Host.server depth)) := by
  have hserver := Host.server_broadcasts depth
  have hemit : ∀ e, Along Host.Broadcasts (Host.emit (Code.run (Host.server depth)) e) :=
    Host.emit_broadcasts Host.player_broadcasts
  by_cases hsync : call = .sync
  · subst hsync
    intro s
    have hunmark : Host.Broadcasts s.2 (s.1.unmarked s.2) := ⟨[], (List.append_nil _).symm, .nil⟩
    exact ends_discard (sync_alongside Host.broadcasts_of_aside hserver hemit
      Host.entered_broadcasts s.1 s.2 hunmark)
  · exact call_alongside Host.broadcasts_of_aside hserver hemit Host.entered_broadcasts call
      ⟨hsync, hc⟩

/-- A panel goes: its plugin is taken away first, and then its handlers are, one by one. -/
theorem drop_offs (p : Panel) (h : Host) :
    Ends (drop (Host.server depth) p) h fun r h' => r = .ok ⟨⟩ ∧ ∃ h₁,
      start (runDestroy (Host.server depth) p) h = some (.ok ⟨⟩, h₁) ∧ Host.Broadcasts h h₁ ∧
      h' = { h₁ with bus := h₁.bus.after (p.subscriptions.map .off) } := by
  have hdestroy := runDestroy_along Host.broadcasts_of_aside (Host.server_broadcasts depth)
    (Host.emit_broadcasts Host.player_broadcasts) Host.entered_broadcasts p h
  rw [drop, ends_bind]
  intro r h₁ run
  obtain ⟨rfl, -⟩ := runDestroy_parts p h _ _ run
  obtain ⟨bus, e, hid, hbus⟩ := start_unsubscribeAll p.subscriptions h₁
  refine (ends_of_start e).mpr ⟨rfl, h₁, run, hdestroy _ _ run, ?_⟩
  have hoffs : bus = h₁.bus.after (p.subscriptions.map .off) := by
    refine Bus.eq_of_handlers (hbus.trans (Bus.handlers_offs _ _).symm) ?_
    rw [Bus.lastId_after, hid, Bus.handedOut, List.countP_map]
    simp [Bus.Act.isOn, Function.comp_def]
  rw [hoffs]

end Panel

/-! ## Panels, plugin code and the program on one host -/

/-- A host with the panels in use, and with what was done to its bus so far. -/
structure Attendance where
  host : Host
  panels : List Panel
  acts : List (Bus.Act Listener)

namespace Attendance

/-- A host without panels. -/
def empty (config : HostConfig) (policy : DuplicatePolicy) (store : Store)
    (backend : Http.Backend) : Attendance := ⟨.new config policy store backend, [], []⟩

/-- What may happen next. Calls may end in a panic. What plugin code does to the bus meanwhile is
read off the journal. A run also comes through the hosts on which a handler makes its requests,
while events are on their way: a request is a step, and nothing is done to the bus between two of
them. -/
inductive Step (s : Attendance) : Attendance → Prop
  | made {surface session name p h}
      (e : start (Panel.create surface session name) s.host = some (.ok p, h)) :
      Step s ⟨h, s.panels ++ [p], s.acts ++ [.on .enabled (.mark p.serial p.name),
        .on .disabled (.mark p.serial p.name)]⟩
  | called {before p after depth call r p' h} (hp : s.panels = before ++ p :: after)
      (hc : call ≠ .drop)
      (e : start (Panel.Call.run (Host.server depth) call) (p, s.host) = some (r, p', h)) :
      Step s ⟨h, before ++ p' :: after, s.acts ++ s.host.actsUntil h⟩
  | dropped {before p after depth r h} (hp : s.panels = before ++ p :: after)
      (e : start (Panel.drop (Host.server depth) p) s.host = some (r, h)) :
      Step s ⟨h, before ++ after, s.acts ++ s.host.actsUntil h ++ p.subscriptions.map .off⟩
  | worked {h} (hw : s.host.Busied h) : Step s ⟨h, s.panels, s.acts ++ s.host.actsUntil h⟩
  /-- A request of plugin code, or one that the program makes itself. -/
  | asked {depth a r h} {op : Op Code a}
      (e : start (Host.fulfil (Host.player depth) op) s.host = some (r, h)) :
      Step s ⟨h, s.panels, s.acts ++
        s.host.roster.acts (.asked op :: h.journal.drop s.host.journal.length)⟩
  | subscribed {type body sub h}
      (e : start (Host.subscribe type (.code body)) s.host = some (.ok sub, h)) :
      Step s ⟨h, s.panels, s.acts ++ [.on type (.code body)]⟩
  | unsubscribed {sub found h} (hs : Explicit s.acts sub)
      (e : start (Host.unsubscribe sub) s.host = some (.ok found, h)) :
      Step s ⟨h, s.panels, s.acts ++ [.off sub]⟩
  /-- Anything that has nothing to do with the bus. -/
  | aside {h} (hb : h.bus = s.host.bus) (hl : h.subscriptions = s.host.subscriptions) :
      Step s ⟨h, s.panels, s.acts⟩

abbrev Reaches : Attendance → Attendance → Prop := Relation.ReflTransGen Step

/-- The bus is what was made of it, and its handlers are accounted for. -/
structure Kept (s : Attendance) : Prop where
  bus : s.host.bus = .after .empty s.acts
  accounted : Accounted s.panels s.acts s.host.subscriptions

section
variable {s s' : Attendance} {h h' : Host} {panels : List Panel} {acts : List (Bus.Act Listener)}

theorem Kept.after (hk : Kept ⟨h, panels, acts⟩) {l : List Happening}
    (hr : h'.roster = h.roster.after l) : Kept ⟨h', panels, acts ++ h.roster.acts l⟩ where
  bus := by
    rw [Host.bus_of_roster hr, hk.bus]
    exact (Bus.after_append _ _ _).symm
  accounted := by
    have hroster : h.roster = .ofBus (.after .empty acts) h.subscriptions :=
      congrArg (Roster.ofBus · h.subscriptions) hk.bus
    have ha := hk.accounted.after l
    rw [← hroster, ← hr] at ha
    exact ha

theorem Kept.worked (hk : Kept ⟨h, panels, acts⟩) (hb : h.Broadcasts h') :
    Kept ⟨h', panels, acts ++ h.actsUntil h'⟩ := by
  obtain ⟨l, hl, hp⟩ := hb
  rw [Host.actsUntil, hl, List.drop_left]
  exact hk.after hp.eq_after

theorem Kept.made (hk : Kept ⟨h, panels, acts⟩) {surface : Surface} {session : Nat} {name : String}
    {p : Panel} (e : start (Panel.create surface session name) h = some (.ok p, h')) :
    Kept ⟨h', panels ++ [p], acts ++ [.on .enabled (.mark p.serial p.name),
      .on .disabled (.mark p.serial p.name)]⟩ := by
  have hid : h.bus.lastId = Bus.handedOut acts :=
    (congrArg Bus.lastId hk.bus).trans (Bus.lastId_history acts)
  rw [Panel.start_create] at e
  cases e
  refine ⟨?_, hk.accounted.joined (hid ▸ rfl)⟩
  rw [Bus.after_append, ← hk.bus]
  rfl

/-- A panel may change in what has nothing to do with its handlers. -/
theorem Kept.replace {before after : List Panel} {p p' : Panel}
    (hk : Kept ⟨h, before ++ p :: after, acts⟩) (hears : p'.ears = p.ears) :
    Kept ⟨h, before ++ p' :: after, acts⟩ where
  bus := hk.bus
  accounted := by
    have hflat : ∀ {β : Type} (f : Panel → List β), f p' = f p →
        (before ++ p' :: after).flatMap f = (before ++ p :: after).flatMap f := by
      intro β f hf
      rw [List.flatMap_append, List.flatMap_append, List.flatMap_cons, List.flatMap_cons, hf]
    have hsubs : p'.subscriptions = p.subscriptions :=
      congrArg (fun e : String × Nat × List Subscription => e.2.2) hears
    obtain ⟨hlabels, hmade, hapart, hmarks⟩ := hk.accounted
    refine ⟨hlabels, ?_, ?_, fun hc => ?_⟩
    · obtain ⟨hbefore, hrest⟩ := List.forall_mem_append.mp hmade
      obtain ⟨⟨past, later, hm⟩, hafter⟩ := List.forall_mem_cons.mp hrest
      exact List.forall_mem_append.mpr
        ⟨hbefore, List.forall_mem_cons.mpr ⟨⟨past, later, hm.same hears⟩, hafter⟩⟩
    · exact hflat Panel.subscriptions hsubs ▸ hapart
    · exact (hmarks hc).trans (hflat Panel.markers (Panel.markers_of_ears hears)).symm

theorem Kept.dropped {before after : List Panel} {p : Panel}
    (hk : Kept ⟨h, before ++ p :: after, acts⟩) :
    Kept ⟨{ h with bus := h.bus.after (p.subscriptions.map .off) }, before ++ after,
      acts ++ p.subscriptions.map .off⟩ where
  bus := (congrArg (Bus.after · _) hk.bus).trans (Bus.after_append _ _ _).symm
  accounted := hk.accounted.left

theorem step_kept (hstep : Step s s') (hk : s.Kept) : s'.Kept := by
  obtain ⟨host, panels, acts⟩ := s
  cases hstep with
  | made e => exact hk.made e
  | @called before p after depth call r p' h hp hc e =>
    obtain rfl : panels = before ++ p :: after := hp
    obtain ⟨ds, ha⟩ := Panel.call_acts call p host _ _ e
    exact (hk.worked (Panel.call_broadcasts call hc _ _ _ e)).replace (ha.keeps Panel.fixed_ears)
  | @dropped before p after depth r h hp e =>
    obtain rfl : panels = before ++ p :: after := hp
    obtain ⟨-, h₁, -, hb, rfl⟩ := Panel.drop_offs p host _ _ e
    exact (hk.worked hb).dropped
  | worked hw => exact hk.worked hw.broadcasts
  | @asked depth a r h op e =>
    obtain ⟨l, hl, hr⟩ := Host.fulfil_broadcasts op host _ _ e
    rw [hl, List.drop_left]
    exact hk.after hr
  | @subscribed type body sub h e =>
    cases e
    refine ⟨?_, hk.accounted.act (by rintro _ _ ⟨⟩; rfl) nofun⟩
    rw [Bus.act_history, ← hk.bus]
    rfl
  | @unsubscribed sub found h hs e =>
    cases e
    refine ⟨?_, hk.accounted.act nofun fun s' h => by cases h; exact hs⟩
    rw [Bus.act_history, ← hk.bus]
    rfl
  | @aside h hb hl => exact ⟨hb.trans hk.bus, hl ▸ hk.accounted⟩

theorem reaches_kept (hr : Reaches s s') (hk : s.Kept) : s'.Kept := by
  induction hr with
  | refl => exact hk
  | tail _ hstep ih => exact step_kept hstep ih

end

theorem empty_kept (config : HostConfig) (policy : DuplicatePolicy) (store : Store)
    (backend : Http.Backend) : (empty config policy store backend).Kept where
  bus := rfl
  accounted := ⟨fun _ s hs => absurd hs.symm (Option.some_ne_none s), List.forall_mem_nil _,
    List.nodup_nil, fun _ => rfl⟩

/-! ## The whole run -/

/-- How a subscription stands to the handler that it was handed out for. -/
structure Answers (s : Attendance) (past : List (Bus.Act Listener)) (x : Handler Listener)
    (later : List (Bus.Act Listener)) : Prop where
  /-- It was handed out for this handler, -/
  handed : ∀ h : Host, h.bus = .after .empty past →
    start (Host.subscribe x.type x.listener) h = some (.ok x.subscription,
      { h with bus := .after .empty (past ++ [.on x.type x.listener]) })
  /-- and for no other. -/
  alone : ∀ past' x' later', Bus.Brings s.acts past' x' later' →
    x'.subscription = x.subscription → x' = x
  there : x ∈ s.host.bus.handlers ↔ .clear ∉ later ∧ .off x.subscription ∉ later
  given : ∃ found bus, s.host.bus.Releases x found bus ∧
    start (Host.unsubscribe x.subscription) s.host =
      some (.ok found, { s.host with bus := bus }) ∧
    ∀ play label, Table.get? label s.host.subscriptions = some x.subscription →
      start (Host.fulfil play (.unsubscribe label)) s.host = some (.ok (some found),
        { s.host with bus := bus, subscriptions := Table.erase label s.host.subscriptions })

/-- How a panel leaves. Its plugin is taken away first, which may change the bus; its two handlers
go then if they are still there, and no other ones. -/
def Leaves (s : Attendance) (p : Panel) : Prop :=
  ∀ depth, Ends (Panel.drop (Host.server depth) p) s.host fun r h' => r = .ok ⟨⟩ ∧
    ∃ h past later, start (Panel.runDestroy (Host.server depth) p) s.host = some (.ok ⟨⟩, h) ∧
      p.MadeIn (s.acts ++ s.host.actsUntil h) past later ∧
      (.clear ∉ later → ∃ xs ys, h.bus.handlers = xs ++ (p.markers ++ ys) ∧
        h'.bus.handlers = xs ++ ys) ∧
      (.clear ∈ later → h'.bus = h.bus)

section
variable {s : Attendance}

theorem Kept.answers (hk : s.Kept) {past later : List (Bus.Act Listener)} {x : Handler Listener}
    (hx : Bus.Brings s.acts past x later) : s.Answers past x later where
  handed h hb := by
    have hid : h.bus.lastId + 1 = x.id := by rw [hb, Bus.lastId_history, hx.id]
    have hsub : start (Host.subscribe x.type x.listener) h = some (.ok ⟨h.bus.lastId + 1, x.type⟩,
        { h with bus := h.bus.act (.on x.type x.listener) }) := rfl
    rw [hsub, hid, hb, Bus.act_history]
    rfl
  alone _ _ _ hx' := hx.unique hx'
  there := hk.bus ▸ hx.mem_iff
  given := by
    refine ⟨_, _, hk.bus ▸ hx.off, rfl, fun play label hlabel => ?_⟩
    rw [Host.fulfil, Host.start_unsubscribeAs, hlabel]
    rfl

theorem Kept.leaves (hk : s.Kept) {p : Panel} (hp : p ∈ s.panels) : s.Leaves p := by
  intro depth r h' run
  obtain ⟨hr, h, e, hb, rfl⟩ := Panel.drop_offs p s.host r h' run
  have hafter : Kept ⟨h, s.panels, s.acts ++ s.host.actsUntil h⟩ := Kept.worked hk hb
  obtain ⟨past, later, hm⟩ := hafter.accounted.made p hp
  have hbus : h.bus = .after .empty (s.acts ++ s.host.actsUntil h) := hafter.bus
  refine ⟨hr, h, past, later, e, hm, fun hc => ?_, fun hc => ?_⟩
  · rw [hbus]
    exact hm.offs hc
  · rw [hbus]
    exact hm.offs_of_clear hc

/-- Those who listen for a type are the panels in use, and the code that nobody has given up. -/
theorem Kept.count (hk : s.Kept) (hc : .clear ∉ s.acts) {type : EventType}
    (ht : type = .enabled ∨ type = .disabled) :
    s.host.bus.count type = s.panels.length +
      (Bus.standing 0 s.acts).countP fun x => x.type == type && !x.listener.isMark := by
  have hmarks := hk.accounted.marks hc
  have hstanding : (Bus.empty.after s.acts).handlers = Bus.standing 0 s.acts :=
    Bus.handlers_after _ _
  have hpanels : (s.panels.flatMap Panel.markers).countP (fun x => x.type == type) =
      s.panels.length := by
    rw [List.countP_flatMap]
    have hone : ∀ p ∈ s.panels, (List.countP (fun x => x.type == type) ∘ Panel.markers) p = 1 := by
      intro p hp
      obtain ⟨past, later, hm⟩ := hk.accounted.made p hp
      exact hm.countP_markers ht
    rw [List.map_congr_left hone, List.map_const', List.sum_replicate_nat, Nat.mul_one]
  rw [Bus.count, Bus.handlersFor, ← List.countP_eq_length_filter, hk.bus, hstanding,
    List.countP_eq_countP_filter_add _ _ (·.listener.isMark), ← hstanding, hmarks, hpanels,
    List.countP_filter]

end

/-- Whatever is done on one host, by its panels, by plugin code and by the program, also from inside
handlers. What is left on its bus is read off what was done. Each handler has a subscription of its
own, which finds it until it is given up or the bus is cleared, and then takes it away alone; what
plugin code keeps are subscriptions of its own handlers. A panel that leaves takes away the two
handlers that it brought, unless the bus was cleared meanwhile, and no other ones. As long as the
bus is not cleared, those who listen for enabled or disabled plugins are the panels in use and the
code that was subscribed and not given up. -/
theorem subscriptions_exact {config : HostConfig} {policy : DuplicatePolicy} {store : Store}
    {backend : Http.Backend} {s : Attendance}
    (hr : Reaches (empty config policy store backend) s) :
    s.host.bus.handlers = Bus.standing 0 s.acts ∧
    (∀ past x later, Bus.Brings s.acts past x later → s.Answers past x later) ∧
    (∀ label sub, Table.get? label s.host.subscriptions = some sub → Explicit s.acts sub) ∧
    (∀ p ∈ s.panels, s.Leaves p) ∧
    (.clear ∉ s.acts → ∀ type, type = .enabled ∨ type = .disabled →
      s.host.bus.count type = s.panels.length +
        (Bus.standing 0 s.acts).countP fun x => x.type == type && !x.listener.isMark) := by
  have hk := reaches_kept hr (empty_kept config policy store backend)
  have hstanding : s.host.bus.handlers = Bus.standing 0 s.acts :=
    hk.bus ▸ Bus.handlers_after _ _
  exact ⟨hstanding, fun _ _ _ hx => hk.answers hx, hk.accounted.labels, fun _ hp => hk.leaves hp,
    fun hc _ ht => hk.count hc ht⟩

/-- A panel listens, and a handler that the program has subscribed after it. -/
theorem subscriptions_exact_timer : ∃ s past x,
    Reaches (empty .default .ignore (.memory .empty) .unreachable) s ∧
    Bus.Brings s.acts past x [] ∧ s.Answers past x [] ∧ x ∈ s.host.bus.handlers ∧
    (∀ p ∈ s.panels, s.Leaves p) ∧ s.panels.length = 1 ∧
    s.host.bus.count .enabled = 2 ∧ s.host.bus.count .disabled = 1 := by
  let s₀ := empty .default .ignore (.memory .empty) .unreachable
  let body : Event → Code := fun _ => .skip
  obtain ⟨p, h, hmade⟩ : ∃ p h,
      start (Panel.create .main 0 "timer") s₀.host = some (.ok p, h) :=
    ⟨_, _, rfl⟩
  let past : List (Bus.Act Listener) :=
    [.on .enabled (.mark p.serial p.name), .on .disabled (.mark p.serial p.name)]
  have hpanel : Step s₀ ⟨h, [p], past⟩ := .made hmade
  have hcode : Step ⟨h, [p], past⟩ ⟨{ h with bus := (h.bus.on .enabled (.code body)).2 }, [p],
      past ++ [.on .enabled (.code body)]⟩ := .subscribed rfl
  have run := (Relation.ReflTransGen.single hpanel).tail hcode
  obtain ⟨-, hanswers, -, hleaves, hcount⟩ := subscriptions_exact run
  have hx : Bus.Brings (past ++ [.on .enabled (.code body)]) past ⟨3, .enabled, .code body⟩ [] :=
    ⟨rfl, rfl⟩
  have hthere := (hanswers past _ [] hx).there.mpr ⟨List.not_mem_nil, List.not_mem_nil⟩
  have hclear : .clear ∉ past ++ [.on .enabled (.code body)] := by simp [past]
  exact ⟨_, past, _, run, hx, hanswers past _ [] hx, hthere, hleaves, rfl,
    hcount hclear .enabled (.inl rfl), hcount hclear .disabled (.inr rfl)⟩

end Attendance
end Plugboard
