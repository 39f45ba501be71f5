import Mathlib.Data.List.Forall2
import Plugboard.Proofs.Panel.Abreast

/-!
Failures stay in their own panel. On two hosts that differ in nothing but the code of one plugin,
dashboards show the same in every panel of any other plugin.

* `Host.Twins`, `Panel.Twins`: what two such runs keep in common.
* `step_twins`: one operation of one panel keeps it.
* `mountEach_twins`, `each_twins`: so does making panels, and so does rendering them all. Both are
  by induction along the panels.
* `failures_isolated`: the result, for every choice of panels and any number of renderings.
-/
namespace Plugboard

open Run

/-! ## What two runs have in common -/

/-- The same plugin in two registries. Only if it has this name may its code differ. -/
structure Installed.Like (name : String) (i i' : Installed Code) : Prop where
  plugin : i'.name = i.name
  sidebar : i'.definition.sidebar = i.definition.sidebar
  same : i.name ≠ name → i' = i

/-- One of the other plugins may panic outside the boundary of its panels. -/
def Registry.Leaks (name : String) (r : Registry Code) : Prop :=
  ∃ i ∈ r.plugins, i.name ≠ name ∧ ¬ i.definition.HandsOver

/-- Nobody but panels listens on the bus, and no plugin asks anything of the host. All keep their
panics inside the boundary of their panels; if `breaks` holds, only the one of this name has to. -/
structure Host.Tame (name : String) (own : String → Counter → Prop) (breaks : Prop) (h : Host) :
    Prop where
  marks : h.OnlyMarks
  sound : ∀ i ∈ h.registry.plugins, i.Sound (own i.name) (i.name ≠ name ∧ breaks)

/-- Two hosts that differ in nothing but the code of one plugin, its counters, which it shares with
no other plugin, and what no panel looks at. -/
structure Host.Twins (name : String) (own : String → Counter → Prop) (breaks : Prop)
    (h h' : Host) : Prop where
  left : h.Tame name own breaks
  right : h'.Tame name own breaks
  bus : h'.bus = h.bus
  sessions : h'.sessions = h.sessions
  lastSerial : h'.lastSerial = h.lastSerial
  plugins : List.Forall₂ (Installed.Like name) h.registry.plugins h'.registry.plugins
  apart : ∀ c other, own name c → own other c → other = name
  counters : ∀ c other, other ≠ name → own other c →
    Table.get? c h'.counters = Table.get? c h.counters

/-- The same panel in two runs. Only if it shows the plugin may it have come to something else. -/
structure Panel.Twins (name : String) (own : String → Counter → Prop) (breaks : Prop)
    (p p' : Panel) : Prop where
  same : p.name ≠ name → p' = p
  fit : p.Fit (own p.name) (p.name ≠ name ∧ breaks) p.name
  fit' : p'.Fit (own p.name) (p.name ≠ name ∧ breaks) p.name

/-- Two lists of what belongs to the panels of these plugins, alike but for one plugin. -/
def AlikeBut {α : Type} (name : String) (names : List String) (l l' : List α) : Prop :=
  l.length = names.length ∧ l'.length = names.length ∧
    ∀ (k : Nat) other, names[k]? = some other → other ≠ name → l'[k]? = l[k]?

namespace Dashboard

def names (d : Dashboard) : List String := d.panels.map Panel.name

/-- Two dashboards with panels for the same plugins, alike but for one plugin. -/
def AlikeBut (name : String) (d d' : Dashboard) : Prop :=
  d'.names = d.names ∧ Plugboard.AlikeBut name d.names d.panels d'.panels

/-- The dashboards of a session, made for these plugins or for those of the sidebar. -/
inductive Choice
  | these (names : List String)
  | sidebar

def Choice.mount (serve : Server Host) (session : Nat) : Choice → HostRun Dashboard
  | .these names => Dashboard.mount serve session names
  | .sidebar => mountSidebar serve session

/-- The plugins that get a panel if they are wanted. -/
def Choice.names (h : Host) : Choice → List String
  | .these names => names
  | .sidebar => h.registry.sidebar.map Installed.name

def Choice.wanted (session : Nat) : Choice → String → HostRun Bool
  | .these _ => fun _ => return true
  | .sidebar => fun name => return (← Host.session session).isEnabled name

theorem Choice.start_mount (choice : Choice) (serve : Server Host) (session : Nat) (h : Host) :
    start (choice.mount serve session) h =
      (start (mountEach serve session (choice.wanted session) [] (choice.names h)) h).map
        fun r => (r.1.map (Dashboard.mk session), r.2) := by
  cases choice with
  | these names => exact start_map ..
  | sidebar =>
    rw [Choice.mount, mountSidebar, start_bind, start_get]
    exact start_map ..

/-- Renders all panels so many times; what they show each time. -/
def renderTimes (serve : Server Host) : Nat → Run (Dashboard × Host) (List (List View))
  | 0 => return []
  | n + 1 => do
    let views ← renderAll serve
    return views :: (← renderTimes serve n)

end Dashboard

variable {name : String} {own : String → Counter → Prop} {breaks : Prop}

theorem Panel.Twins.plugin {p p' : Panel} (hp : p.Twins name own breaks p') : p'.name = p.name :=
  hp.fit'.plugin

theorem AlikeBut.nil {α : Type} : AlikeBut (α := α) name [] [] [] := ⟨rfl, rfl, by simp⟩

theorem AlikeBut.cons {α : Type} {names : List String} {l l' : List α}
    (h : AlikeBut name names l l') {other : String} {a a' : α} (ha : other ≠ name → a' = a) :
    AlikeBut name (other :: names) (a :: l) (a' :: l') := by
  obtain ⟨hlength, hlength', hat⟩ := h
  refine ⟨by simp [hlength], by simp [hlength'], fun k x hk hx => ?_⟩
  cases k with
  | zero =>
    obtain rfl : other = x := Option.some.inj hk
    exact congrArg some (ha hx)
  | succ k => exact hat k x hk hx

/-! ### Registries -/

theorem find?_of_like {l l' : List (Installed Code)} (h : List.Forall₂ (Installed.Like name) l l')
    {other : String} (hother : other ≠ name) :
    l'.find? (fun i => i.name == other) = l.find? fun i => i.name == other := by
  induction h with
  | nil => rfl
  | @cons i i' l l' hi _ ih =>
    by_cases he : i.name = other
    · rw [hi.same (he ▸ hother), List.find?_cons, List.find?_cons]
      simp [he]
    · have hne : ¬ i'.name = other := hi.plugin ▸ he
      rw [List.find?_cons_of_neg (by simpa using hne), List.find?_cons_of_neg (by simpa using he),
        ih]

theorem Registry.mem_of_get? {r : Registry Code} {other : String} {i : Installed Code}
    (h : r.get? other = some i) : i ∈ r.plugins ∧ i.name = other := by
  refine ⟨mem_plugins_iff.mpr ?_, name_of_get? h⟩
  rw [name_of_get? h, h]

/-- What the sidebar looks at. -/
def Installed.listing (i : Installed Code) : String × Sidebar := (i.name, i.definition.sidebar)

theorem listing_of_like {l l' : List (Installed Code)}
    (h : List.Forall₂ (Installed.Like name) l l') :
    l'.map Installed.listing = l.map Installed.listing := by
  induction h with
  | nil => rfl
  | cons hi _ ih => rw [List.map_cons, List.map_cons, ih, Installed.listing, Installed.listing,
      hi.plugin, hi.sidebar]

theorem Registry.sidebar_names (r : Registry Code) : r.sidebar.map Installed.name =
    (((r.plugins.map Installed.listing).filter fun x => x.2.shown).mergeSort fun x y =>
      decide (x.2.effectiveOrder ≤ y.2.effectiveOrder)).map Prod.fst := by
  have hsort : r.sidebar.map Installed.listing =
      ((r.plugins.filter fun i => i.definition.sidebar.shown).map Installed.listing).mergeSort
        fun x y => decide (x.2.effectiveOrder ≤ y.2.effectiveOrder) :=
    List.map_mergeSort fun _ _ _ _ => rfl
  have hfilter : (r.plugins.map Installed.listing).filter (fun x => x.2.shown) =
      (r.plugins.filter fun i => i.definition.sidebar.shown).map Installed.listing :=
    List.filter_map
  rw [hfilter, ← hsort, List.map_map]
  rfl

/-! ### Hosts -/

namespace Host

/-- What a host has in common with itself for the panels of a plugin. -/
theorem Tame.common {h : Host} (hh : h.Tame name own breaks) (other : String) :
    Common (own other) (other ≠ name ∧ breaks) other h h := by
  refine ⟨rfl, hh.marks, rfl, rfl, fun i hi => ?_⟩
  obtain ⟨hmem, rfl⟩ := Registry.mem_of_get? hi
  exact hh.sound i hmem

theorem Tame.worked {h g : Host} (hh : h.Tame name own breaks) {mine : Counter → Prop}
    (hw : Worked mine h g) : g.Tame name own breaks where
  marks := by
    rw [OnlyMarks, hw.bus]
    exact hh.marks
  sound := by
    rw [hw.registry]
    exact hh.sound

/-- What twins have in common for the panels of the other plugins. -/
theorem Twins.common {h h' : Host} (ht : h.Twins name own breaks h') {other : String}
    (hother : other ≠ name) : Common (own other) (other ≠ name ∧ breaks) other h h' where
  bus := ht.bus
  marks := ht.left.marks
  sessions := ht.sessions
  found := by
    rw [Registry.get?_eq_find?, Registry.get?_eq_find?]
    exact find?_of_like ht.plugins hother
  sound := (ht.left.common other).sound

/-- The sidebar looks at no code. -/
theorem Twins.sidebar {h h' : Host} (ht : h.Twins name own breaks h') :
    h'.registry.sidebar.map Installed.name = h.registry.sidebar.map Installed.name := by
  rw [Registry.sidebar_names, Registry.sidebar_names, listing_of_like ht.plugins]

theorem worked_refl (own : Counter → Prop) (h : Host) : Worked own h h := ⟨rfl, fun _ _ => rfl⟩

theorem abreast_refl (own : Counter → Prop) (h : Host) : Abreast own h h h h :=
  ⟨worked_refl own h, worked_refl own h, fun _ _ => rfl⟩

/-- Twins on which a plugin has worked are twins, if its counters are none that matter, or have
come to the same. -/
theorem Twins.worked {h h' g g' : Host} (ht : h.Twins name own breaks h') {other : String}
    (hleft : Worked (own other) h g) (hright : Worked (own other) h' g')
    (hsame : other ≠ name → ∀ c, own other c → Table.get? c g'.counters = Table.get? c g.counters) :
    g.Twins name own breaks g' where
  left := ht.left.worked hleft
  right := ht.right.worked hright
  bus := by rw [hleft.bus, hright.bus, ht.bus]
  sessions := by rw [hleft.sessions, hright.sessions, ht.sessions]
  lastSerial := by
    rw [hleft.rest, hright.rest]
    exact ht.lastSerial
  plugins := by
    rw [hleft.registry, hright.registry]
    exact ht.plugins
  apart := ht.apart
  counters c x hx hc := by
    by_cases ho : own other c
    · by_cases hother : other = name
      · subst hother
        exact absurd (ht.apart c x ho hc) hx
      · exact hsame hother c ho
    · rw [hleft.counters c ho, hright.counters c ho, ht.counters c x hx hc]

end Host

/-! ## One panel -/

/-- An operation that does the same with a panel on any two hosts that have in common what the
panels of its plugin look at. It never panics on panels of the plugin of this name, and on others
only if `b` holds. -/
def Panel.Steady {α : Type} (name : String) (breaks b : Prop) (m : PanelRun α) : Prop :=
  ∀ (mine : Counter → Prop) (other : String) (k k' : Host),
    Host.Common mine (other ≠ name ∧ breaks) other k k' →
    Lockstep (Panel.Beside mine (other ≠ name ∧ breaks) other k k') (other ≠ name ∧ b)
      (fun _ => True) m m

theorem Panel.mount_steady (play : Player) :
    Steady name breaks breaks (mount (Host.serve play)) := fun _ _ _ _ hk => mount_lockstep play hk

theorem Panel.render_steady (play : Player) :
    Steady name breaks False (render (Host.serve play)) := fun _ _ _ _ hk => render_lockstep play hk

section
variable {α : Type} {m : PanelRun α} {b : Prop} (hm : Panel.Steady name breaks b m)
include hm

theorem step_tame {h : Host} (hh : h.Tame name own breaks) {p : Panel}
    (hp : p.Fit (own name) (name ≠ name ∧ breaks) name) :
    ∃ a q g, start m (p, h) = some (.ok a, q, g) ∧
      q.Fit (own name) (name ≠ name ∧ breaks) name ∧ Host.Worked (own name) h g := by
  obtain ⟨r, ⟨q, g⟩, s, e, -, ⟨-, hq, hg⟩, -, hpanic⟩ :=
    hm _ _ _ _ (hh.common name) (p, h) (p, h) ⟨rfl, hp, Host.abreast_refl _ h⟩
  cases r with
  | ok a => exact ⟨a, q, g, e, hq, hg.left⟩
  | error x => exact absurd rfl (hpanic x rfl).1

/-- What an operation of one panel comes to on two twins: the same, unless the panel shows the
plugin whose code differs; and then it ends without a panic in both. -/
theorem step_twins {h h' : Host} (ht : h.Twins name own breaks h') {p p' : Panel}
    (hp : p.Twins name own breaks p') :
    ∃ q q' g g', g.Twins name own breaks g' ∧ q.Twins name own breaks q' ∧ q.name = p.name ∧
      ((b ∧ ∃ x, start m (p, h) = some (.error x, q, g) ∧
          start m (p', h') = some (.error x, q', g')) ∨
        ∃ a a', start m (p, h) = some (.ok a, q, g) ∧ start m (p', h') = some (.ok a', q', g') ∧
          (p.name ≠ name → a' = a)) := by
  have hfit : ∀ q : Panel, q.Fit (own p.name) (p.name ≠ name ∧ breaks) p.name →
      q.Fit (own q.name) (q.name ≠ name ∧ breaks) q.name := by
    intro q hq
    rwa [hq.plugin]
  by_cases hname : p.name = name
  · subst hname
    obtain ⟨a, q, g, e, hq, hg⟩ := step_tame hm ht.left hp.fit
    obtain ⟨a', q', g', e', hq', hg'⟩ := step_tame hm ht.right hp.fit'
    refine ⟨q, q', g, g', ht.worked hg hg' fun hne => absurd rfl hne, ?_, hq.plugin,
      .inr ⟨a, a', e, e', fun hne => absurd rfl hne⟩⟩
    refine ⟨fun hne => absurd hq.plugin hne, hfit q hq, ?_⟩
    rwa [hq.plugin]
  · obtain rfl := hp.same hname
    obtain ⟨r, ⟨q, g⟩, ⟨q', g'⟩, e, e', ⟨hsame, hq, hg⟩, -, hpanic⟩ :=
      hm _ _ _ _ (ht.common hname) (p', h) (p', h')
        ⟨rfl, hp.fit, Host.worked_refl _ h, Host.worked_refl _ h',
          fun c hc => ht.counters c _ hname hc⟩
    obtain rfl : q' = q := hsame
    refine ⟨q', q', g, g', ht.worked hg.left hg.right fun _ => hg.counters,
      ⟨fun _ => rfl, hfit q' hq, hfit q' hq⟩, hq.plugin, ?_⟩
    cases r with
    | ok a => exact .inr ⟨a, a, e, e', fun _ => rfl⟩
    | error x => exact .inl ⟨(hpanic x rfl).2, x, e, e'⟩

end

/-! ## Panels that come and go -/

namespace Host

theorem fresh_twins : Lockstep (Twins name own breaks) False (fun _ => True) fresh fresh := by
  refine lockstep_bind (lockstep_modify fun h h' ht => ?_) fun _ _ =>
    lockstep_get_bind fun h h' ht => ?_
  · exact ⟨⟨ht.left.marks, ht.left.sound⟩, ⟨ht.right.marks, ht.right.sound⟩, ht.bus, ht.sessions,
      congrArg (· + 1) ht.lastSerial, ht.plugins, ht.apart, ht.counters⟩
  · rw [ht.lastSerial]
    exact lockstep_pure trivial

theorem bus_twins {b : Bus Listener}
    (hb : ∀ x ∈ b.handlers, ∃ panel plugin, x.listener = .mark panel plugin) :
    Lockstep (Twins name own breaks) False (fun _ => True)
      (modify fun h => { h with bus := b }) (modify fun h => { h with bus := b }) :=
  lockstep_modify fun _ _ ht =>
    ⟨⟨hb, ht.left.sound⟩, ⟨hb, ht.right.sound⟩, rfl, ht.sessions, ht.lastSerial, ht.plugins,
      ht.apart, ht.counters⟩

theorem subscribe_twins (type : EventType) (panel : Nat) (plugin : String) :
    Lockstep (Twins name own breaks) False (fun _ => True)
      (subscribe type (.mark panel plugin)) (subscribe type (.mark panel plugin)) := by
  refine lockstep_get_bind fun h h' ht => ?_
  rw [ht.bus]
  refine lockstep_bind (bus_twins fun x hx => ?_) fun _ _ => lockstep_pure trivial
  rcases List.mem_append.mp hx with hx | hx
  · exact ht.left.marks x hx
  · obtain rfl := List.mem_singleton.mp hx
    exact ⟨panel, plugin, rfl⟩

theorem session_twins (id : Nat) :
    Lockstep (Twins name own breaks) False (fun _ => True) (session id) (session id) := by
  refine lockstep_get_bind fun h h' ht => ?_
  rw [sessionAt, sessionAt, ht.sessions]
  exact lockstep_pure trivial

end Host

namespace Panel

/-- A panel that is made on twins is the same on both. -/
theorem create_twins (session : Nat) (other : String) :
    Lockstep (Host.Twins name own breaks) False (fun p => p.Twins name own breaks p)
      (create .main session other) (create .main session other) := by
  refine lockstep_bind Host.fresh_twins fun serial _ =>
    lockstep_bind (Host.subscribe_twins _ _ _) fun enabled _ =>
      lockstep_bind (Host.subscribe_twins _ _ _) fun disabled _ => lockstep_pure ?_
  have hfit : ∀ p : Panel, p.surface = .main → p.installed = none → p.component = none →
      p.Fit (own p.name) (p.name ≠ name ∧ breaks) p.name := by
    intro p hsurface hinstalled hcomponent
    refine ⟨rfl, hsurface, fun i hi => ?_, fun c hc => ?_⟩
    · rw [hinstalled] at hi
      cases hi
    · rw [hcomponent] at hc
      cases hc
  exact ⟨fun _ => rfl, hfit _ rfl rfl rfl, hfit _ rfl rfl rfl⟩

/-- A panel is taken out of use without a panic. -/
theorem drop_lockstep (play : Player) {p : Panel}
    (hp : p.Fit (own p.name) (p.name ≠ name ∧ breaks) p.name) :
    Lockstep (fun h h' => h' = h ∧ h.Tame name own breaks) False (fun _ => True)
      (drop (Host.serve play) p) (drop (Host.serve play) p) := by
  refine lockstep_bind (P := fun _ => True) ?_ fun _ _ => lockstep_forM fun s _ =>
    lockstep_bind (P := fun _ => True) (lockstep_get_bind ?_) fun _ _ => lockstep_pure trivial
  · rintro _ h ⟨rfl, hh⟩
    obtain ⟨r, g, g', e, e', hg, hok, hpanic⟩ :=
      runDestroy_lockstep play (hh.common p.name) hp h h (Host.abreast_refl _ h)
    obtain rfl : g' = g := by
      rw [e] at e'
      cases e'
      rfl
    exact ⟨r, g', g', e, e, ⟨rfl, hh.worked hg.left⟩, hok, hpanic⟩
  · rintro _ h ⟨rfl, hh⟩
    refine lockstep_bind (lockstep_modify ?_) fun _ _ => lockstep_pure trivial
    rintro _ g ⟨rfl, hg⟩
    exact ⟨rfl, fun x hx => hh.marks x (List.mem_filter.mp hx).1, hg.sound⟩

end Panel

/-! ## Dashboards -/

section
variable (play : Player)

/-- After a panic, the panels that are there already are taken out of use. -/
theorem start_dropAll {h : Host} (hh : h.Tame name own breaks) {panels : List Panel}
    (hp : ∀ p ∈ panels, p.Fit (own p.name) (p.name ≠ name ∧ breaks) p.name) :
    ∃ g, start (Dashboard.dropAll (Host.serve play) panels) h = some (.ok (), g) := by
  obtain ⟨_, g, -, e, -⟩ :=
    (lockstep_forM fun p hmem => Panel.drop_lockstep play (hp p hmem)).start_ok ⟨rfl, hh⟩
  exact ⟨g, e⟩

theorem fit_of_twins {panels panels' : List Panel}
    (hp : List.Forall₂ (Panel.Twins name own breaks) panels panels') :
    (∀ p ∈ panels, p.Fit (own p.name) (p.name ≠ name ∧ breaks) p.name) ∧
      ∀ p ∈ panels', p.Fit (own p.name) (p.name ≠ name ∧ breaks) p.name := by
  induction hp with
  | nil => exact ⟨List.forall_mem_nil _, List.forall_mem_nil _⟩
  | cons hp _ ih =>
    refine ⟨List.forall_mem_cons.mpr ⟨hp.fit, ih.1⟩, List.forall_mem_cons.mpr ⟨?_, ih.2⟩⟩
    rw [hp.plugin]
    exact hp.fit'

/-- Making panels ends in the same panic on twins, or comes to the same panels. -/
theorem mountEach_twins {wanted : String → HostRun Bool} (session : Nat)
    (hw : ∀ other, Lockstep (Host.Twins name own breaks) False (fun _ => True) (wanted other)
      (wanted other)) {names : List String} {h h' : Host} (ht : h.Twins name own breaks h')
    {ready ready' : List Panel} (hready : List.Forall₂ (Panel.Twins name own breaks) ready ready') :
    (breaks ∧ ∃ x g g',
      start (Dashboard.mountEach (Host.serve play) session wanted ready names) h =
        some (.error x, g) ∧
      start (Dashboard.mountEach (Host.serve play) session wanted ready' names) h' =
        some (.error x, g')) ∨
    ∃ panels panels' g g',
      start (Dashboard.mountEach (Host.serve play) session wanted ready names) h =
        some (.ok panels, g) ∧
      start (Dashboard.mountEach (Host.serve play) session wanted ready' names) h' =
        some (.ok panels', g') ∧
      List.Forall₂ (Panel.Twins name own breaks) panels panels' ∧ g.Twins name own breaks g' := by
  induction names generalizing h h' ready ready' with
  | nil => exact .inr ⟨ready, ready', h, h', rfl, rfl, hready, ht⟩
  | cons other names ih =>
    obtain ⟨b, h₁, h₁', ew, ew', ht₁, -⟩ := (hw other).start_ok ht
    simp only [Dashboard.mountEach, start_bind, ew, ew']
    cases b with
    | false => exact ih ht₁ hready
    | true =>
      obtain ⟨p, h₂, h₂', ec, ec', ht₂, hp⟩ := (Panel.create_twins session other).start_ok ht₁
      obtain ⟨q, q', h₃, h₃', ht₃, hq, -, ⟨hb, x, em, em'⟩ | ⟨a, a', em, em', -⟩⟩ :=
        step_twins (Panel.mount_steady play) ht₂ hp
      · -- the panels that are there already go, and the panic goes on
        obtain ⟨hfit, hfit'⟩ := fit_of_twins (.cons hq hready)
        obtain ⟨g, ed⟩ := start_dropAll play ht₃.left hfit
        obtain ⟨g', ed'⟩ := start_dropAll play ht₃.right hfit'
        refine .inl ⟨hb, x, g, g', ?_, ?_⟩
        · simp [start_bind, ec, em, ed]
        · simp [start_bind, ec', em', ed']
      · simpa [start_bind, ec, ec', em, em'] using ih ht₃ (List.rel_append hready (.cons hq .nil))

theorem wanted_twins (choice : Dashboard.Choice) (session : Nat) (other : String) :
    Lockstep (Host.Twins name own breaks) False (fun _ => True) (choice.wanted session other)
      (choice.wanted session other) := by
  cases choice with
  | these => exact lockstep_pure trivial
  | sidebar => exact lockstep_bind (Host.session_twins session) fun _ _ => lockstep_pure trivial

theorem mount_twins (choice : Dashboard.Choice) (session : Nat) {h h' : Host}
    (ht : h.Twins name own breaks h') :
    (breaks ∧ ∃ x g g',
      start (choice.mount (Host.serve play) session) h = some (.error x, g) ∧
      start (choice.mount (Host.serve play) session) h' = some (.error x, g')) ∨
    ∃ d d' g g',
      start (choice.mount (Host.serve play) session) h = some (.ok d, g) ∧
      start (choice.mount (Host.serve play) session) h' = some (.ok d', g') ∧
      List.Forall₂ (Panel.Twins name own breaks) d.panels d'.panels ∧
      g.Twins name own breaks g' := by
  have hnames : choice.names h' = choice.names h := by
    cases choice with
    | these => rfl
    | sidebar => exact ht.sidebar
  rw [choice.start_mount, choice.start_mount, hnames]
  rcases mountEach_twins play session (wanted_twins choice session) ht .nil with
    ⟨hb, x, g, g', e, e'⟩ | ⟨panels, panels', g, g', e, e', hp, hg⟩
  · rw [e, e']
    exact .inl ⟨hb, x, g, g', rfl, rfl⟩
  · rw [e, e']
    exact .inr ⟨⟨session, panels⟩, ⟨session, panels'⟩, g, g', rfl, rfl, hp, hg⟩

/-- Running on each panel something that never panics comes to the same on twins, for the panels of
the other plugins. -/
theorem each_twins {α : Type} {m : PanelRun α} (hm : Panel.Steady name breaks False m)
    {panels panels' : List Panel} (hp : List.Forall₂ (Panel.Twins name own breaks) panels panels')
    {h h' : Host} (ht : h.Twins name own breaks h') :
    ∃ results results' shown shown' g g',
      start (each m panels) h = some (.ok (.ok results, shown), g) ∧
      start (each m panels') h' = some (.ok (.ok results', shown'), g') ∧
      AlikeBut name (panels.map Panel.name) results results' ∧
      shown.map Panel.name = panels.map Panel.name ∧
      List.Forall₂ (Panel.Twins name own breaks) shown shown' ∧ g.Twins name own breaks g' := by
  induction hp generalizing h h' with
  | nil => exact ⟨[], [], [], [], h, h', rfl, rfl, .nil, rfl, .nil, ht⟩
  | @cons p p' panels panels' hp _ ih =>
    obtain ⟨q, q', k, k', hk, hq, hname, ⟨hb, -⟩ | ⟨a, a', em, em', hsame⟩⟩ := step_twins hm ht hp
    · exact hb.elim
    obtain ⟨results, results', shown, shown', g, g', e, e', halike, hnames, hshown, hg⟩ := ih hk
    refine ⟨a :: results, a' :: results', q :: shown, q' :: shown', g, g', ?_, ?_,
      halike.cons hsame, ?_, .cons hq hshown, hg⟩
    · simp [each, start_bind, start_map, em, e, Except.map]
    · simp [each, start_bind, start_map, em', e', Except.map]
    · rw [List.map_cons, List.map_cons, hname, hnames]

theorem renderAll_twins {d d' : Dashboard}
    (hd : List.Forall₂ (Panel.Twins name own breaks) d.panels d'.panels) {h h' : Host}
    (ht : h.Twins name own breaks h') :
    ∃ views views' e e' g g',
      start (Dashboard.renderAll (Host.serve play)) (d, h) = some (.ok views, e, g) ∧
      start (Dashboard.renderAll (Host.serve play)) (d', h') = some (.ok views', e', g') ∧
      AlikeBut name d.names views views' ∧ e.names = d.names ∧
      List.Forall₂ (Panel.Twins name own breaks) e.panels e'.panels ∧
      g.Twins name own breaks g' := by
  obtain ⟨views, views', shown, shown', g, g', e, e', halike, hnames, hshown, hg⟩ :=
    each_twins (Panel.render_steady play) hd ht
  refine ⟨views, views', { d with panels := shown }, { d' with panels := shown' }, g, g', ?_, ?_,
    halike, hnames, hshown, hg⟩
  · simp [Dashboard.renderAll, Dashboard.onPanels, start_bind, start_map, Except.map, e, resume]
  · simp [Dashboard.renderAll, Dashboard.onPanels, start_bind, start_map, Except.map, e', resume]

theorem renderTimes_twins (times : Nat) {d d' : Dashboard}
    (hd : List.Forall₂ (Panel.Twins name own breaks) d.panels d'.panels) {h h' : Host}
    (ht : h.Twins name own breaks h') :
    ∃ rounds rounds' e e' g g',
      start (Dashboard.renderTimes (Host.serve play) times) (d, h) = some (.ok rounds, e, g) ∧
      start (Dashboard.renderTimes (Host.serve play) times) (d', h') = some (.ok rounds', e', g') ∧
      rounds.length = times ∧ List.Forall₂ (AlikeBut name d.names) rounds rounds' ∧
      e.names = d.names ∧ List.Forall₂ (Panel.Twins name own breaks) e.panels e'.panels := by
  induction times generalizing d d' h h' with
  | zero => exact ⟨[], [], d, d', h, h', rfl, rfl, rfl, .nil, rfl, hd⟩
  | succ times ih =>
    obtain ⟨views, views', d₁, d₁', h₁, h₁', er, er', halike, hnames₁, hd₁, ht₁⟩ :=
      renderAll_twins play hd ht
    obtain ⟨rounds, rounds', e, e', g, g', es, es', hlength, hrounds, hnames, he⟩ := ih hd₁ ht₁
    refine ⟨views :: rounds, views' :: rounds', e, e', g, g', ?_, ?_, congrArg (· + 1) hlength,
      .cons halike (hnames₁ ▸ hrounds), hnames.trans hnames₁, he⟩
    · simp [Dashboard.renderTimes, start_bind, start_map, er, es, Except.map]
    · simp [Dashboard.renderTimes, start_bind, start_map, er', es', Except.map]

theorem alike_of_twins {panels panels' : List Panel}
    (hp : List.Forall₂ (Panel.Twins name own breaks) panels panels') :
    panels'.map Panel.name = panels.map Panel.name ∧
      AlikeBut name (panels.map Panel.name) panels panels' := by
  induction hp with
  | nil => exact ⟨rfl, .nil⟩
  | cons hp _ ih => exact ⟨congrArg₂ List.cons hp.plugin ih.1, ih.2.cons hp.same⟩

/-- Two runs that differ in nothing but the code of one plugin, which keeps its panics inside the
boundary of its panels, make panels for the same plugins, and those of the other plugins are the
same and show the same however often they are rendered. Only where one of the others panics outside
the boundary are there no panels, and then in neither run. -/
theorem failures_isolated (choice : Dashboard.Choice) (session : Nat) {h h' : Host}
    (ht : h.Twins name own (h.registry.Leaks name) h') :
    (h.registry.Leaks name ∧ ∃ x g g',
      start (choice.mount (Host.serve play) session) h = some (.error x, g) ∧
      start (choice.mount (Host.serve play) session) h' = some (.error x, g')) ∨
    ∃ d d' g g',
      start (choice.mount (Host.serve play) session) h = some (.ok d, g) ∧
      start (choice.mount (Host.serve play) session) h' = some (.ok d', g') ∧
      d.AlikeBut name d' ∧
      ∀ times, ∃ rounds rounds' e e' k k',
        start (Dashboard.renderTimes (Host.serve play) times) (d, g) =
          some (.ok rounds, e, k) ∧
        start (Dashboard.renderTimes (Host.serve play) times) (d', g') =
          some (.ok rounds', e', k') ∧
        rounds.length = times ∧ List.Forall₂ (AlikeBut name d.names) rounds rounds' ∧
        e.names = d.names ∧ e.AlikeBut name e' := by
  rcases mount_twins play choice session ht with hpanic | ⟨d, d', g, g', e, e', hd, hg⟩
  · exact .inl hpanic
  · refine .inr ⟨d, d', g, g', e, e', alike_of_twins hd, fun times => ?_⟩
    obtain ⟨rounds, rounds', s, s', k, k', er, er', hlength, hrounds, hnames, hs⟩ :=
      renderTimes_twins play times hd hg
    exact ⟨rounds, rounds', s, s', k, k', er, er', hlength, hrounds, hnames, alike_of_twins hs⟩

end

/-! ## A panel that counts beside one that may fail -/

def ticks : Counter := ⟨1, "ticks"⟩

/-- Its panel counts how often it was rendered. -/
def clock : Definition Code :=
  { Definition.plain "clock" "Clock" with
    sidebar := { Sidebar.hidden with shown := true }
    panel := some ⟨.later .skip, fun _ =>
      .ask (.count ticks) fun n => .done (if n = 0 then "tick" else "tock")⟩ }

/-- A plugin whose panel renders with this code. -/
def news (code : Code) : Definition Code :=
  { Definition.plain "news" "News" with
    sidebar := { Sidebar.hidden with shown := true, order := some 1 }
    panel := some ⟨.later .skip, fun _ => code⟩ }

theorem news_check (code : Code) : (news code).check = .ok () := by
  have hname : PluginName.check "news" = .ok () := rfl
  have hblank : Text.allBlank "News" = false := rfl
  simp [Definition.check, news, Definition.plain, hname, hblank]

/-- A host with both plugins, enabled for its user. -/
def newsHost (code : Code) : Host :=
  { Host.new .default .ignore (.memory .empty) .unreachable with
    registry := (((Registry.empty .ignore).install ⟨clock, 1⟩ rfl).2.install ⟨news code, 2⟩
      (news_check code)).2
    sessions := [{ Session.new (some "ada") with
      entries := [.new "clock" true, .new "news" true] }]
    lastSerial := 2 }

/-- The clock owns its counter. -/
def clockOwns (plugin : String) (c : Counter) : Prop := plugin = "clock" ∧ c = ticks

theorem clock_solo : clock.Solo (clockOwns "clock") where
  panel := by
    rintro _ ⟨⟩
    exact ⟨.later (.done ""), fun _ => .count ⟨rfl, rfl⟩ fun _ => .done _⟩
  init := nofun
  destroy := nofun

theorem clock_handsOver : clock.HandsOver where
  load := by
    rintro _ ⟨⟩
    exact .later _
  init := nofun

theorem news_solo {code : Code} (hc : code.Solo (clockOwns "news")) :
    (news code).Solo (clockOwns "news") where
  panel := by
    rintro _ ⟨⟩
    exact ⟨.later (.done ""), fun _ => hc⟩
  init := nofun
  destroy := nofun

theorem news_handsOver (code : Code) : (news code).HandsOver where
  load := by
    rintro _ ⟨⟩
    exact .later _
  init := nofun

theorem newsHost_tame {code : Code} (hc : code.Solo (clockOwns "news")) (breaks : Prop) :
    (newsHost code).Tame "news" clockOwns breaks where
  marks := List.forall_mem_nil _
  sound := List.forall_mem_cons.mpr ⟨⟨clock_solo, .inl clock_handsOver⟩,
    List.forall_mem_singleton.mpr ⟨news_solo hc, .inl (news_handsOver code)⟩⟩

theorem newsHost_twins {code code' : Code} (hc : code.Solo (clockOwns "news"))
    (hc' : code'.Solo (clockOwns "news")) (breaks : Prop) :
    (newsHost code).Twins "news" clockOwns breaks (newsHost code') where
  left := newsHost_tame hc breaks
  right := newsHost_tame hc' breaks
  bus := rfl
  sessions := rfl
  lastSerial := rfl
  plugins := .cons ⟨rfl, rfl, fun _ => rfl⟩
    (.cons ⟨rfl, rfl, fun hne => absurd rfl hne⟩ .nil)
  apart := by
    rintro c other ⟨hname, -⟩
    exact absurd hname (by decide)
  counters _ _ _ _ := rfl

theorem newsHost_seals (code : Code) : ¬ (newsHost code).registry.Leaks "news" := by
  rintro ⟨i, hmem, -, hover⟩
  rcases List.mem_cons.mp hmem with rfl | hmem
  · exact hover clock_handsOver
  · obtain rfl := List.mem_singleton.mp hmem
    exact hover (news_handsOver code)

/-- What panels for the clock, the news and the clock again show when they are rendered twice. -/
def newsShown (code : Code) : Option (List (List View)) :=
  (start (do
    let d ← Dashboard.mount (Host.server 1) 0 ["clock", "news", "clock"]
    let (r, _) ← beside (Dashboard.renderTimes (Host.server 1) 2) d
    resume r) (newsHost code)).bind fun r => r.1.toOption

theorem newsShown_of_start {code : Code} {d : Dashboard} {g : Host} {rounds : List (List View)}
    {s : Dashboard × Host}
    (made : start (Dashboard.mount (Host.server 1) 0 ["clock", "news", "clock"]) (newsHost code) =
      some (.ok d, g))
    (rendered : start (Dashboard.renderTimes (Host.server 1) 2) (d, g) = some (.ok rounds, s)) :
    newsShown code = some rounds := by
  simp [newsShown, start_bind, made, rendered, resume, Except.toOption]

/-- The news fail in one of two runs, and both clocks go on in both. -/
theorem failures_isolated_news :
    let quiet := newsHost (.done "All quiet.")
    let loud := newsHost (.panic (.owned "boom"))
    ∃ d d' g g' rounds rounds' s s',
      start (Dashboard.mount (Host.server 1) 0 ["clock", "news", "clock"]) quiet =
        some (.ok d, g) ∧
      start (Dashboard.mount (Host.server 1) 0 ["clock", "news", "clock"]) loud =
        some (.ok d', g') ∧
      start (Dashboard.renderTimes (Host.server 1) 2) (d, g) = some (.ok rounds, s) ∧
      start (Dashboard.renderTimes (Host.server 1) 2) (d', g') = some (.ok rounds', s') ∧
      List.Forall₂ (AlikeBut "news" d.names) rounds rounds' ∧
      rounds = [
        [.content "clock" "tick", .content "news" "All quiet.", .content "clock" "tock"],
        [.content "clock" "tock", .content "news" "All quiet.", .content "clock" "tock"]] ∧
      rounds' = [
        [.content "clock" "tick", .errored "news" "boom" Panel.reloadHint,
          .content "clock" "tock"],
        [.content "clock" "tock", .errored "news" "boom" Panel.reloadHint,
          .content "clock" "tock"]] := by
  intro quiet loud
  have ht : quiet.Twins "news" clockOwns (quiet.registry.Leaks "news") loud :=
    newsHost_twins (.done _) (.panic _) _
  obtain ⟨d, d', g, g', e, e', -, hrounds⟩ :=
    (failures_isolated (Host.player 0) (.these ["clock", "news", "clock"]) 0 ht).resolve_left
      fun hleaks => newsHost_seals _ hleaks.1
  obtain ⟨rounds, rounds', s, s', k, k', er, er', -, halike, -, -⟩ := hrounds 2
  have hshown : newsShown (.done "All quiet.") = some rounds := newsShown_of_start e er
  have hshown' : newsShown (.panic (.owned "boom")) = some rounds' := newsShown_of_start e' er'
  refine ⟨d, d', g, g', rounds, rounds', (s, k), (s', k'), e, e', er, er', halike, ?_, ?_⟩
  · exact Option.some.inj (hshown.symm.trans (by decide +kernel))
  · exact Option.some.inj (hshown'.symm.trans (by decide +kernel))

end Plugboard
