import Plugboard.Proofs.Panel.Gate
import Plugboard.Proofs.Panel.Handlers

/-!
A panel whose plugin leaves the registry and the session of the panel alone, and fails only inside the
boundary: each of its operations hands something back.

* `Code.Stays`, `Code.Begins`: code that comes to an end on hosts of some kind and leaves such a host.
* `Host.Unmoved`: hosts of a kind that panels and the handlers on the bus keep to.
* `Panel.Mountable`, `Panel.Showable`: what a panel runs to mount its plugin, and to show it, behaves
  like that.
* `mount_unmoved`, `render_unmoved`, `runDestroy_unmoved`: the operations, part by part.
-/
namespace Plugboard

open Run

/-! ## Plugin code that behaves -/

section
variable (serve : Server Host) (K : Host → Prop)

/-- From such a host the code comes to an end, well or not, and leaves such a host. -/
def Code.Stays (code : Code) : Prop :=
  ∀ h, K h → ∃ r h', start (code.run serve) h = some (r, h') ∧ K h'

/-- From such a host the code hands over the rest of its work, or is done, without a panic. -/
def Code.Begins (code : Code) : Prop := Returns K (Code.Stays serve K) (code.begin serve)

end

namespace Host

/-- The later host differs in what mounting does to it by itself: in the journal, in panels, which
have numbers and handlers and may be marked, and in nothing else. -/
structure Tended (h h' : Host) : Prop where
  rest : h' = { h with
    bus := h'.bus, marked := h'.marked, journal := h'.journal, lastSerial := h'.lastSerial }
  code : h'.bus.handlers.filter (fun x => !x.listener.isMark) =
    h.bus.handlers.filter fun x => !x.listener.isMark

instance : Std.Refl Tended := ⟨fun _ => ⟨rfl, rfl⟩⟩

instance : IsTrans Host Tended where
  trans h h' h'' := by
    rintro ⟨hr, hc⟩ ⟨hr', hc'⟩
    refine ⟨?_, hc'.trans hc⟩
    rw [hr', hr]

/-- Hosts of this kind have this registry and this session, whatever panels do to them by
themselves, and the handlers on their bus come to an end and leave such a host. -/
structure Unmoved (serve : Server Host) (id : Nat) (r : Registry Code) (s : Session)
    (K : Host → Prop) : Prop where
  registry : ∀ h, K h → h.registry = r
  session : ∀ h, K h → h.sessionAt id = s
  tended : ∀ h h', K h → h.Tended h' → K h'
  heard : ∀ h, K h → ∀ x ∈ h.bus.handlers, ∀ body, x.listener = .code body →
    ∀ e, (body e).Stays serve K

section
variable {serve : Server Host} {id : Nat} {r : Registry Code} {s : Session} {K : Host → Prop}
  (hK : Unmoved serve id r s K)
include hK

theorem Unmoved.record (x : Happening) : Returns K (fun _ => True) (record x) :=
  returns_modify fun h hh => hK.tended h _ hh ⟨rfl, rfl⟩

theorem Unmoved.deliver {h : Host} (hh : K h) {x : Handler Listener} (hx : x ∈ h.bus.handlers)
    (e : Event) : Returns K (fun _ => True) (deliver (Code.run serve) e x) := by
  refine returns_bind (hK.record _) fun _ _ => ?_
  cases hlistener : x.listener with
  | mark panel plugin =>
    dsimp only
    split
    · exact returns_modify fun h hh => hK.tended h _ hh ⟨rfl, rfl⟩
    · exact returns_pure trivial
  | code body =>
    have hcontain : Returns K (fun _ => True) (contain (Code.run serve (body e))) := by
      intro g hg
      obtain ⟨r, g', run, hg'⟩ := hK.heard h hh x hx body hlistener e g hg
      exact ⟨r, g', by rw [start_contain, run]; rfl, hg', trivial⟩
    refine returns_bind hcontain fun r _ => ?_
    cases r with
    | ok => exact returns_pure trivial
    | error => exact hK.record _

theorem Unmoved.emit (e : Event) : Returns K (fun _ => True) (emit (Code.run serve) e) := by
  refine returns_bind (hK.record _) fun _ _ => returns_bind returns_get fun h hh => ?_
  refine returns_bind (returns_forM fun x hx => ?_) fun _ _ => returns_pure trivial
  exact hK.deliver hh (List.mem_filter.mp hx).1 e

theorem Unmoved.context (plugin : String) :
    Returns K (fun c => c = s.context id plugin) (Host.context id plugin) :=
  fun h hh => ⟨_, h, rfl, hh, hK.session h hh ▸ rfl⟩

theorem Unmoved.session_returns : Returns K (fun s' => s' = s) (Host.session id) :=
  fun h hh => ⟨_, h, rfl, hh, hK.session h hh⟩

end
end Host

/-- The component of the plugin with this name for this surface. -/
def Registry.Offers (r : Registry Code) (surface : Surface) (name : String) (c : Component Code) :
    Prop :=
  ∃ i, r.get? name = some i ∧ surface.component i.definition = some c

namespace Panel

/-! ## One panel -/

section
variable (serve : Server Host) (id : Nat) (r : Registry Code) (s : Session) (K : Host → Prop)
  (surface : Surface) (name : String)

/-- The loader and the init hook come to an end on hosts of this kind, without a panic before they
hand over the rest of their work, and leave such a host. -/
structure Mountable : Prop where
  load : ∀ c, r.Offers surface name c → c.load.Begins serve K
  init : surface = .main → ∀ i hook, r.get? name = some i → i.definition.init = some hook →
    (hook (s.context id name)).Begins serve K

/-- So do the rendering and the destroy hook, which run inside the boundary as a whole. -/
structure Showable : Prop extends Mountable serve id r s K surface name where
  render : ∀ c, r.Offers surface name c → (c.render (s.context id name)).Stays serve K
  destroy : surface = .main → ∀ i hook, r.get? name = some i → i.definition.destroy = some hook →
    hook.Stays serve K

end

/-- A panel of the session for this plugin on this surface. -/
structure Seats (r : Registry Code) (surface : Surface) (id : Nat) (name : String) (p : Panel) :
    Prop where
  place : p.place = (surface, id, name)
  installed : ∀ i, p.installed = some i → r.get? name = some i
  component : ∀ c, p.component = some c → r.Offers surface name c

/-- Beside a host of this kind, a panel for this plugin. -/
abbrev Seated (r : Registry Code) (surface : Surface) (id : Nat) (name : String)
    (K : Host → Prop) (x : Panel × Host) : Prop :=
  x.1.Seats r surface id name ∧ K x.2

section
variable {serve : Server Host} {id : Nat} {r : Registry Code} {s : Session} {K : Host → Prop}
  {surface : Surface} {name : String}

theorem Seats.parts {p : Panel} (hp : p.Seats r surface id name) :
    p.surface = surface ∧ p.session = id ∧ p.name = name := by
  have hplace := hp.place
  simpa only [Panel.place, Prod.mk.injEq] using hplace

theorem Seats.enter {p : Panel} (hp : p.Seats r surface id name) (next : Stage) :
    (p.enter next).Seats r surface id name where
  place := by
    rw [Panel.place, surface_enter, session_enter, name_enter]
    exact hp.place
  installed i hi := hp.installed i (by rwa [installed_enter] at hi)
  component c hc := hp.component c (by rwa [component_enter] at hc)

/-- The load that was started, if there is one, is of the component of the plugin. -/
def LoadsOf (r : Registry Code) (surface : Surface) (name : String) (o : Option PendingLoad) :
    Prop :=
  ∀ l, o = some l → r.Offers surface name l.component

theorem loadsOf_none : LoadsOf r surface name none := by
  rintro _ ⟨⟩

theorem current_unmoved :
    Returns (Seated r surface id name K) (Seats r surface id name) current :=
  fun x hx => ⟨x.1, x, rfl, hx, hx.1⟩

theorem change_unmoved {f : Panel → Panel}
    (hf : ∀ p, Seats r surface id name p → Seats r surface id name (f p)) :
    Returns (Seated r surface id name K) (fun _ => True) (change f) :=
  returns_modify fun _ hx => ⟨hf _ hx.1, hx.2⟩

theorem goTo_unmoved (next : Stage) :
    Returns (Seated r surface id name K) (fun _ => True) (goTo next) :=
  change_unmoved fun _ hp => hp.enter next

theorem guarded_unmoved (plugin : String) (phase : Phase) {code : Code}
    (hc : code.Stays serve K) : Returns K (fun _ => True) (guarded serve plugin phase code) := by
  have hcontain : Returns K (fun _ => True) (contain (code.run serve)) := by
    intro h hh
    obtain ⟨r, h', run, hh'⟩ := hc h hh
    exact ⟨r, h', by rw [start_contain, run]; rfl, hh', trivial⟩
  exact returns_bind hcontain fun _ _ => returns_pure trivial

theorem guardedRest_unmoved (plugin : String) (phase : Phase) {code : Code}
    (hc : code.Begins serve K) : Returns K (fun _ => True) (guardedRest serve plugin phase code) :=
  returns_bind hc fun _ hrest => guarded_unmoved plugin phase hrest

section
variable (hK : Host.Unmoved serve id r s K)
include hK

theorem report_unmoved (p : Panel) (f : Failure) : Returns K (fun _ => True) (report serve p f) :=
  returns_bind (hK.record _) fun _ _ =>
    returns_bind (hK.emit _) fun _ _ => returns_pure trivial

theorem fail_unmoved (f : Failure) :
    Returns (Seated r surface id name K) (fun _ => True) (fail serve f) :=
  returns_bind current_unmoved fun p _ =>
    returns_bind (returns_below (report_unmoved hK p f)) fun _ _ =>
      returns_bind (change_unmoved fun _ hp => ⟨hp.place, hp.installed, hp.component⟩)
        fun _ _ => goTo_unmoved _

/-- What is done with a hook that runs inside the boundary. -/
theorem attend_unmoved (p : Panel) {m : HostRun (Except Failure String)}
    (hm : Returns K (fun _ => True) m) : Returns K (fun _ => True) (do
      match ← m with
      | .ok _ => pure ()
      | .error f => report serve p f) := by
  refine returns_bind hm fun result _ => ?_
  cases result with
  | ok => exact returns_pure trivial
  | error f => exact report_unmoved hK p f

/-! ### Mounting -/

theorem isEnabled_unmoved {p : Panel} (hp : p.session = id) :
    Returns K (fun _ => True) p.isEnabled := by
  rw [isEnabled, hp]
  exact returns_bind hK.session_returns fun _ _ => returns_pure trivial

omit hK in
theorem startLoad_unmoved (i : Installed Code) {c : Component Code}
    (hc : r.Offers surface name c) : Returns (Seated r surface id name K)
      (fun l => r.Offers surface name l.component) (startLoad i c) :=
  returns_bind (change_unmoved fun _ hp => ⟨hp.place, hp.installed, hp.component⟩) fun _ _ =>
    returns_bind current_unmoved fun _ _ => returns_pure hc

theorem startFound_unmoved {i : Installed Code} (hi : r.get? name = some i) :
    Returns (Seated r surface id name K) (LoadsOf r surface name) (startFound serve i) := by
  have hload : ∀ c, surface.component i.definition = some c →
      Returns (Seated r surface id name K) (LoadsOf r surface name)
        (do return some (← startLoad i c)) := by
    intro c hc
    refine returns_bind (startLoad_unmoved i ⟨i, hi, hc⟩) fun l hl => returns_pure ?_
    rintro _ ⟨⟩
    exact hl
  refine returns_bind (change_unmoved fun p hp => ⟨hp.place, ?_, hp.component⟩) fun _ _ => ?_
  · rintro j ⟨⟩
    exact hi
  refine returns_bind current_unmoved fun p hp => ?_
  obtain ⟨hsurface, hsession, -⟩ := hp.parts
  rw [hsurface]
  cases surface with
  | main =>
    dsimp only
    refine returns_bind (returns_below (isEnabled_unmoved hK hsession)) fun enabled _ => ?_
    cases enabled with
    | false => exact returns_bind (goTo_unmoved _) fun _ _ => returns_pure loadsOf_none
    | true =>
      refine returns_bind (goTo_unmoved _) fun _ _ => ?_
      cases hc : i.definition.panel with
      | none => exact returns_bind (fail_unmoved hK _) fun _ _ => returns_pure loadsOf_none
      | some c => exact hload c hc
  | settings =>
    cases hc : i.definition.settings with
    | none => exact returns_bind (goTo_unmoved _) fun _ _ => returns_pure loadsOf_none
    | some c => exact returns_bind (goTo_unmoved _) fun _ _ => hload c hc

theorem startMount_unmoved :
    Returns (Seated r surface id name K) (LoadsOf r surface name) (startMount serve) := by
  refine returns_bind current_unmoved fun p hp => ?_
  obtain ⟨-, -, hname⟩ := hp.parts
  cases p.stage with
  | mounted | errored | notFound => exact returns_pure loadsOf_none
  | resolving | disabled | loading =>
    refine returns_bind returns_get fun x hx => ?_
    rw [hK.registry x.2 hx.2, hname]
    cases hi : r.get? name with
    | none =>
      exact returns_bind (returns_below (hK.record _)) fun _ _ =>
        returns_bind (goTo_unmoved _) fun _ _ => returns_pure loadsOf_none
    | some i => exact startFound_unmoved hK hi

variable (hm : Mountable serve id r s K surface name)
include hm

theorem load_unmoved {l : PendingLoad} (hl : r.Offers surface name l.component) :
    Returns K (fun o => ∀ c, o.result = .ok c → r.Offers surface name c) (load serve l) := by
  refine returns_bind (hK.record _) fun _ _ =>
    returns_bind (guardedRest_unmoved _ _ (hm.load _ hl)) fun result _ => returns_pure ?_
  cases result with
  | error f => exact nofun
  | ok text =>
    rintro c ⟨⟩
    exact hl

theorem runInit_unmoved (hs : surface = .main) {i : Installed Code} (hi : r.get? name = some i) :
    Returns (Seated r surface id name K) (fun _ => True) (runInit serve i) := by
  refine returns_bind current_unmoved fun p hp => ?_
  obtain ⟨-, hsession, hname⟩ := hp.parts
  split
  · refine returns_bind (change_unmoved fun _ hp => ⟨hp.place, hp.installed, hp.component⟩)
      fun _ _ => ?_
    cases hhook : i.definition.init with
    | none => exact returns_pure trivial
    | some hook =>
      refine returns_below (returns_bind (hK.record _) fun _ _ => ?_)
      rw [hsession, hname]
      refine returns_bind (hK.context _) fun c hc => ?_
      subst hc
      have hinit := hm.init hs i hook hi hhook
      exact attend_unmoved hK p (guardedRest_unmoved _ _ hinit)
  · exact returns_pure trivial

theorem finishMount_unmoved {o : LoadOutcome}
    (ho : ∀ c, o.result = .ok c → r.Offers surface name c) :
    Returns (Seated r surface id name K) (fun _ => True) (finishMount serve o) := by
  refine returns_bind current_unmoved fun p hp => ?_
  have hstage : Returns (Seated r surface id name K) (fun _ => True)
      (do return (← current).stage) :=
    returns_bind current_unmoved fun _ _ => returns_pure trivial
  dsimp only
  split
  · cases hresult : o.result with
    | error f => exact returns_bind (fail_unmoved hK f) fun _ _ => hstage
    | ok c =>
      have hchange : ∀ p, Seats r surface id name p →
          Seats r surface id name { p with component := some c } := fun p hp =>
        ⟨hp.place, hp.installed, fun _ hc => Option.some.inj hc ▸ ho c hresult⟩
      refine returns_bind (change_unmoved hchange) fun _ _ =>
        returns_bind (goTo_unmoved _) fun _ _ => ?_
      split
      next i hsurface hinstalled =>
        have hs : surface = .main := hp.parts.1.symm.trans hsurface
        exact returns_bind (runInit_unmoved hK hm hs (hp.installed i hinstalled)) fun _ _ => hstage
      next => exact hstage
  · exact hstage

theorem mount_unmoved : Returns (Seated r surface id name K) (fun _ => True) (mount serve) := by
  refine returns_bind (startMount_unmoved hK) fun o ho => ?_
  cases o with
  | none => exact returns_bind current_unmoved fun _ _ => returns_pure trivial
  | some l =>
    refine returns_bind (returns_below (load_unmoved hK hm (ho l rfl))) fun o ho => ?_
    exact finishMount_unmoved hK hm ho

omit hm

/-! ### Rendering and unmounting -/

variable (hshow : Showable serve id r s K surface name)
include hshow

theorem runDestroy_unmoved {p : Panel} (hp : p.Seats r surface id name) :
    Returns K (fun _ => True) (runDestroy serve p) := by
  unfold runDestroy
  split
  next c i _ hsurface hinstalled =>
    have hs : surface = .main := hp.parts.1.symm.trans hsurface
    cases hhook : i.definition.destroy with
    | none => exact returns_pure trivial
    | some hook =>
      refine returns_bind (hK.record _) fun _ _ => attend_unmoved hK p (guarded_unmoved _ _ ?_)
      exact hshow.destroy hs i hook (hp.installed i hinstalled) hhook
  next => exact returns_pure trivial

theorem teardown_unmoved :
    Returns (Seated r surface id name K) (fun _ => True) (teardown serve) :=
  returns_bind current_unmoved fun _ hp =>
    returns_bind (change_unmoved fun _ hp => ⟨hp.place, hp.installed, nofun⟩) fun _ _ =>
      returns_below (runDestroy_unmoved hK hshow hp)

theorem renderComponent_unmoved :
    Returns (Seated r surface id name K) (fun _ => True) (renderComponent serve) := by
  refine returns_bind current_unmoved fun p hp => ?_
  obtain ⟨-, hsession, hname⟩ := hp.parts
  cases hc : p.component with
  | none => exact returns_pure trivial
  | some c =>
    have hrender : Returns K (fun _ => True) (do
        Host.record
          (.entered (.panel p.serial) p.name .render ((p.installed.map (·.serial)).getD 0))
        guarded serve p.name .render (c.render (← Host.context p.session p.name))) := by
      refine returns_bind (hK.record _) fun _ _ => ?_
      rw [hsession, hname]
      refine returns_bind (hK.context _) fun context hcontext => ?_
      subst hcontext
      exact guarded_unmoved _ _ (hshow.render c (hp.component c hc))
    refine returns_bind (returns_below hrender) fun result _ => ?_
    cases result with
    | ok body => exact returns_pure trivial
    | error f =>
      exact returns_bind (teardown_unmoved hK hshow) fun _ _ =>
        returns_bind (fail_unmoved hK f) fun _ _ =>
          returns_bind current_unmoved fun _ _ => returns_pure trivial

theorem render_unmoved : Returns (Seated r surface id name K) (fun _ => True) (render serve) := by
  refine returns_bind current_unmoved fun p hp => ?_
  cases p.stillView with
  | some v => exact returns_pure trivial
  | none => exact renderComponent_unmoved hK hshow

end
end

/-! ### New panels -/

/-- A new panel is all that creating one brings. -/
theorem tended_create {h h' : Host} {surface : Surface} {id : Nat} {name : String} {p : Panel}
    (made : start (create surface id name) h = some (.ok p, h')) : h.Tended h' := by
  rw [start_create] at made
  cases made
  refine ⟨rfl, ?_⟩
  have hhandlers : ((h.bus.add .enabled (.mark (h.lastSerial + 1) name)).add .disabled
      (.mark (h.lastSerial + 1) name)).handlers = h.bus.handlers ++
        [⟨h.bus.lastId + 1, .enabled, .mark (h.lastSerial + 1) name⟩,
          ⟨h.bus.lastId + 2, .disabled, .mark (h.lastSerial + 1) name⟩] :=
    List.append_assoc _ _ _
  dsimp only
  rw [hhandlers, List.filter_append]
  exact List.append_nil _

theorem seats_create {h h' : Host} {surface : Surface} {id : Nat} {name : String} {p : Panel}
    (made : start (create surface id name) h = some (.ok p, h')) (r : Registry Code) :
    p.Seats r surface id name := by
  rw [start_create] at made
  cases made
  refine ⟨rfl, fun i hi => ?_, fun c hc => ?_⟩
  · cases hi
  · cases hc

end Panel
end Plugboard
