import Plugboard.Proofs.CommandLine.Opening
import Plugboard.Proofs.Panel.Display
import Plugboard.Proofs.Panel.Unmoved

/-!
Commands that render a plugin show it once and say what has become of it. They end well or badly by
the gate, the load and the rendering alone, and the panel is gone before anything is printed.

* `Display.error`: the error that a command ends with.
* `renderOnce_displays`: a session shows a plugin, when its code leaves the registry and the session
  alone and fails only inside the boundary.
* `Told`: what the command has told then, and the calls that were made before.
* `rendering_truthful`: what it comes to, on both surfaces.
-/
namespace Plugboard

open Run

/-- The error that a command ends with that has shown the plugin. -/
def Display.error (plugin : String) : Display → Option HostError
  | unknown => some (.plugin (.notRegistered plugin))
  | unloaded _ f | rendered _ (.error f) => some (.render f)
  | disabled _ | pageless _ | rendered _ (.ok _) => none

namespace CommandLine

/-- The command that shows a plugin on this surface. -/
def Command.showing : Surface → String → Command
  | .main => .render
  | .settings => .renderSettings

/-! ## One panel -/

section
variable {serve : Server Host} {p : Panel} {h : Host} {d : Display}

theorem renderError_eq (hd : p.Displays serve h d) {q : Panel} (hq : q.failure = d.failure) :
    renderError h.registry q (d.view p.name) = d.error p.name := by
  unfold renderError
  rw [hq]
  cases hd with
  | unknown hr => simp [Display.failure, Display.view, Display.error, Registry.contains, hr]
  | disabled => rfl
  | pageless hr => simp [Display.failure, Display.view, Display.error, Registry.contains, hr]
  | unloaded => rfl
  | @rendered _ _ _ _ _ _ result => cases result <;> rfl

theorem error_eq_none_iff (hd : p.Displays serve h d) : d.error p.name = none ↔
    (d.view p.name).isContent = true ∨ (∃ notice, d.view p.name = .disabled p.name notice) ∨
      p.surface = .settings ∧ h.registry.contains p.name = true ∧
        ∃ notice, d.view p.name = .notFound p.name notice := by
  cases hd with
  | unknown hr => simp [Display.view, Display.error, View.isContent, Registry.contains, hr]
  | disabled => simp [Display.view, Display.error]
  | pageless hr hs => simp [Display.view, Display.error, Registry.contains, hr, hs]
  | unloaded => simp [Display.view, Display.error, View.isContent]
  | @rendered _ _ _ _ _ _ result =>
    cases result <;> simp [Display.view, Display.error, View.isContent]

theorem error_eq_render_iff (plugin : String) (f : Failure) :
    d.error plugin = some (.render f) ↔ d.failure = some f := by
  cases d with
  | unknown | disabled | pageless | unloaded => simp [Display.error, Display.failure]
  | rendered i result => cases result <;> simp [Display.error, Display.failure]

theorem error_eq_notRegistered_iff (hd : p.Displays serve h d) :
    d.error p.name = some (.plugin (.notRegistered p.name)) ↔ h.registry.get? p.name = none := by
  cases hd with
  | unknown hr => simp [Display.error, hr]
  | disabled hr | pageless hr => simp [Display.error, hr]
  | unloaded hl => simp [Display.error, hl.found]
  | @rendered _ _ _ _ _ _ result _ hl => cases result <;> simp [Display.error, hl.found]

/-- What a panel goes through that is shown once. -/
theorem start_renderOnce {surface : Surface} {plugin : String} {id : Nat} {p₁ p₂ : Panel}
    {h₀ h₁ h₂ h₃ : Host} {x : Stage} {v : View}
    (made : start (Panel.create surface id plugin) h = some (.ok p, h₀))
    (mounted : start (Panel.mount serve) (p, h₀) = some (.ok x, p₁, h₁))
    (rendered : start (Panel.render serve) (p₁, h₁) = some (.ok v, p₂, h₂))
    (gone : start (Panel.runDestroy serve p₂) h₂ = some (.ok ⟨⟩, h₃)) :
    ∃ bus, start (renderOnce serve surface plugin id) h =
      some (.ok ⟨[v.text], [], renderError h₃.registry p₂ v⟩, { h₃ with bus := bus }) := by
  obtain ⟨bus, hdropped, -⟩ := Panel.start_unsubscribeAll p₂.subscriptions h₃
  refine ⟨bus, ?_⟩
  simp only [renderOnce, start_bind, made, start_beside, mountAndRender, mounted, rendered,
    Option.map_some, Panel.drop, gone, hdropped, resume, start_pure, start_get]

end

/-- A session shows a plugin. -/
theorem renderOnce_displays (depth : Nat) {surface : Surface} {plugin : String} {id : Nat}
    {h : Host} {s : Session} {K : Host → Prop}
    (hK : Host.Unmoved (Host.server depth) id h.registry s K) (hh : K h)
    (hshow : Panel.Showable (Host.server depth) id h.registry s K surface plugin) :
    ∃ p h₀ d h', start (Panel.create surface id plugin) h = some (.ok p, h₀) ∧
      p.Displays (Host.server depth) h₀ d ∧ h.PanelCalls (d.calls p) h' ∧
      start (renderOnce (Host.server depth) surface plugin id) h =
        some (.ok ⟨[(d.view plugin).text], [], d.error plugin⟩, h') := by
  obtain ⟨p, h₀, made, hnew, hplace, hregistry, -, hcreated⟩ := Panel.create_new surface id plugin h
  have hname : p.name = plugin := congrArg (fun x : Surface × Nat × String => x.2.2) hplace
  have hh₀ := hK.tended h _ hh (Panel.tended_create made)
  obtain ⟨x, ⟨p₁, h₁⟩, mounted, ⟨hseats₁, hh₁⟩, -⟩ :=
    Panel.mount_unmoved hK hshow.toMountable (p, h₀) ⟨Panel.seats_create made h.registry, hh₀⟩
  obtain ⟨v, ⟨p₂, h₂⟩, rendered, ⟨hseats₂, hh₂⟩, -⟩ :=
    Panel.render_unmoved hK hshow (p₁, h₁) ⟨hseats₁, hh₁⟩
  obtain ⟨⟨⟩, h₃, gone, hh₃, -⟩ := Panel.runDestroy_unmoved hK hshow hseats₂ h₂ hh₂
  obtain ⟨d, hd, rfl, hfailure, hcalls⟩ := Panel.displays_of_runs (Host.server_served depth)
    hnew mounted rendered gone
  obtain ⟨bus, run⟩ := start_renderOnce made mounted rendered gone
  refine ⟨p, h₀, d, { h₃ with bus := bus }, made, hd, hcreated.trans hcalls, ?_⟩
  rw [run, hK.registry h₃ hh₃, ← hregistry, renderError_eq hd hfailure, hname]

/-! ## The commands -/

/-- What a command has told of a plugin that it has shown in this session, and what was called before
it told it. The gate, the load and the rendering of a new panel decide what it has to tell, and no
result of a hook does. It prints one view and nothing else. It ends well if the view is content, the
notice that the plugin is disabled, or the notice that a registered plugin has no settings page. It
ends with the failure of the load or of the rendering, or with the name that is not registered. The
calls are all that the panel makes: of the hooks, those that a main panel has once it is mounted, once
each. -/
structure Told (serve : Server Host) (surface : Surface) (plugin : String) (id : Nat)
    (opened : Host) (d : Display) (printed : Printed) (h' : Host) : Prop where
  displayed : ∃ p h₀, start (Panel.create surface id plugin) opened = some (.ok p, h₀) ∧
    p.Displays serve h₀ d ∧ (∀ d', p.Displays serve h₀ d' → d' = d) ∧
    opened.PanelCalls (d.calls p) h'
  output : printed = ⟨[(d.view plugin).text], [], d.error plugin⟩
  success : printed.error = none ↔
    (d.view plugin).isContent = true ∨ (∃ notice, d.view plugin = .disabled plugin notice) ∨
      surface = .settings ∧ opened.registry.contains plugin = true ∧
        ∃ notice, d.view plugin = .notFound plugin notice
  failed : ∀ f, printed.error = some (.render f) ↔ d.failure = some f
  unknown : printed.error = some (.plugin (.notRegistered plugin)) ↔
    opened.registry.get? plugin = none

theorem registry_of_open {play : Player} {h opened : Host} {id : Nat}
    (hopen : start (openSession play) h = some (.ok (.ok id), opened)) :
    opened.registry = h.registry := by
  rcases openSession_cases play h with ⟨-, e⟩ | ⟨token, answer, h', -, ho, e⟩
  · cases hopen.symm.trans e
  · obtain ⟨-, rfl⟩ := Prod.mk.inj (Option.some.inj (hopen.symm.trans e))
    exact ho.registry

/-- Nothing is opened for the settings of a plugin that is not registered; otherwise the command
shows the plugin in the new session. -/
theorem start_showing {serve : Server Host} {surface : Surface} {plugin : String} {h opened : Host}
    {id : Nat} (hopen : start (openSession (Code.run serve)) h = some (.ok (.ok id), opened))
    (hr : surface = .main ∨ h.registry.get? plugin ≠ none) :
    start ((Command.showing surface plugin).run serve) h =
      start (renderOnce serve surface plugin id) opened := by
  cases surface with
  | main => exact start_withSession hopen _
  | settings =>
    obtain ⟨i, hi⟩ := Option.ne_none_iff_exists'.mp (hr.resolve_left nofun)
    exact (start_withPlugin hi _).trans (start_withSession hopen _)

/-- A command that shows a plugin tells what has become of it, in any session that opens, when the
code of the plugin and of the handlers on the bus leaves the registry and the session alone and fails
only inside the boundary. What becomes of the hooks has no part in it. The settings of a plugin that
is not registered are not shown at all. -/
theorem rendering_truthful (depth : Nat) (surface : Surface) (plugin : String) {h opened : Host}
    {id : Nat} {K : Host → Prop}
    (hopen : start (openSession (Code.run (Host.server depth))) h = some (.ok (.ok id), opened))
    (hK : Host.Unmoved (Host.server depth) id h.registry (opened.sessionAt id) K) (hh : K opened)
    (hshow : Panel.Showable (Host.server depth) id h.registry (opened.sessionAt id) K surface
      plugin) :
    (surface = .settings → h.registry.get? plugin = none →
      start ((Command.showing surface plugin).run (Host.server depth)) h =
        some (.ok (.failure (.plugin (.notRegistered plugin))), h)) ∧
    (surface = .main ∨ h.registry.get? plugin ≠ none → ∃ d printed h',
      start ((Command.showing surface plugin).run (Host.server depth)) h =
        some (.ok printed, h') ∧
      Told (Host.server depth) surface plugin id opened d printed h') := by
  have hregistry := registry_of_open hopen
  refine ⟨?_, fun hr => ?_⟩
  · rintro rfl hnone
    exact start_withPlugin_of_none hnone _
  · rw [← hregistry] at hK hshow
    obtain ⟨p, h₀, d, h', made, hd, hcalls, run⟩ := renderOnce_displays depth hK hh hshow
    obtain ⟨hname, hsurface, hfound⟩ : p.name = plugin ∧ p.surface = surface ∧
        h₀.registry = opened.registry := by
      rw [Panel.start_create] at made
      cases made
      exact ⟨rfl, rfl, rfl⟩
    refine ⟨d, _, h', (start_showing hopen hr).trans run,
      ⟨p, h₀, made, hd, fun _ => hd.unique, hcalls⟩, rfl, ?_, error_eq_render_iff plugin, ?_⟩
    · rw [← hname, ← hsurface, ← hfound]
      exact error_eq_none_iff hd
    · rw [← hname, ← hfound]
      exact error_eq_notRegistered_iff hd

/-- A plugin whose hooks fail, and that renders nevertheless. -/
def moody : Definition Code :=
  { Definition.plain "moody" "Moody" with
    panel := some ⟨.later .skip, fun _ => .done "good morning"⟩
    init := some fun _ => .later (.fail ⟨"not today", []⟩)
    destroy := some (.panic (.owned "slam")) }

/-- A host with it, for a user who has it enabled. -/
def moodyHost : Host :=
  { Host.new { HostConfig.default with token := some "ada" } .ignore
      (.memory (MemoryStore.empty.seed "ada" [.new "moody" true])) .unreachable with
    registry := ((Registry.empty .ignore).install ⟨moody, 1⟩ rfl).2 }

/-- What it renders is printed, and the command ends well. -/
theorem rendering_truthful_moody : ∃ h',
    start ((Command.render "moody").run (Host.server 1)) moodyHost =
      some (.ok (.lines ["good morning"]), h') := by
  obtain ⟨opened, hopen, hregistry, henabled, hbus⟩ : ∃ opened,
      start (openSession (Code.run (Host.server 1))) moodyHost = some (.ok (.ok 0), opened) ∧
      opened.registry = moodyHost.registry ∧
      (opened.sessionAt 0).isEnabled "moody" = true ∧ opened.bus.handlers = [] :=
    ⟨_, rfl, rfl, rfl, rfl⟩
  have hfound : moodyHost.registry.get? "moody" = some ⟨moody, 1⟩ := rfl
  have hK : Host.Unmoved (Host.server 1) 0 moodyHost.registry (opened.sessionAt 0)
      (Host.Tended opened) := {
    registry := fun h hh => by rw [hh.rest, ← hregistry]
    session := fun h hh => by rw [hh.rest]; rfl
    tended := fun _ _ => IsTrans.trans _ _ _
    heard := fun h hh x hx body hbody => by
      have hcode : x ∈ h.bus.handlers.filter fun x => !x.listener.isMark :=
        List.mem_filter.mpr ⟨hx, by rw [hbody]; rfl⟩
      rw [hh.code, hbus] at hcode
      exact absurd hcode List.not_mem_nil }
  have hshow : Panel.Showable (Host.server 1) 0 moodyHost.registry (opened.sessionAt 0)
      (Host.Tended opened) .main "moody" := {
    load := by
      rintro c ⟨i, hi, hc⟩
      cases hi.symm.trans hfound
      cases hc
      exact fun h hh => ⟨.skip, h, rfl, hh, fun h' hh' => ⟨_, h', rfl, hh'⟩⟩
    init := by
      intro _ i hook hi hhook
      cases hi.symm.trans hfound
      cases hhook
      exact fun h hh => ⟨.fail ⟨"not today", []⟩, h, rfl, hh, fun h' hh' => ⟨_, h', rfl, hh'⟩⟩
    render := by
      rintro c ⟨i, hi, hc⟩
      cases hi.symm.trans hfound
      cases hc
      exact fun h hh => ⟨_, h, rfl, hh⟩
    destroy := by
      intro _ i hook hi hhook
      cases hi.symm.trans hfound
      cases hhook
      exact fun h hh => ⟨_, h, rfl, hh⟩ }
  obtain ⟨d, printed, h', run, told⟩ :=
    (rendering_truthful 1 .main "moody" hopen hK (Std.Refl.refl opened) hshow).2 (.inl rfl)
  obtain ⟨p, h₀, made, hd, -⟩ := told.displayed
  rw [Panel.start_create] at made
  cases made
  have hfound' : opened.registry.get? "moody" = some ⟨moody, 1⟩ := by rw [hregistry, hfound]
  refine ⟨h', run.trans ?_⟩
  rw [told.output]
  cases hd with
  | unknown hr => cases hr.symm.trans hfound'
  | disabled _ _ he => cases he.symm.trans henabled
  | pageless _ hs => cases hs
  | unloaded hl load =>
    cases hl.found.symm.trans hfound'
    cases hl.component
    cases load
  | rendered hl _ _ render =>
    cases hl.found.symm.trans hfound'
    cases hl.component
    cases render
    rfl

end CommandLine
end Plugboard
