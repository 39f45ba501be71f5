import Plugboard.Proofs.Panel.Resync

/-!
A plugin that is shown once: a new panel for it is mounted, rendered, and taken out of use.

* `Host.PanelCalls`: the calls of plugin code that panels make on the way from one host to another.
* `Display`: what can become of the plugin, with the view, the failure and the calls that come of it.
  What becomes of the hooks is no part of it.
* `Panel.Displays`: which it is, by the gate, by the run of the load and by the run of the rendering.
  They decide it (`Displays.unique`).
* `displays_of_runs`: nothing else becomes of it, and the calls are made before the panel is gone.
-/
namespace Plugboard

open Run

/-! ## Calls of panels -/

/-- A call of plugin code by a panel. -/
def Happening.isPanelCall : Happening → Bool
  | .entered (.panel _) _ _ _ => true
  | _ => false

namespace Host

/-- These are the calls that panels make on the way from one host to the other, oldest first. -/
def PanelCalls (l : List Happening) (h h' : Host) : Prop :=
  ∃ done, h'.journal = h.journal ++ done ∧ done.filter Happening.isPanelCall = l

theorem panelCalls_refl (h : Host) : PanelCalls [] h h := ⟨[], (List.append_nil _).symm, rfl⟩

theorem PanelCalls.trans {l l' : List Happening} {h h' h'' : Host} (hl : PanelCalls l h h')
    (hl' : PanelCalls l' h' h'') : PanelCalls (l ++ l') h h'' := by
  obtain ⟨done, hdone, rfl⟩ := hl
  obtain ⟨done', hdone', rfl⟩ := hl'
  exact ⟨done ++ done', by rw [hdone', hdone, List.append_assoc], List.filter_append ..⟩

/-- No panel calls anything while plugin code is served. -/
theorem panelCalls_of_served {h h' : Host} (hs : Served h h') : PanelCalls [] h h' := by
  obtain ⟨done, hdone, hall⟩ := hs.journal
  refine ⟨done, hdone, List.filter_eq_nil_iff.mpr fun x hx => ?_⟩
  have hserved := hall x hx
  cases x with
  | entered caller =>
    cases caller with
    | registry => exact Bool.false_ne_true
    | panel => exact hserved.elim
  | _ => exact Bool.false_ne_true

theorem panelCalls_recorded {x : Happening} (hx : x.isPanelCall = true) (h : Host) :
    PanelCalls [x] h (h.recorded x) := ⟨[x], rfl, by simp [hx]⟩

end Host

namespace Panel

/-- A call of its plugin by the panel. -/
def callOf (p : Panel) (i : Installed Code) (phase : Phase) : Happening :=
  .entered (.panel p.serial) p.name phase i.serial

/-- The call that a panel makes when its component has come. -/
def greetingCalls (p : Panel) (i : Installed Code) : List Happening :=
  match p.surface with
  | .main => (i.definition.init.map fun _ => p.callOf i .init).toList
  | .settings => []

/-- The call that a panel makes when its component is taken away. -/
def partingCalls (p : Panel) (i : Installed Code) : List Happening :=
  match p.surface with
  | .main => (i.definition.destroy.map fun _ => p.callOf i .destroy).toList
  | .settings => []

section
variable {serve : Server Host} (hs : ∀ a (op : Op Code a), Along Host.Served (serve op))
  {p : Panel} {h h' : Host} {ds : List Doing}
include hs

theorem guarded_served (plugin : String) (phase : Phase) (code : Code) :
    Along Host.Served (guarded serve plugin phase code) :=
  along_bind (along_contain (Host.run_along hs code)) fun _ => along_pure _

theorem Tells.served {f : Failure} {e : Event} (ht : Tells serve p f h e h') : h.Served h' := by
  cases ht with
  | told run =>
    have hlogged : h.Served (h.recorded (.logged .error f.display)) :=
      ⟨⟨_, rfl, List.forall_mem_singleton.mpr trivial⟩, Nat.le_refl _, fun _ => id⟩
    exact IsTrans.trans _ _ _ hlogged (Host.emit_served (Host.run_along hs) _ _ _ _ run)

theorem Attends.served {phase : Phase} {hook : Code} (ha : Attends serve p phase hook h ds h') :
    h.Served h' := by
  cases ha with
  | well run => exact guarded_served hs _ _ _ _ _ _ run
  | badly run ht =>
    exact IsTrans.trans _ _ _ (guarded_served hs _ _ _ _ _ _ run) (ht.served hs)

theorem Loads.calls {l : PendingLoad} {r : Except Panic LoadOutcome}
    (hl : Loads serve l h r ds h') : Host.PanelCalls
      [.entered (.panel l.panel) l.plugin .load l.installation] h h' := by
  have hcall := Host.panelCalls_recorded
    (x := .entered (.panel l.panel) l.plugin .load l.installation) rfl h
  cases hl with
  | unwound first =>
    exact hcall.trans (Host.panelCalls_of_served (Host.begin_along hs _ _ _ _ first))
  | run first run =>
    have hserved := IsTrans.trans _ _ _ (Host.begin_along hs _ _ _ _ first)
      (guarded_served hs _ _ _ _ _ _ run)
    exact hcall.trans (Host.panelCalls_of_served hserved)

theorem Greets.calls {i : Installed Code} (hg : Greets serve i p h ds h')
    (hf : p.initFired = false) : Host.PanelCalls
      (i.definition.init.map fun _ => p.callOf i .init).toList h h' := by
  have hcall := Host.panelCalls_recorded (x := p.callOf i .init) rfl h
  cases hg with
  | still hn =>
    rw [hn.resolve_left (by simp [hf])]
    exact Host.panelCalls_refl h
  | unwound _ hi first =>
    rw [hi]
    exact hcall.trans (Host.panelCalls_of_served (Host.begin_along hs _ _ _ _ first))
  | called _ hi first ha =>
    rw [hi]
    have hserved := IsTrans.trans _ _ _ (Host.begin_along hs _ _ _ _ first) (ha.served hs)
    exact hcall.trans (Host.panelCalls_of_served hserved)

theorem Parts.calls {i : Installed Code} {c : Component Code} (hl : Parts serve p h ds h')
    (hc : p.component = some c) (hi : p.installed = some i) :
    Host.PanelCalls (p.partingCalls i) h h' := by
  unfold partingCalls
  cases hl with
  | still hn =>
    have hnone : p.surface = .main → i.definition.destroy = none := fun hmain =>
      Option.eq_none_iff_forall_ne_some.mpr fun hook => hn c i hook hc hmain hi
    cases hsurface : p.surface with
    | main =>
      rw [hnone hsurface]
      exact Host.panelCalls_refl h
    | settings => exact Host.panelCalls_refl h
  | called _ hmain hi' hd ha =>
    obtain rfl := Option.some.inj (hi'.symm.trans hi)
    rw [hmain, hd]
    exact (Host.panelCalls_recorded (x := p.callOf _ .destroy) rfl h).trans
      (Host.panelCalls_of_served (ha.served hs))

end

/-! ## Panels that have no component -/

theorem start_render_of_not_mounted {serve : Server Host} {p : Panel} (hp : p.stage ≠ .mounted)
    (h : Host) : start (render serve) (p, h) = some (.ok (p.stillView.getD .resolving), p, h) := by
  have hcurrent : start current (p, h) = some (.ok p, p, h) := rfl
  rw [render, start_bind, hcurrent]
  cases hv : p.stillView with
  | none => exact absurd (stillView_eq_none_iff.mp hv) hp
  | some v =>
    simp only [hv]
    rfl

theorem start_runDestroy_of_empty {serve : Server Host} {p : Panel} (hc : p.component = none)
    (h : Host) : start (runDestroy serve p) h = some (.ok ⟨⟩, h) := by
  unfold runDestroy
  rw [hc]
  rfl

end Panel

/-! ## What becomes of a plugin -/

/-- What becomes of a plugin that is shown once. -/
inductive Display
  | unknown
  | disabled (i : Installed Code)
  | pageless (i : Installed Code)
  | unloaded (i : Installed Code) (f : Failure)
  | rendered (i : Installed Code) (result : Except Failure String)

namespace Display

def view (plugin : String) : Display → View
  | unknown => .notFound plugin ("Plugin '" ++ plugin ++ "' not found")
  | disabled i => .disabled plugin
      (i.definition.displayName ++ " is disabled. Enable it in plugin settings.")
  | pageless i => .notFound plugin (i.definition.displayName ++ " has no settings page")
  | unloaded _ f | rendered _ (.error f) => .errored plugin f.message Panel.reloadHint
  | rendered _ (.ok body) => .content plugin body

/-- What the load or the rendering has failed with. -/
def failure : Display → Option Failure
  | unloaded _ f | rendered _ (.error f) => some f
  | unknown | disabled _ | pageless _ | rendered _ (.ok _) => none

/-- The calls of the plugin by the panel that shows it. -/
def calls (p : Panel) : Display → List Happening
  | unknown | disabled _ | pageless _ => []
  | unloaded i _ => [p.callOf i .load]
  | rendered i _ =>
    p.callOf i .load :: p.greetingCalls i ++ p.callOf i .render :: p.partingCalls i

end Display

namespace Panel

/-- The panel is let in, and this is the component of its plugin. -/
structure LetIn (p : Panel) (h : Host) (i : Installed Code) (c : Component Code) : Prop where
  found : h.registry.get? p.name = some i
  component : p.surface.component i.definition = some c
  enabled : p.surface = .main → (h.sessionAt p.session).isEnabled p.name = true

/-- What becomes of the plugin of a new panel: the gate turns it away, or its load comes to a result,
and if that is a success, so does its rendering on the host as mounting leaves it. -/
inductive Displays (serve : Server Host) (p : Panel) (h : Host) : Display → Prop
  | unknown (hr : h.registry.get? p.name = none) : Displays serve p h .unknown
  | disabled {i} (hr : h.registry.get? p.name = some i) (hs : p.surface = .main)
      (he : (h.sessionAt p.session).isEnabled p.name = false) : Displays serve p h (.disabled i)
  | pageless {i} (hr : h.registry.get? p.name = some i) (hs : p.surface = .settings)
      (hc : i.definition.settings = none) : Displays serve p h (.pageless i)
  | unloaded {i c f h'} (hl : p.LetIn h i c)
      (load : start (guardedRest serve p.name .load c.load) (h.recorded (p.callOf i .load)) =
        some (.ok (.error f), h')) : Displays serve p h (.unloaded i f)
  | rendered {i c text h₁ q h₂ result h₃} (hl : p.LetIn h i c)
      (load : start (guardedRest serve p.name .load c.load) (h.recorded (p.callOf i .load)) =
        some (.ok (.ok text), h₁))
      (mount : start (mount serve) (p, h) = some (.ok .mounted, q, h₂))
      (render : start (guarded serve p.name .render
          (c.render ((h₂.sessionAt p.session).context p.session p.name)))
        (h₂.recorded (p.callOf i .render)) = some (.ok result, h₃)) :
      Displays serve p h (.rendered i result)

section
variable {serve : Server Host} {p : Panel} {h : Host} {i i' : Installed Code} {c c' : Component Code}
  (hl : p.LetIn h i c)
include hl

theorem LetIn.unique (hl' : p.LetIn h i' c') : i' = i ∧ c' = c := by
  obtain rfl := Option.some.inj (hl'.found.symm.trans hl.found)
  exact ⟨rfl, Option.some.inj (hl'.component.symm.trans hl.component)⟩

theorem LetIn.surface_eq (he : (h.sessionAt p.session).isEnabled p.name = false) :
    p.surface = .settings := by
  cases hs : p.surface with
  | main => cases he.symm.trans (hl.enabled hs)
  | settings => rfl

theorem LetIn.settings_ne_none (hr : h.registry.get? p.name = some i') (hs : p.surface = .settings) :
    i'.definition.settings ≠ none := by
  obtain rfl := Option.some.inj (hr.symm.trans hl.found)
  have hcomponent := hl.component
  rw [hs] at hcomponent
  intro hc
  cases hc.symm.trans hcomponent

end

/-- The gate and the two runs decide what becomes of the plugin. -/
theorem Displays.unique {serve : Server Host} {p : Panel} {h : Host} {d d' : Display}
    (hd : p.Displays serve h d) (hd' : p.Displays serve h d') : d' = d := by
  cases hd with
  | unknown hr => cases hd' with
    | unknown => rfl
    | disabled hr' | pageless hr' => cases hr.symm.trans hr'
    | unloaded hl | rendered hl => cases hr.symm.trans hl.found
  | disabled hr hs he => cases hd' with
    | unknown hr' => cases hr.symm.trans hr'
    | disabled hr' => rw [Option.some.inj (hr'.symm.trans hr)]
    | pageless _ hs' => cases hs.symm.trans hs'
    | unloaded hl | rendered hl => cases hs.symm.trans (hl.surface_eq he)
  | pageless hr hs hc => cases hd' with
    | unknown hr' => cases hr.symm.trans hr'
    | disabled _ hs' => cases hs.symm.trans hs'
    | pageless hr' => rw [Option.some.inj (hr'.symm.trans hr)]
    | unloaded hl | rendered hl => exact absurd hc (hl.settings_ne_none hr hs)
  | unloaded hl load => cases hd' with
    | unknown hr => cases hr.symm.trans hl.found
    | disabled _ hs he => cases hs.symm.trans (hl.surface_eq he)
    | pageless hr hs hc => exact absurd hc (hl.settings_ne_none hr hs)
    | unloaded hl' load' =>
      obtain ⟨rfl, rfl⟩ := hl.unique hl'
      cases load.symm.trans load'
      rfl
    | rendered hl' load' =>
      obtain ⟨rfl, rfl⟩ := hl.unique hl'
      cases load.symm.trans load'
  | rendered hl load mount render => cases hd' with
    | unknown hr => cases hr.symm.trans hl.found
    | disabled _ hs he => cases hs.symm.trans (hl.surface_eq he)
    | pageless hr hs hc => exact absurd hc (hl.settings_ne_none hr hs)
    | unloaded hl' load' =>
      obtain ⟨rfl, rfl⟩ := hl.unique hl'
      cases load.symm.trans load'
    | rendered hl' _ mount' render' =>
      obtain ⟨rfl, rfl⟩ := hl.unique hl'
      cases mount.symm.trans mount'
      cases render.symm.trans render'
      rfl

/-- A panel that has not looked yet. -/
structure IsNew (p : Panel) : Prop where
  sound : p.Sound
  stage : p.stage = .resolving
  installed : p.installed = none
  initFired : p.initFired = false

theorem IsNew.waits {p : Panel} (hp : p.IsNew) : p.Waits := .inl hp.stage

/-- Creating a panel calls nobody, and leaves the registry and the sessions as they are. -/
theorem create_new (surface : Surface) (id : Nat) (name : String) (h : Host) : ∃ p h',
    start (create surface id name) h = some (.ok p, h') ∧ p.IsNew ∧
      p.place = (surface, id, name) ∧ h'.registry = h.registry ∧ h'.sessions = h.sessions ∧
      h.PanelCalls [] h' :=
  ⟨_, _, start_create surface id name h, ⟨⟨rfl, by simp, by simp⟩, rfl, rfl, rfl⟩, rfl, rfl, rfl,
    Host.panelCalls_refl h⟩

/-- A mounted panel for this plugin is rendered and then loses its component. -/
theorem rendered_of_runs {serve : Server Host}
    (hs : ∀ a (op : Op Code a), Along Host.Served (serve op)) {p p' : Panel} {i : Installed Code}
    {c : Component Code} (hp : p.Sound) (hc : p.component = some c) (hi : p.installed = some i)
    {h₁ h₂ h₃ : Host} {v : View} (rendered : start (render serve) (p, h₁) = some (.ok v, p', h₂))
    (gone : start (runDestroy serve p') h₂ = some (.ok ⟨⟩, h₃)) : ∃ result h',
      start (guarded serve p.name .render
          (c.render ((h₁.sessionAt p.session).context p.session p.name)))
        (h₁.recorded (p.callOf i .render)) = some (.ok result, h') ∧
      v = (Display.rendered i result).view p.name ∧
      p'.failure = (Display.rendered i result).failure ∧
      h₁.PanelCalls (p.callOf i .render :: p.partingCalls i) h₃ := by
  have hstage : p.stage = .mounted := hp.component.mp (by rw [hc]; rfl)
  have hcall := Host.panelCalls_recorded (x := p.callOf i .render) rfl h₁
  have hserial : (p.installed.map (·.serial)).getD 0 = i.serial := by rw [hi]; rfl
  obtain ⟨ds, hrenders, hv⟩ := render_renders p h₁ _ _ rendered
  obtain rfl := Except.ok.inj hv
  have hr : Renders serve p h₁ ds p' h₂ := hrenders
  cases hr with
  | still hn => exact absurd hstage hn
  | blank _ hn => cases hc.symm.trans hn
  | @shown c' body _ _ hc' run =>
    obtain rfl : c = c' := Option.some.inj (hc.symm.trans hc')
    rw [hserial] at run
    obtain ⟨-, ds, hparts⟩ := runDestroy_parts p h₂ _ _ gone
    refine ⟨.ok body, h₂, run, rfl, hp.failure_eq_none (by simp [hstage]), ?_⟩
    exact (hcall.trans (Host.panelCalls_of_served (guarded_served hs _ _ _ _ _ _ run))).trans
      (hparts.calls hs hc hi)
  | @failed c' f ds e g g' _ _ hc' run hparts ht =>
    obtain rfl : c = c' := Option.some.inj (hc.symm.trans hc')
    rw [hserial] at run
    rw [start_runDestroy_of_empty (component_enter _ _)] at gone
    cases gone
    refine ⟨.error f, g, run, rfl, failure_enter _ _, ?_⟩
    have hrun := hcall.trans (Host.panelCalls_of_served (guarded_served hs _ _ _ _ _ _ run))
    have htold := (hparts.calls hs hc hi).trans (Host.panelCalls_of_served (ht.served hs))
    rw [List.append_nil] at htold
    exact hrun.trans htold

/-- A panel without a component shows what it has to show by itself. -/
theorem still_of_runs {serve : Server Host} {p p' : Panel} (hp : p.Sound) (hm : p.stage ≠ .mounted)
    {h₁ h₂ h₃ : Host} {v : View} (rendered : start (render serve) (p, h₁) = some (.ok v, p', h₂))
    (gone : start (runDestroy serve p') h₂ = some (.ok ⟨⟩, h₃)) :
    v = p.stillView.getD .resolving ∧ p' = p ∧ h₃ = h₁ := by
  rw [start_render_of_not_mounted hm] at rendered
  cases rendered
  rw [start_runDestroy_of_empty (hp.component_eq_none hm)] at gone
  cases gone
  exact ⟨rfl, rfl, rfl⟩

/-- A load was started for the component of the plugin, and the panel waits for it. -/
theorem loading_of_opens {p q : Panel} {h g : Host} {l : PendingLoad} {ds : List Doing}
    (hm : Opens p h (some l) ds q g) : ∃ i c, p.LetIn h i c ∧ g = h ∧
      l = ⟨p.name, p.loads + 1, c, p.serial, i.serial⟩ ∧
      q.stage = .loading ∧ q.loads = l.cycle ∧ q.installed = some i ∧ q.initFired = p.initFired := by
  cases hm with
  | @letIn i c _ _ hr hc he hl =>
    refine ⟨i, c, ⟨hr, hc, he⟩, rfl, hl, ?_, rfl, ?_, ?_⟩
    · exact stage_enter _ _
    · exact installed_enter _ _
    · exact initFired_enter _ _

theorem start_guardedRest_of_load {serve : Server Host} {l : PendingLoad} {o : LoadOutcome}
    {h h' : Host} (loaded : start (load serve l) h = some (.ok o, h')) : ∃ result,
      start (guardedRest serve l.plugin .load l.component.load)
        (h.recorded (.entered (.panel l.panel) l.plugin .load l.installation)) =
          some (.ok result, h') ∧ o = ⟨l.cycle, result.map fun _ => l.component⟩ := by
  have hrecord : ∀ x, start (Host.record x) h = some (.ok ⟨⟩, h.recorded x) := fun _ => rfl
  rw [load, start_bind, hrecord] at loaded
  dsimp only at loaded
  rw [start_bind] at loaded
  split at loaded
  · cases loaded
  · cases loaded
  next result g run =>
    cases loaded
    exact ⟨result, run, rfl⟩

theorem fixed_callOf (i : Installed Code) : Fixed fun p => p.callOf i :=
  fun _ _ _ _ _ _ _ _ => rfl

theorem partingCalls_eq {p p' : Panel} {i : Installed Code} (hplace : p'.place = p.place)
    (hcall : p'.callOf i = p.callOf i) : p'.partingCalls i = p.partingCalls i := by
  have hsurface : p'.surface = p.surface := congrArg Prod.fst hplace
  rw [partingCalls, partingCalls, hsurface, hcall]

section
variable {serve : Server Host} (hs : ∀ a (op : Op Code a), Along Host.Served (serve op))
  {p p₁ p₂ : Panel} {h h₁ h₂ h₃ : Host} {v : View}

/-- The gate turns the plugin away. -/
theorem displays_of_opens (hp : p.IsNew) {ds : List Doing} (hm : Opens p h none ds p₁ h₁)
    (rendered : start (render serve) (p₁, h₁) = some (.ok v, p₂, h₂))
    (gone : start (runDestroy serve p₂) h₂ = some (.ok ⟨⟩, h₃)) : ∃ d, p.Displays serve h d ∧
      v = d.view p.name ∧ p₂.failure = d.failure ∧ h.PanelCalls (d.calls p) h₃ := by
  have hstage : p₁.stage ≠ .mounted ∧ p₁.stage ≠ .errored := by
    cases hm with
    | past hn => exact absurd hp.waits hn
    | missing | shut | pageless => simp
  have hsound := hm.sound hp.sound
  obtain ⟨rfl, rfl, rfl⟩ := still_of_runs hsound hstage.1 rendered gone
  have hfailure := hsound.failure_eq_none hstage.2
  cases hm with
  | past hn => exact absurd hp.waits hn
  | missing _ hr =>
    refine ⟨.unknown, .unknown hr, ?_, hfailure, Host.panelCalls_of_served ?_⟩
    · simp [stillView, notFoundNotice, hp.installed, Display.view]
    · exact Host.served_of_aside _ _
        (Host.log_aside .warn _ h _ _ rfl)
  | shut _ hr hmain he =>
    refine ⟨.disabled _, .disabled hr hmain he, ?_, hfailure, Host.panelCalls_refl h⟩
    simp [stillView, displayName, found, Display.view]
  | pageless _ hr hsettings hc =>
    refine ⟨.pageless _, .pageless hr hsettings hc, ?_, hfailure, Host.panelCalls_refl h⟩
    simp [stillView, notFoundNotice, found, hsettings, Display.view]

include hs

/-- The plugin was let in and loaded, and its component is mounted. -/
theorem displays_of_mounted {i : Installed Code} {c : Component Code} {text : String} {g : Host}
    (hl : p.LetIn h i c)
    (load : start (guardedRest serve p.name .load c.load) (h.recorded (p.callOf i .load)) =
      some (.ok (.ok text), g))
    (mounted : start (mount serve) (p, h) = some (.ok p₁.stage, p₁, h₁))
    (hsound : p₁.Sound) (hc : p₁.component = some c) (hi : p₁.installed = some i)
    (hplace : p₁.place = p.place)
    (hcall : p₁.callOf i = p.callOf i)
    (hcalls : h.PanelCalls (p.callOf i .load :: p.greetingCalls i) h₁)
    (rendered : start (render serve) (p₁, h₁) = some (.ok v, p₂, h₂))
    (gone : start (runDestroy serve p₂) h₂ = some (.ok ⟨⟩, h₃)) : ∃ d, p.Displays serve h d ∧
      v = d.view p.name ∧ p₂.failure = d.failure ∧ h.PanelCalls (d.calls p) h₃ := by
  obtain ⟨result, g', run, hv, hfailure, hrest⟩ := rendered_of_runs hs hsound hc hi rendered gone
  have hparts := hplace
  simp only [Panel.place, Prod.mk.injEq] at hparts
  obtain ⟨-, hsession, hname⟩ := hparts
  rw [hsession, hname, hcall] at run
  rw [hname] at hv
  rw [hcall, partingCalls_eq hplace hcall] at hrest
  rw [hsound.component.mp (by rw [hc]; rfl)] at mounted
  exact ⟨.rendered i result, .rendered hl load mounted run, hv, hfailure, hcalls.trans hrest⟩

/-- A new panel that is mounted, rendered and taken away displays its plugin, and makes no other
calls. -/
theorem displays_of_runs (hp : p.IsNew) {x : Stage}
    (mounted : start (mount serve) (p, h) = some (.ok x, p₁, h₁))
    (rendered : start (render serve) (p₁, h₁) = some (.ok v, p₂, h₂))
    (gone : start (runDestroy serve p₂) h₂ = some (.ok ⟨⟩, h₃)) : ∃ d, p.Displays serve h d ∧
      v = d.view p.name ∧ p₂.failure = d.failure ∧ h.PanelCalls (d.calls p) h₃ := by
  obtain ⟨rfl, hcases⟩ := mount_comes serve p h _ _ mounted x rfl
  rcases hcases with ⟨-, ds, hm⟩ | ⟨l, ds, q, g, o, g', ds', -, hm, hload, -, hf⟩
  · exact displays_of_opens hp hm rendered gone
  have hf : Finishes serve o q g' ds' p₁ h₁ := hf
  have hsound : p₁.Sound := hf.sound (hm.sound hp.sound)
  have hplace : p₁.place = p.place := (hf.keeps fixed_place).trans (hm.keeps fixed_place)
  have hsurface : q.surface = p.surface := congrArg Prod.fst (hm.keeps fixed_place)
  have hcallq : ∀ i, q.callOf i = p.callOf i := fun i => hm.keeps (fixed_callOf i)
  have hcall : ∀ i, p₁.callOf i = p.callOf i := fun i =>
    (hf.keeps (fixed_callOf i)).trans (hcallq i)
  obtain ⟨ds'', hloads⟩ := load_loads l g _ _ hload
  have hloaded := hloads.calls hs
  obtain ⟨result, run, rfl⟩ := start_guardedRest_of_load hload
  obtain ⟨i, c, hlet, rfl, rfl, hstage, hcycle, hi, hfired⟩ := loading_of_opens hm
  cases hf with
  | dropped ha => simp [awaits, hstage, hcycle] at ha
  | @failed f e _ _ hresult ht =>
    cases result with
    | ok => cases hresult
    | error =>
      cases hresult
      have hstopped : (q.stopped f).stage ≠ .mounted := by simp
      obtain ⟨rfl, rfl, rfl⟩ := still_of_runs hsound hstopped rendered gone
      refine ⟨.unloaded i f, .unloaded hlet run, ?_, failure_enter _ _, ?_⟩
      · have hname : q.name = p.name := hm.keeps fixed_name
        simp [stillView, errorView, hname, Display.view]
      · exact hloaded.trans (Host.panelCalls_of_served (ht.served hs))
  | @plain c' _ hresult hn =>
    cases result with
    | error => cases hresult
    | ok text =>
      obtain rfl : c = c' := Except.ok.inj hresult
      have hsettings : p.surface = .settings := by simpa [hsurface, hi] using hn
      refine displays_of_mounted hs hlet run mounted hsound (component_enter _ _)
        ((installed_enter _ _).trans hi) hplace (hcall i) ?_ rendered gone
      rw [greetingCalls, hsettings]
      exact hloaded
  | @hooked c' j _ _ _ hresult hmain hinstalled hg =>
    cases result with
    | error => cases hresult
    | ok text =>
      obtain rfl : c = c' := Except.ok.inj hresult
      obtain rfl := Option.some.inj (hi.symm.trans hinstalled)
      refine displays_of_mounted hs hlet run mounted hsound (component_enter _ _)
        ((installed_enter _ _).trans hi) hplace (hcall i) ?_ rendered gone
      have hgreeting := hg.calls hs ((initFired_enter _ _).trans (hfired.trans hp.initFired))
      rw [(fixed_callOf i).holding q, hcallq] at hgreeting
      rw [greetingCalls, ← hsurface, hmain]
      exact hloaded.trans hgreeting

end

end Panel
end Plugboard
