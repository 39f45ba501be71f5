import Plugboard.Proofs.Panel.Gate

/-!
Plugins that do nothing but show a text that depends on their context. Nothing that they do before
they are rendered can fail, so what is seen of one is decided by the settings alone.

* `start_mount`: a panel that is let in is mounted.
* `start_render`: a mounted one shows the text, or stops with what is wrong with the settings.
* `view_content_iff`, `view_ends_of_error`: both together.
-/
namespace Plugboard

open Run

/-- Loading and initialising do nothing, and rendering shows this text. -/
structure Definition.IsText (d : Definition Code) (text : Context → Except String String) : Prop where
  panel : d.panel = some (.ofText text)
  init : d.init = some fun _ => .later .skip

/-- Nothing changes on the way but the journal, which grows. -/
def Host.Logged (h h' : Host) : Prop := ∃ l, h' = { h with journal := h.journal ++ l }

theorem Host.logged_record (h : Host) (x : Happening) : h.Logged (h.recorded x) := ⟨[x], rfl⟩

theorem Host.Logged.trans {h h' h'' : Host} (hl : h.Logged h') (hl' : h'.Logged h'') :
    h.Logged h'' := by
  obtain ⟨l, rfl⟩ := hl
  obtain ⟨l', rfl⟩ := hl'
  exact ⟨l ++ l', by rw [List.append_assoc]⟩

theorem Host.Logged.sessionAt {h h' : Host} (hl : h.Logged h') (id : Nat) :
    h'.sessionAt id = h.sessionAt id := by
  obtain ⟨l, rfl⟩ := hl
  rfl

namespace Panel

/-- A main panel that waits to be mounted, and is let in. -/
structure Ready (d : Definition Code) (p : Panel) (h : Host) : Prop where
  surface : p.surface = .main
  waits : p.Waits
  found : ∃ serial, h.registry.get? p.name = some ⟨d, serial⟩
  enabled : (h.sessionAt p.session).isEnabled p.name = true

/-- The panel is mounted with this component. -/
def Has (p : Panel) (c : Component Code) : Prop := p.stage = .mounted ∧ p.component = some c

/-- The panel is mounted with the component of the plugin, or will be when it looks. -/
def Shows (d : Definition Code) (p : Panel) (h : Host) : Prop :=
  p.Ready d h ∨ ∃ c, d.panel = some c ∧ p.Has c

/-- Mounts the panel if it is still to be mounted, and renders it. -/
def view (serve : Server Host) : PanelRun View := do
  let _ ← mount serve
  render serve

/-- What a failed rendering comes to. -/
def stop (serve : Server Host) (f : Failure) : PanelRun View := do
  teardown serve
  fail serve f
  return (← current).errorView

section
variable {α : Type} (p : Panel) (h : Host)

@[simp] theorem start_current : start current (p, h) = some (.ok p, p, h) := rfl

@[simp] theorem start_isEnabled :
    start p.isEnabled h = some (.ok ((h.sessionAt p.session).isEnabled p.name), h) := rfl

@[simp] theorem start_change (f : Panel → Panel) :
    start (change f) (p, h) = some (.ok ⟨⟩, f p, h) := rfl

@[simp] theorem start_goTo (next : Stage) :
    start (goTo next) (p, h) = some (.ok ⟨⟩, p.enter next, h) := rfl

@[simp] theorem start_onHost (m : HostRun α) :
    start (onHost m) (p, h) = (start m h).map fun r => (r.1, p, r.2) := rfl

end

section
variable {d : Definition Code} {text : Context → Except String String} (hd : d.IsText text)
  (serve : Server Host) {p : Panel} {h : Host}
include hd

theorem start_startFound (hr : p.Ready d h) (serial : Nat) :
    start (startFound serve ⟨d, serial⟩) (p, h) =
      some (.ok (some ⟨p.name, p.loads + 1, .ofText text, p.serial, serial⟩),
        { (p.found ⟨d, serial⟩).enter .loading with loads := p.loads + 1 }, h) := by
  have he : start (p.found ⟨d, serial⟩).isEnabled h = some (.ok true, h) := by
    rw [start_isEnabled, ← hr.enabled]
    rfl
  have hs : (p.found ⟨d, serial⟩).surface = .main := hr.surface
  have hf : start (change fun p => { p with installed := some ⟨d, serial⟩ }) (p, h) =
    some (.ok ⟨⟩, p.found ⟨d, serial⟩, h) := rfl
  simp only [startFound, start_bind, hf, start_current, hs, start_onHost, he, Option.map_some,
    if_true, start_goTo, hd.panel, startLoad, start_change, start_pure]
  simp [found]

theorem start_startMount (hr : p.Ready d h) :
    ∃ serial q, start (startMount serve) (p, h) =
        some (.ok (some ⟨p.name, q.loads, .ofText text, p.serial, serial⟩), q, h) ∧
      q.stage = .loading ∧ q.place = p.place ∧ q.installed = some ⟨d, serial⟩ := by
  obtain ⟨serial, hfound⟩ := hr.found
  have e : start (startMount serve) (p, h) = start (startFound serve ⟨d, serial⟩) (p, h) := by
    rcases hr.waits with hw | hw | hw <;> simp [startMount, start_bind, hw, hfound]
  let loading : Panel := { (p.found ⟨d, serial⟩).enter .loading with loads := p.loads + 1 }
  have hplace : loading.place = p.place := by simp [loading, place, found]
  refine ⟨serial, loading, ?_, stage_enter _ _, hplace, installed_enter _ _⟩
  rw [e, start_startFound hd serve hr]

omit hd in
theorem start_load (plugin : String) (cycle panel installation : Nat) (h : Host) :
    start (load serve ⟨plugin, cycle, .ofText text, panel, installation⟩) h =
      some (.ok ⟨cycle, .ok (.ofText text)⟩,
        h.recorded (.entered (.panel panel) plugin .load installation)) := rfl

theorem start_runInit (serial : Nat) :
    ∃ q h', start (runInit serve ⟨d, serial⟩) (p, h) = some (.ok ⟨⟩, q, h') ∧
      q.stage = p.stage ∧ q.component = p.component ∧ q.place = p.place ∧ h.Logged h' := by
  simp only [runInit, start_bind, start_current, hd.init]
  cases p.initFired with
  | true => exact ⟨p, h, rfl, rfl, rfl, rfl, [], by simp⟩
  | false => exact ⟨_, _, rfl, rfl, rfl, rfl, h.logged_record _⟩

theorem start_finishMount {o : LoadOutcome} {serial : Nat} (ha : p.awaits o = true)
    (ho : o.result = .ok (.ofText text)) (hs : p.surface = .main)
    (hi : p.installed = some ⟨d, serial⟩) :
    ∃ q h', start (finishMount serve o) (p, h) = some (.ok .mounted, q, h') ∧
      q.Has (.ofText text) ∧ q.place = p.place ∧ h.Logged h' := by
  obtain ⟨q, h', e, hstage, hcomponent, hplace, hl⟩ :=
    start_runInit hd serve (p := p.holding (.ofText text)) (h := h) serial
  have hq : q.Has (.ofText text) :=
    ⟨hstage.trans (stage_enter _ _), hcomponent.trans (component_enter _ _)⟩
  have hgiven : start (change fun p => { p with component := some (.ofText text) }) (p, h) =
    some (.ok ⟨⟩, { p with component := some (.ofText text) }, h) := rfl
  have hgoTo : start (goTo .mounted) ({ p with component := some (.ofText text) }, h) =
    some (.ok ⟨⟩, p.holding (.ofText text), h) := rfl
  refine ⟨q, h', ?_, hq, hplace.trans (by simp [place]), hl⟩
  simp only [finishMount, start_bind, start_current, ha, if_true, ho, hgiven, hgoTo]
  simp only [hs, hi, start_bind, e, start_current, start_pure, hq.1]

theorem start_mount (hr : p.Ready d h) :
    ∃ q h', start (mount serve) (p, h) = some (.ok .mounted, q, h') ∧
      q.Has (.ofText text) ∧ q.place = p.place ∧ h.Logged h' := by
  obtain ⟨serial, loading, e, hstage, hplace, hinst⟩ := start_startMount hd serve hr
  have hawaits : loading.awaits ⟨loading.loads, .ok (.ofText text)⟩ = true := by
    simp [awaits, hstage]
  obtain ⟨q, h', ef, hq, hqplace, hl⟩ := start_finishMount hd serve hawaits rfl
    ((congrArg Prod.fst hplace).trans hr.surface) hinst
    (h := h.recorded (.entered (.panel p.serial) p.name .load serial))
  refine ⟨q, h', ?_, hq, hqplace.trans hplace, (h.logged_record _).trans hl⟩
  simp only [mount, start_bind, e, start_onHost, start_load, Option.map_some, ef]

end

/-! ## Rendering -/

section
variable (serve : Server Host) {text : Context → Except String String}

theorem start_guarded_text (plugin : String) (phase : Phase) (c : Context) (h : Host) :
    start (guarded serve plugin phase ((Component.ofText text).render c)) h =
      some (.ok ((text c).mapError fun m => .ofFault plugin phase ⟨m, []⟩), h) := by
  simp only [Component.ofText]
  cases text c <;> rfl

/-- A text is shown as it is, and what is wrong with the settings stops the panel. -/
theorem start_render {p : Panel} (hp : p.Has (.ofText text)) (h : Host) :
    ∃ h', h.Logged h' ∧ start (render serve) (p, h) =
      match text ((h.sessionAt p.session).context p.session p.name) with
      | .ok body => some (.ok (.content p.name body), p, h')
      | .error message => start (stop serve (.ofFault p.name .render ⟨message, []⟩)) (p, h') := by
  let call : Happening :=
    .entered (.panel p.serial) p.name .render ((p.installed.map (·.serial)).getD 0)
  refine ⟨h.recorded call, h.logged_record call, ?_⟩
  have hrecord : start (Host.record call) h = some (.ok ⟨⟩, h.recorded call) := rfl
  have hcontext : start (Host.context p.session p.name) (h.recorded call) =
    some (.ok ((h.sessionAt p.session).context p.session p.name), h.recorded call) := rfl
  simp only [render, start_bind, start_current, stillView_eq_none_iff.mpr hp.1, renderComponent,
    hp.2, start_onHost, hrecord, call, hcontext, start_guarded_text, Option.map_some]
  cases text ((h.sessionAt p.session).context p.session p.name) with
  | ok body => rfl
  | error message =>
    have hfault : (Except.error message : Except String String).mapError
        (fun m => Failure.ofFault p.name .render ⟨m, []⟩) =
      .error (.ofFault p.name .render ⟨message, []⟩) := rfl
    simp only [hfault, stop, start_bind]

/-- A panel that stops shows what is wrong, whatever the handlers of the event do. -/
theorem stop_ends (p : Panel) (f : Failure) (h : Host) :
    Ends (stop serve f) (p, h) fun r t =>
      r = .ok (.errored p.name f.message reloadHint) ∧ t.1.stage = .errored := by
  have ht : Calm (runDestroy serve p) := runDestroy_within (Host.servesWithin_true serve) p
  have hf : Calm (report serve p.emptied f) :=
    report_within (Host.servesWithin_true serve) p.emptied f
  simp only [stop, teardown, fail, ends_bind, ends_onHost, ends_current, ends_change, ends_goTo,
    ends_pure]
  refine (ht.ends h).mono fun r h₁ hr => ?_
  obtain ⟨⟨⟩, rfl⟩ := hr
  refine (hf.ends h₁).mono fun r h₂ hr => ?_
  obtain ⟨⟨⟩, rfl⟩ := hr
  exact ⟨congrArg _ (errorView_stopped p.emptied f), stage_enter _ _⟩

end

/-! ## What is seen -/

section
variable {d : Definition Code} {text : Context → Except String String} (hd : d.IsText text)
  (serve : Server Host) {p : Panel} {h : Host} (hp : p.Shows d h)
include hd hp

theorem start_mount_of_shows :
    ∃ q h', start (mount serve) (p, h) = some (.ok .mounted, q, h') ∧
      q.Has (.ofText text) ∧ q.place = p.place ∧ h.Logged h' := by
  rcases hp with hr | ⟨c, hc, hhas⟩
  · exact start_mount hd serve hr
  · rw [hd.panel] at hc
    cases hc
    refine ⟨p, h, ?_, hhas, rfl, [], by simp⟩
    simp [mount, startMount, start_bind, start_map, hhas.1, Except.map]

/-- A plugin of this kind is rendered with the settings that its user has at the time. -/
theorem start_view :
    ∃ q h', q.name = p.name ∧ start (view serve) (p, h) =
      match text ((h.sessionAt p.session).context p.session p.name) with
      | .ok body => some (.ok (.content p.name body), q, h')
      | .error message =>
        start (stop serve (.ofFault p.name .render ⟨message, []⟩)) (q, h') := by
  obtain ⟨q, h₁, em, hq, hplace, hl⟩ := start_mount_of_shows hd serve hp
  obtain ⟨h', -, er⟩ := start_render serve hq h₁
  simp only [place, Prod.mk.injEq] at hplace
  obtain ⟨-, hsession, hname⟩ := hplace
  refine ⟨q, h', hname, ?_⟩
  rw [hl.sessionAt, hsession, hname] at er
  rw [view, start_bind, em, ← er]

/-- Content is seen exactly when there is a text to show. -/
theorem view_content_iff (body : String) :
    (∃ q h', start (view serve) (p, h) = some (.ok (.content p.name body), q, h')) ↔
      text ((h.sessionAt p.session).context p.session p.name) = .ok body := by
  obtain ⟨q, h', hname, e⟩ := start_view hd serve hp
  rw [e]
  cases text ((h.sessionAt p.session).context p.session p.name) with
  | ok shown =>
    constructor
    · rintro ⟨_, _, ⟨⟩⟩
      rfl
    · rintro ⟨⟩
      exact ⟨q, h', rfl⟩
  | error message =>
    refine iff_of_false ?_ nofun
    rintro ⟨_, _, ev⟩
    obtain ⟨hv, -⟩ := stop_ends serve q _ h' _ _ ev
    cases hv

/-- Otherwise the panel shows what is wrong with the settings, and stops. -/
theorem view_ends_of_error {message : String}
    (ht : text ((h.sessionAt p.session).context p.session p.name) = .error message) :
    Ends (view serve) (p, h) fun r t =>
      r = .ok (.errored p.name message reloadHint) ∧ t.1.stage = .errored := by
  obtain ⟨q, h', hname, e⟩ := start_view hd serve hp
  rw [ht] at e
  rw [← hname]
  intro r t ev
  exact stop_ends serve q _ h' r t (e ▸ ev)

end

end Panel
end Plugboard
