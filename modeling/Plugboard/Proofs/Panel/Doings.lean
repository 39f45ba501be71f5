import Plugboard.Proofs.Panel.Containment
import Plugboard.Proofs.Panel.Gate
import Plugboard.Proofs.Registrations

/-!
What a panel does by itself: it looks at what decides about it, runs loads, takes their outcomes,
calls the plugin inside the boundary, and tells the bus. Whatever else happens during a call is the
doing of the plugin, of handlers, and of what a loader or an init hook does before it hands over the
rest of its work. `Turned` says what becomes of the panel when the server leaves it alone; what is
here holds with any server, and keeps the runs apart so that a proof can look into them.

* `Doing`: the things that a panel can do.
* `Opens`, `Loads`, `Finishes`, `Syncs`, `Renders` and the like: every way that an operation can go,
  with the runs of plugin code and of events that it is made of, and with what the panel does on it.
* `Acts`: the same for a call. `call_acts`: no call goes any other way.
* `Acts.sound`: every call leaves a sound panel sound.
* `Fixed`: what a panel never changes of itself. `Acts.keeps`: no call does.
-/
namespace Plugboard

open Run

/-- How the gate of a panel decides. -/
inductive Verdict
  | missing
  | shut
  | letIn (l : PendingLoad)

inductive Doing
  /-- The panel has looked, and goes where the verdict sends it. -/
  | looked (v : Verdict)
  /-- A load of the panel has come to an outcome. -/
  | loaded (l : PendingLoad) (o : LoadOutcome)
  /-- The panel takes an outcome that it has waited for. -/
  | took (o : LoadOutcome)
  /-- A hook or the component was called inside the boundary. -/
  | called (phase : Phase) (result : Except Failure String)
  /-- The panel has told the bus. -/
  | emitted (e : Event)

namespace Panel

/-! ## Every way that an operation can go -/

section
variable (serve : Server Host)

/-- A failure is logged, and the bus is told of it. -/
inductive Tells (p : Panel) (f : Failure) (h : Host) : Event → Host → Prop
  | told {n h'} (run : start (Host.emit (Code.run serve) (.error p.name f.payload))
      (h.recorded (.logged .error f.display)) = some (.ok n, h')) :
      Tells p f h (.error p.name f.payload) h'

/-- A hook runs inside the boundary. -/
inductive Attends (p : Panel) (phase : Phase) (hook : Code) (h : Host) : List Doing → Host → Prop
  | well {text h'} (run : start (guarded serve p.name phase hook) h = some (.ok (.ok text), h')) :
      Attends p phase hook h [.called phase (.ok text)] h'
  | badly {f h₁ e h'}
      (run : start (guarded serve p.name phase hook) h = some (.ok (.error f), h₁))
      (ht : Tells serve p f h₁ e h') :
      Attends p phase hook h [.called phase (.error f), .emitted e] h'

/-- The destroy hook is called, if there is one, for the component that the panel holds. -/
inductive Parts (p : Panel) (h : Host) : List Doing → Host → Prop
  | still (hn : ∀ c i hook, p.component = some c → p.surface = .main → p.installed = some i →
      i.definition.destroy ≠ some hook) : Parts p h [] h
  | called {c i hook ds h'} (hc : p.component = some c) (hs : p.surface = .main)
      (hi : p.installed = some i) (hd : i.definition.destroy = some hook)
      (ha : Attends serve p .destroy hook
        (h.recorded (.entered (.panel p.serial) p.name .destroy i.serial)) ds h') :
      Parts p h ds h'

/-- The init hook is called, unless it was called before or is missing. -/
inductive Greets (i : Installed Code) (p : Panel) (h : Host) : List Doing → Host → Prop
  | still (hn : p.initFired = true ∨ i.definition.init = none) : Greets i p h [] h
  | unwound {hook x h'} (hf : p.initFired = false) (hi : i.definition.init = some hook)
      (first : start ((hook ((h.sessionAt p.session).context p.session p.name)).begin serve)
        (h.recorded (.entered (.panel p.serial) p.name .init i.serial)) = some (.error x, h')) :
      Greets i p h [] h'
  | called {hook rest h₁ ds h'} (hf : p.initFired = false) (hi : i.definition.init = some hook)
      (first : start ((hook ((h.sessionAt p.session).context p.session p.name)).begin serve)
        (h.recorded (.entered (.panel p.serial) p.name .init i.serial)) = some (.ok rest, h₁))
      (ha : Attends serve p .init rest h₁ ds h') : Greets i p h ds h'

/-- A load is run. A loader that panics before it hands over the rest leaves no outcome. -/
inductive Loads (l : PendingLoad) (h : Host) :
    Except Panic LoadOutcome → List Doing → Host → Prop
  | unwound {x h'} (first : start (l.component.load.begin serve)
        (h.recorded (.entered (.panel l.panel) l.plugin .load l.installation)) =
          some (.error x, h')) : Loads l h (.error x) [] h'
  | run {rest h₁ result h'} (first : start (l.component.load.begin serve)
        (h.recorded (.entered (.panel l.panel) l.plugin .load l.installation)) =
          some (.ok rest, h₁))
      (run : start (guarded serve l.plugin .load rest) h₁ = some (.ok result, h')) :
      Loads l h (.ok ⟨l.cycle, result.map fun _ => l.component⟩)
        [.loaded l ⟨l.cycle, result.map fun _ => l.component⟩] h'

/-- The first half of mounting. It calls nobody. -/
inductive Opens (p : Panel) (h : Host) : Option PendingLoad → List Doing → Panel → Host → Prop
  | past (hp : ¬ p.Waits) : Opens p h none [] p h
  | missing (hp : p.Waits) (hr : h.registry.get? p.name = none) :
      Opens p h none [.looked .missing] (p.enter .notFound)
        (h.recorded (.logged .warn ("Plugin '" ++ p.name ++ "' is not registered")))
  | shut {i} (hp : p.Waits) (hr : h.registry.get? p.name = some i) (hs : p.surface = .main)
      (he : (h.sessionAt p.session).isEnabled p.name = false) :
      Opens p h none [.looked .shut] ((p.found i).enter .disabled) h
  | pageless {i} (hp : p.Waits) (hr : h.registry.get? p.name = some i)
      (hs : p.surface = .settings) (hc : i.definition.settings = none) :
      Opens p h none [.looked .missing] ((p.found i).enter .notFound) h
  | letIn {i c l} (hp : p.Waits) (hr : h.registry.get? p.name = some i)
      (hc : p.surface.component i.definition = some c)
      (he : p.surface = .main → (h.sessionAt p.session).isEnabled p.name = true)
      (hl : l = ⟨p.name, p.loads + 1, c, p.serial, i.serial⟩) :
      Opens p h (some l) [.looked (.letIn l)]
        { (p.found i).enter .loading with loads := l.cycle } h

/-- The second half of mounting. -/
inductive Finishes (o : LoadOutcome) (p : Panel) (h : Host) : List Doing → Panel → Host → Prop
  | dropped (ha : p.awaits o = false) : Finishes o p h [] p h
  | failed {f e h'} (ha : p.awaits o = true) (ho : o.result = .error f)
      (ht : Tells serve p f h e h') :
      Finishes o p h [.took o, .emitted e] (p.stopped f) h'
  | plain {c} (ha : p.awaits o = true) (ho : o.result = .ok c)
      (hn : p.surface = .settings ∨ p.installed = none) :
      Finishes o p h [.took o] (p.holding c) h
  | hooked {c i ds h'} (ha : p.awaits o = true) (ho : o.result = .ok c)
      (hs : p.surface = .main) (hi : p.installed = some i)
      (hg : Greets serve i (p.holding c) h ds h') :
      Finishes o p h (.took o :: ds) { p.holding c with initFired := true } h'

/-- Mounting in one go. -/
inductive Mounts (p : Panel) (h : Host) : List Doing → Panel → Host → Prop
  | short {ds p' h'} (hm : Opens p h none ds p' h') : Mounts p h ds p' h'
  | unwound {l ds ds' p' h₁ x h'} (hm : Opens p h (some l) ds p' h₁)
      (hl : Loads serve l h₁ (.error x) ds' h') : Mounts p h (ds ++ ds') p' h'
  | whole {l o ds ds' ds'' p₁ p' h₁ h₂ h'} (hm : Opens p h (some l) ds p₁ h₁)
      (hl : Loads serve l h₁ (.ok o) ds' h₂) (hf : Finishes serve o p₁ h₂ ds'' p' h') :
      Mounts p h (ds ++ (ds' ++ ds'')) p' h'

/-- A panel that is mounted stays so or is left, one that waits is mounted, and one that has stopped
stays as it is. -/
inductive Syncs (p : Panel) (h : Host) : List Doing → Panel → Host → Prop
  | kept (hw : ¬ p.Waits) (hk : p.stage = .mounted → h.registry.contains p.name = true ∧
        (p.surface = .main → (h.sessionAt p.session).isEnabled p.name = true)) :
      Syncs p h [] p (p.unmarked h)
  | missing {ds h'} (hp : p.stage = .mounted) (hr : h.registry.contains p.name = false)
      (hl : Parts serve p (p.unmarked h) ds h') :
      Syncs p h (.looked .missing :: ds)
        (p.vacated.enter .notFound) h'
  | shut {ds h'} (hp : p.stage = .mounted) (hr : h.registry.contains p.name = true)
      (hs : p.surface = .main) (he : (h.sessionAt p.session).isEnabled p.name = false)
      (hl : Parts serve p (p.unmarked h) ds h') :
      Syncs p h (.looked .shut :: ds)
        (p.vacated.enter .disabled) h'
  | mounted {ds p' h'} (hw : p.Waits) (hm : Mounts serve p (p.unmarked h) ds p' h') :
      Syncs p h ds p' h'

/-- The component runs inside the boundary. When it fails it is taken away before the panel tells
of its failure. -/
inductive Renders (p : Panel) (h : Host) : List Doing → Panel → Host → Prop
  | still (hp : p.stage ≠ .mounted) : Renders p h [] p h
  | blank (hp : p.stage = .mounted) (hc : p.component = none) : Renders p h [] p h
  | shown {c body h'} (hp : p.stage = .mounted) (hc : p.component = some c)
      (run : start (guarded serve p.name .render
          (c.render ((h.sessionAt p.session).context p.session p.name)))
        (h.recorded (.entered (.panel p.serial) p.name .render
          ((p.installed.map (·.serial)).getD 0))) = some (.ok (.ok body), h')) :
      Renders p h [.called .render (.ok body)] p h'
  | failed {c f ds e h₁ h₂ h'} (hp : p.stage = .mounted) (hc : p.component = some c)
      (run : start (guarded serve p.name .render
          (c.render ((h.sessionAt p.session).context p.session p.name)))
        (h.recorded (.entered (.panel p.serial) p.name .render
          ((p.installed.map (·.serial)).getD 0))) = some (.ok (.error f), h₁))
      (hl : Parts serve p h₁ ds h₂) (ht : Tells serve p.emptied f h₂ e h') :
      Renders p h (.called .render (.error f) :: (ds ++ [.emitted e])) (p.emptied.stopped f) h'

/-- What is shown when the panel has done this to render. -/
def shown (p : Panel) : List Doing → View
  | .called .render (.ok body) :: _ => .content p.name body
  | .called .render (.error f) :: _ => .errored p.name f.message reloadHint
  | _ => p.stillView.getD .resolving

/-- Every way that a call can go. -/
inductive Acts (p : Panel) (h : Host) : Call → List Doing → Panel → Host → Prop
  | opened {o ds p' h'} (hm : Opens p h o ds p' h') : Acts p h .startMount ds p' h'
  | loaded {l r ds h'} (hl : Loads serve l h r ds h') : Acts p h (.load l) ds p h'
  | finished {o ds p' h'} (hf : Finishes serve o p h ds p' h') : Acts p h (.finishMount o) ds p' h'
  | mounted {ds p' h'} (hm : Mounts serve p h ds p' h') : Acts p h .mount ds p' h'
  | synced {ds p' h'} (hm : Syncs serve p h ds p' h') : Acts p h .sync ds p' h'
  | rendered {ds p' h'} (hm : Renders serve p h ds p' h') : Acts p h .render ds p' h'
  | dropped {ds h₁ h'} (hl : Parts serve p h ds h₁)
      (run : start (p.subscriptions.forM fun s => do let _ ← Host.unsubscribe s) h₁ =
        some (.ok ⟨⟩, h')) : Acts p h .drop ds p h'

end

/-! ## No other way -/

section
variable {serve : Server Host}

theorem report_tells (p : Panel) (f : Failure) (h : Host) :
    Ends (report serve p f) h fun r h' =>
      r = .ok ⟨⟩ ∧ Tells serve p f h (.error p.name f.payload) h' := by
  have hc : Calm (Host.emit (Code.run serve) (.error p.name f.payload)) :=
    Host.emit_within (run_within (Host.servesWithin_true serve)) _
  rw [report, Host.log, Host.record, ends_bind, ends_modify]
  dsimp only
  rw [ends_bind]
  intro r h' run
  obtain ⟨n, rfl⟩ := hc.ends _ _ _ run
  exact (ends_pure _ _ _).mpr ⟨rfl, .told run⟩

/-- What is done with a hook that runs inside the boundary. -/
theorem attend_ends (p : Panel) (phase : Phase) (hook : Code) (h : Host) :
    Ends (do
      match ← guarded serve p.name phase hook with
      | .ok _ => pure ()
      | .error f => report serve p f) h fun r h' =>
        r = .ok ⟨⟩ ∧ ∃ ds, Attends serve p phase hook h ds h' := by
  have hc : Calm (guarded serve p.name phase hook) :=
    guarded_within (Host.servesWithin_true serve) _ _ _
  rw [ends_bind]
  intro r h₁ run
  obtain ⟨x, rfl⟩ := hc.ends _ _ _ run
  cases x with
  | ok text => exact (ends_pure _ _ _).mpr ⟨rfl, _, .well run⟩
  | error f =>
    refine (report_tells p f h₁).mono fun r h' hr => ?_
    obtain ⟨rfl, ht⟩ := hr
    exact ⟨rfl, _, .badly run ht⟩

theorem runDestroy_parts (p : Panel) (h : Host) :
    Ends (runDestroy serve p) h fun r h' => r = .ok ⟨⟩ ∧ ∃ ds, Parts serve p h ds h' := by
  unfold runDestroy
  split
  next c i hcomponent hsurface hinst =>
    cases hd : i.definition.destroy with
    | none =>
      refine (ends_pure _ _ _).mpr ⟨rfl, _, .still fun _ j hook _ _ hj => ?_⟩
      obtain rfl : j = i := Option.some.inj (hj.symm.trans hinst)
      rw [hd]
      nofun
    | some hook =>
      dsimp only
      rw [ends_bind, Host.record, ends_modify]
      refine (attend_ends p .destroy hook _).mono fun r h' hr => ?_
      obtain ⟨rfl, ds, ha⟩ := hr
      exact ⟨rfl, ds, .called hcomponent hsurface hinst hd ha⟩
  next hno =>
    refine (ends_pure _ _ _).mpr ⟨rfl, _, .still fun c i hook hc hs hi => ?_⟩
    exact (hno c i hc hs hi).elim

theorem teardown_parts (p : Panel) (h : Host) :
    Ends (teardown serve) (p, h) fun r t => r = .ok ⟨⟩ ∧ t.1 = p.emptied ∧
      ∃ ds, Parts serve p h ds t.2 := by
  simp only [teardown, ends_bind, ends_current, ends_change, ends_onHost]
  exact (runDestroy_parts p h).mono fun r h' hr => ⟨hr.1, trivial, hr.2⟩

theorem load_loads (l : PendingLoad) (h : Host) :
    Ends (load serve l) h fun r h' => ∃ ds, Loads serve l h r ds h' := by
  have hcalm : ∀ rest, Calm (guarded serve l.plugin .load rest) := fun rest =>
    guarded_within (Host.servesWithin_true serve) _ _ rest
  rw [load, Host.record, ends_bind, ends_modify]
  dsimp only
  rw [guardedRest, ends_bind, ends_bind]
  intro r h₁ first
  cases r with
  | error x => exact ⟨_, .unwound first⟩
  | ok rest =>
    dsimp only
    intro r h' run
    obtain ⟨result, rfl⟩ := (hcalm rest).ends _ _ _ run
    exact (ends_pure _ _ _).mpr ⟨_, .run first run⟩

theorem runInit_greets (i : Installed Code) (p : Panel) (h : Host) :
    Ends (runInit serve i) (p, h) fun _ t =>
      t.1 = { p with initFired := true } ∧ ∃ ds, Greets serve i p h ds t.2 := by
  rw [runInit, ends_bind, ends_current]
  dsimp only
  cases hf : p.initFired with
  | true =>
    refine (ends_pure _ _ _).mpr ⟨?_, _, .still (.inl hf)⟩
    rw [← hf]
  | false =>
    simp only [Bool.not_false, ↓reduceIte, ends_bind, ends_change]
    cases hi : i.definition.init with
    | none => exact (ends_pure _ _ _).mpr ⟨rfl, _, .still (.inr hi)⟩
    | some hook =>
      dsimp only
      rw [ends_onHost, ends_bind, Host.record, ends_modify]
      dsimp only
      have hcontext : ∀ g : Host, start (Host.context p.session p.name) g =
        some (.ok ((g.sessionAt p.session).context p.session p.name), g) := fun _ => rfl
      rw [ends_bind, ends_of_start (hcontext _)]
      dsimp only
      rw [guardedRest, bind_assoc, ends_bind]
      intro r h₁ first
      cases r with
      | error x => exact ⟨rfl, _, .unwound hf hi first⟩
      | ok rest =>
        refine (attend_ends p .init rest h₁).mono fun r h' hr => ?_
        obtain ⟨-, ds, ha⟩ := hr
        exact ⟨rfl, ds, .called hf hi first ha⟩

theorem startFound_opens {i : Installed Code} (p : Panel) (h : Host) (hw : p.Waits)
    (hr : h.registry.get? p.name = some i) :
    Ends (startFound serve i) (p, h) fun r t =>
      ∃ o ds, r = .ok o ∧ Opens p h o ds t.1 t.2 := by
  have hfound : ({ p with installed := some i } : Panel) = p.found i := rfl
  simp only [startFound, isEnabled, Host.session, startLoad, ends_bind, ends_change, ends_current,
    hfound]
  cases hs : p.surface with
  | main =>
    simp only [ends_bind, ends_onHost, ends_get, ends_pure]
    cases he : (h.sessionAt p.session).isEnabled p.name with
    | false =>
      simp only [Bool.false_eq_true, ↓reduceIte, ends_bind, ends_goTo, ends_pure]
      exact ⟨none, _, rfl, .shut hw hr hs he⟩
    | true =>
      simp only [↓reduceIte, ends_bind, ends_goTo]
      cases hc : i.definition.panel with
      | none =>
        -- a definition without a component would not have passed its check
        have hpanel := (Definition.check_eq_ok.mp (h.registry.checked _ i hr).2).panel
        rw [hc] at hpanel
        cases hpanel
      | some c =>
        simp only [ends_bind, ends_change, ends_current, ends_pure]
        refine ⟨_, _, rfl, .letIn hw hr (c := c) ?_ (fun _ => he) ?_⟩
        · rw [hs]
          exact hc
        · simp [found]
  | settings =>
    dsimp only
    cases hc : i.definition.settings with
    | none =>
      simp only [ends_bind, ends_goTo, ends_pure]
      exact ⟨none, _, rfl, .pageless hw hr hs hc⟩
    | some c =>
      simp only [ends_bind, ends_goTo, ends_change, ends_current, ends_pure]
      refine ⟨_, _, rfl, .letIn hw hr (c := c) ?_ (fun hm => ?_) ?_⟩
      · rw [hs]
        exact hc
      · cases hs.symm.trans hm
      · simp [found]

theorem startMount_opens (p : Panel) (h : Host) :
    Ends (startMount serve) (p, h) fun r t =>
      ∃ o ds, r = .ok o ∧ Opens p h o ds t.1 t.2 := by
  rw [startMount, ends_bind, ends_current]
  dsimp only
  by_cases hw : p.Waits
  · -- the three stages of waiting go the same way
    rcases hw with hstage | hstage | hstage
    all_goals
      have hw : p.Waits := by simp [Waits, hstage]
      rw [hstage]
      dsimp only
      rw [ends_bind, ends_get]
      cases hr : h.registry.get? p.name with
      | none =>
        simp only [hr, Host.log, Host.record, ends_bind, ends_onHost, ends_modify, ends_goTo,
          ends_pure]
        exact ⟨none, _, rfl, .missing hw hr⟩
      | some i =>
        simp only [hr]
        exact startFound_opens p h hw hr
  · cases hstage : p.stage with
    | mounted | errored | notFound => exact (ends_pure _ _ _).mpr ⟨none, _, rfl, .past hw⟩
    | resolving | disabled | loading => exact absurd (by simp [Waits, hstage]) hw

theorem fail_tells (f : Failure) (p : Panel) (h : Host) :
    Ends (fail serve f) (p, h) fun r t => r = .ok ⟨⟩ ∧ t.1 = p.stopped f ∧
      Tells serve p f h (.error p.name f.payload) t.2 := by
  simp only [fail, ends_bind, ends_current, ends_onHost]
  refine (report_tells p f h).mono fun r h' hr => ?_
  obtain ⟨rfl, ht⟩ := hr
  exact (ends_change _ _ _).mpr ((ends_goTo _ _ _).mpr ⟨rfl, rfl, ht⟩)

theorem finishMount_finishes (o : LoadOutcome) (p : Panel) (h : Host) :
    Ends (finishMount serve o) (p, h) fun _ t => ∃ ds, Finishes serve o p h ds t.1 t.2 := by
  simp only [finishMount, ends_bind, ends_current]
  cases ha : p.awaits o with
  | false =>
    simp only [Bool.false_eq_true, ↓reduceIte, ends_bind, ends_pure, ends_current]
    exact ⟨_, .dropped ha⟩
  | true =>
    simp only [↓reduceIte]
    cases ho : o.result with
    | error f =>
      dsimp only
      rw [ends_bind]
      refine (fail_tells f p h).mono fun r t hr => ?_
      obtain ⟨rfl, hpanel, ht⟩ := hr
      simp only [ends_bind, ends_current, ends_pure, hpanel]
      exact ⟨_, .failed ha ho ht⟩
    | ok c =>
      have hholding : ({ p with component := some c } : Panel).enter .mounted = p.holding c := rfl
      simp only [ends_bind, ends_change, ends_goTo]
      rw [hholding]
      cases hs : p.surface with
      | settings =>
        simp only [ends_bind, ends_current, ends_pure]
        exact ⟨_, .plain ha ho (.inl hs)⟩
      | main =>
        cases hi : p.installed with
        | none =>
          simp only [ends_bind, ends_current, ends_pure]
          exact ⟨_, .plain ha ho (.inr hi)⟩
        | some i =>
          dsimp only
          rw [ends_bind]
          refine (runInit_greets i (p.holding c) h).mono fun r t hr => ?_
          obtain ⟨hpanel, ds, hg⟩ := hr
          have hf : Finishes serve o p h (.took o :: ds) t.1 t.2 :=
            hpanel ▸ .hooked ha ho hs hi hg
          cases r with
          | error x => exact ⟨_, hf⟩
          | ok _ =>
            simp only [ends_bind, ends_current, ends_pure]
            exact ⟨_, hf⟩

theorem mount_mounts (p : Panel) (h : Host) :
    Ends (mount serve) (p, h) fun _ t => ∃ ds, Mounts serve p h ds t.1 t.2 := by
  rw [mount, ends_bind]
  refine (startMount_opens p h).mono fun r t hr => ?_
  obtain ⟨o, ds, rfl, hm⟩ := hr
  cases o with
  | none =>
    simp only [ends_bind, ends_current, ends_pure]
    exact ⟨ds, .short hm⟩
  | some l =>
    dsimp only
    rw [ends_bind, ends_onHost]
    refine (load_loads l t.2).mono fun r h₂ hr => ?_
    obtain ⟨ds', hl⟩ := hr
    cases r with
    | error x => exact ⟨_, .unwound hm hl⟩
    | ok o =>
      refine (finishMount_finishes o t.1 h₂).mono fun r u hr => ?_
      obtain ⟨ds'', hf⟩ := hr
      exact ⟨_, .whole hm hl hf⟩

theorem leave_parts (next : Stage) (p : Panel) (h : Host) :
    Ends (leave serve next) (p, h) fun r t => r = .ok ⟨⟩ ∧
      t.1 = p.vacated.enter next ∧
      ∃ ds, Parts serve p h ds t.2 := by
  rw [leave, ends_bind]
  refine (teardown_parts p h).mono fun r t hr => ?_
  obtain ⟨rfl, hpanel, hl⟩ := hr
  rw [ends_bind, ends_change, ends_goTo, hpanel]
  exact ⟨rfl, rfl, hl⟩

theorem sync_syncs (p : Panel) (h : Host) :
    Ends (sync serve) (p, h) fun _ t => ∃ ds, Syncs serve p h ds t.1 t.2 := by
  have hwait : p.Waits → Ends (mount serve) (p, p.unmarked h) fun _ t =>
      ∃ ds, Syncs serve p h ds t.1 t.2 := fun hw =>
    (mount_mounts p _).mono fun _ _ hm => hm.imp fun _ hm => .mounted hw hm
  simp only [sync, unmark, ends_bind, ends_current, ends_onHost, ends_modify]
  cases hstage : p.stage with
  | resolving => exact hwait (.inl hstage)
  | disabled => exact hwait (.inr (.inl hstage))
  | loading => exact hwait (.inr (.inr hstage))
  | notFound | errored =>
    exact (ends_pure _ _ _).mpr ⟨_, .kept (by simp [Waits, hstage]) (by simp [hstage])⟩
  | mounted =>
    have hw : ¬ p.Waits := by simp [Waits, hstage]
    have hleave : ∀ next : Stage, ∀ v,
        (∀ ds h', Parts serve p (p.unmarked h) ds h' → Syncs serve p h (.looked v :: ds)
          (p.vacated.enter next) h') →
        Ends (leave serve next >>= fun _ => return (← current).stage) (p, p.unmarked h)
          fun _ t => ∃ ds, Syncs serve p h ds t.1 t.2 := by
      intro next v hv
      rw [ends_bind]
      refine (leave_parts next p _).mono fun r t hr => ?_
      obtain ⟨rfl, hpanel, ds, hl⟩ := hr
      simp only [ends_bind, ends_current, ends_pure, hpanel]
      exact ⟨_, hv _ _ hl⟩
    have hstay : h.registry.contains p.name = true →
        (p.surface = .main → (h.sessionAt p.session).isEnabled p.name = true) →
        Ends (return (← current).stage) (p, p.unmarked h)
          fun _ t => ∃ ds, Syncs serve p h ds t.1 t.2 := by
      intro hc he
      simp only [ends_bind, ends_current, ends_pure]
      exact ⟨_, .kept hw fun _ => ⟨hc, he⟩⟩
    dsimp only
    rw [ends_bind, ends_get]
    dsimp only
    split
    next hc =>
      have hr : h.registry.contains p.name = false := by simpa using hc
      exact hleave _ _ fun _ _ => .missing hstage hr
    next hc =>
      have hr : h.registry.contains p.name = true := by simpa using hc
      split
      next hs =>
        rw [ends_bind, ends_onHost]
        simp only [isEnabled, Host.session, ends_bind, ends_get, ends_pure]
        split
        next he =>
          exact hleave _ _ fun _ _ => .shut hstage hr hs ((Bool.not_eq_true' _).mp he)
        next he =>
          refine hstay hr fun _ => ?_
          rw [Bool.not_eq_true', Bool.not_eq_false] at he
          exact he
      next hs => exact hstay hr fun hmain => absurd hmain hs

theorem renderComponent_renders (p : Panel) (h : Host) (hp : p.stage = .mounted) :
    Ends (renderComponent serve) (p, h) fun r t =>
      ∃ ds, Renders serve p h ds t.1 t.2 ∧ r = .ok (p.shown ds) := by
  have hcontext : ∀ g : Host, start (Host.context p.session p.name) g =
    some (.ok ((g.sessionAt p.session).context p.session p.name), g) := fun _ => rfl
  have hcalm : ∀ code, Calm (guarded serve p.name .render code) := fun code =>
    guarded_within (Host.servesWithin_true serve) _ _ code
  have hblank : p.shown [] = .resolving := by simp [shown, stillView_eq_none_iff.mpr hp]
  rw [renderComponent, ends_bind, ends_current]
  cases hc : p.component with
  | none =>
    simp only [hc]
    exact (ends_pure _ _ _).mpr ⟨_, .blank hp hc, congrArg _ hblank.symm⟩
  | some c =>
    simp only [hc]
    rw [ends_bind, ends_onHost, ends_bind, Host.record, ends_modify]
    dsimp only
    rw [ends_bind, ends_of_start (hcontext _)]
    intro r h₁ run
    obtain ⟨x, rfl⟩ := (hcalm _).ends _ _ _ run
    cases x with
    | ok body => exact (ends_pure _ _ _).mpr ⟨_, .shown hp hc run, rfl⟩
    | error f =>
      dsimp only
      rw [ends_bind]
      refine (teardown_parts p h₁).mono fun r t hr => ?_
      obtain ⟨rfl, hpanel, ds, hl⟩ := hr
      dsimp only
      rw [ends_bind]
      refine (fail_tells f t.1 t.2).mono fun r u hr => ?_
      obtain ⟨rfl, hstopped, ht⟩ := hr
      rw [hpanel] at hstopped ht
      simp only [ends_bind, ends_current, ends_pure, hstopped, errorView_stopped]
      exact ⟨_, .failed hp hc run hl ht, rfl⟩

theorem render_renders (p : Panel) (h : Host) :
    Ends (render serve) (p, h) fun r t =>
      ∃ ds, Renders serve p h ds t.1 t.2 ∧ r = .ok (p.shown ds) := by
  rw [render, ends_bind, ends_current]
  cases hv : p.stillView with
  | none =>
    simp only [hv]
    exact renderComponent_renders p h (stillView_eq_none_iff.mp hv)
  | some v =>
    have hp : p.stage ≠ .mounted := fun hp => by cases hv.symm.trans (stillView_eq_none_iff.mpr hp)
    have hshown : p.shown [] = v := by simp [shown, hv]
    simp only [hv]
    exact (ends_pure _ _ _).mpr ⟨_, .still hp, congrArg _ hshown.symm⟩

theorem drop_parts (p : Panel) (h : Host) :
    Ends (drop serve p) h fun _ h' => ∃ ds, Acts serve p h .drop ds p h' := by
  have hc : Calm (p.subscriptions.forM fun s => do let _ ← Host.unsubscribe s) :=
    unsubscribeAll_within p.subscriptions
  rw [drop, ends_bind]
  refine (runDestroy_parts p h).mono fun _ h₁ hr => ?_
  obtain ⟨rfl, ds, hl⟩ := hr
  intro _ h' run
  obtain ⟨⟨⟩, rfl⟩ := hc.ends _ _ _ run
  exact ⟨ds, .dropped hl run⟩

theorem call_acts (call : Call) (p : Panel) (h : Host) :
    Ends (call.run serve) (p, h) fun _ t => ∃ ds, Acts serve p h call ds t.1 t.2 := by
  cases call with
  | startMount =>
    exact ends_discard ((startMount_opens p h).mono fun _ _ ⟨_, ds, _, hm⟩ => ⟨ds, .opened hm⟩)
  | load l =>
    refine ends_discard ((ends_onHost _ _ _).mpr ?_)
    exact (load_loads l h).mono fun _ _ ⟨ds, hl⟩ => ⟨ds, .loaded hl⟩
  | finishMount o =>
    exact ends_discard ((finishMount_finishes o p h).mono fun _ _ ⟨ds, hf⟩ => ⟨ds, .finished hf⟩)
  | mount => exact ends_discard ((mount_mounts p h).mono fun _ _ ⟨ds, hm⟩ => ⟨ds, .mounted hm⟩)
  | sync => exact ends_discard ((sync_syncs p h).mono fun _ _ ⟨ds, hm⟩ => ⟨ds, .synced hm⟩)
  | render =>
    exact ends_discard ((render_renders p h).mono fun _ _ ⟨ds, hm, _⟩ => ⟨ds, .rendered hm⟩)
  | drop =>
    rw [Call.run, ends_bind, ends_current]
    exact (ends_onHost _ _ _).mpr (drop_parts p h)

end

/-! ## What a panel never changes -/

/-- Depends on nothing that a panel changes of itself. -/
def Fixed {α : Type} (f : Panel → α) : Prop :=
  ∀ p stage transitions installed component failure initFired loads, f { p with
    stage := stage, transitions := transitions, installed := installed, component := component,
    failure := failure, initFired := initFired, loads := loads } = f p

section
variable {α : Type} {f : Panel → α} (hf : Fixed f) (p : Panel)
include hf

theorem Fixed.enter (next : Stage) : f (p.enter next) = f p :=
  enter_keeps f p next fun stage transitions =>
    hf p stage transitions p.installed p.component p.failure p.initFired p.loads

theorem Fixed.holding (c : Component Code) : f (p.holding c) = f p :=
  (hf.enter _ _).trans (hf p _ _ _ (some c) _ _ _)

theorem Fixed.stopped (e : Failure) : f (p.stopped e) = f p :=
  (hf.enter _ _).trans (hf p _ _ _ _ (some e) _ _)

end

section
variable {serve : Server Host} {p p' : Panel} {h h' : Host} {ds : List Doing} {α : Type}
  {f : Panel → α} (hf : Fixed f)
include hf

theorem Opens.keeps {o : Option PendingLoad} (hm : Opens p h o ds p' h') : f p' = f p := by
  have hfound : ∀ i, f (p.found i) = f p := fun i => hf p _ _ (some i) _ _ _ _
  cases hm with
  | past => rfl
  | missing => exact hf.enter p _
  | @shut i | @pageless i => exact (hf.enter (p.found i) _).trans (hfound i)
  | @letIn i _ l =>
    exact ((hf ((p.found i).enter .loading) _ _ _ _ _ _ l.cycle).trans
      (hf.enter (p.found i) _)).trans (hfound i)

theorem Finishes.keeps {o : LoadOutcome} (hm : Finishes serve o p h ds p' h') : f p' = f p := by
  cases hm with
  | dropped => rfl
  | failed => exact hf.stopped p _
  | plain => exact hf.holding p _
  | hooked => exact (hf (p.holding _) _ _ _ _ _ true _).trans (hf.holding p _)

theorem Mounts.keeps (hm : Mounts serve p h ds p' h') : f p' = f p := by
  cases hm with
  | short hm | unwound hm => exact hm.keeps hf
  | whole hm _ hfin => exact (hfin.keeps hf).trans (hm.keeps hf)

theorem Syncs.keeps (hm : Syncs serve p h ds p' h') : f p' = f p := by
  have hleft : ∀ next : Stage,
      f (p.vacated.enter next) = f p := fun next =>
    (hf.enter _ next).trans (hf p _ _ _ none _ false _)
  cases hm with
  | kept => rfl
  | missing | shut => exact hleft _
  | mounted _ hm => exact hm.keeps hf

theorem Acts.keeps {call : Call} (ha : Acts serve p h call ds p' h') : f p' = f p := by
  cases ha with
  | opened hm => exact hm.keeps hf
  | finished hm => exact hm.keeps hf
  | mounted hm => exact hm.keeps hf
  | synced hm => exact hm.keeps hf
  | rendered hm =>
    cases hm with
    | still | blank | shown => rfl
    | failed => exact (hf.stopped p.emptied _).trans (hf p _ _ _ none _ _ _)
  | loaded | dropped => rfl

end

theorem fixed_place : Fixed place := fun _ _ _ _ _ _ _ _ => rfl

theorem fixed_name : Fixed name := fun _ _ _ _ _ _ _ _ => rfl

/-! ## What a panel holds, and where -/

section
variable {serve : Server Host} {p p' : Panel} {h h' : Host} {ds : List Doing} (hp : p.Sound)
include hp

theorem Sound.found (i : Installed Code) : (p.found i).Sound := ⟨hp.last, hp.component, hp.failure⟩

theorem Opens.sound {o : Option PendingLoad} (hm : Opens p h o ds p' h') : p'.Sound := by
  cases hm with
  | past => exact hp
  | missing hw => exact hp.enter hw nofun nofun
  | @shut i hw | @pageless i hw => exact (hp.found i).enter hw nofun nofun
  | @letIn i _ _ hw =>
    have hl : ((p.found i).enter .loading).Sound := (hp.found i).enter hw nofun nofun
    exact ⟨hl.last, hl.component, hl.failure⟩

/-- The outcome of a load brings the component, or the failure. -/
theorem Finishes.sound {o : LoadOutcome} (hf : Finishes serve o p h ds p' h') : p'.Sound := by
  cases hf with
  | dropped => exact hp
  | failed ha => exact hp.stopped (waits_of_awaits ha).ne_mounted _
  | plain ha => exact hp.holding (waits_of_awaits ha).ne_errored _
  | @hooked c _ _ _ ha =>
    have hm := hp.holding (waits_of_awaits ha).ne_errored c
    exact ⟨hm.last, hm.component, hm.failure⟩

theorem Mounts.sound (hm : Mounts serve p h ds p' h') : p'.Sound := by
  cases hm with
  | short hm => exact hm.sound hp
  | unwound hm => exact hm.sound hp
  | whole hm _ hf => exact hf.sound (hm.sound hp)

theorem Syncs.sound (hs : Syncs serve p h ds p' h') : p'.Sound := by
  cases hs with
  | kept => exact hp
  | missing hm | shut hm => exact hp.leave hm nofun nofun
  | mounted _ hm => exact hm.sound hp

theorem Renders.sound (hr : Renders serve p h ds p' h') : p'.Sound := by
  cases hr with
  | still | blank | shown => exact hp
  | failed => exact hp.stopped_emptied _

theorem Acts.sound {call : Call} (ha : Acts serve p h call ds p' h') : p'.Sound := by
  cases ha with
  | opened hm => exact hm.sound hp
  | finished hf => exact hf.sound hp
  | mounted hm => exact hm.sound hp
  | synced hs => exact hs.sound hp
  | rendered hr => exact hr.sound hp
  | loaded | dropped => exact hp

end

/-- Handlers that are taken away in turn. -/
theorem start_unsubscribeAll (l : List Subscription) (h : Host) :
    ∃ bus, start (l.forM fun s => do let _ ← Host.unsubscribe s) h =
        some (.ok ⟨⟩, { h with bus := bus }) ∧
      bus.lastId = h.bus.lastId ∧
      bus.handlers = h.bus.handlers.filter fun x => !l.any (Bus.isFor · x) := by
  induction l generalizing h with
  | nil => exact ⟨h.bus, rfl, rfl, (List.filter_eq_self.mpr fun _ _ => rfl).symm⟩
  | cons s l ih =>
    obtain ⟨bus, e, hid, hhandlers⟩ := ih { h with bus := (h.bus.off s).2 }
    refine ⟨bus, e, hid, hhandlers.trans ?_⟩
    rw [Bus.handlers_off, List.filter_filter]
    refine List.filter_congr fun x _ => ?_
    rw [List.any_cons, Bool.not_or, Bool.and_comm]

/-- A sync finds nothing to do for a panel that has stopped for good. -/
theorem start_sync_of_stopped (serve : Server Host) {p : Panel}
    (hp : p.stage = .notFound ∨ p.stage = .errored) (h : Host) :
    start (sync serve) (p, h) = some (.ok p.stage, p, p.unmarked h) := by
  have hcurrent : start current (p, h) = some (.ok p, p, h) := rfl
  rw [sync, start_bind, hcurrent]
  rcases hp with hp | hp
  all_goals
    simp only [hp]
    rfl

end Panel
end Plugboard
