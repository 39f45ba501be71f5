import Plugboard.Proofs.Panel.Containment

/-!
What each operation of a panel does to the panel and to its hook calls. The server may do anything
to the host, and may run other panels too, as long as it calls no hook in the name of this one.

* `Started`, `Finished`, `Mounted`, `Synced`, `Rendered`: all that an operation can do, guards
  included. The `_ends` lemmas say that it does nothing else, also when it ends in a panic.
* `Turned`: the same for a call, whichever operation it is of.
* `runDestroy_ends`: a panel calls the destroy hook exactly when it holds a component.
* `start_create`: making a panel runs no plugin code, so its start says everything about it.
-/
namespace Plugboard

open Run

/-- The calls of a plugin's init hook when its component is mounted; a missing hook makes none. -/
def Installed.initCall (i : Installed Code) : List (Phase × Nat) :=
  if i.definition.init.isSome then [(.init, i.serial)] else []

def Installed.destroyCall (i : Installed Code) : List (Phase × Nat) :=
  if i.definition.destroy.isSome then [(.destroy, i.serial)] else []

/-- The component of a plugin that a surface shows. -/
def Surface.component (s : Surface) (d : Definition Code) : Option (Component Code) :=
  match s with
  | .main => d.panel
  | .settings => d.settings

/-- An outcome of a load: it has the load's number, and its component if it is a success. -/
def LoadOutcome.IsOf (o : LoadOutcome) (l : PendingLoad) : Prop :=
  o.cycle = l.cycle ∧ ∀ c, o.result = .ok c → c = l.component

namespace Panel

/-- The plugin whose hooks belong to the component that the panel holds. -/
def lodger (p : Panel) : Option (Installed Code) :=
  match p.component, p.surface with
  | some _, .main => p.installed
  | _, _ => none

@[simp] theorem ends_current (s : Panel × Host) (Q : Except Panic Panel → Panel × Host → Prop) :
    Ends current s Q ↔ Q (.ok s.1) s := by
  simp only [current, ends_bind, ends_get, ends_pure]

@[simp] theorem ends_change (f : Panel → Panel) (s : Panel × Host)
    (Q : Except Panic PUnit → Panel × Host → Prop) :
    Ends (change f) s Q ↔ Q (.ok ⟨⟩) (f s.1, s.2) :=
  ends_modify _ _ _

@[simp] theorem ends_goTo (next : Stage) (s : Panel × Host)
    (Q : Except Panic PUnit → Panel × Host → Prop) :
    Ends (goTo next) s Q ↔ Q (.ok ⟨⟩) (s.1.enter next, s.2) :=
  ends_modify _ _ _

@[simp] theorem ends_onHost {α : Type} (m : HostRun α) (s : Panel × Host)
    (Q : Except Panic α → Panel × Host → Prop) :
    Ends (onHost m) s Q ↔ Ends m s.2 fun r t => Q r (s.1, t) :=
  ends_below m s Q

/-- A new panel has a new number, and two handlers that mark it. -/
theorem start_create (surface : Surface) (session : Nat) (name : String) (h : Host) :
    start (create surface session name) h = some (.ok
      { name := name, surface := surface, session := session, serial := h.lastSerial + 1
        stage := .resolving, transitions := [.resolving], installed := none, component := none
        failure := none, initFired := false, loads := 0
        subscriptions := [⟨h.bus.lastId + 1, .enabled⟩, ⟨h.bus.lastId + 2, .disabled⟩] },
      { h with
        bus := (h.bus.add .enabled (.mark (h.lastSerial + 1) name)).add .disabled
          (.mark (h.lastSerial + 1) name)
        lastSerial := h.lastSerial + 1 }) := rfl

/-- A panel's own call of a hook, with what is done quietly after it. -/
theorem hooks_of_call {p : Panel} {phase : Phase} {i : Installed Code} {h h' : Host}
    (hp : phase = .init ∨ phase = .destroy)
    (q : Host.Quiet p.serial { h with journal :=
      h.journal ++ [.entered (.panel p.serial) p.name phase i.serial] } h') :
    h'.hooks p.serial = h.hooks p.serial ++ [(phase, i.serial)] := by
  rw [q, Host.hooks_append, Happening.hookOf?, if_pos ⟨rfl, hp⟩, Option.toList_some]

theorem errorView_stopped (p : Panel) (f : Failure) :
    (p.stopped f).errorView = .errored p.name f.message reloadHint := by
  simp [errorView]

/-- Only a mounted panel has to call the plugin to show something. -/
theorem stillView_eq_none_iff {p : Panel} : p.stillView = none ↔ p.stage = .mounted := by
  unfold stillView
  cases p.stage <;> simp

section
variable {panel : Nat} {serve : Server Host} (hs : Host.QuietServer panel serve)
include hs

theorem report_ends (p : Panel) (f : Failure) (h : Host) :
    Ends (report serve p f) h fun r h' => r = .ok ⟨⟩ ∧ Host.Quiet panel h h' := by
  have hc : Calm (report serve p f) := report_within (fun _ _ => within_true _) p f
  have hq : Along (Host.Quiet panel) (report serve p f) := along_bind (Host.log_quiet _ _) fun _ =>
    along_bind (Host.emit_quiet (Host.run_along hs) _) fun _ => along_pure _
  refine ((hc.ends h).and (hq h)).mono fun r h' hr => ?_
  obtain ⟨⟨_, rfl⟩, hq⟩ := hr
  exact ⟨rfl, hq⟩

theorem fail_ends (f : Failure) (p : Panel) (h : Host) :
    Ends (fail serve f) (p, h) fun r t =>
      r = .ok ⟨⟩ ∧ t.1 = p.stopped f ∧ Host.Quiet panel h t.2 := by
  simp only [fail, ends_bind, ends_current, ends_onHost]
  refine (report_ends hs p f h).mono fun r h' hr => ?_
  obtain ⟨rfl, hq⟩ := hr
  exact (ends_change _ _ _).mpr ((ends_goTo _ _ _).mpr ⟨rfl, rfl, hq⟩)

theorem guarded_ends (plugin : String) (phase : Phase) (code : Code) (h : Host) :
    Ends (guarded serve plugin phase code) h fun r h' =>
      (∃ x, r = .ok x) ∧ Host.Quiet panel h h' := by
  have hc : Calm (guarded serve plugin phase code) :=
    guarded_within (fun _ _ => within_true _) plugin phase code
  have hq : Along (Host.Quiet panel) (guarded serve plugin phase code) :=
    along_bind (along_contain (Host.run_along hs code)) fun _ => along_pure _
  exact (hc.ends h).and (hq h)

theorem guardedRest_quiet (plugin : String) (phase : Phase) (code : Code) :
    Along (Host.Quiet panel) (guardedRest serve plugin phase code) :=
  along_bind (Host.begin_along hs code) fun rest =>
    fun h => (guarded_ends hs plugin phase rest h).mono fun _ _ hr => hr.2

/-! ## Unmounting -/

/-- The destroy hook is called once for a main panel that holds a component, and never otherwise. -/
theorem runDestroy_ends (p : Panel) (h : Host) (hp : p.serial = panel) :
    Ends (runDestroy serve p) h fun r h' => r = .ok ⟨⟩ ∧
      h'.hooks p.serial = h.hooks p.serial ++ p.lodger.elim [] Installed.destroyCall := by
  subst hp
  unfold runDestroy
  split
  next c i hcomponent hsurface hinst =>
    have hl : p.lodger = some i := by simp [lodger, hcomponent, hsurface, hinst]
    rw [hl, Option.elim_some, Installed.destroyCall]
    cases i.definition.destroy with
    | none => simp
    | some hook =>
      simp only [ends_bind, Host.record, ends_modify]
      refine (guarded_ends hs p.name .destroy hook _).mono fun r h' hr => ?_
      obtain ⟨⟨x, rfl⟩, hq⟩ := hr
      cases x with
      | ok text => exact (ends_pure _ _ _).mpr ⟨rfl, hooks_of_call (.inr rfl) hq⟩
      | error f =>
        refine (report_ends hs p f h').mono fun r h'' hr => ?_
        obtain ⟨rfl, hq'⟩ := hr
        exact ⟨rfl, hooks_of_call (.inr rfl) (IsTrans.trans _ _ _ hq hq')⟩
  next hno =>
    have hl : p.lodger = none := by
      unfold lodger
      split
      next c hcomponent hsurface =>
        cases hinst : p.installed with
        | none => rfl
        | some i => exact absurd hinst (hno c i hcomponent hsurface)
      next => rfl
    simp [hl]

theorem teardown_ends (p : Panel) (h : Host) (hp : p.serial = panel) :
    Ends (teardown serve) (p, h) fun r t => r = .ok ⟨⟩ ∧ t.1 = p.emptied ∧
      t.2.hooks p.serial = h.hooks p.serial ++ p.lodger.elim [] Installed.destroyCall := by
  simp only [teardown, ends_bind, ends_current, ends_change, ends_onHost]
  refine (runDestroy_ends hs p h hp).mono fun r h' hr => ?_
  exact ⟨hr.1, trivial, hr.2⟩

/-- Leaving the mounted stage ends what the init hook began. -/
theorem leave_ends (next : Stage) (p : Panel) (h : Host) (hp : p.serial = panel) :
    Ends (leave serve next) (p, h) fun r t => r = .ok ⟨⟩ ∧
      t.1 = p.vacated.enter next ∧
      t.2.hooks p.serial = h.hooks p.serial ++ p.lodger.elim [] Installed.destroyCall := by
  rw [leave, ends_bind]
  refine (teardown_ends hs p h hp).mono fun r t hr => ?_
  obtain ⟨rfl, hpanel, hh⟩ := hr
  rw [ends_bind, ends_change, ends_goTo, hpanel]
  exact ⟨rfl, rfl, hh⟩

theorem drop_ends (p : Panel) (h : Host) (hp : p.serial = panel) :
    Ends (drop serve p) h fun r h' => r = .ok ⟨⟩ ∧
      h'.hooks p.serial = h.hooks p.serial ++ p.lodger.elim [] Installed.destroyCall := by
  have hc : Calm (p.subscriptions.forM fun s => do let _ ← Host.unsubscribe s) :=
    unsubscribeAll_within p.subscriptions
  have hq : Along (Host.Quiet p.serial) (p.subscriptions.forM fun s => do
      let _ ← Host.unsubscribe s) :=
    along_forM (fun s => along_bind (Host.unsubscribe_quiet s) fun _ => along_pure _) _
  rw [drop, ends_bind]
  refine (runDestroy_ends hs p h hp).mono fun r h' hr => ?_
  obtain ⟨rfl, hh⟩ := hr
  refine ((hc.ends h').and (hq h')).mono fun r h'' hr => ?_
  obtain ⟨⟨_, rfl⟩, hq'⟩ := hr
  exact ⟨rfl, hq'.trans hh⟩

end

/-! ## What the operations can do -/

/-- The panel when it has found its plugin. -/
def found (p : Panel) (i : Installed Code) : Panel := { p with installed := some i }

/-- All that the first half of mounting can do to a panel and its host. -/
inductive Started (p : Panel) (h : Host) : Option PendingLoad → Panel → Host → Prop
  | past (hp : ¬ p.Waits) : Started p h none p h
  | missing {h' : Host} (hp : p.Waits) (hr : h.registry.get? p.name = none)
      (hq : Host.Quiet p.serial h h') : Started p h none (p.enter .notFound) h'
  | disabled {i : Installed Code} (hp : p.Waits) (hr : h.registry.get? p.name = some i)
      (hs : p.surface = .main) (he : (h.sessionAt p.session).isEnabled p.name = false) :
      Started p h none ((p.found i).enter .disabled) h
  | bare {i : Installed Code} {h' : Host} (hp : p.Waits) (hr : h.registry.get? p.name = some i)
      (hs : p.surface = .main) (he : (h.sessionAt p.session).isEnabled p.name = true)
      (hc : i.definition.panel = none) (hq : Host.Quiet p.serial h h') :
      Started p h none (((p.found i).enter .loading).stopped (.missingLoader p.name)) h'
  | pageless {i : Installed Code} (hp : p.Waits) (hr : h.registry.get? p.name = some i)
      (hs : p.surface = .settings) (hc : i.definition.settings = none) :
      Started p h none ((p.found i).enter .notFound) h
  | loading {i : Installed Code} {c : Component Code} {l : PendingLoad} (hp : p.Waits)
      (hr : h.registry.get? p.name = some i) (hc : p.surface.component i.definition = some c)
      (he : p.surface = .main → (h.sessionAt p.session).isEnabled p.name = true)
      (hl : l = ⟨p.name, p.loads + 1, c, p.serial, i.serial⟩) :
      Started p h (some l) { (p.found i).enter .loading with loads := l.cycle } h

theorem serial_of_started {p p' : Panel} {h h' : Host} {o : Option PendingLoad}
    (hm : Started p h o p' h') : p'.serial = p.serial := by
  cases hm <;> simp [found]

/-- A load is only started for a panel that waits, and the panel then waits for that load. -/
theorem Started.begun {p p' : Panel} {h h' : Host} {l : PendingLoad}
    (hm : Started p h (some l) p' h') :
    p.Waits ∧ p'.stage = .loading ∧ p'.loads = l.cycle := by
  cases hm with
  | loading hw => exact ⟨hw, stage_enter _ _, rfl⟩

theorem Started.unchanged {p p' : Panel} {h h' : Host} {o : Option PendingLoad}
    (hm : Started p h o p' h') (hw : ¬ p.Waits) : p' = p := by
  cases hm with
  | past => rfl
  | missing hw' | disabled hw' | bare hw' | pageless hw' | loading hw' => exact absurd hw' hw

/-- All that the second half of mounting can do with an outcome. -/
inductive Finished (p : Panel) (h : Host) (o : LoadOutcome) : Panel → Host → Prop
  | dropped (ha : p.awaits o = false) : Finished p h o p h
  | failed {f : Failure} {h' : Host} (ha : p.awaits o = true) (ho : o.result = .error f)
      (hq : Host.Quiet p.serial h h') : Finished p h o (p.stopped f) h'
  | plain {c : Component Code} (ha : p.awaits o = true) (ho : o.result = .ok c)
      (hs : p.surface = .settings ∨ p.installed = none) :
      Finished p h o (p.holding c) h
  | hooked {c : Component Code} {i : Installed Code} {h' : Host} (ha : p.awaits o = true)
      (ho : o.result = .ok c) (hs : p.surface = .main) (hi : p.installed = some i)
      (hh : h'.hooks p.serial = h.hooks p.serial ++ if p.initFired then [] else i.initCall) :
      Finished p h o { p.holding c with initFired := true } h'

/-- All that mounting in one go can do. A loader that panics ends it after the first half. -/
inductive Mounted (p : Panel) (h : Host) : Panel → Host → Prop
  | short {p' : Panel} {h' : Host} (hm : Started p h none p' h') : Mounted p h p' h'
  | lost {p' : Panel} {h₁ h' : Host} {l : PendingLoad} (hm : Started p h (some l) p' h₁)
      (hq : Host.Quiet p.serial h₁ h') : Mounted p h p' h'
  | whole {p₁ p' : Panel} {h₁ h₂ h' : Host} {l : PendingLoad} {o : LoadOutcome}
      (hm : Started p h (some l) p₁ h₁) (hq : Host.Quiet p.serial h₁ h₂) (ho : o.IsOf l)
      (hf : Finished p₁ h₂ o p' h') : Mounted p h p' h'

/-- All that a sync can do. -/
inductive Synced (p : Panel) (h : Host) : Panel → Host → Prop
  | kept {h' : Host} (hq : Host.Quiet p.serial h h')
      (hk : p.stage = .mounted → h.registry.contains p.name = true ∧
        (p.surface = .main → (h.sessionAt p.session).isEnabled p.name = true))
      (hw : ¬ p.Waits) : Synced p h p h'
  | left {h' : Host} {next : Stage} (hp : p.stage = .mounted)
      (hn : (next = .notFound ∧ h.registry.contains p.name = false) ∨
        (next = .disabled ∧ p.surface = .main ∧
          (h.sessionAt p.session).isEnabled p.name = false))
      (hh : h'.hooks p.serial = h.hooks p.serial ++ p.lodger.elim [] Installed.destroyCall) :
      Synced p h (p.vacated.enter next) h'
  | mounted {p' : Panel} {h' : Host} (hp : p.Waits) (hm : Mounted p (p.unmarked h) p' h') :
      Synced p h p' h'

/-- All that rendering can do. -/
inductive Rendered (p : Panel) (h : Host) : Panel → Host → Prop
  | shown {h' : Host} (hq : Host.Quiet p.serial h h') : Rendered p h p h'
  | failed {f : Failure} {h' : Host} (hp : p.stage = .mounted)
      (hh : h'.hooks p.serial = h.hooks p.serial ++ p.lodger.elim [] Installed.destroyCall) :
      Rendered p h (p.emptied.stopped f) h'

/-! ## The operations -/

section
variable {panel : Nat} {serve : Server Host} (hs : Host.QuietServer panel serve)
include hs

theorem startFound_ends {i : Installed Code} (p : Panel) (h : Host) (hw : p.Waits)
    (hr : h.registry.get? p.name = some i) (hp : p.serial = panel) :
    Ends (startFound serve i) (p, h) fun r t => ∃ o, r = .ok o ∧ Started p h o t.1 t.2 := by
  subst hp
  have hfound : ({ p with installed := some i } : Panel) = p.found i := rfl
  simp only [startFound, isEnabled, Host.session, startLoad, ends_bind, ends_change, ends_current,
    hfound]
  cases hsurf : p.surface with
  | main =>
    simp only [ends_bind, ends_onHost, ends_get, ends_pure]
    cases he : (h.sessionAt p.session).isEnabled p.name with
    | false =>
      simp only [Bool.false_eq_true, ↓reduceIte, ends_bind, ends_goTo, ends_pure]
      exact ⟨none, rfl, .disabled hw hr hsurf he⟩
    | true =>
      simp only [↓reduceIte, ends_bind, ends_goTo]
      cases hc : i.definition.panel with
      | none =>
        dsimp only
        rw [ends_bind]
        refine (fail_ends hs _ _ _).mono fun r t ht => ?_
        obtain ⟨rfl, hpanel, hq⟩ := ht
        rw [ends_pure, hpanel]
        exact ⟨none, rfl, .bare hw hr hsurf he hc hq⟩
      | some c =>
        simp only [ends_bind, ends_change, ends_current, ends_pure]
        exact ⟨_, rfl, .loading hw hr (by rw [hsurf]; exact hc) (fun _ => he) (by simp [found])⟩
  | settings =>
    dsimp only
    cases hc : i.definition.settings with
    | none =>
      simp only [ends_bind, ends_goTo, ends_pure]
      exact ⟨none, rfl, .pageless hw hr hsurf hc⟩
    | some c =>
      simp only [ends_bind, ends_goTo, ends_change, ends_current, ends_pure]
      exact ⟨_, rfl, .loading hw hr (by rw [hsurf]; exact hc) (by simp [hsurf]) (by simp [found])⟩

theorem startMount_ends (p : Panel) (h : Host) (hp : p.serial = panel) :
    Ends (startMount serve) (p, h) fun r t => ∃ o, r = .ok o ∧ Started p h o t.1 t.2 := by
  rw [startMount, ends_bind, ends_current]
  dsimp only
  by_cases hw : p.Waits
  · -- the three stages of waiting go the same way
    rcases hw with hstage | hstage | hstage
    all_goals
      have hw : p.Waits := by simp [Waits, hstage]
      rw [hstage]
      dsimp only
      rw [ends_bind, ends_get]
      cases hr : h.registry.get? p.name with
      | none =>
        simp only [hr, Host.log, Host.record, ends_bind, ends_onHost, ends_modify, ends_goTo,
          ends_pure]
        exact ⟨none, rfl, .missing hw hr (Host.record_quiet rfl h _ _ rfl)⟩
      | some i =>
        simp only [hr]
        exact startFound_ends hs p h hw hr hp
  · cases hstage : p.stage with
    | mounted | errored | notFound => exact (ends_pure _ _ _).mpr ⟨none, rfl, .past hw⟩
    | resolving | disabled | loading => exact absurd (by simp [Waits, hstage]) hw

/-- A load hands back the component it was started for, unless it has failed. -/
theorem load_ends (l : PendingLoad) (h : Host) :
    Ends (load serve l) h fun r h' => Host.Quiet panel h h' ∧ ∀ o, r = .ok o → o.IsOf l := by
  have hcall : (Happening.entered (.panel l.panel) l.plugin .load l.installation).hookOf? panel =
      none := by simp [Happening.hookOf?]
  rw [load, ends_bind]
  have hc : Calm (Host.record (.entered (.panel l.panel) l.plugin .load l.installation)) :=
    Host.record_within _
  refine (Host.record_quiet hcall h).and (hc.ends h) |>.mono fun r h₁ hr => ?_
  obtain ⟨hq₁, ⟨_, rfl⟩⟩ := hr
  dsimp only
  rw [ends_bind]
  refine (guardedRest_quiet hs l.plugin .load l.component.load h₁).mono fun r h₂ hq₂ => ?_
  have hq : Host.Quiet panel h h₂ := IsTrans.trans _ _ _ hq₁ hq₂
  cases r with
  | error e => exact ⟨hq, by simp⟩
  | ok result =>
    refine (ends_pure _ _ _).mpr ⟨hq, ?_⟩
    rintro o he
    cases he
    refine ⟨rfl, fun c hc => ?_⟩
    cases result with
    | error f => cases hc
    | ok text =>
      cases hc
      rfl

theorem runInit_ends (i : Installed Code) (p : Panel) (h : Host) (hp : p.serial = panel) :
    Ends (runInit serve i) (p, h) fun _ t => t.1 = { p with initFired := true } ∧
      t.2.hooks p.serial = h.hooks p.serial ++ if p.initFired then [] else i.initCall := by
  subst hp
  simp only [runInit, ends_bind, ends_current]
  cases hf : p.initFired with
  | true =>
    refine (ends_pure _ _ _).mpr ⟨?_, by simp⟩
    rw [← hf]
  | false =>
    simp only [Bool.not_false, ↓reduceIte, ends_bind, ends_change, Installed.initCall]
    cases i.definition.init with
    | none => simp
    | some hook =>
      rw [ends_onHost, ends_bind, Host.record, ends_modify]
      -- the hook is called by now, and nothing after the call is one
      refine Ends.mono (Q := fun _ h' => Host.Quiet p.serial _ h') ?_ fun r h' hq =>
        ⟨rfl, hooks_of_call (.inl rfl) hq⟩
      refine along_bind (Host.context_quiet _ _) (fun c =>
        along_bind (guardedRest_quiet hs _ _ _) fun x => ?_) _
      cases x with
      | ok _ => exact along_pure _
      | error f => exact fun h => (report_ends hs p f h).mono fun _ _ hr => hr.2

theorem finishMount_ends (o : LoadOutcome) (p : Panel) (h : Host) (hp : p.serial = panel) :
    Ends (finishMount serve o) (p, h) fun _ t => Finished p h o t.1 t.2 := by
  subst hp
  simp only [finishMount, ends_bind, ends_current]
  cases ha : p.awaits o with
  | false =>
    simp only [Bool.false_eq_true, ↓reduceIte, ends_bind, ends_pure, ends_current]
    exact .dropped ha
  | true =>
    simp only [↓reduceIte]
    cases ho : o.result with
    | error f =>
      dsimp only
      rw [ends_bind]
      refine (fail_ends hs f p h).mono fun r t ht => ?_
      obtain ⟨rfl, hpanel, hq⟩ := ht
      simp only [ends_bind, ends_current, ends_pure, hpanel]
      exact .failed ha ho hq
    | ok c =>
      have hholding : ({ p with component := some c } : Panel).enter .mounted = p.holding c := rfl
      simp only [ends_bind, ends_change, ends_goTo]
      rw [hholding]
      cases hsurf : p.surface with
      | settings =>
        simp only [ends_bind, ends_current, ends_pure]
        exact .plain ha ho (.inl hsurf)
      | main =>
        cases hi : p.installed with
        | none =>
          simp only [ends_bind, ends_current, ends_pure]
          exact .plain ha ho (.inr hi)
        | some i =>
          dsimp only
          rw [ends_bind]
          refine (runInit_ends hs i (p.holding c) h (serial_enter _ _)).mono fun r t ht => ?_
          obtain ⟨hpanel, hh⟩ := ht
          rw [serial_enter, initFired_enter] at hh
          have hfin : Finished p h o t.1 t.2 := hpanel ▸ .hooked ha ho hsurf hi hh
          cases r with
          | error e => exact hfin
          | ok _ =>
            simp only [ends_bind, ends_current, ends_pure]
            exact hfin

theorem mount_ends (p : Panel) (h : Host) (hp : p.serial = panel) :
    Ends (mount serve) (p, h) fun _ t => Mounted p h t.1 t.2 := by
  subst hp
  rw [mount, ends_bind]
  refine (startMount_ends hs p h rfl).mono fun r t ht => ?_
  obtain ⟨o, rfl, hm⟩ := ht
  cases o with
  | none =>
    simp only [ends_bind, ends_current, ends_pure]
    exact .short hm
  | some l =>
    dsimp only
    rw [ends_bind, ends_onHost]
    refine (load_ends hs l t.2).mono fun r h₂ hl => ?_
    obtain ⟨hq, ho⟩ := hl
    cases r with
    | error e => exact .lost hm hq
    | ok out =>
      exact (finishMount_ends hs out t.1 h₂ (serial_of_started hm)).mono fun r u hf =>
        .whole hm hq (ho out rfl) hf

theorem sync_ends (p : Panel) (h : Host) (hp : p.serial = panel) :
    Ends (sync serve) (p, h) fun _ t => Synced p h t.1 t.2 := by
  subst hp
  have hq : Host.Quiet p.serial h (p.unmarked h) := rfl
  have hwait : p.Waits → Ends (mount serve) (p, p.unmarked h) fun _ t => Synced p h t.1 t.2 :=
    fun hw => (mount_ends hs p _ rfl).mono fun _ _ hm => .mounted hw hm
  simp only [sync, unmark, ends_bind, ends_current, ends_onHost, ends_modify]
  cases hstage : p.stage with
  | resolving => exact hwait (.inl hstage)
  | disabled => exact hwait (.inr (.inl hstage))
  | loading => exact hwait (.inr (.inr hstage))
  | notFound | errored =>
    exact (ends_pure _ _ _).mpr (.kept hq (by simp [hstage]) (by simp [Waits, hstage]))
  | mounted =>
    have hleave : ∀ next : Stage, (next = .notFound ∧ h.registry.contains p.name = false ∨
        next = .disabled ∧ p.surface = .main ∧
          (h.sessionAt p.session).isEnabled p.name = false) →
        Ends (leave serve next >>= fun _ => return (← current).stage) (p, p.unmarked h)
          fun _ t => Synced p h t.1 t.2 := by
      intro next hn
      rw [ends_bind]
      refine (leave_ends hs next p _ rfl).mono fun r t ht => ?_
      obtain ⟨rfl, hpanel, hh⟩ := ht
      simp only [ends_bind, ends_current, ends_pure, hpanel]
      exact .left hstage hn (hh.trans (by rw [hq]))
    have hstay : h.registry.contains p.name = true →
        (p.surface = .main → (h.sessionAt p.session).isEnabled p.name = true) →
        Ends (return (← current).stage) (p, p.unmarked h) fun _ t => Synced p h t.1 t.2 := by
      intro hc he
      simp only [ends_bind, ends_current, ends_pure]
      exact .kept hq (fun _ => ⟨hc, he⟩) (by simp [Waits, hstage])
    dsimp only
    rw [ends_bind, ends_get]
    dsimp only
    split
    next hc => exact hleave _ (.inl ⟨rfl, by simpa using hc⟩)
    next hc =>
      have hc : h.registry.contains p.name = true := by simpa using hc
      split
      next hsurf =>
        rw [ends_bind, ends_onHost]
        simp only [isEnabled, Host.session, ends_bind, ends_get, ends_pure]
        split
        next he => exact hleave _ (.inr ⟨rfl, hsurf, (Bool.not_eq_true' _).mp he⟩)
        next he =>
          refine hstay hc fun _ => ?_
          rw [Bool.not_eq_true', Bool.not_eq_false] at he
          exact he
      next hsurf => exact hstay hc fun hmain => absurd hmain hsurf

/-! ## Rendering -/

/-- Calling the component is no hook call, and its failures stay inside the boundary. -/
theorem renderCall_ends (c : Component Code) (p : Panel) (h : Host) :
    Ends (do
      Host.record (.entered (.panel p.serial) p.name .render ((p.installed.map (·.serial)).getD 0))
      guarded serve p.name .render (c.render (← Host.context p.session p.name))) h
      fun r h' => (∃ x, r = .ok x) ∧ Host.Quiet panel h h' := by
  have hcall : (Happening.entered (.panel p.serial) p.name .render
      ((p.installed.map (·.serial)).getD 0)).hookOf? panel = none := by simp [Happening.hookOf?]
  have hc : Calm (Host.record (.entered (.panel p.serial) p.name .render
      ((p.installed.map (·.serial)).getD 0))) := Host.record_within _
  rw [ends_bind]
  refine ((Host.record_quiet hcall h).and (hc.ends h)).mono fun r h₁ hr => ?_
  obtain ⟨hq, ⟨_, rfl⟩⟩ := hr
  simp only [Host.context, Host.session, ends_bind, ends_get, ends_pure]
  refine (guarded_ends hs p.name .render _ _).mono fun r h' hr => ?_
  exact ⟨hr.1, IsTrans.trans _ _ _ hq hr.2⟩

theorem renderComponent_ends (p : Panel) (h : Host) (hm : p.stage = .mounted)
    (hp : p.serial = panel) :
    Ends (renderComponent serve) (p, h) fun _ t => Rendered p h t.1 t.2 := by
  subst hp
  rw [renderComponent, ends_bind, ends_current]
  cases hc : p.component with
  | none =>
    simp only [hc]
    exact (ends_pure _ _ _).mpr (.shown rfl)
  | some c =>
    simp only [hc]
    rw [ends_bind, ends_onHost]
    refine (renderCall_ends hs c p h).mono fun r h₁ hr => ?_
    obtain ⟨⟨x, rfl⟩, hq⟩ := hr
    cases x with
    | ok body => exact (ends_pure _ _ _).mpr (.shown hq)
    | error f =>
      dsimp only
      rw [ends_bind]
      refine (teardown_ends hs p h₁ rfl).mono fun r t hr => ?_
      obtain ⟨rfl, hpanel, hh⟩ := hr
      have hserial : t.1.serial = p.serial := by rw [hpanel]
      dsimp only
      rw [ends_bind]
      refine (fail_ends hs f t.1 t.2).mono fun r u hu => ?_
      obtain ⟨rfl, hstopped, hq'⟩ := hu
      simp only [ends_bind, ends_current, ends_pure, hstopped, hpanel]
      exact .failed hm (by rw [hq', hh, hq])

theorem render_ends (p : Panel) (h : Host) (hp : p.serial = panel) :
    Ends (render serve) (p, h) fun _ t => Rendered p h t.1 t.2 := by
  rw [render, ends_bind, ends_current]
  cases hv : p.stillView with
  | none =>
    simp only [hv]
    exact renderComponent_ends hs p h (stillView_eq_none_iff.mp hv) hp
  | some v =>
    simp only [hv]
    exact (ends_pure _ _ _).mpr (.shown rfl)

/-! ## Calls -/

/-- All that a call can do. -/
inductive Turned (p : Panel) (h : Host) : Call → Panel → Host → Prop
  | started {o p' h'} (hm : Started p h o p' h') : Turned p h .startMount p' h'
  | loaded {l h'} (hq : Host.Quiet p.serial h h') : Turned p h (.load l) p h'
  | finished {o p' h'} (hm : Finished p h o p' h') : Turned p h (.finishMount o) p' h'
  | mounted {p' h'} (hm : Mounted p h p' h') : Turned p h .mount p' h'
  | synced {p' h'} (hm : Synced p h p' h') : Turned p h .sync p' h'
  | rendered {p' h'} (hm : Rendered p h p' h') : Turned p h .render p' h'
  | dropped {h'} : Turned p h .drop p h'

theorem call_ends (call : Call) (p : Panel) (h : Host) (hp : p.serial = panel) :
    Ends (call.run serve) (p, h) fun _ t => Turned p h call t.1 t.2 := by
  subst hp
  cases call with
  | startMount =>
    exact ends_discard ((startMount_ends hs p h rfl).mono fun _ _ ⟨_, _, hm⟩ => .started hm)
  | load l =>
    refine ends_discard ((ends_onHost _ _ _).mpr ?_)
    exact (load_ends hs l h).mono fun _ _ hl => .loaded hl.1
  | finishMount o => exact ends_discard ((finishMount_ends hs o p h rfl).mono fun _ _ => .finished)
  | mount => exact ends_discard ((mount_ends hs p h rfl).mono fun _ _ => .mounted)
  | sync => exact ends_discard ((sync_ends hs p h rfl).mono fun _ _ => .synced)
  | render => exact ends_discard ((render_ends hs p h rfl).mono fun _ _ => .rendered)
  | drop =>
    rw [Call.run, ends_bind, ends_current]
    refine (ends_onHost _ _ _).mpr fun _ _ _ => ?_
    exact .dropped

end
end Panel
end Plugboard
