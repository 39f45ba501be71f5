import Plugboard.Panel.Lifecycle
import Plugboard.Proofs.Journal
import Plugboard.Proofs.Panel.Enter

/-!
What plugin code can do to the one who works with a panel. Its errors and panics become failures of
the panel wherever it runs inside the boundary; what a loader or an init hook does before it hands
over the rest of its work runs outside.

* `_within`: each operation with what it needs of the server. `tires` is when the server may give a
  request up, and no operation needs a server that does not panic.
* `Host.Tires`: the server gives up a request that this very run makes. `Host.tires_of_start`: without
  that the run is not given up.
* `PendingLoad.FirstPanics`, `Panel.InitPanics`: the two calls that are outside.
* `Panel.call_unwinds_iff`: a panic comes out of a call exactly when it comes out of one of these.
* `Panel.calls_contained`: otherwise the host gets back from the call.
* `Panel.first_part_unwinds`: a loader and an init hook whose panics come out.
-/
namespace Plugboard

open Run

/-- The server gives a request up only if `tires` holds. -/
def Host.ServesWithin (tires : Prop) (serve : Server Host) : Prop :=
  ∀ a (op : Op Code a), Within tires True (serve op)

theorem Host.servesWithin_true (serve : Server Host) : ServesWithin True serve :=
  fun _ _ => within_true _

section
variable {σ α : Type}

/-- The requests that a run depends on are among these: with any server that answers them alike it goes
the same way. -/
def Host.DependsOn (m : Server Host → Run σ α) (serve : Server Host) (s : σ)
    (asked : ∀ a, Op Code a → Host → Prop) : Prop :=
  ∀ serve' : Server Host,
    (∀ a (op : Op Code a) h, asked a op h → start (serve' op) h = start (serve op) h) →
      start (m serve') s = start (m serve) s

/-- The server gives up one of the requests that this run makes: there is such a one among any
requests that the run depends on. -/
def Host.Tires (m : Server Host → Run σ α) (serve : Server Host) (s : σ) : Prop :=
  ∀ asked, DependsOn m serve s asked → ∃ a op h, asked a op h ∧ start (serve op) h = none

/-- A run that gives nothing up by itself is given up only by the server. -/
theorem Host.tires_of_start {m : Server Host → Run σ α} {breaks : Prop}
    (hm : ∀ tires serve, ServesWithin tires serve → Within tires breaks (m serve))
    {serve : Server Host} {s : σ} (e : start (m serve) s = none) : Tires m serve s := by
  classical
  intro asked hasked
  -- what the run does not ask for may as well panic
  let patched : Server Host := fun {a} op h =>
    if asked a op h then serve op h else some (.error (.owned ""), h)
  have hsame : ∀ a (op : Op Code a) h, asked a op h →
      start (patched op) h = start (serve op) h := fun a op h ha => if_pos ha
  have hserves : ServesWithin (∃ a op h, asked a op h ∧ start (serve op) h = none) patched := by
    intro a op h
    refine ⟨fun hnone => ?_, fun _ _ _ => trivial⟩
    by_cases ha : asked a op h
    · exact ⟨a, op, h, ha, (hsame a op h ha).symm.trans hnone⟩
    · have hpanic : start (patched op) h = some (.error (.owned ""), h) := if_neg ha
      cases hpanic.symm.trans hnone
  exact (hm _ patched hserves s).1 ((hasked patched hsame).trans e)

end

/-- The loader is called, and a panic comes out before it hands over the rest of its work. -/
def PendingLoad.FirstPanics (serve : Server Host) (l : PendingLoad) (h : Host) (x : Panic) : Prop :=
  Unwinds (l.component.load.begin serve)
    (h.recorded (.entered (.panel l.panel) l.plugin .load l.installation)) x

namespace Panel

section
variable {tires breaks : Prop}

theorem current_within : Within tires breaks current :=
  within_bind within_get fun _ => within_pure _

theorem change_within (f : Panel → Panel) : Within tires breaks (change f) := within_modify _

theorem goTo_within (next : Stage) : Within tires breaks (goTo next) := within_modify _

theorem onHost_within {α : Type} {m : HostRun α} (h : Within tires breaks m) :
    Within tires breaks (onHost m) := within_below h

theorem session_within (id : Nat) : Within tires breaks (Host.session id) :=
  within_bind within_get fun _ => within_pure _

theorem context_within (id : Nat) (plugin : String) :
    Within tires breaks (Host.context id plugin) :=
  within_bind (session_within id) fun _ => within_pure _

theorem isEnabled_within (p : Panel) : Within tires breaks p.isEnabled :=
  within_bind (session_within _) fun _ => within_pure _

theorem startLoad_within (i : Installed Code) (c : Component Code) :
    Within tires breaks (startLoad i c) :=
  within_bind (change_within _) fun _ => within_bind current_within fun _ => within_pure _

theorem unsubscribeAll_within (l : List Subscription) :
    Within tires breaks (l.forM fun s => do let _ ← Host.unsubscribe s) :=
  within_forM (fun _ => within_bind (within_bind within_get fun _ =>
    within_bind (within_modify _) fun _ => within_pure _) fun _ => within_pure _) l

end

section
variable {tires breaks : Prop} {serve : Server Host} (hs : Host.ServesWithin tires serve)
include hs

theorem run_within (code : Code) : Within tires True (code.run serve) := by
  induction code using Code.run.induct with
  | case1 text => exact within_pure _
  | case2 f => exact within_pure _
  | case3 p => exact within_throw p trivial
  | case4 rest ih => exact ih
  | case5 a op rest ih => exact within_bind (hs a op) ih

theorem begin_within (code : Code) : Within tires True (code.begin serve) := by
  induction code using Code.run.induct with
  | case1 text => exact within_pure _
  | case2 f => exact within_pure _
  | case3 p => exact within_throw p trivial
  | case4 rest ih => exact within_pure _
  | case5 a op rest ih => exact within_bind (hs a op) ih

theorem report_within (p : Panel) (f : Failure) : Within tires breaks (report serve p f) :=
  within_bind (Host.record_within _) fun _ =>
    within_bind (Host.emit_within (run_within hs) _) fun _ => within_pure _

theorem guarded_within (plugin : String) (phase : Phase) (code : Code) :
    Within tires breaks (guarded serve plugin phase code) :=
  within_bind (within_contain (run_within hs code)) fun _ => within_pure _

theorem guardedRest_within (plugin : String) (phase : Phase) (code : Code) :
    Within tires True (guardedRest serve plugin phase code) :=
  within_bind (begin_within hs code) fun rest => guarded_within hs plugin phase rest

theorem runDestroy_within (p : Panel) : Within tires breaks (runDestroy serve p) := by
  unfold runDestroy
  split
  next c i hcomponent hsurface hinst =>
    cases i.definition.destroy with
    | none => exact within_pure _
    | some hook =>
      refine within_bind (Host.record_within _) fun _ =>
        within_bind (guarded_within hs _ _ _) fun r => ?_
      cases r with
      | ok _ => exact within_pure _
      | error f => exact report_within hs p f
  next => exact within_pure _

theorem teardown_within : Within tires breaks (teardown serve) :=
  within_bind current_within fun p => within_bind (change_within _) fun _ =>
    onHost_within (runDestroy_within hs p)

theorem fail_within (f : Failure) : Within tires breaks (fail serve f) :=
  within_bind current_within fun p => within_bind (onHost_within (report_within hs p f)) fun _ =>
    within_bind (change_within _) fun _ => goTo_within _

theorem leave_within (next : Stage) : Within tires breaks (leave serve next) :=
  within_bind (teardown_within hs) fun _ => within_bind (change_within _) fun _ => goTo_within _

theorem drop_within (p : Panel) : Within tires breaks (drop serve p) :=
  within_bind (runDestroy_within hs p) fun _ => unsubscribeAll_within p.subscriptions

theorem startFound_within (i : Installed Code) : Within tires breaks (startFound serve i) := by
  refine within_bind (change_within _) fun _ => within_bind current_within fun p => ?_
  cases p.surface with
  | main =>
    refine within_bind (onHost_within (isEnabled_within p)) fun enabled => ?_
    cases enabled with
    | false => exact within_bind (goTo_within _) fun _ => within_pure _
    | true =>
      refine within_bind (goTo_within _) fun _ => ?_
      cases i.definition.panel with
      | none => exact within_bind (fail_within hs _) fun _ => within_pure _
      | some c => exact within_bind (startLoad_within i c) fun _ => within_pure _
  | settings =>
    dsimp only
    cases i.definition.settings with
    | none => exact within_bind (goTo_within _) fun _ => within_pure _
    | some c =>
      exact within_bind (goTo_within _) fun _ =>
        within_bind (startLoad_within i c) fun _ => within_pure _

theorem startMount_within : Within tires breaks (startMount serve) := by
  have hwait : ∀ name, Within tires breaks (do
      match (← get).2.registry.get? name with
      | none => do
        onHost (Host.log .warn ("Plugin '" ++ name ++ "' is not registered"))
        goTo .notFound
        return none
      | some i => startFound serve i) := by
    intro name
    refine within_bind within_get fun s => ?_
    cases s.2.registry.get? name with
    | none =>
      exact within_bind (onHost_within (Host.record_within _)) fun _ =>
        within_bind (goTo_within _) fun _ => within_pure _
    | some i => exact startFound_within hs i
  refine within_bind current_within fun p => ?_
  cases p.stage with
  | mounted | errored | notFound => exact within_pure _
  | resolving | disabled | loading => exact hwait p.name

theorem load_within (l : PendingLoad) : Within tires True (load serve l) :=
  within_bind (Host.record_within _) fun _ =>
    within_bind (guardedRest_within hs _ _ _) fun _ => within_pure _

theorem runInit_within (i : Installed Code) : Within tires True (runInit serve i) := by
  refine within_bind current_within fun p => ?_
  split
  · refine within_bind (change_within _) fun _ => ?_
    cases i.definition.init with
    | none => exact within_pure _
    | some hook =>
      refine onHost_within (within_bind (Host.record_within _) fun _ =>
        within_bind (context_within _ _) fun c =>
          within_bind (guardedRest_within hs _ _ _) fun r => ?_)
      cases r with
      | ok _ => exact within_pure _
      | error f => exact report_within hs p f
  · exact within_pure _

theorem finishMount_within (o : LoadOutcome) : Within tires True (finishMount serve o) := by
  refine within_bind current_within fun p => ?_
  have hstage : Within tires True (do return (← current).stage) :=
    within_bind current_within fun _ => within_pure _
  dsimp only
  split
  · cases o.result with
    | error f => exact within_bind (fail_within hs f) fun _ => hstage
    | ok c =>
      refine within_bind (change_within _) fun _ => within_bind (goTo_within _) fun _ => ?_
      split
      · exact within_bind (runInit_within hs _) fun _ => hstage
      · exact hstage
  · exact hstage

theorem mount_within : Within tires True (mount serve) := by
  refine within_bind (startMount_within hs) fun o => ?_
  cases o with
  | none => exact within_bind current_within fun _ => within_pure _
  | some l => exact within_bind (onHost_within (load_within hs l)) fun o => finishMount_within hs o

/-- What a sync does to a mounted panel. -/
theorem lookAgain_within (p : Panel) : Within tires breaks (do
    if !(← get).2.registry.contains p.name then leave serve .notFound
    else if p.surface = .main then
      if !(← onHost p.isEnabled) then leave serve .disabled
    return (← current).stage) := by
  have hstage : Within tires breaks (do return (← current).stage) :=
    within_bind current_within fun _ => within_pure _
  have hleave : ∀ next, Within tires breaks (leave serve next >>= fun _ =>
      do return (← current).stage) := fun next =>
    within_bind (leave_within hs next) fun _ => hstage
  refine within_bind within_get fun s => ?_
  dsimp only
  split
  · exact hleave _
  · split
    · refine within_bind (onHost_within (isEnabled_within p)) fun enabled => ?_
      cases enabled with
      | false => exact hleave _
      | true => exact hstage
    · exact hstage

theorem sync_within : Within tires True (sync serve) := by
  refine within_bind current_within fun p => ?_
  refine within_bind (onHost_within (within_modify _)) fun _ => ?_
  cases p.stage with
  | resolving | disabled | loading => exact mount_within hs
  | notFound | errored => exact within_pure _
  | mounted => exact lookAgain_within hs p

theorem renderComponent_within : Within tires breaks (renderComponent serve) := by
  refine within_bind current_within fun p => ?_
  cases p.component with
  | none => exact within_pure _
  | some c =>
    refine within_bind (onHost_within (within_bind (Host.record_within _) fun _ =>
      within_bind (context_within _ _) fun _ => guarded_within hs _ _ _)) fun r => ?_
    cases r with
    | ok body => exact within_pure _
    | error f =>
      exact within_bind (teardown_within hs) fun _ => within_bind (fail_within hs f) fun _ =>
        within_bind current_within fun _ => within_pure _

theorem render_within : Within tires breaks (render serve) := by
  refine within_bind current_within fun p => ?_
  cases p.stillView with
  | none => exact renderComponent_within hs
  | some v => exact within_pure _

end

/-! ## What is outside the boundary -/

/-- The init hook is called for the plugin in the panel, and a panic comes out before it hands over
the rest of its work. -/
def InitPanics (serve : Server Host) (p : Panel) (h : Host) (x : Panic) : Prop :=
  p.surface = .main ∧ p.initFired = false ∧ ∃ i hook,
    p.installed = some i ∧ i.definition.init = some hook ∧
    Unwinds ((hook ((h.sessionAt p.session).context p.session p.name)).begin serve)
      (h.recorded (.entered (.panel p.serial) p.name .init i.serial)) x

/-- An outcome mounts the panel, and a panic comes out of the init hook. -/
def FinishPanics (serve : Server Host) (o : LoadOutcome) (p : Panel) (h : Host) (x : Panic) :
    Prop :=
  p.awaits o = true ∧ (∃ c, o.result = .ok c) ∧ p.InitPanics serve h x

/-- A load is started, and a panic comes out of its loader, or out of the init hook after it. -/
def MountPanics (serve : Server Host) (p : Panel) (h : Host) (x : Panic) : Prop :=
  ∃ l p₁ h₁, start (startMount serve) (p, h) = some (.ok (some l), p₁, h₁) ∧
    (l.FirstPanics serve h₁ x ∨
      ∃ o h₂, start (load serve l) h₁ = some (.ok o, h₂) ∧ p₁.FinishPanics serve o h₂ x)

/-- The host when it has been noted that the panel is looked at. -/
def unmarked (p : Panel) (h : Host) : Host :=
  { h with marked := h.marked.filter fun serial => serial != p.serial }

/-! ## Calls -/

/-- What can be asked of a panel. -/
inductive Call
  | startMount
  | load (l : PendingLoad)
  | finishMount (o : LoadOutcome)
  | mount
  | sync
  | render
  | drop

def Call.run (serve : Server Host) : Call → PanelRun Unit
  | .startMount => do let _ ← Panel.startMount serve
  | .load l => do let _ ← onHost (Panel.load serve l)
  | .finishMount o => do let _ ← Panel.finishMount serve o
  | .mount => do let _ ← Panel.mount serve
  | .sync => do let _ ← Panel.sync serve
  | .render => do let _ ← Panel.render serve
  | .drop => do onHost (Panel.drop serve (← current))

theorem call_within {tires : Prop} {serve : Server Host} (hs : Host.ServesWithin tires serve)
    (call : Call) : Within tires True (call.run serve) := by
  cases call with
  | startMount => exact within_bind (startMount_within hs) fun _ => within_pure _
  | load l => exact within_bind (onHost_within (load_within hs l)) fun _ => within_pure _
  | finishMount o => exact within_bind (finishMount_within hs o) fun _ => within_pure _
  | mount => exact within_bind (mount_within hs) fun _ => within_pure _
  | sync => exact within_bind (sync_within hs) fun _ => within_pure _
  | render => exact within_bind (render_within hs) fun _ => within_pure _
  | drop => exact within_bind current_within fun p => onHost_within (drop_within hs p)

/-- A panic that comes out of a call. -/
def Call.Breaks (serve : Server Host) (p : Panel) (h : Host) (x : Panic) : Call → Prop
  | .startMount | .render | .drop => False
  | .load l => l.FirstPanics serve h x
  | .finishMount o => p.FinishPanics serve o h x
  | .mount => p.MountPanics serve h x
  | .sync => p.Waits ∧ p.MountPanics serve (p.unmarked h) x

/-! ## What comes out of the calls -/

section
variable (serve : Server Host)

theorem guardedRest_unwinds_iff (plugin : String) (phase : Phase) (code : Code) (h : Host)
    (x : Panic) :
    Unwinds (guardedRest serve plugin phase code) h x ↔ Unwinds (code.begin serve) h x :=
  unwinds_bind_of_calm fun rest => guarded_within (Host.servesWithin_true serve) plugin phase rest

theorem load_unwinds_iff (l : PendingLoad) (h : Host) (x : Panic) :
    Unwinds (load serve l) h x ↔ l.FirstPanics serve h x := by
  have hrecord : start (Host.record (.entered (.panel l.panel) l.plugin .load l.installation)) h =
      some (.ok ⟨⟩, h.recorded (.entered (.panel l.panel) l.plugin .load l.installation)) := rfl
  rw [load, unwinds_bind_of_start hrecord]
  refine (unwinds_bind_of_calm (fun _ => within_pure _)).trans ?_
  exact guardedRest_unwinds_iff serve l.plugin .load l.component.load _ x

theorem runInit_unwinds_iff {p : Panel} {i : Installed Code} (hs : p.surface = .main)
    (hi : p.installed = some i) (h : Host) (x : Panic) :
    Unwinds (runInit serve i) (p, h) x ↔ p.InitPanics serve h x := by
  have hcurrent : start current (p, h) = some (.ok p, p, h) := rfl
  rw [runInit, unwinds_bind_of_start hcurrent]
  unfold InitPanics
  rw [hs, hi]
  cases p.initFired with
  | true => simp [Unwinds]
  | false =>
    have hfired : start (change fun p => { p with initFired := true }) (p, h) =
      some (.ok ⟨⟩, { p with initFired := true }, h) := rfl
    simp only [Bool.not_false, ↓reduceIte]
    rw [unwinds_bind_of_start hfired]
    cases hhook : i.definition.init with
    | none => simp [Unwinds, hhook]
    | some hook =>
      have hrecord : start (Host.record (.entered (.panel p.serial) p.name .init i.serial)) h =
        some (.ok ⟨⟩, h.recorded (.entered (.panel p.serial) p.name .init i.serial)) := rfl
      have hcontext : ∀ h : Host, start (Host.context p.session p.name) h =
        some (.ok ((h.sessionAt p.session).context p.session p.name), h) := fun _ => rfl
      dsimp only
      rw [onHost, unwinds_below, unwinds_bind_of_start hrecord, unwinds_bind_of_start (hcontext _)]
      refine (unwinds_bind_of_calm fun r => ?_).trans ?_
      · cases r with
        | ok _ => exact within_pure _
        | error f => exact report_within (Host.servesWithin_true serve) p f
      · simp [guardedRest_unwinds_iff, hhook]
        rfl

theorem initPanics_holding (p : Panel) (c : Component Code) (h : Host) (x : Panic) :
    (p.holding c).InitPanics serve h x ↔ p.InitPanics serve h x := by
  unfold holding enter
  split <;> rfl

theorem finishMount_unwinds_iff (o : LoadOutcome) (p : Panel) (h : Host) (x : Panic) :
    Unwinds (finishMount serve o) (p, h) x ↔ p.FinishPanics serve o h x := by
  have hcurrent : start current (p, h) = some (.ok p, p, h) := rfl
  have hstage : Calm (do return (← current).stage) :=
    within_bind current_within fun _ => within_pure _
  rw [finishMount, unwinds_bind_of_start hcurrent]
  unfold FinishPanics
  cases p.awaits o with
  | false => simpa using not_unwinds hstage _ x
  | true =>
    cases ho : o.result with
    | error f =>
      have hfail : Calm (fail serve f) := fail_within (Host.servesWithin_true serve) f
      simpa using not_unwinds (within_bind hfail fun _ => hstage) _ x
    | ok c =>
      have hgiven : start (change fun p => { p with component := some c }) (p, h) =
        some (.ok ⟨⟩, { p with component := some c }, h) := rfl
      have hgoTo : start (goTo .mounted) ({ p with component := some c }, h) =
        some (.ok ⟨⟩, p.holding c, h) := rfl
      have hmounted : ∀ i, p.surface = .main → p.installed = some i →
          (Unwinds (runInit serve i >>= fun _ => do return (← current).stage)
            (p.holding c, h) x ↔ p.InitPanics serve h x) := by
        intro i hs hi
        have hs' : (p.holding c).surface = .main := by rw [surface_enter, hs]
        have hi' : (p.holding c).installed = some i := by rw [installed_enter, hi]
        rw [unwinds_bind_of_calm fun _ => hstage, ← initPanics_holding serve p c]
        exact runInit_unwinds_iff serve hs' hi' h x
      simp only [↓reduceIte]
      rw [unwinds_bind_of_start hgiven, unwinds_bind_of_start hgoTo]
      split
      next i hs hi => simpa [ho] using hmounted i hs hi
      next hno =>
        have hcalm : ¬ p.InitPanics serve h x := by
          rintro ⟨hs, -, i, -, hi, -⟩
          exact hno i hs hi
        simpa [ho, hcalm] using not_unwinds hstage _ x

theorem mount_unwinds_iff (p : Panel) (h : Host) (x : Panic) :
    Unwinds (mount serve) (p, h) x ↔ p.MountPanics serve h x := by
  have hstart : ¬ Unwinds (startMount serve) (p, h) x :=
    not_unwinds (startMount_within (Host.servesWithin_true serve)) _ x
  rw [mount, unwinds_bind, or_iff_right hstart]
  constructor
  · rintro ⟨o, ⟨p₁, h₁⟩, e, hx⟩
    cases o with
    | none =>
      exact absurd hx (not_unwinds (within_bind current_within fun _ => within_pure _) _ x)
    | some l =>
      refine ⟨l, p₁, h₁, e, ?_⟩
      rcases unwinds_below_bind.mp hx with hx | ⟨o, h₂, e', hx⟩
      · exact .inl ((load_unwinds_iff serve l h₁ x).mp hx)
      · exact .inr ⟨o, h₂, e', (finishMount_unwinds_iff serve o p₁ h₂ x).mp hx⟩
  · rintro ⟨l, p₁, h₁, e, hx⟩
    refine ⟨some l, (p₁, h₁), e, unwinds_below_bind.mpr ?_⟩
    rcases hx with hx | ⟨o, h₂, e', hx⟩
    · exact .inl ((load_unwinds_iff serve l h₁ x).mpr hx)
    · exact .inr ⟨o, h₂, e', (finishMount_unwinds_iff serve o p₁ h₂ x).mpr hx⟩

theorem sync_unwinds_iff (p : Panel) (h : Host) (x : Panic) :
    Unwinds (sync serve) (p, h) x ↔ p.Waits ∧ p.MountPanics serve (p.unmarked h) x := by
  have hcurrent : start current (p, h) = some (.ok p, p, h) := rfl
  have hunmark : start (onHost p.unmark) (p, h) = some (.ok ⟨⟩, p, p.unmarked h) := rfl
  rw [sync, unwinds_bind_of_start hcurrent, unwinds_bind_of_start hunmark, ← mount_unwinds_iff]
  unfold Waits
  cases p.stage with
  | resolving | disabled | loading => simp
  | notFound | errored => simp [Unwinds]
  | mounted =>
    simpa using not_unwinds (lookAgain_within (Host.servesWithin_true serve) p) _ x

theorem call_unwinds_iff (call : Call) (p : Panel) (h : Host) (x : Panic) :
    Unwinds (call.run serve) (p, h) x ↔ call.Breaks serve p h x := by
  have hs := Host.servesWithin_true serve
  cases call with
  | startMount =>
    have hcalm : Calm (Call.startMount.run serve) :=
      within_bind (startMount_within hs) fun _ => within_pure _
    exact iff_of_false (not_unwinds hcalm _ x) id
  | render =>
    have hcalm : Calm (Call.render.run serve) :=
      within_bind (render_within hs) fun _ => within_pure _
    exact iff_of_false (not_unwinds hcalm _ x) id
  | drop =>
    have hcalm : Calm (Call.drop.run serve) :=
      within_bind current_within fun p => onHost_within (drop_within hs p)
    exact iff_of_false (not_unwinds hcalm _ x) id
  | load l =>
    refine (unwinds_bind_of_calm fun _ => within_pure _).trans ?_
    exact unwinds_below.trans (load_unwinds_iff serve l h x)
  | finishMount o =>
    refine (unwinds_bind_of_calm fun _ => within_pure _).trans ?_
    exact finishMount_unwinds_iff serve o p h x
  | mount =>
    refine (unwinds_bind_of_calm fun _ => within_pure _).trans ?_
    exact mount_unwinds_iff serve p h x
  | sync =>
    refine (unwinds_bind_of_calm fun _ => within_pure _).trans ?_
    exact sync_unwinds_iff serve p h x

end

/-- Whatever plugin code does, the host gets back from every call of a panel, as long as it gives up
no request of that call, with one exception: a panic that a loader or an init hook raises before it
hands over the rest of its work comes out of the load, of the second half of mounting, and of the
mount or sync that these are part of. -/
theorem calls_contained (serve : Server Host) (call : Call) (p : Panel) (h : Host) :
    (Host.Tires call.run serve (p, h) ∨ (∃ x, call.Breaks serve p h x) ∨
      ∃ t, start (call.run serve) (p, h) = some (.ok ⟨⟩, t)) ∧
    ∀ x, Unwinds (call.run serve) (p, h) x ↔ call.Breaks serve p h x := by
  have hbreaks := call_unwinds_iff serve call p h
  refine ⟨?_, hbreaks⟩
  match e : start (call.run serve) (p, h) with
  | none => exact .inl (Host.tires_of_start (fun _ _ hs => call_within hs call) e)
  | some (.error x, t) => exact .inr (.inl ⟨x, (hbreaks x).mp ⟨t, e⟩⟩)
  | some (.ok ⟨⟩, t) => exact .inr (.inr ⟨t, rfl⟩)

/-! ## A plugin that breaks -/

/-- A plugin with this loader and this init hook. -/
def brittle (load init : Code) : Definition Code :=
  { Definition.plain "brittle" "Brittle" with
    panel := some ⟨load, fun _ => .skip⟩
    init := some fun _ => init }

theorem brittle_check (load init : Code) : (brittle load init).check = .ok () := by
  have hname : PluginName.check "brittle" = .ok () := rfl
  have hblank : Text.allBlank "Brittle" = false := rfl
  simp [Definition.check, brittle, Definition.plain, hname, hblank]

/-- A host with the plugin installed and enabled for its user. -/
def brittleHost (load init : Code) : Host :=
  { Host.new .default .ignore (.memory .empty) .unreachable with
    registry := ((Registry.empty .ignore).install ⟨brittle load init, 1⟩
      (brittle_check load init)).2
    sessions := [{ Session.new (some "ada") with entries := [.new "brittle" true] }]
    lastSerial := 1 }

/-- A panel is made for the plugin and mounted; its stage, unless it is given up. -/
def tried (load init : Code) : Option (Except Panic Stage) :=
  (start (do
    let p ← create .main 0 "brittle"
    let (r, _) ← beside (mount (Host.server 1)) p
    resume r) (brittleHost load init)).map Prod.fst

/-- Raised in the rest of the work, a panic stops the panel or is reported. Raised before, it comes
out of the mount. -/
theorem first_part_unwinds :
    tried (.later (.panic (.owned "boom"))) .skip = some (.ok .errored) ∧
    tried (.panic (.owned "boom")) .skip = some (.error (.owned "boom")) ∧
    tried (.later .skip) (.later (.panic (.owned "boom"))) = some (.ok .mounted) ∧
    tried (.later .skip) (.panic (.owned "boom")) = some (.error (.owned "boom")) :=
  ⟨rfl, rfl, rfl, rfl⟩

end Panel
end Plugboard
