import Plugboard.Proofs.Panel.Turns

/-!
What panels do to the host beside them. A relation between hosts that holds along requests of plugin
code, along what is done aside, and along a call that is written down, holds along mounting, along
rendering, and along a sync, whose unmarking is looked at on its own.
-/
namespace Plugboard

open Run

namespace Panel

/-- The relation holds between the hosts, whatever becomes of the panel. -/
def Alongside (R : Host → Host → Prop) (s t : Panel × Host) : Prop := R s.2 t.2

section
variable {R : Host → Host → Prop} [Std.Refl R] [IsTrans Host R]

instance : Std.Refl (Alongside R) := ⟨fun s => Std.Refl.refl s.2⟩

instance : IsTrans (Panel × Host) (Alongside R) := ⟨fun s t u => IsTrans.trans s.2 t.2 u.2⟩

theorem current_alongside : Along (Alongside R) current :=
  along_bind along_get fun _ => along_pure _

omit [IsTrans Host R] in
theorem change_alongside (f : Panel → Panel) : Along (Alongside R) (change f) :=
  along_modify fun s => Std.Refl.refl s.2

omit [IsTrans Host R] in
theorem goTo_alongside (next : Stage) : Along (Alongside R) (goTo next) := change_alongside _

omit [Std.Refl R] [IsTrans Host R] in
theorem onHost_alongside {α : Type} {m : HostRun α} (hm : Along R m) :
    Along (Alongside R) (onHost m) := fun s => (ends_onHost m s _).mpr (hm s.2)

theorem startLoad_alongside (i : Installed Code) (c : Component Code) :
    Along (Alongside R) (startLoad i c) :=
  along_bind (change_alongside _) fun _ => along_bind current_alongside fun _ => along_pure _

theorem stage_alongside : Along (Alongside R) (do return (← current).stage) :=
  along_bind current_alongside fun _ => along_pure _

variable (haside : ∀ h h', Host.Aside h h' → R h h')
include haside

omit [Std.Refl R] [IsTrans Host R] in
theorem isEnabled_alongside (p : Panel) : Along (Alongside R) (onHost p.isEnabled) :=
  onHost_alongside (Host.along_of_aside haside
    (along_bind (Host.session_aside p.session) fun _ => along_pure _))

variable {serve : Server Host} (hs : ∀ a (op : Op Code a), Along R (serve op))
  (hemit : ∀ e, Along R (Host.emit (Code.run serve) e))
  (hentered : ∀ caller plugin phase installation,
    Along R (Host.record (.entered caller plugin phase installation)))

section
include hemit

theorem report_along (p : Panel) (f : Failure) : Along R (report serve p f) :=
  along_bind (Host.along_of_aside haside (Host.log_aside _ _)) fun _ =>
    along_bind (hemit _) fun _ => along_pure _

theorem fail_alongside (f : Failure) : Along (Alongside R) (fail serve f) :=
  along_bind current_alongside fun p =>
    along_bind (onHost_alongside (report_along haside hemit p f)) fun _ =>
      along_bind (change_alongside _) fun _ => goTo_alongside _

theorem startFound_alongside (i : Installed Code) : Along (Alongside R) (startFound serve i) := by
  refine along_bind (change_alongside _) fun _ => along_bind current_alongside fun p => ?_
  cases p.surface with
  | main =>
    refine along_bind (isEnabled_alongside haside p) fun enabled => ?_
    cases enabled with
    | false => exact along_bind (goTo_alongside _) fun _ => along_pure _
    | true =>
      refine along_bind (goTo_alongside _) fun _ => ?_
      cases i.definition.panel with
      | none => exact along_bind (fail_alongside haside hemit _) fun _ => along_pure _
      | some c => exact along_bind (startLoad_alongside i c) fun _ => along_pure _
  | settings =>
    dsimp only
    cases i.definition.settings with
    | none => exact along_bind (goTo_alongside _) fun _ => along_pure _
    | some c =>
      exact along_bind (goTo_alongside _) fun _ =>
        along_bind (startLoad_alongside i c) fun _ => along_pure _

theorem lookUp_alongside (name : String) : Along (Alongside R) (do
    match (← get).2.registry.get? name with
    | none => do
      onHost (Host.log .warn ("Plugin '" ++ name ++ "' is not registered"))
      goTo .notFound
      return none
    | some i => startFound serve i) := by
  refine along_bind along_get fun s => ?_
  cases s.2.registry.get? name with
  | none =>
    exact along_bind (onHost_alongside (Host.along_of_aside haside (Host.log_aside _ _))) fun _ =>
      along_bind (goTo_alongside _) fun _ => along_pure _
  | some i => exact startFound_alongside haside hemit i

theorem startMount_alongside : Along (Alongside R) (startMount serve) := by
  refine along_bind current_alongside fun p => ?_
  cases p.stage with
  | mounted | errored | notFound => exact along_pure _
  | resolving | disabled | loading => exact lookUp_alongside haside hemit p.name

end

omit haside in
include hs in
theorem guarded_along (plugin : String) (phase : Phase) (code : Code) :
    Along R (guarded serve plugin phase code) :=
  along_bind (along_contain (Host.run_along hs code)) fun _ => along_pure _

omit haside in
include hs in
theorem guardedRest_along (plugin : String) (phase : Phase) (code : Code) :
    Along R (guardedRest serve plugin phase code) :=
  along_bind (Host.begin_along hs code) fun rest => guarded_along hs plugin phase rest

omit haside in
include hs hentered in
theorem load_along (l : PendingLoad) : Along R (load serve l) :=
  along_bind (hentered _ _ _ _) fun _ =>
    along_bind (guardedRest_along hs _ _ _) fun _ => along_pure _

include hs hemit hentered

theorem runInit_alongside (i : Installed Code) : Along (Alongside R) (runInit serve i) := by
  refine along_bind current_alongside fun p => ?_
  split
  · refine along_bind (change_alongside _) fun _ => ?_
    cases i.definition.init with
    | none => exact along_pure _
    | some hook =>
      refine onHost_alongside (along_bind (hentered _ _ _ _) fun _ =>
        along_bind (Host.along_of_aside haside (Host.context_aside _ _)) fun c =>
          along_bind (guardedRest_along hs _ _ _) fun r => ?_)
      cases r with
      | ok _ => exact along_pure _
      | error f => exact report_along haside hemit p f
  · exact along_pure _

theorem finishMount_alongside (o : LoadOutcome) : Along (Alongside R) (finishMount serve o) := by
  refine along_bind current_alongside fun p => ?_
  dsimp only
  split
  · cases o.result with
    | error f => exact along_bind (fail_alongside haside hemit f) fun _ => stage_alongside
    | ok c =>
      refine along_bind (change_alongside _) fun _ => along_bind (goTo_alongside _) fun _ => ?_
      split
      · exact along_bind (runInit_alongside haside hs hemit hentered _) fun _ => stage_alongside
      · exact stage_alongside
  · exact stage_alongside

theorem mount_alongside : Along (Alongside R) (mount serve) := by
  refine along_bind (startMount_alongside haside hemit) fun o => ?_
  cases o with
  | none => exact stage_alongside
  | some l =>
    exact along_bind (onHost_alongside (load_along hs hentered l)) fun o =>
      finishMount_alongside haside hs hemit hentered o

theorem runDestroy_along (p : Panel) : Along R (runDestroy serve p) := by
  unfold runDestroy
  split
  next c i hcomponent hsurface hinst =>
    cases i.definition.destroy with
    | none => exact along_pure _
    | some hook =>
      refine along_bind (hentered _ _ _ _) fun _ =>
        along_bind (guarded_along hs _ _ _) fun r => ?_
      cases r with
      | ok _ => exact along_pure _
      | error f => exact report_along haside hemit p f
  next => exact along_pure _

theorem teardown_alongside : Along (Alongside R) (teardown serve) :=
  along_bind current_alongside fun p => along_bind (change_alongside _) fun _ =>
    onHost_alongside (runDestroy_along haside hs hemit hentered p)

theorem leave_alongside (next : Stage) : Along (Alongside R) (leave serve next) :=
  along_bind (teardown_alongside haside hs hemit hentered) fun _ =>
    along_bind (change_alongside _) fun _ => goTo_alongside _

theorem lookAgain_alongside (p : Panel) : Along (Alongside R) (do
    if !(← get).2.registry.contains p.name then leave serve .notFound
    else if p.surface = .main then
      if !(← onHost p.isEnabled) then leave serve .disabled
    return (← current).stage) := by
  have hleave : ∀ next, Along (Alongside R) (leave serve next >>= fun _ =>
      do return (← current).stage) := fun next =>
    along_bind (leave_alongside haside hs hemit hentered next) fun _ => stage_alongside
  refine along_bind along_get fun s => ?_
  dsimp only
  split
  · exact hleave _
  · split
    · refine along_bind (isEnabled_alongside haside p) fun enabled => ?_
      cases enabled with
      | false => exact hleave _
      | true => exact stage_alongside
    · exact stage_alongside

theorem resync_alongside (p : Panel) : Along (Alongside R) (match p.stage with
    | .mounted => do
      if !(← get).2.registry.contains p.name then leave serve .notFound
      else if p.surface = .main then
        if !(← onHost p.isEnabled) then leave serve .disabled
      return (← current).stage
    | .resolving | .disabled | .loading => mount serve
    | .notFound | .errored => return p.stage) := by
  cases p.stage with
  | resolving | disabled | loading => exact mount_alongside haside hs hemit hentered
  | notFound | errored => exact along_pure _
  | mounted => exact lookAgain_alongside haside hs hemit hentered p

/-- After the panel has been unmarked. -/
theorem sync_unmarked (p : Panel) (h : Host) :
    Ends (sync serve) (p, h) fun _ t => R (p.unmarked h) t.2 := by
  rw [sync, ends_bind, ends_current]
  dsimp only
  rw [ends_bind, ends_onHost, unmark, ends_modify]
  exact resync_alongside haside hs hemit hentered p _

theorem sync_alongside (p : Panel) (h : Host) (hunmark : R h (p.unmarked h)) :
    Ends (sync serve) (p, h) fun _ t => R h t.2 :=
  (sync_unmarked haside hs hemit hentered p h).mono fun _ _ ht =>
    IsTrans.trans _ _ _ hunmark ht

theorem renderComponent_alongside : Along (Alongside R) (renderComponent serve) := by
  refine along_bind current_alongside fun p => ?_
  cases p.component with
  | none => exact along_pure _
  | some c =>
    refine along_bind (onHost_alongside ?_) fun r => ?_
    · exact along_bind (hentered _ _ _ _) fun _ =>
        along_bind (Host.along_of_aside haside (Host.context_aside _ _)) fun _ =>
          guarded_along hs _ _ _
    · cases r with
      | ok body => exact along_pure _
      | error f =>
        exact along_bind (teardown_alongside haside hs hemit hentered) fun _ =>
          along_bind (fail_alongside haside hemit f) fun _ =>
            along_bind current_alongside fun _ => along_pure _

theorem render_alongside : Along (Alongside R) (render serve) := by
  refine along_bind current_alongside fun p => ?_
  cases p.stillView with
  | none => exact renderComponent_alongside haside hs hemit hentered
  | some v => exact along_pure _

/-- Whatever is asked of the panel but to sync or to go. -/
theorem call_alongside (call : Call) (hc : call ≠ .sync ∧ call ≠ .drop) :
    Along (Alongside R) (call.run serve) := by
  cases call with
  | startMount => exact along_bind (startMount_alongside haside hemit) fun _ => along_pure _
  | load l => exact along_bind (onHost_alongside (load_along hs hentered l)) fun _ => along_pure _
  | finishMount o =>
    exact along_bind (finishMount_alongside haside hs hemit hentered o) fun _ => along_pure _
  | mount => exact along_bind (mount_alongside haside hs hemit hentered) fun _ => along_pure _
  | render => exact along_bind (render_alongside haside hs hemit hentered) fun _ => along_pure _
  | sync => exact absurd rfl hc.1
  | drop => exact absurd rfl hc.2

end
end Panel
end Plugboard
