import Plugboard.Panel.Lifecycle

/-!
What it is for a panel to enter a stage: the stage is the new one and noted last, and nothing else of
the panel changes. What it holds in a stage is given to it and taken from it by the operations.

* `Panel.stopped`, `Panel.holding`, `Panel.emptied`, `Panel.vacated`: a panel that has failed, that has
  got its component, and that has lost it.
* `Panel.Sound`: what ties the fields of a panel together. `sound_enter` says when a panel that enters
  a stage is sound there; each operation is answerable for what it holds then.
-/
namespace Plugboard.Panel

/-- The stages in which a panel may still be mounted. -/
def Waits (p : Panel) : Prop :=
  p.stage = .resolving ∨ p.stage = .disabled ∨ p.stage = .loading

theorem Waits.ne_mounted {p : Panel} (hw : p.Waits) : p.stage ≠ .mounted := by
  rcases hw with h | h | h <;> simp [h]

theorem Waits.ne_errored {p : Panel} (hw : p.Waits) : p.stage ≠ .errored := by
  rcases hw with h | h | h <;> simp [h]

theorem stage_of_awaits {p : Panel} {o : LoadOutcome} (ha : p.awaits o = true) :
    p.stage = .loading :=
  beq_iff_eq.mp ((Bool.and_eq_true _ _).mp ha).1

theorem waits_of_awaits {p : Panel} {o : LoadOutcome} (ha : p.awaits o = true) : p.Waits :=
  .inr (.inr (stage_of_awaits ha))

@[simp] theorem stage_enter (p : Panel) (next : Stage) : (p.enter next).stage = next := by
  unfold enter
  split
  next hp => exact hp
  next => rfl

theorem enter_of_stage {p : Panel} {next : Stage} (hp : p.stage = next) : p.enter next = p :=
  if_pos hp

theorem transitions_enter (p : Panel) (next : Stage) :
    (p.enter next).transitions =
      if p.stage = next then p.transitions else p.transitions ++ [next] := by
  unfold enter
  split <;> rfl

/-- Entering a stage changes nothing else of a panel. -/
theorem enter_keeps {α : Type} (f : Panel → α) (p : Panel) (next : Stage)
    (hf : ∀ stage transitions, f { p with stage := stage, transitions := transitions } = f p) :
    f (p.enter next) = f p := by
  unfold enter
  split
  · rfl
  · exact hf next _

@[simp] theorem name_enter (p : Panel) (next : Stage) : (p.enter next).name = p.name :=
  enter_keeps Panel.name p next fun _ _ => rfl

@[simp] theorem surface_enter (p : Panel) (next : Stage) : (p.enter next).surface = p.surface :=
  enter_keeps Panel.surface p next fun _ _ => rfl

@[simp] theorem session_enter (p : Panel) (next : Stage) : (p.enter next).session = p.session :=
  enter_keeps Panel.session p next fun _ _ => rfl

@[simp] theorem serial_enter (p : Panel) (next : Stage) : (p.enter next).serial = p.serial :=
  enter_keeps Panel.serial p next fun _ _ => rfl

@[simp] theorem installed_enter (p : Panel) (next : Stage) :
    (p.enter next).installed = p.installed :=
  enter_keeps Panel.installed p next fun _ _ => rfl

@[simp] theorem component_enter (p : Panel) (next : Stage) :
    (p.enter next).component = p.component :=
  enter_keeps Panel.component p next fun _ _ => rfl

@[simp] theorem failure_enter (p : Panel) (next : Stage) : (p.enter next).failure = p.failure :=
  enter_keeps Panel.failure p next fun _ _ => rfl

@[simp] theorem initFired_enter (p : Panel) (next : Stage) :
    (p.enter next).initFired = p.initFired :=
  enter_keeps Panel.initFired p next fun _ _ => rfl

@[simp] theorem loads_enter (p : Panel) (next : Stage) : (p.enter next).loads = p.loads :=
  enter_keeps Panel.loads p next fun _ _ => rfl

/-! ## What a panel holds -/

/-- The panel when it has stopped with a failure. -/
abbrev stopped (p : Panel) (f : Failure) : Panel :=
  ({ p with failure := some f } : Panel).enter .errored

/-- The panel when it is mounted with its component. -/
abbrev holding (p : Panel) (c : Component Code) : Panel :=
  ({ p with component := some c } : Panel).enter .mounted

/-- The panel when its component was taken away. -/
abbrev emptied (p : Panel) : Panel := { p with component := none }

/-- The panel when it is about to leave the mounted stage. -/
abbrev vacated (p : Panel) : Panel := { p with component := none, initFired := false }

/-- The stage is the last one that was noted. A component is there in the mounted stage and only
there, a failure in the errored stage and only there. -/
structure Sound (p : Panel) : Prop where
  last : p.transitions.getLast? = some p.stage
  component : p.component.isSome ↔ p.stage = .mounted
  failure : p.failure.isSome ↔ p.stage = .errored

theorem last_enter {p : Panel} (hl : p.transitions.getLast? = some p.stage) (next : Stage) :
    (p.enter next).transitions.getLast? = some (p.enter next).stage := by
  rw [transitions_enter, stage_enter]
  split
  next hp => rw [hl, hp]
  next => exact List.getLast?_concat

/-- A panel is sound in the stage that it enters if it holds then what is held there. -/
theorem sound_enter {p : Panel} {next : Stage} (hl : p.transitions.getLast? = some p.stage)
    (hc : p.component.isSome ↔ next = .mounted) (hf : p.failure.isSome ↔ next = .errored) :
    (p.enter next).Sound where
  last := last_enter hl next
  component := by rwa [component_enter, stage_enter]
  failure := by rwa [failure_enter, stage_enter]

section
variable {p : Panel} (hp : p.Sound)
include hp

theorem Sound.component_eq_none (hm : p.stage ≠ .mounted) : p.component = none := by
  rw [← Option.not_isSome_iff_eq_none, hp.component]
  exact hm

theorem Sound.failure_eq_none (he : p.stage ≠ .errored) : p.failure = none := by
  rw [← Option.not_isSome_iff_eq_none, hp.failure]
  exact he

theorem Sound.exists_component (hm : p.stage = .mounted) : ∃ c, p.component = some c :=
  Option.isSome_iff_exists.mp (hp.component.mpr hm)

/-- A panel that holds nothing enters a stage in which nothing is held. -/
theorem Sound.enter (hw : p.Waits) {next : Stage} (hm : next ≠ .mounted) (he : next ≠ .errored) :
    (p.enter next).Sound :=
  sound_enter hp.last (by simp [hp.component_eq_none hw.ne_mounted, hm])
    (by simp [hp.failure_eq_none hw.ne_errored, he])

theorem Sound.holding (he : p.stage ≠ .errored) (c : Component Code) : (p.holding c).Sound :=
  sound_enter hp.last (by simp) (by simp [hp.failure_eq_none he])

theorem Sound.stopped (hm : p.stage ≠ .mounted) (f : Failure) : (p.stopped f).Sound :=
  sound_enter hp.last (by simp [hp.component_eq_none hm]) (by simp)

/-- What a mounted panel holds is taken away before it leaves the stage. -/
theorem Sound.leave (hm : p.stage = .mounted) {next : Stage} (hn : next ≠ .mounted)
    (he : next ≠ .errored) : (p.vacated.enter next).Sound :=
  sound_enter hp.last (by simp [hn]) (by simp [hp.failure_eq_none (by simp [hm]), he])

/-- It is taken away before the panel stops with a failure, too. -/
theorem Sound.stopped_emptied (f : Failure) : (p.emptied.stopped f).Sound :=
  sound_enter hp.last (by simp) (by simp)

end

end Plugboard.Panel
