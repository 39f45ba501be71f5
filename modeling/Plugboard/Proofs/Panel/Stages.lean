import Mathlib.Data.List.Chain
import Mathlib.Logic.Relation
import Plugboard.Proofs.Panel.Doings

/-!
The stages of a panel as a state machine, on either surface, in any order of its calls and with
anything happening to the host around them.

* `Stage.next`: the stages that may follow a stage. Nothing follows `notFound` and `errored`.
* `Orderly`: the invariant of a panel's record of its stages. `Orderly.enter` says when entering a
  stage keeps it, and `Turned.orderly` that every call enters only such stages. What the panel holds
  in a stage is `Sound`, which `Acts.sound` carries through every call.
* `mount_settles`, `sync_settles`, `render_shows`: where the calls that hand something back leave
  the panel.
* `Panel.stages_orderly`: what it comes to for a panel from its creation on.
-/
namespace Plugboard

open Run

namespace Stage

/-- The stages that may follow a stage. -/
def next : Stage → List Stage
  | .resolving => [.notFound, .disabled, .loading]
  | .disabled => [.notFound, .loading]
  | .loading => [.notFound, .disabled, .mounted, .errored]
  | .mounted => [.notFound, .disabled, .errored]
  | .notFound | .errored => []

/-- Whether a panel stays in a stage until something changes. -/
def isSettled : Stage → Bool
  | .resolving | .loading => false
  | .notFound | .disabled | .mounted | .errored => true

end Stage

/-- The stage of the panels that show a view. -/
def View.stage : View → Stage
  | .resolving => .resolving
  | .loading _ => .loading
  | .disabled _ _ => .disabled
  | .notFound _ _ => .notFound
  | .content _ _ => .mounted
  | .errored _ _ _ => .errored

namespace Panel

/-! ## The record of the stages -/

/-- The record begins with `resolving` and follows the edges up to the stage of the panel; only main
panels are gated. -/
structure Orderly (p : Panel) (s : Surface) : Prop where
  surface : p.surface = s
  first : p.transitions.head? = some .resolving
  last : p.transitions.getLast? = some p.stage
  chain : p.transitions.IsChain fun a b => b ∈ a.next
  gated : s = .settings → .disabled ∉ p.transitions

/-- What else changes of a panel is not in the record. -/
theorem Orderly.congr {p p' : Panel} {s : Surface} (ho : p.Orderly s)
    (hs : p'.surface = p.surface) (hp : p'.stage = p.stage)
    (ht : p'.transitions = p.transitions) : p'.Orderly s where
  surface := hs.trans ho.surface
  first := ht ▸ ho.first
  last := by rw [ht, hp, ho.last]
  chain := ht ▸ ho.chain
  gated := ht ▸ ho.gated

theorem Orderly.enter {p : Panel} {s : Surface} (ho : p.Orderly s) {next : Stage}
    (hn : p.stage = next ∨ next ∈ p.stage.next) (hd : s = .settings → next ≠ .disabled) :
    (p.enter next).Orderly s := by
  by_cases hsame : p.stage = next
  · rwa [enter_of_stage hsame]
  have ht : (p.enter next).transitions = p.transitions ++ [next] := by
    rw [transitions_enter, if_neg hsame]
  have hedge : next ∈ p.stage.next := hn.resolve_left hsame
  refine ⟨(surface_enter p next).trans ho.surface, ?_, last_enter ho.last next, ?_, ?_⟩
  · rw [ht, List.head?_append, ho.first]
    rfl
  · rw [ht, List.isChain_append]
    refine ⟨ho.chain, List.isChain_singleton _, ?_⟩
    intro a ha b hb
    rw [ho.last] at ha
    cases ha
    cases hb
    exact hedge
  · rw [ht]
    intro hsettings hmem
    rcases List.mem_append.mp hmem with hmem | hmem
    · exact ho.gated hsettings hmem
    · exact hd hsettings (List.mem_singleton.mp hmem).symm

theorem Orderly.stopped {p : Panel} {s : Surface} (ho : p.Orderly s)
    (hn : .errored ∈ p.stage.next) (f : Failure) : (p.stopped f).Orderly s :=
  Orderly.enter (p := { p with failure := some f }) (ho.congr rfl rfl rfl) (.inr hn) nofun

theorem Orderly.holding {p : Panel} {s : Surface} (ho : p.Orderly s)
    (hn : .mounted ∈ p.stage.next) (c : Component Code) : (p.holding c).Orderly s :=
  Orderly.enter (p := { p with component := some c }) (ho.congr rfl rfl rfl) (.inr hn) nofun

/-! ## What the calls do to the record -/

/-- While a panel waits, it may be found missing or disabled, or be loaded anew. -/
theorem Waits.edge {p : Panel} (hw : p.Waits) {next : Stage}
    (hn : next = .notFound ∨ next = .disabled ∨ next = .loading) :
    p.stage = next ∨ next ∈ p.stage.next := by
  rcases hw with hw | hw | hw
  all_goals rcases hn with rfl | rfl | rfl <;> simp [hw, Stage.next]

theorem Started.orderly {p p' : Panel} {h h' : Host} {o : Option PendingLoad}
    {s : Surface} (ho : p.Orderly s) (hm : Started p h o p' h') : p'.Orderly s := by
  have hfound : ∀ i, (p.found i).Orderly s := fun i => ho.congr rfl rfl rfl
  have hload : ∀ i, p.Waits → ((p.found i).enter .loading).Orderly s := fun i hw =>
    (hfound i).enter (hw.edge (.inr (.inr rfl))) nofun
  cases hm with
  | past => exact ho
  | missing hw => exact ho.enter (hw.edge (.inl rfl)) nofun
  | @disabled i hw hr hs =>
    refine (hfound i).enter (hw.edge (.inr (.inl rfl))) ?_
    rintro rfl
    cases hs.symm.trans ho.surface
  | @bare i _ hw => exact (hload i hw).stopped (by simp [Stage.next]) _
  | @pageless i hw => exact (hfound i).enter (hw.edge (.inl rfl)) nofun
  | @loading i c l hw => exact (hload i hw).congr rfl rfl rfl

theorem Finished.orderly {p p' : Panel} {h h' : Host} {o : LoadOutcome} {s : Surface}
    (ho : p.Orderly s) (hm : Finished p h o p' h') : p'.Orderly s := by
  cases hm with
  | dropped => exact ho
  | failed ha => exact ho.stopped (by simp [stage_of_awaits ha, Stage.next]) _
  | plain ha => exact ho.holding (by simp [stage_of_awaits ha, Stage.next]) _
  | @hooked c _ _ ha =>
    exact (ho.holding (by simp [stage_of_awaits ha, Stage.next]) c).congr rfl rfl rfl

theorem Mounted.orderly {p p' : Panel} {h h' : Host} {s : Surface} (ho : p.Orderly s)
    (hm : Mounted p h p' h') : p'.Orderly s := by
  cases hm with
  | short hm => exact hm.orderly ho
  | lost hm => exact hm.orderly ho
  | whole hm _ _ hf => exact hf.orderly (hm.orderly ho)

theorem Synced.orderly {p p' : Panel} {h h' : Host} {s : Surface} (ho : p.Orderly s)
    (hm : Synced p h p' h') : p'.Orderly s := by
  cases hm with
  | kept => exact ho
  | @left _ next hp hn =>
    have hbase : p.vacated.Orderly s := ho.congr rfl rfl rfl
    rcases hn with ⟨rfl, -⟩ | ⟨rfl, hs, -⟩
    · exact hbase.enter (by simp [hp, Stage.next]) nofun
    · refine hbase.enter (by simp [hp, Stage.next]) ?_
      rintro rfl
      cases hs.symm.trans ho.surface
  | mounted _ hm => exact hm.orderly ho

theorem Rendered.orderly {p p' : Panel} {h h' : Host} {s : Surface} (ho : p.Orderly s)
    (hm : Rendered p h p' h') : p'.Orderly s := by
  cases hm with
  | shown => exact ho
  | failed hp =>
    have hbase : p.emptied.Orderly s := ho.congr rfl rfl rfl
    exact hbase.stopped (by simp [hp, Stage.next]) _

theorem Turned.orderly {call : Call} {p p' : Panel} {h h' : Host} {s : Surface} (ho : p.Orderly s)
    (ht : Turned p h call p' h') : p'.Orderly s := by
  cases ht with
  | started hm => exact hm.orderly ho
  | finished hm => exact hm.orderly ho
  | mounted hm => exact hm.orderly ho
  | synced hm => exact hm.orderly ho
  | rendered hm => exact hm.orderly ho
  | loaded | dropped => exact ho

/-! ## Where the calls leave the panel -/

theorem settled_of_not_waits {p : Panel} (hw : ¬ p.Waits) : p.stage.isSettled = true := by
  unfold Waits at hw
  cases hstage : p.stage <;> simp [hstage, Stage.isSettled] at hw ⊢

theorem Started.settles {p p' : Panel} {h h' : Host} (hm : Started p h none p' h') :
    p'.stage.isSettled = true := by
  cases hm with
  | past hw => exact settled_of_not_waits hw
  | missing | disabled | bare | pageless => simp [Stage.isSettled]

/-- A panel waits for the load that it has just started. -/
theorem Started.awaits {p p' : Panel} {h h' : Host} {l : PendingLoad} {o : LoadOutcome}
    (hm : Started p h (some l) p' h') (ho : o.IsOf l) : p'.awaits o = true := by
  obtain ⟨-, hstage, hloads⟩ := hm.begun
  simp [Panel.awaits, hstage, hloads, ho.1]

theorem Finished.settles {p p' : Panel} {h h' : Host} {o : LoadOutcome} (ha : p.awaits o = true)
    (hm : Finished p h o p' h') : p'.stage.isSettled = true := by
  cases hm with
  | dropped hd => cases ha.symm.trans hd
  | failed | plain => simp [Stage.isSettled]
  | hooked => exact congrArg Stage.isSettled (stage_enter _ _)

theorem Synced.settles {p p' : Panel} {h h' : Host} (hw : ¬ p.Waits) (hm : Synced p h p' h') :
    p'.stage.isSettled = true := by
  cases hm with
  | kept => exact settled_of_not_waits hw
  | @left _ next _ hn =>
    rw [stage_enter]
    rcases hn with ⟨rfl, -⟩ | ⟨rfl, -⟩ <;> rfl
  | mounted hw' => exact absurd hw' hw

theorem ends_stage (s : Panel × Host) :
    Ends (do return (← current).stage) s fun r t => ∀ x, r = .ok x → x = t.1.stage := by
  simp only [ends_bind, ends_current, ends_pure]
  rintro x ⟨⟩
  rfl

theorem ends_bind_stage {α : Type} (m : PanelRun α) (s : Panel × Host) :
    Ends (m >>= fun _ => do return (← current).stage) s fun r t =>
      ∀ x, r = .ok x → x = t.1.stage := by
  rw [ends_bind]
  intro r t _
  cases r with
  | error e =>
    intro x hx
    cases hx
  | ok a => exact ends_stage t

section
variable {panel : Nat} {serve : Server Host}

theorem finishMount_returns (o : LoadOutcome) (s : Panel × Host) :
    Ends (finishMount serve o) s fun r t => ∀ x, r = .ok x → x = t.1.stage := by
  rw [finishMount, ends_bind, ends_current]
  dsimp only
  split
  · cases o.result with
    | error f => exact ends_bind_stage _ _
    | ok c =>
      dsimp only
      rw [ends_bind, ends_change]
      dsimp only
      rw [ends_bind, ends_goTo]
      dsimp only
      split
      · exact ends_bind_stage _ _
      · exact ends_stage _
  · exact ends_stage _

/-- What a sync hands back is the stage that it leaves the panel in, unless it mounts the panel. -/
theorem sync_returns (p : Panel) (h : Host) (hp : ¬ p.Waits) :
    Ends (sync serve) (p, h) fun r t => ∀ x, r = .ok x → x = t.1.stage := by
  simp only [sync, ends_bind (m := current), ends_current]
  rw [ends_bind, ends_onHost, unmark, ends_modify]
  cases hstage : p.stage with
  | resolving | disabled | loading => exact absurd (by simp [Waits, hstage]) hp
  | notFound | errored =>
    rw [ends_pure]
    rintro x ⟨⟩
    exact hstage.symm
  | mounted =>
    dsimp only
    rw [ends_bind, ends_get]
    dsimp only
    split
    · exact ends_bind_stage _ _
    · split
      · rw [ends_bind]
        intro r t _
        cases r with
        | error e =>
          intro x hx
          cases hx
        | ok enabled =>
          dsimp only
          split
          · exact ends_bind_stage _ _
          · exact ends_stage _
      · exact ends_stage _

variable (hs : Host.QuietServer panel serve)
include hs

theorem mount_settles (p : Panel) (h : Host) (hp : p.serial = panel) :
    Ends (mount serve) (p, h) fun r t =>
      ∀ x, r = .ok x → x = t.1.stage ∧ x.isSettled = true := by
  subst hp
  rw [mount, ends_bind]
  refine (startMount_ends hs p h rfl).mono fun r t ht => ?_
  obtain ⟨o, rfl, hm⟩ := ht
  cases o with
  | none =>
    simp only [ends_bind, ends_current, ends_pure]
    rintro x ⟨⟩
    exact ⟨rfl, hm.settles⟩
  | some l =>
    dsimp only
    rw [ends_bind, ends_onHost]
    refine (load_ends hs l t.2).mono fun r h₂ hl => ?_
    obtain ⟨hq, ho⟩ := hl
    cases r with
    | error e =>
      intro x hx
      cases hx
    | ok out =>
      have ha := hm.awaits (ho out rfl)
      have hf := finishMount_ends hs out t.1 h₂ (serial_of_started hm)
      refine (hf.and (finishMount_returns out (t.1, h₂))).mono fun r u hu x hx => ?_
      obtain ⟨hf, hreturns⟩ := hu
      obtain rfl := hreturns x hx
      exact ⟨rfl, hf.settles ha⟩

theorem sync_settles (p : Panel) (h : Host) (hp : p.serial = panel) :
    Ends (sync serve) (p, h) fun r t =>
      ∀ x, r = .ok x → x = t.1.stage ∧ x.isSettled = true := by
  by_cases hw : p.Waits
  · have hmount := mount_settles hs p
    simp only [sync, ends_bind (m := current), ends_current]
    rw [ends_bind, ends_onHost, unmark, ends_modify]
    rcases hw with hstage | hstage | hstage
    all_goals
      rw [hstage]
      exact hmount _ hp
  · refine ((sync_ends hs p h hp).and (sync_returns p h hw)).mono fun r t ht x hx => ?_
    obtain ⟨hm, hreturns⟩ := ht
    obtain rfl := hreturns x hx
    exact ⟨rfl, hm.settles hw⟩

/-- A mounted panel that is sound has a component to show. -/
theorem renderComponent_shows {p : Panel} (hp : p.Sound) (hm : p.stage = .mounted)
    (hserial : p.serial = panel) (h : Host) :
    Ends (renderComponent serve) (p, h) fun r t => ∃ v, r = .ok v ∧ v.stage = t.1.stage := by
  obtain ⟨c, hc⟩ := hp.exists_component hm
  rw [renderComponent, ends_bind, ends_current]
  simp only [hc]
  rw [ends_bind, ends_onHost]
  refine (renderCall_ends hs c p h).mono fun r h₁ hr => ?_
  obtain ⟨⟨x, rfl⟩, -⟩ := hr
  cases x with
  | ok body => exact (ends_pure _ _ _).mpr ⟨_, rfl, hm.symm⟩
  | error f =>
    dsimp only
    rw [ends_bind]
    refine (teardown_ends hs p h₁ hserial).mono fun r t hr => ?_
    obtain ⟨rfl, -, -⟩ := hr
    dsimp only
    rw [ends_bind]
    refine (fail_ends hs f t.1 t.2).mono fun r u hu => ?_
    obtain ⟨rfl, hpanel, -⟩ := hu
    simp only [ends_bind, ends_current, ends_pure]
    exact ⟨_, rfl, by rw [hpanel, stage_enter]; rfl⟩

/-- What is shown is what the stage says, also when showing it has failed. -/
theorem render_shows {p : Panel} (hp : p.Sound) (hserial : p.serial = panel) (h : Host) :
    Ends (render serve) (p, h) fun r t => ∃ v, r = .ok v ∧ v.stage = t.1.stage := by
  rw [render, ends_bind, ends_current]
  cases hv : p.stillView with
  | none =>
    simp only [hv]
    exact renderComponent_shows hs hp (stillView_eq_none_iff.mp hv) hserial h
  | some v =>
    simp only [hv]
    refine (ends_pure _ _ _).mpr ⟨v, rfl, ?_⟩
    cases hstage : p.stage with
    | mounted => cases hv.symm.trans (stillView_eq_none_iff.mpr hstage)
    | resolving | notFound | disabled | loading | errored =>
      simp only [stillView, hstage, Option.some.injEq] at hv
      rw [← hv]
      rfl

end

/-! ## Whole lives -/

/-- What may happen next: a call of the panel, which may end in a panic, or anything else that is
done to the host meanwhile. -/
inductive Step : Panel × Host → Panel × Host → Prop
  | call {s t : Panel × Host} {serve call r} (hs : Host.QuietServer s.1.serial serve)
      (e : start (Call.run serve call) s = some (r, t)) : Step s t
  | outside {p : Panel} {h h' : Host} : Step (p, h) (p, h')

abbrev Reaches : Panel × Host → Panel × Host → Prop := Relation.ReflTransGen Step

section
variable {surface : Surface} {s t : Panel × Host} (ho : s.1.Orderly surface)
include ho

theorem step_orderly (hstep : Step s t) : t.1.Orderly surface := by
  cases hstep with
  | call hs e => exact (call_ends hs _ s.1 s.2 rfl _ _ e).orderly ho
  | outside => exact ho

theorem reaches_orderly (hr : Reaches s t) : t.1.Orderly surface := by
  induction hr with
  | refl => exact ho
  | tail _ hstep ih => exact step_orderly ih hstep

end

section
variable {s t : Panel × Host} (hp : s.1.Sound)
include hp

theorem step_sound (hstep : Step s t) : t.1.Sound := by
  cases hstep with
  | call _ e =>
    obtain ⟨ds, ha⟩ := call_acts _ s.1 s.2 _ _ e
    exact ha.sound hp
  | outside => exact hp

theorem reaches_sound (hr : Reaches s t) : t.1.Sound := by
  induction hr with
  | refl => exact hp
  | tail _ hstep ih => exact step_sound ih hstep

end

theorem created_orderly (s : Surface) (session : Nat) (name : String) (h : Host) :
    Ends (create s session name) h fun r _ => ∀ p, r = .ok p → p.Orderly s ∧ p.Sound := by
  rw [ends_of_start (start_create s session name h)]
  rintro p ⟨⟩
  exact ⟨⟨rfl, rfl, rfl, List.isChain_singleton _, by simp⟩, ⟨rfl, by simp, by simp⟩⟩

/-- From its creation on, a panel's record of its stages begins with `resolving`, ends with the stage
the panel is in and follows the edges of `Stage.next`; a panel for settings is never disabled. It
holds a component when it is mounted and only then, and a failure when it has failed and only then.
A mount or sync that hands back a stage leaves the panel there, with nothing left to wait for, and a
render always shows the stage that it leaves the panel in. -/
theorem stages_orderly {s : Surface} {session : Nat} {name : String} {h₀ h₁ h : Host}
    {p₀ p : Panel} (made : start (create s session name) h₀ = some (.ok p₀, h₁))
    (run : Reaches (p₀, h₁) (p, h)) :
    p.transitions.head? = some .resolving ∧
    p.transitions.getLast? = some p.stage ∧
    p.transitions.IsChain (fun a b => b ∈ a.next) ∧
    (s = .settings → .disabled ∉ p.transitions) ∧
    (p.component.isSome ↔ p.stage = .mounted) ∧
    (p.failure.isSome ↔ p.stage = .errored) ∧
    ∀ serve, Host.QuietServer p.serial serve →
      (∀ x p' h', start (mount serve) (p, h) = some (.ok x, p', h') →
        x = p'.stage ∧ x.isSettled = true) ∧
      (∀ x p' h', start (sync serve) (p, h) = some (.ok x, p', h') →
        x = p'.stage ∧ x.isSettled = true) ∧
      ∀ r p' h', start (render serve) (p, h) = some (r, p', h') →
        ∃ v, r = .ok v ∧ v.stage = p'.stage := by
  obtain ⟨ho, hp⟩ := created_orderly s session name h₀ _ _ made p₀ rfl
  have ho : p.Orderly s := reaches_orderly ho run
  have hp : p.Sound := reaches_sound hp run
  refine ⟨ho.first, ho.last, ho.chain, ho.gated, hp.component, hp.failure,
    fun serve hs => ⟨?_, ?_, ?_⟩⟩
  · exact fun x p' h' e => mount_settles hs p h rfl _ _ e x rfl
  · exact fun x p' h' e => sync_settles hs p h rfl _ _ e x rfl
  · exact fun r p' h' e => render_shows hs hp rfl h _ _ e

open Course in
/-- A panel is mounted, its user logs out, and the panel looks again. The component is gone by then. -/
theorem stages_orderly_timer : ∃ p h,
    Reaches timerCreated (p, h) ∧
    timerMounted.1.component.isSome ∧
    p.transitions = [.resolving, .loading, .mounted, .disabled] ∧
    p.transitions.IsChain (fun a b => b ∈ a.next) ∧
    p.component = none ∧ (p.component.isSome ↔ p.stage = .mounted) := by
  let out : Host := { timerMounted.2 with
    sessions := timerMounted.2.sessions.map fun s => s.setToken none }
  obtain ⟨p, h, e, ht, hc⟩ : ∃ p h,
      start (Call.run (Host.server 1) .sync) (timerMounted.1, out) = some (.ok ⟨⟩, p, h) ∧
      p.transitions = [.resolving, .loading, .mounted, .disabled] ∧ p.component = none :=
    ⟨_, _, rfl, rfl, rfl⟩
  have made : start (create .main 0 "timer") timerHost =
      some (.ok timerCreated.1, timerCreated.2) := rfl
  have hmount : start (Call.run (Host.server 1) .mount) timerCreated =
      some (.ok ⟨⟩, timerMounted) := rfl
  have run : Reaches timerCreated (p, h) := by
    refine .tail (.tail (.single (.call (Host.server_quiet _ 1) hmount)) ?_)
      (.call (Host.server_quiet _ 1) e)
    exact .outside
  obtain ⟨-, -, hchain, -, hcomponent, -⟩ := stages_orderly made run
  exact ⟨p, h, run, rfl, ht, hchain, hc, hcomponent⟩

end Panel
end Plugboard
