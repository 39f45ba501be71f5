import Plugboard.Proofs.Panel.Hooks

/-!
The gate of a main panel: it is loaded and mounted only for a plugin that is registered, and enabled
for its user. The gate is read when the panel looks, which it does when a mount is started and when
it is synced, and not when a load comes to its end.

* `Watch`: a panel, its host, and the host as the panel saw it when it looked last.
* `Watch.Gated`: the invariant. A panel that is loading or mounted was let in when it looked last.
* `Watch.gated_at_last_look`: what it comes to for a panel from its creation on, with what becomes of
  a load when the panel looks meanwhile and is not let in.
* `Watch.mounted_after_disable`: a panel that has not looked in between.
-/
namespace Plugboard

open Run

/-- The plugin is registered, and enabled for the user of the session. -/
def Host.Admits (h : Host) (session : Nat) (name : String) : Prop :=
  h.registry.contains name = true ∧ (h.sessionAt session).isEnabled name = true

namespace Panel

/-- Where a panel stands: its surface, its session and the plugin that it is for. -/
def place (p : Panel) : Surface × Nat × String := (p.surface, p.session, p.name)

/-- A call that begins with a look at what decides about the panel. -/
def Call.Looks (p : Panel) : Call → Prop
  | .startMount | .mount => p.Waits
  | .sync => p.Waits ∨ p.stage = .mounted
  | .load _ | .finishMount _ | .render | .drop => False

/-- A panel that has been let in and has not been left since. -/
def IsIn (p : Panel) : Prop := p.stage = .loading ∨ p.stage = .mounted

/-! ## What the calls do -/

section
variable {p p' : Panel} {h h' : Host}

theorem Started.place {o : Option PendingLoad} (hm : Started p h o p' h') : p'.place = p.place := by
  cases hm <;> simp [Panel.place, found]

theorem Finished.place {o : LoadOutcome} (hm : Finished p h o p' h') : p'.place = p.place := by
  cases hm <;> simp [Panel.place]

theorem Mounted.place (hm : Mounted p h p' h') : p'.place = p.place := by
  cases hm with
  | short hm => exact hm.place
  | lost hm => exact hm.place
  | whole hm _ _ hf => exact hf.place.trans hm.place

theorem Synced.place (hm : Synced p h p' h') : p'.place = p.place := by
  cases hm with
  | kept => rfl
  | left => simp [Panel.place]
  | mounted _ hm => exact hm.place

theorem Turned.place {call : Call} (ht : Turned p h call p' h') : p'.place = p.place := by
  cases ht with
  | started hm => exact hm.place
  | finished hm => exact hm.place
  | mounted hm => exact hm.place
  | synced hm => exact hm.place
  | rendered hm => cases hm <;> simp [Panel.place]
  | loaded | dropped => rfl

theorem Turned.onward {call : Call} (ht : Turned p h call p' h') : Onward p p' := by
  cases ht with
  | started hm => exact started_onward hm
  | finished hm => exact finished_onward hm
  | mounted hm => exact mounted_onward hm
  | synced hm => exact synced_onward hm
  | rendered hm => exact rendered_onward hm
  | loaded | dropped => exact onward_refl p

theorem Started.admits {o : Option PendingLoad} (hm : Started p h o p' h') (hw : p.Waits)
    (hs : p.surface = .main) (hin : p'.IsIn) : h.Admits p.session p.name := by
  cases hm with
  | past hw' => exact absurd hw hw'
  | missing | disabled | bare | pageless => simp [IsIn] at hin
  | loading _ hr _ he =>
    refine ⟨?_, he hs⟩
    rw [Registry.contains, hr]
    rfl

theorem Mounted.admits (hm : Mounted p h p' h') (hw : p.Waits) (hs : p.surface = .main)
    (hin : p'.IsIn) : h.Admits p.session p.name := by
  cases hm with
  | short hm => exact hm.admits hw hs hin
  | lost hm => exact hm.admits hw hs hin
  | whole hm => exact hm.admits hw hs (.inl hm.begun.2.1)

/-- After a look a panel is in only if it is let in. -/
theorem Turned.admits {call : Call} (ht : Turned p h call p' h') (hl : call.Looks p)
    (hs : p.surface = .main) (hin : p'.IsIn) : h.Admits p.session p.name := by
  cases ht with
  | started hm => exact hm.admits hl hs hin
  | mounted hm => exact hm.admits hl hs hin
  | synced hm =>
    cases hm with
    | kept _ hk hw =>
      obtain ⟨hc, he⟩ := hk (hl.resolve_left hw)
      exact ⟨hc, he hs⟩
    | @left _ next _ hn =>
      unfold IsIn at hin
      rw [stage_enter] at hin
      rcases hn with ⟨rfl, -⟩ | ⟨rfl, -⟩ <;> simp at hin
    | mounted hw hm =>
      have hadm : (p.unmarked h).Admits p.session p.name := hm.admits hw hs hin
      exact hadm
  | loaded | finished | rendered | dropped => exact hl.elim

/-- Without a look no panel gets in. -/
theorem Turned.was_in {call : Call} (ht : Turned p h call p' h') (hl : ¬ call.Looks p)
    (hin : p'.IsIn) : p.IsIn := by
  cases ht with
  | started hm => exact hm.unchanged hl ▸ hin
  | finished hm =>
    cases hm with
    | dropped => exact hin
    | failed ha | plain ha | hooked ha => exact .inl (stage_of_awaits ha)
  | mounted hm =>
    cases hm with
    | short hm => exact hm.unchanged hl ▸ hin
    | lost hm | whole hm => exact absurd hm.begun.1 hl
  | synced hm =>
    cases hm with
    | kept => exact hin
    | left hp => exact absurd (.inr hp) hl
    | mounted hw => exact absurd (.inl hw) hl
  | rendered hm =>
    cases hm with
    | shown => exact hin
    | failed hp => exact .inr hp
  | loaded | dropped => exact hin

end

/-- An outcome that the panel does not wait for changes nothing. -/
theorem finishMount_of_not_awaits {serve : Server Host} {p : Panel} {o : LoadOutcome}
    (ha : p.awaits o = false) (h : Host) :
    start (finishMount serve o) (p, h) = some (.ok p.stage, p, h) := by
  have hcurrent : start current (p, h) = some (.ok p, p, h) := rfl
  rw [finishMount, start_bind, hcurrent]
  simp only [ha]
  rfl

end Panel

/-- A panel beside its host, with the host as it was when the panel looked last. -/
structure Watch where
  panel : Panel
  host : Host
  seen : Option Host

namespace Watch

/-- What may happen next: a call of the panel, which may end in a panic, or anything else that is
done to the host meanwhile. -/
inductive Step (w : Watch) : Watch → Prop
  | look {serve call r p h} (hl : call.Looks w.panel)
      (hs : Host.QuietServer w.panel.serial serve)
      (e : start (Panel.Call.run serve call) (w.panel, w.host) = some (r, p, h)) :
      Step w ⟨p, h, some w.host⟩
  | blind {serve call r p h} (hl : ¬ call.Looks w.panel)
      (hs : Host.QuietServer w.panel.serial serve)
      (e : start (Panel.Call.run serve call) (w.panel, w.host) = some (r, p, h)) :
      Step w ⟨p, h, w.seen⟩
  | outside {h} : Step w { w with host := h }

abbrev Reaches : Watch → Watch → Prop := Relation.ReflTransGen Step

/-- The invariant of a panel at this place. -/
structure Gated (session : Nat) (name : String) (w : Watch) : Prop where
  place : w.panel.place = (.main, session, name)
  letIn : w.panel.IsIn → ∃ h, w.seen = some h ∧ h.Admits session name

section
variable {session : Nat} {name : String} {w w' : Watch}

theorem step_gated (hg : w.Gated session name) (hstep : Step w w') : w'.Gated session name := by
  have hplace := hg.place
  cases hstep with
  | look hl hs e =>
    have ht := Panel.call_ends hs _ _ _ rfl _ _ e
    refine ⟨ht.place.trans hplace, fun hin => ⟨w.host, rfl, ?_⟩⟩
    have hadm := ht.admits hl (congrArg Prod.fst hplace) hin
    simp only [Panel.place, Prod.mk.injEq] at hplace
    rwa [hplace.2.1, hplace.2.2] at hadm
  | blind hl hs e =>
    have ht := Panel.call_ends hs _ _ _ rfl _ _ e
    exact ⟨ht.place.trans hplace, fun hin => hg.letIn (ht.was_in hl hin)⟩
  | outside => exact ⟨hplace, hg.letIn⟩

theorem reaches_gated (hg : w.Gated session name) (hr : Reaches w w') : w'.Gated session name := by
  induction hr with
  | refl => exact hg
  | tail _ hstep ih => exact step_gated ih hstep

theorem reaches_onward (hr : Reaches w w') : Panel.Onward w.panel w'.panel := by
  induction hr with
  | refl => exact Panel.onward_refl _
  | tail _ hstep ih =>
    cases hstep with
    | look _ hs e | blind _ hs e =>
      exact ih.trans (Panel.call_ends hs _ _ _ rfl _ _ e).onward
    | outside => exact ih

end

theorem created_gated (session : Nat) (name : String) (h : Host) :
    Ends (Panel.create .main session name) h fun r h' => ∀ p, r = .ok p →
      Gated session name ⟨p, h', none⟩ := by
  rw [ends_of_start (Panel.start_create .main session name h)]
  rintro p ⟨⟩
  refine ⟨rfl, fun hin => ?_⟩
  simp [Panel.IsIn] at hin

/-- A load that was started before the panel has looked and was not let in is never awaited again,
also when the panel is let in later. -/
theorem not_awaits_of_shut {session : Nat} {name : String} {w w' : Watch}
    (hg : w.Gated session name) (hshut : ∃ h, w.seen = some h ∧ ¬ h.Admits session name)
    (hr : Reaches w w') {o : LoadOutcome} (ho : o.cycle ≤ w.panel.loads) :
    w'.panel.awaits o = false := by
  obtain ⟨h, hseen, hno⟩ := hshut
  have hout : ¬ w.panel.IsIn := by
    intro hin
    obtain ⟨h', hseen', hadm⟩ := hg.letIn hin
    rw [hseen] at hseen'
    cases hseen'
    exact hno hadm
  have hon := reaches_onward hr
  rw [← Bool.not_eq_true]
  intro ha
  obtain ⟨hstage, hcycle⟩ : w'.panel.stage = .loading ∧ o.cycle = w'.panel.loads := by
    simpa [Panel.awaits] using ha
  have hloads : w'.panel.loads = w.panel.loads := by
    have := hon.loads
    omega
  exact hout (.inl (hon.loading hstage hloads).1)

/-- From its creation on, a main panel that is loading or mounted was let in when it looked last. A
load that was started before the panel has looked and was not let in is dropped whenever it comes to
its end, and nothing changes. -/
theorem gated_at_last_look {session : Nat} {name : String} {h₀ h₁ : Host} {p : Panel} {w : Watch}
    (made : start (Panel.create .main session name) h₀ = some (.ok p, h₁))
    (run : Reaches ⟨p, h₁, none⟩ w) :
    (w.panel.IsIn → ∃ h, w.seen = some h ∧ h.Admits session name) ∧
    ∀ serve l p₁ h₂ w₁ w₂, Host.QuietServer w.panel.serial serve →
      start (Panel.startMount serve) (w.panel, w.host) = some (.ok (some l), p₁, h₂) →
      Reaches ⟨p₁, h₂, some w.host⟩ w₁ → (∃ h, w₁.seen = some h ∧ ¬ h.Admits session name) →
      Reaches w₁ w₂ → ∀ server (o : LoadOutcome), o.cycle = l.cycle →
        start (Panel.finishMount server o) (w₂.panel, w₂.host) =
          some (.ok w₂.panel.stage, w₂.panel, w₂.host) := by
  have hg := reaches_gated (created_gated session name h₀ _ _ made p rfl) run
  refine ⟨hg.letIn, ?_⟩
  intro serve l p₁ h₂ w₁ w₂ hs e hbetween hshut hlater server o ho
  have hm : Panel.Started w.panel w.host (some l) p₁ h₂ := by
    obtain ⟨_, ⟨⟩, hm⟩ := Panel.startMount_ends hs _ _ rfl _ _ e
    exact hm
  obtain ⟨hw, -, hloads⟩ := hm.begun
  have hcall : start (Panel.Call.run serve .startMount) (w.panel, w.host) =
      some (.ok ⟨⟩, p₁, h₂) := by
    rw [Panel.Call.run, start_bind, e]
    rfl
  have hlooks : Panel.Call.Looks w.panel .startMount := hw
  have hstep : Step w ⟨p₁, h₂, some w.host⟩ := .look hlooks hs hcall
  have hg₁ := reaches_gated (step_gated hg hstep) hbetween
  have hcycle : o.cycle ≤ w₁.panel.loads := by
    rw [ho, ← hloads]
    exact (reaches_onward hbetween).loads
  exact Panel.finishMount_of_not_awaits (not_awaits_of_shut hg₁ hshut hlater hcycle) _

/-! ## A panel for a timer -/

open Course

def timerLoad : PendingLoad := ⟨"timer", 1, ⟨.later .skip, fun _ => .skip⟩, 2, 1⟩

def timerLoading : Panel × Host :=
  ({ timerCreated.1 with
     stage := .loading, transitions := [.resolving, .loading]
     installed := some ⟨timer, 1⟩, loads := 1 },
   timerCreated.2)

/-- The user logs out during the load, and the panel looks again before the load is done. -/
theorem gated_at_last_look_timer :
    let out : Host := { timerLoading.2 with sessions := [Session.new none] }
    ∃ p h h' o,
      start (Panel.sync (Host.server 1)) (timerLoading.1, out) = some (.ok .disabled, p, h) ∧
      start (Panel.load (Host.server 1) timerLoad) h = some (.ok o, h') ∧
      start (Panel.finishMount (Host.server 1) o) (p, h') = some (.ok .disabled, p, h') := by
  intro out
  have made : start (Panel.create .main 0 "timer") timerHost =
      some (.ok timerCreated.1, timerCreated.2) := rfl
  have hstart : start (Panel.startMount (Host.server 1)) timerCreated =
      some (.ok (some timerLoad), timerLoading) := rfl
  let left : Panel := { timerLoading.1 with
    stage := .disabled, transitions := [.resolving, .loading, .disabled] }
  have hsync : start (Panel.sync (Host.server 1)) (timerLoading.1, out) =
      some (.ok .disabled, left, out) := rfl
  have hcall : start (Panel.Call.run (Host.server 1) .sync) (timerLoading.1, out) =
      some (.ok ⟨⟩, left, out) := rfl
  obtain ⟨o, h', hload, ho⟩ : ∃ o h', start (Panel.load (Host.server 1) timerLoad) out =
      some (.ok o, h') ∧ o.cycle = timerLoad.cycle := ⟨_, _, rfl, rfl⟩
  have hlooks : Panel.Call.Looks timerLoading.1 .sync := .inl (.inr (.inr rfl))
  have hsynced : Reaches ⟨timerLoading.1, timerLoading.2, some timerCreated.2⟩
      ⟨left, out, some out⟩ :=
    .tail (.single (.outside (h := out))) (.look hlooks (Host.server_quiet _ 1) hcall)
  have hshut : ¬ out.Admits 0 "timer" := by
    rintro ⟨-, he⟩
    exact Bool.false_ne_true he
  obtain ⟨-, hdropped⟩ := gated_at_last_look made .refl
  refine ⟨left, out, h', o, hsync, hload, ?_⟩
  exact hdropped (Host.server 1) timerLoad timerLoading.1 timerLoading.2 ⟨left, out, some out⟩
    ⟨left, h', some out⟩ (Host.server_quiet _ 1) hstart hsynced ⟨out, rfl, hshut⟩
    (.single .outside) (Host.server 1) o ho

/-- The panel starts to be mounted, the store has written that the plugin is disabled for its user,
and the load comes to its end: whether the plugin was enabled then, the stage of the panel, and the
hooks it has called. -/
def disabledMeanwhile : PanelRun (Option (Bool × Stage × List (Phase × Nat))) := do
  match ← Panel.startMount (Host.server 1) with
  | none => return none
  | some l => do
    let o ← Panel.onHost (Panel.load (Host.server 1) l)
    Panel.onHost (Host.changeSession 0 fun s => (s.afterWrite "ada" (.new "timer" false)).2)
    let enabled ← Panel.onHost (← Panel.current).isEnabled
    let stage ← Panel.finishMount (Host.server 1) o
    let (p, h) ← get
    return some (enabled, stage, h.hooks p.serial)

/-- A panel that does not look during its load is mounted, and the init hook is called. -/
theorem mounted_after_disable : (start disabledMeanwhile timerCreated).map Prod.fst =
    some (.ok (some (false, .mounted, [(.init, 1)]))) := rfl

end Watch
end Plugboard
