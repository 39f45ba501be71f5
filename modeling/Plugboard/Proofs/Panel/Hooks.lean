import Mathlib.Logic.Relation
import Plugboard.Proofs.Panel.Turns

/-!
The hooks that a panel calls over its whole life, in any order of its operations and with anything
happening to the host around them.

* `Course`: a panel, its host, the loads on their way, and who has lodged in the panel: the plugins
  whose loaders produced the components that were mounted.
* `Course.Lodged`: the invariant. Its `calls` say that every stay that is over was begun by the init
  hook and ended by the destroy hook of the plugin that lodged there.
* `Course.hooks_paired`: what it comes to for a panel from its creation to its drop.
-/
namespace Plugboard

open Run

/-- The hook calls of a panel in which some plugins have lodged and one may still lodge. Panels for
settings call no hook. -/
def Surface.stayCalls (s : Surface) (gone : List (Installed Code))
    (present : Option (Installed Code)) : List (Phase × Nat) :=
  match s with
  | .main => gone.flatMap (fun i => i.initCall ++ i.destroyCall) ++
      present.elim [] Installed.initCall
  | .settings => []

structure Course where
  panel : Panel
  host : Host
  /-- The loads that were started, each with the plugin it was started for. -/
  pending : List (Installed Code × PendingLoad)
  arrived : List (Installed Code × LoadOutcome)
  /-- The plugins that have lodged in the panel and are gone, oldest first. -/
  gone : List (Installed Code)
  /-- The plugin whose loader produced the mounted component. -/
  present : Option (Installed Code)

namespace Course

def created (p : Panel) (h : Host) : Course := ⟨p, h, [], [], [], none⟩

/-- A turn of the panel. A plugin that is found moves in when the panel is mounted by it, and a
panel that is not mounted has no lodger any more. -/
def turn (c : Course) (found : Option (Installed Code)) (p : Panel) (h : Host) : Course :=
  { c with
    panel := p
    host := h
    gone := if p.stage = .mounted then c.gone else c.gone ++ c.present.toList
    present := if p.stage = .mounted then c.present.or found else none }

/-- The plugin that the panel finds when it looks for its own. -/
def found (c : Course) : Option (Installed Code) := c.host.registry.get? c.panel.name

/-- The loads that a first half of mounting leaves to be run. -/
def ordered (c : Course) (r : Except Panic (Option PendingLoad)) :
    List (Installed Code × PendingLoad) :=
  match r with
  | .ok (some l) => c.found.toList.map fun i => (i, l)
  | _ => []

/-- What may happen next: an operation of the panel, which may end in a panic, a load of its own, or
anything else that is done to the host meanwhile. -/
inductive Step (c : Course) : Course → Prop
  | startMount {serve r p h} (hs : Host.QuietServer c.panel.serial serve)
      (e : start (Panel.startMount serve) (c.panel, c.host) = some (r, p, h)) :
      Step c { c.turn none p h with pending := c.pending ++ c.ordered r }
  | load {serve i l r h} (hs : Host.QuietServer c.panel.serial serve) (hl : (i, l) ∈ c.pending)
      (e : start (Panel.load serve l) c.host = some (r, h)) :
      Step c { c with host := h, arrived := c.arrived ++ r.toOption.toList.map fun o => (i, o) }
  | finishMount {serve i o r p h} (hs : Host.QuietServer c.panel.serial serve)
      (ho : (i, o) ∈ c.arrived)
      (e : start (Panel.finishMount serve o) (c.panel, c.host) = some (r, p, h)) :
      Step c (c.turn (some i) p h)
  | mount {serve r p h} (hs : Host.QuietServer c.panel.serial serve)
      (e : start (Panel.mount serve) (c.panel, c.host) = some (r, p, h)) :
      Step c (c.turn c.found p h)
  | sync {serve r p h} (hs : Host.QuietServer c.panel.serial serve)
      (e : start (Panel.sync serve) (c.panel, c.host) = some (r, p, h)) :
      Step c (c.turn c.found p h)
  | render {serve r p h} (hs : Host.QuietServer c.panel.serial serve)
      (e : start (Panel.render serve) (c.panel, c.host) = some (r, p, h)) :
      Step c (c.turn none p h)
  | outside {h} (hq : Host.Quiet c.panel.serial c.host h) : Step c { c with host := h }

abbrev Reaches : Course → Course → Prop := Relation.ReflTransGen Step

end Course

/-! ## Loads on their way -/

namespace Panel

/-- What holds between a panel and an earlier self. A load that is still the newest one was started
by the plugin that the panel has found last. -/
structure Onward (p p' : Panel) : Prop where
  serial : p'.serial = p.serial
  surface : p'.surface = p.surface
  loads : p.loads ≤ p'.loads
  loading : p'.stage = .loading → p'.loads = p.loads →
    p.stage = .loading ∧ p'.installed = p.installed

theorem onward_refl (p : Panel) : Onward p p := ⟨rfl, rfl, Nat.le_refl _, fun hp _ => ⟨hp, rfl⟩⟩

theorem Onward.trans {p p' p'' : Panel} (h : Onward p p') (h' : Onward p' p'') : Onward p p'' where
  serial := h'.serial.trans h.serial
  surface := h'.surface.trans h.surface
  loads := Nat.le_trans h.loads h'.loads
  loading := by
    intro hp hl
    have hl' : p''.loads = p'.loads := by
      have := h.loads
      have := h'.loads
      omega
    obtain ⟨hp', hi'⟩ := h'.loading hp hl'
    obtain ⟨hp, hi⟩ := h.loading hp' (hl'.symm.trans hl)
    exact ⟨hp, hi'.trans hi⟩

/-- A turn that does not end in the loading stage. -/
theorem onward_of_stage {p p' : Panel} (hn : p'.serial = p.serial) (hs : p'.surface = p.surface)
    (hl : p'.loads = p.loads) (hp : p'.stage ≠ .loading) : Onward p p' :=
  ⟨hn, hs, Nat.le_of_eq hl.symm, fun h => absurd h hp⟩

theorem started_onward {p p' : Panel} {h h' : Host} {o : Option PendingLoad}
    (hm : Started p h o p' h') : Onward p p' := by
  cases hm with
  | past hw => exact onward_refl p
  | missing | disabled | bare | pageless =>
    exact onward_of_stage (by simp [found]) (by simp [found]) (by simp [found]) (by simp)
  | loading hw hr hc he hl =>
    refine ⟨by simp [found], by simp [found], by simp [hl], fun _ hloads => ?_⟩
    simp [hl] at hloads

theorem finished_onward {p p' : Panel} {h h' : Host} {o : LoadOutcome}
    (hm : Finished p h o p' h') : Onward p p' := by
  cases hm with
  | dropped ha => exact onward_refl p
  | failed | plain =>
    exact onward_of_stage (by simp) (by simp) (by simp) (by simp)
  | hooked =>
    refine onward_of_stage (serial_enter _ _) (surface_enter _ _) (loads_enter _ _) fun hp => ?_
    cases (stage_enter _ _).symm.trans hp

theorem mounted_onward {p p' : Panel} {h h' : Host} (hm : Mounted p h p' h') : Onward p p' := by
  cases hm with
  | short hm => exact started_onward hm
  | lost hm => exact started_onward hm
  | whole hm _ _ hf => exact (started_onward hm).trans (finished_onward hf)

theorem synced_onward {p p' : Panel} {h h' : Host} (hm : Synced p h p' h') : Onward p p' := by
  cases hm with
  | kept => exact onward_refl p
  | @left _ next _ hn =>
    have hnext : next ≠ .loading := by
      rcases hn with ⟨rfl, _⟩ | ⟨rfl, _⟩ <;> nofun
    exact onward_of_stage (serial_enter _ _) (surface_enter _ _) (loads_enter _ _)
      (by rwa [stage_enter])
  | mounted _ hm => exact mounted_onward hm

theorem rendered_onward {p p' : Panel} {h h' : Host} (hm : Rendered p h p' h') : Onward p p' := by
  cases hm with
  | shown => exact onward_refl p
  | failed => exact onward_of_stage (by simp) (by simp) (by simp) (by simp)

/-- What is known of a load by its number, the plugin it was started for, and the component that it
hands back. -/
structure Expects (p : Panel) (i : Installed Code) (cycle : Nat) (x : Option (Component Code)) :
    Prop where
  started : cycle ≤ p.loads
  latest : p.stage = .loading → cycle = p.loads → p.installed = some i
  component : ∀ y, x = some y → p.surface.component i.definition = some y

theorem Expects.onward {p p' : Panel} {i : Installed Code} {cycle : Nat}
    {x : Option (Component Code)} (he : p.Expects i cycle x) (h : Onward p p') :
    p'.Expects i cycle x where
  started := Nat.le_trans he.started h.loads
  latest := by
    intro hp hl
    have hl' : p'.loads = p.loads := by
      have := he.started
      have := h.loads
      omega
    obtain ⟨hp, hi⟩ := h.loading hp hl'
    exact hi.trans (he.latest hp (hl.trans hl'))
  component := fun y hy => by rw [h.surface]; exact he.component y hy

theorem Started.expects {p p' : Panel} {h h' : Host} {l : PendingLoad}
    (hm : Started p h (some l) p' h') :
    ∃ i, h.registry.get? p.name = some i ∧ p'.Expects i l.cycle (some l.component) := by
  cases hm with
  | @loading i c _ hw hr hc he hl =>
    refine ⟨i, hr, Nat.le_refl _, fun _ _ => installed_enter _ _, fun y hy => ?_⟩
    cases hy
    rw [hl]
    have hsurface := surface_enter (p.found i) .loading
    exact (congrArg (Surface.component · i.definition) hsurface).trans hc

theorem Expects.outcome {p : Panel} {i : Installed Code} {l : PendingLoad} {o : LoadOutcome}
    (he : p.Expects i l.cycle (some l.component)) (ho : o.IsOf l) :
    p.Expects i o.cycle o.result.toOption := by
  obtain ⟨hcycle, hc⟩ := ho
  refine ⟨hcycle ▸ he.started, hcycle ▸ he.latest, fun y hy => he.component y ?_⟩
  cases hr : o.result with
  | error f => simp [hr, Except.toOption] at hy
  | ok x =>
    rw [hr] at hy
    cases hy
    rw [hc _ hr]

/-! ## Who lodges in a panel -/

/-- The panel is mounted and holds the component of this plugin, or is not mounted and holds none. -/
def Houses (p : Panel) : Option (Installed Code) → Prop
  | none => p.stage ≠ .mounted ∧ p.component = none
  | some i => p.stage = .mounted ∧ ∃ x, p.component = some x ∧
      p.surface.component i.definition = some x ∧ p.installed = some i

theorem Houses.mounted_iff {p : Panel} {o : Option (Installed Code)} (h : p.Houses o) :
    p.stage = .mounted ↔ o.isSome := by
  cases o with
  | none => simpa using h.1
  | some i => simpa using h.1

theorem Houses.eq_none {p : Panel} {o : Option (Installed Code)} (h : p.Houses o)
    (hp : p.stage ≠ .mounted) : o = none := by
  simpa using mt h.mounted_iff.mpr hp

theorem Houses.component_eq_none {p : Panel} {o : Option (Installed Code)} (h : p.Houses o)
    (hp : p.stage ≠ .mounted) : p.component = none := by
  obtain rfl := h.eq_none hp
  exact h.2

/-- What the panel owes when it is left: the destroy hook of the plugin that lodges in it. -/
theorem Houses.lodger {p : Panel} {o : Option (Installed Code)} (h : p.Houses o) :
    p.lodger = if p.surface = .main then o else none := by
  unfold Panel.lodger
  cases o with
  | none =>
    rw [h.2]
    simp
  | some i =>
    obtain ⟨-, x, hx, -, hi⟩ := h
    rw [hx, hi]
    cases p.surface <;> rfl

/-- Only entering the mounted stage from another one is noted as such. -/
theorem count_enter (p : Panel) (next : Stage) :
    (p.enter next).transitions.count .mounted = p.transitions.count .mounted +
      if p.stage ≠ .mounted ∧ next = .mounted then 1 else 0 := by
  rw [transitions_enter]
  split
  next hp => simp [hp]
  next hp =>
    rw [List.count_append]
    by_cases hn : next = .mounted
    · rw [hn] at hp
      simp [hn, hp]
    · simp [hn]

theorem Started.unmounted {p p' : Panel} {h h' : Host} {o : Option PendingLoad}
    (hm : Started p h o p' h') (hw : p.Waits) : p.stage ≠ .mounted ∧ p'.stage ≠ .mounted := by
  refine ⟨hw.ne_mounted, ?_⟩
  cases hm with
  | past hw' => exact absurd hw hw'
  | missing | disabled | bare | pageless => simp
  | loading =>
    intro hp
    cases (stage_enter _ _).symm.trans hp

/-- The first half of mounting calls no hook, and brings no component. -/
theorem Started.quiet {p p' : Panel} {h h' : Host} {o : Option PendingLoad}
    (hm : Started p h o p' h') : Host.Quiet p.serial h h' ∧ p'.initFired = p.initFired ∧
      p'.component = p.component ∧
      p'.transitions.count .mounted = p.transitions.count .mounted := by
  have hfound : ∀ i, (p.found i).transitions = p.transitions := fun _ => rfl
  cases hm with
  | past => exact ⟨rfl, rfl, rfl, rfl⟩
  | missing _ _ hq | bare _ _ _ _ _ hq =>
    exact ⟨hq, by simp [found], by simp [found], by simp [count_enter, hfound]⟩
  | disabled | pageless =>
    exact ⟨rfl, by simp [found], by simp [found], by simp [count_enter, hfound]⟩
  | @loading i =>
    refine ⟨rfl, initFired_enter _ _, component_enter _ _, (count_enter _ _).trans ?_⟩
    simp [hfound]

end Panel

namespace Course

/-- The invariant of a panel's life: `n` is its serial number and `base` what was called in its name
before it was made. -/
structure Lodged (n : Nat) (s : Surface) (base : List (Phase × Nat)) (c : Course) : Prop where
  serial : c.panel.serial = n
  surface : c.panel.surface = s
  unfired : c.panel.stage ≠ .mounted → c.panel.stage ≠ .errored → c.panel.initFired = false
  home : c.panel.Houses c.present
  entries : c.panel.transitions.count .mounted = c.gone.length + c.present.toList.length
  calls : c.host.hooks n = base ++ s.stayCalls c.gone c.present

section
variable {n : Nat} {s : Surface} {base : List (Phase × Nat)} {c : Course}
  (hc : c.Lodged n s base)
include hc

/-- With the destroy hook that is owed, every stay is over. -/
theorem Lodged.calls_over :
    c.host.hooks n ++ c.panel.lodger.elim [] Installed.destroyCall =
      base ++ s.stayCalls (c.gone ++ c.present.toList) none := by
  rw [hc.calls, hc.home.lodger, hc.surface, List.append_assoc]
  congr 1
  cases s with
  | settings => rfl
  | main => cases c.present <;> simp [Surface.stayCalls]

theorem Lodged.outside {h : Host} (hq : Host.Quiet n c.host h) :
    Lodged n s base { c with host := h } :=
  { hc with calls := hq.trans hc.calls }

/-- A turn that leaves the panel as it is. -/
theorem Lodged.stay {h : Host} (hq : Host.Quiet n c.host h) (found : Option (Installed Code)) :
    Lodged n s base (c.turn found c.panel h) := by
  have hsame : c.turn found c.panel h = { c with host := h } := by
    unfold turn
    split
    next hp =>
      obtain ⟨i, hi⟩ := Option.isSome_iff_exists.mp (hc.home.mounted_iff.mp hp)
      rw [hi, Option.some_or]
    next hp =>
      rw [hc.home.eq_none hp, Option.toList_none, List.append_nil]
  rw [hsame]
  exact hc.outside hq

/-- A turn after which the panel is not mounted: the lodger, if there is one, is called to leave. -/
theorem Lodged.out {p : Panel} {h : Host} (ho : Panel.Onward c.panel p) (hp : p.stage ≠ .mounted)
    (hx : p.component = none) (hf : p.stage ≠ .errored → p.initFired = false)
    (ht : p.transitions.count .mounted = c.panel.transitions.count .mounted)
    (hh : h.hooks n = c.host.hooks n ++ c.panel.lodger.elim [] Installed.destroyCall)
    (found : Option (Installed Code)) : Lodged n s base (c.turn found p h) where
  serial := ho.serial.trans hc.serial
  surface := ho.surface.trans hc.surface
  unfired := fun _ => hf
  home := by simp [turn, hp, hx, Panel.Houses]
  entries := by simpa [turn, hp] using ht.trans hc.entries
  calls := by simpa [turn, hp] using hh.trans hc.calls_over

theorem Lodged.lodger_eq_none (hp : c.panel.stage ≠ .mounted) : c.panel.lodger = none := by
  rw [hc.home.lodger, hc.home.eq_none hp, ite_self]

/-- A turn that mounts the panel: a plugin moves in and its init hook is called. -/
theorem Lodged.into {i : Installed Code} {x : Component Code} {p : Panel} {h : Host}
    (ho : Panel.Onward c.panel p) (hp : c.panel.stage ≠ .mounted) (hstage : p.stage = .mounted)
    (hx : p.component = some x) (hi : p.surface.component i.definition = some x)
    (hinst : p.installed = some i)
    (ht : p.transitions.count .mounted = c.panel.transitions.count .mounted + 1)
    (hh : h.hooks n = c.host.hooks n ++ if s = .main then i.initCall else []) :
    Lodged n s base (c.turn (some i) p h) := by
  have hnone : c.present = none := hc.home.eq_none hp
  have hentries := hc.entries
  have hcalls := hc.calls
  rw [hnone] at hentries hcalls
  have hturn : c.turn (some i) p h = { c with panel := p, host := h, present := some i } := by
    simp [turn, hstage, hnone]
  rw [hturn]
  exact {
    serial := ho.serial.trans hc.serial
    surface := ho.surface.trans hc.surface
    unfired := fun h => absurd hstage h
    home := ⟨hstage, x, hx, hi, hinst⟩
    entries := by simpa [ht] using hentries
    calls := by
      rw [hh, hcalls]
      cases s <;> simp [Surface.stayCalls] }

theorem Lodged.started {p : Panel} {h : Host} {o : Option PendingLoad}
    (hm : Panel.Started c.panel c.host o p h) (found : Option (Installed Code)) :
    Lodged n s base (c.turn found p h) := by
  obtain ⟨hq, hfired, hcomponent, hcount⟩ := hm.quiet
  rw [hc.serial] at hq
  by_cases hw : c.panel.Waits
  · obtain ⟨hmounted, hp⟩ := hm.unmounted hw
    have hx := hcomponent.trans (hc.home.component_eq_none hmounted)
    refine hc.out (Panel.started_onward hm) hp hx ?_ hcount ?_ found
    · intro _
      rw [hfired, hc.unfired hmounted hw.ne_errored]
    · rw [hc.lodger_eq_none hmounted, Option.elim_none, List.append_nil, hq]
  · cases hm with
    | past => exact hc.stay hq found
    | missing hw' | disabled hw' | bare hw' | pageless hw' | loading hw' => exact absurd hw' hw

/-- The panel takes in the plugin that its newest load was started for. -/
theorem Lodged.finished {i : Installed Code} {o : LoadOutcome} {p : Panel} {h : Host}
    (he : c.panel.Expects i o.cycle o.result.toOption)
    (hm : Panel.Finished c.panel c.host o p h) : Lodged n s base (c.turn (some i) p h) := by
  have ho := Panel.finished_onward hm
  have hloading : c.panel.awaits o = true → c.panel.stage = .loading ∧ o.cycle = c.panel.loads :=
    fun ha => by simpa [Panel.awaits] using ha
  cases hm with
  | dropped ha => exact hc.stay rfl _
  | failed ha hr hq =>
    have hmounted : c.panel.stage ≠ .mounted := by simp [(hloading ha).1]
    rw [hc.serial] at hq
    have hx := hc.home.component_eq_none hmounted
    refine hc.out ho (by simp) (by simpa using hx) (by simp) (by simp [Panel.count_enter]) ?_ _
    rw [hc.lodger_eq_none hmounted, Option.elim_none, List.append_nil, hq]
  | @plain x ha hr hs =>
    obtain ⟨hstage, hcycle⟩ := hloading ha
    have hinst := he.latest hstage hcycle
    have hsettings : s = .settings := by
      rcases hs with hs | hs
      · exact hc.surface.symm.trans hs
      · cases hs.symm.trans hinst
    refine hc.into ho (by simp [hstage]) (by simp) (Panel.component_enter _ _) ?_
      (by simpa using hinst) ?_ ?_
    · exact ho.surface ▸ he.component x (by rw [hr]; rfl)
    · simp [Panel.count_enter, hstage]
    · simp [hsettings]
  | @hooked x j _ ha hr hs hj hh =>
    obtain ⟨hstage, hcycle⟩ := hloading ha
    have hinst := he.latest hstage hcycle
    obtain rfl : j = i := Option.some.inj (hj.symm.trans hinst)
    have hfired : c.panel.initFired = false :=
      hc.unfired (by simp [hstage]) (by simp [hstage])
    refine hc.into ho (by simp [hstage]) (Panel.stage_enter _ _) (Panel.component_enter _ _) ?_
      ((Panel.installed_enter _ _).trans hinst) ?_ ?_
    · exact ho.surface ▸ he.component x (by rw [hr]; rfl)
    · refine (Panel.count_enter _ _).trans ?_
      simp [hstage]
    · rw [hc.serial, hfired] at hh
      simpa [hc.surface.symm.trans hs] using hh

theorem Lodged.mounted {p : Panel} {h : Host} (hm : Panel.Mounted c.panel c.host p h) :
    Lodged n s base (c.turn c.found p h) := by
  cases hm with
  | short hm => exact hc.started hm _
  | lost hm hq =>
    rw [hc.serial] at hq
    exact (hc.started hm c.found).outside hq
  | @whole p₁ _ h₁ h₂ _ l o hm hq ho hf =>
    rw [hc.serial] at hq
    obtain ⟨i, hr, he⟩ := hm.expects
    obtain ⟨hmounted, hp₁⟩ := hm.unmounted hm.begun.1
    have hnone : c.present = none := hc.home.eq_none hmounted
    have hall := ((hc.started hm none).outside hq).finished (he.outcome ho) hf
    have hsame : ({ c.turn none p₁ h₁ with host := h₂ } : Course).turn (some i) p h =
        c.turn c.found p h := by
      simp [turn, found, hr, hp₁, hnone]
    rwa [hsame] at hall

theorem Lodged.synced {p : Panel} {h : Host} (hm : Panel.Synced c.panel c.host p h) :
    Lodged n s base (c.turn c.found p h) := by
  have ho := Panel.synced_onward hm
  cases hm with
  | kept hq => exact hc.stay (hc.serial ▸ hq) _
  | @left _ next hp hn hh =>
    have hnext : next ≠ .mounted := by
      rcases hn with ⟨rfl, _⟩ | ⟨rfl, _⟩ <;> nofun
    refine hc.out ho (by simpa using hnext) (Panel.component_enter _ _)
      (fun _ => Panel.initFired_enter _ _) ?_ (hc.serial ▸ hh) _
    refine (Panel.count_enter _ _).trans ?_
    rw [if_neg fun h => hnext h.2]
    rfl
  | mounted hw hm =>
    have hq : Host.Quiet n c.host (c.panel.unmarked c.host) := rfl
    exact (hc.outside hq).mounted hm

theorem Lodged.rendered {p : Panel} {h : Host} (hm : Panel.Rendered c.panel c.host p h) :
    Lodged n s base (c.turn none p h) := by
  have ho := Panel.rendered_onward hm
  cases hm with
  | shown hq => exact hc.stay (hc.serial ▸ hq) _
  | failed hp hh =>
    refine hc.out ho (by simp) (Panel.component_enter _ _) (by simp) ?_ (hc.serial ▸ hh) _
    simp [Panel.count_enter]

end

/-! ## Whole lives -/

/-- The invariant together with what is known of the loads on their way. -/
structure Sound (n : Nat) (s : Surface) (base : List (Phase × Nat)) (c : Course) : Prop where
  lodged : c.Lodged n s base
  pending : ∀ i l, (i, l) ∈ c.pending → c.panel.Expects i l.cycle (some l.component)
  arrived : ∀ i o, (i, o) ∈ c.arrived → c.panel.Expects i o.cycle o.result.toOption

section
variable {n : Nat} {s : Surface} {base : List (Phase × Nat)}

theorem Sound.turn {c : Course} (hc : c.Sound n s base) {p : Panel} {h : Host}
    {found : Option (Installed Code)} (ho : Panel.Onward c.panel p)
    (hl : Lodged n s base (c.turn found p h)) : Sound n s base (c.turn found p h) where
  lodged := hl
  pending := fun i l h => (hc.pending i l h).onward ho
  arrived := fun i o h => (hc.arrived i o h).onward ho

theorem step_sound {c c' : Course} (hc : c.Sound n s base) (hstep : Step c c') :
    c'.Sound n s base := by
  have hl := hc.lodged
  cases hstep with
  | @startMount _ r p h hs e =>
    obtain ⟨o, rfl, hm⟩ := Panel.startMount_ends hs _ _ rfl _ _ e
    have hturn := hc.turn (Panel.started_onward hm) (hl.started hm none)
    refine { lodged := { hturn.lodged with }, arrived := hturn.arrived, pending := ?_ }
    intro i l hi
    rcases List.mem_append.mp hi with hi | hi
    · exact hturn.pending i l hi
    · cases o with
      | none => simp [ordered] at hi
      | some l' =>
        obtain ⟨j, hj, he⟩ := hm.expects
        have hfound : c.found = some j := hj
        obtain ⟨rfl, rfl⟩ : i = j ∧ l = l' := by simpa [ordered, hfound] using hi
        exact he
  | @load _ i l r h hs hi e =>
    obtain ⟨hq, hr⟩ := Panel.load_ends hs l _ _ _ e
    rw [hl.serial] at hq
    refine { lodged := { hl.outside hq with }, pending := hc.pending, arrived := ?_ }
    intro j o hj
    rcases List.mem_append.mp hj with hj | hj
    · exact hc.arrived j o hj
    · cases r with
      | error p => simp [Except.toOption] at hj
      | ok o' =>
        obtain ⟨rfl, rfl⟩ : j = i ∧ o = o' := by simpa [Except.toOption] using hj
        exact (hc.pending j l hi).outcome (hr o rfl)
  | finishMount hs ho e =>
    have hm := Panel.finishMount_ends hs _ _ _ rfl _ _ e
    exact hc.turn (Panel.finished_onward hm) (hl.finished (hc.arrived _ _ ho) hm)
  | mount hs e =>
    have hm := Panel.mount_ends hs _ _ rfl _ _ e
    exact hc.turn (Panel.mounted_onward hm) (hl.mounted hm)
  | sync hs e =>
    have hm := Panel.sync_ends hs _ _ rfl _ _ e
    exact hc.turn (Panel.synced_onward hm) (hl.synced hm)
  | render hs e =>
    have hm := Panel.render_ends hs _ _ rfl _ _ e
    exact hc.turn (Panel.rendered_onward hm) (hl.rendered hm)
  | outside hq =>
    rw [hl.serial] at hq
    exact { hc with lodged := hl.outside hq }

theorem reaches_sound {c c' : Course} (hc : c.Sound n s base) (hr : Reaches c c') :
    c'.Sound n s base := by
  induction hr with
  | refl => exact hc
  | tail _ hstep ih => exact step_sound ih hstep

end

theorem created_sound {s : Surface} {session : Nat} {name : String} {h : Host} (n : Nat) :
    Ends (Panel.create s session name) h fun r h' => ∀ p, r = .ok p → p.serial = n →
      Sound n s (h.hooks n) (created p h') := by
  rw [ends_of_start (Panel.start_create s session name h)]
  rintro p hp hn
  cases hp
  exact {
    lodged := {
      serial := hn
      surface := rfl
      unfired := fun _ _ => rfl
      home := by simp [created, Panel.Houses]
      entries := rfl
      calls := by cases s <;> simp [created, Surface.stayCalls, Host.hooks] }
    pending := fun _ _ h => absurd h List.not_mem_nil
    arrived := fun _ _ h => absurd h List.not_mem_nil }

/-- The hook calls of a panel are pairs of an init and a destroy, and an init without its destroy
while the panel is mounted. Each pair belongs to the plugin whose loader produced the component that
was mounted meanwhile, and there are as many of them as times the panel was mounted. A drop ends
what is left open. -/
theorem hooks_paired {s : Surface} {session : Nat} {name : String} {h₀ h₁ : Host} {p : Panel}
    {c : Course} (made : start (Panel.create s session name) h₀ = some (.ok p, h₁))
    (run : Reaches (created p h₁) c) :
    c.panel.Houses c.present ∧
    c.panel.transitions.count .mounted = c.gone.length + c.present.toList.length ∧
    c.host.hooks p.serial = h₀.hooks p.serial ++ s.stayCalls c.gone c.present ∧
    ∀ serve r h, Host.QuietServer p.serial serve →
      start (Panel.drop serve c.panel) c.host = some (r, h) →
      r = .ok ⟨⟩ ∧ h.hooks p.serial =
        h₀.hooks p.serial ++ s.stayCalls (c.gone ++ c.present.toList) none := by
  have hc := (reaches_sound (created_sound p.serial _ _ made p rfl rfl) run).lodged
  refine ⟨hc.home, hc.entries, hc.calls, fun serve r h hs e => ?_⟩
  obtain ⟨hr, hh⟩ := Panel.drop_ends hs c.panel c.host hc.serial r h e
  rw [hc.serial, hc.calls_over] at hh
  exact ⟨hr, hh⟩

/-! ## A panel for a timer -/

/-- A plugin with both hooks. -/
def timer : Definition Code :=
  { Definition.plain "timer" "Timer" with
    panel := some ⟨.later .skip, fun _ => .skip⟩
    init := some fun _ => .later .skip
    destroy := some .skip }

/-- A host with the plugin installed and enabled for its user. -/
def timerHost : Host :=
  { Host.new .default .ignore (.memory .empty) .unreachable with
    registry := ((Registry.empty .ignore).install ⟨timer, 1⟩ rfl).2
    sessions := [{ Session.new (some "ada") with entries := [.new "timer" true] }]
    lastSerial := 1 }

def timerCreated : Panel × Host :=
  ({ name := "timer", surface := .main, session := 0, serial := 2, stage := .resolving,
     transitions := [.resolving], installed := none, component := none, failure := none,
     initFired := false, loads := 0,
     subscriptions := [⟨1, .enabled⟩, ⟨2, .disabled⟩] },
   { timerHost with
     bus := ((Bus.empty.on .enabled (.mark 2 "timer")).2.on .disabled (.mark 2 "timer")).2
     lastSerial := 2 })

def timerMounted : Panel × Host :=
  ({ timerCreated.1 with
     stage := .mounted, transitions := [.resolving, .loading, .mounted],
     installed := some ⟨timer, 1⟩, component := some ⟨.later .skip, fun _ => .skip⟩,
     initFired := true, loads := 1 },
   { timerCreated.2 with
     journal := [.entered (.panel 2) "timer" .load 1, .entered (.panel 2) "timer" .init 1] })

/-- The name was taken from the plugin and given to another installation of it. -/
def timerAgain : Host :=
  { timerMounted.2 with
    registry := ((Registry.empty .ignore).install ⟨timer, 3⟩ rfl).2
    lastSerial := 3 }

/-- One stay, from the creation of the panel over its mount to its drop. The destroy hook is that of
the plugin that was mounted, though the name belongs to another one by then. -/
theorem hooks_paired_timer : ∃ h,
    start (Panel.drop (Host.server 1) timerMounted.1) timerAgain = some (.ok ⟨⟩, h) ∧
    timerAgain.registry.get? "timer" = some ⟨timer, 3⟩ ∧
    h.hooks 2 = [(.init, 1), (.destroy, 1)] := by
  have hmount : Step (created timerCreated.1 timerCreated.2)
      ((created timerCreated.1 timerCreated.2).turn (some ⟨timer, 1⟩)
        timerMounted.1 timerMounted.2) :=
    .mount (r := .ok .mounted) (Host.server_quiet _ 1) rfl
  have hagain : Step ((created timerCreated.1 timerCreated.2).turn (some ⟨timer, 1⟩)
      timerMounted.1 timerMounted.2) ((created timerCreated.1 timerCreated.2).turn
        (some ⟨timer, 1⟩) timerMounted.1 timerAgain) :=
    .outside (h := timerAgain) rfl
  obtain ⟨h, e⟩ : ∃ h, start (Panel.drop (Host.server 1) timerMounted.1) timerAgain =
      some (.ok ⟨⟩, h) := ⟨_, rfl⟩
  have made : start (Panel.create .main 0 "timer") timerHost =
      some (.ok timerCreated.1, timerCreated.2) := rfl
  obtain ⟨-, -, -, hdrop⟩ := hooks_paired made ((Relation.ReflTransGen.single hmount).tail hagain)
  exact ⟨h, e, rfl, (hdrop _ _ _ (Host.server_quiet _ _) e).2⟩

end Course
end Plugboard
