import Plugboard.Proofs.Panel.Doings
import Plugboard.Proofs.Panel.Stages

/-!
Where a sync leaves a main panel. It is where the gate says, whatever the panel has been through
before, unless the load that the gate lets it in for has failed; and there a sync that finds the gate
as it was leaves it alone.

* `Host.gate`: where the gate says.
* `Panel.mount_comes`: a mount that hands something back, with the load in the middle of it.
* `sync_gate`, `mount_gate`: a panel that is mounted and one that waits are sent the same way.
* `start_sync_of_gate`: a panel that is where the gate says stays there.
* `Panel.sync_follows_gate`: what it comes to.
-/
namespace Plugboard

open Run

/-- Where the gate has a main panel of this plugin. -/
def Host.gate (h : Host) (session : Nat) (name : String) : Stage :=
  if h.registry.contains name then
    if (h.sessionAt session).isEnabled name then .mounted else .disabled
  else .notFound

theorem Host.gate_of_admits {h : Host} {session : Nat} {name : String}
    (ha : h.Admits session name) : h.gate session name = .mounted := by
  rw [gate, if_pos ha.1, if_pos ha.2]

theorem Host.gate_of_shut {h : Host} {session : Nat} {name : String}
    (hr : h.registry.contains name = true) (he : (h.sessionAt session).isEnabled name = false) :
    h.gate session name = .disabled := by
  rw [gate, if_pos hr, he]
  rfl

theorem Host.gate_of_missing {h : Host} {session : Nat} {name : String}
    (hr : h.registry.contains name = false) : h.gate session name = .notFound := by
  rw [gate, hr]
  rfl

theorem Host.admits_of_gate {h : Host} {session : Nat} {name : String}
    (hg : h.gate session name = .mounted) : h.Admits session name := by
  unfold gate at hg
  split at hg
  next hr =>
    split at hg
    next he => exact ⟨hr, he⟩
    next => cases hg
  next => cases hg

theorem Host.shut_of_gate {h : Host} {session : Nat} {name : String}
    (hg : h.gate session name = .disabled) :
    h.registry.contains name = true ∧ (h.sessionAt session).isEnabled name = false := by
  unfold gate at hg
  split at hg
  next hr =>
    split at hg
    next => cases hg
    next he => exact ⟨hr, Bool.eq_false_iff.mpr he⟩
  next => cases hg

namespace Panel

/-- The load that the panel is let in for fails. -/
def LoadFails (serve : Server Host) (p : Panel) (h : Host) (f : Failure) : Prop :=
  ∃ l p₁ h₁ o h₂, start (startMount serve) (p, h) = some (.ok (some l), p₁, h₁) ∧
    start (load serve l) h₁ = some (.ok o, h₂) ∧ o.result = .error f

/-! ## The first sync -/

section
variable {serve : Server Host} {p p' : Panel} {h h' : Host}

/-- What a mount hands back is the stage that it leaves the panel in. No load was started, or one
was, and its outcome was handed on. -/
theorem mount_comes (serve : Server Host) (p : Panel) (h : Host) :
    Ends (mount serve) (p, h) fun r t => ∀ x, r = .ok x → x = t.1.stage ∧
      ((start (startMount serve) (p, h) = some (.ok none, t) ∧ ∃ ds, Opens p h none ds t.1 t.2) ∨
        ∃ l ds p₁ h₁ o h₂ ds', start (startMount serve) (p, h) = some (.ok (some l), p₁, h₁) ∧
          Opens p h (some l) ds p₁ h₁ ∧ start (load serve l) h₁ = some (.ok o, h₂) ∧
          o.cycle = l.cycle ∧ Finishes serve o p₁ h₂ ds' t.1 t.2) := by
  rw [mount, ends_bind]
  intro r t hstart
  obtain ⟨o, ds, rfl, hm⟩ := startMount_opens p h _ _ hstart
  cases o with
  | none =>
    simp only [ends_bind, ends_current, ends_pure]
    rintro x ⟨⟩
    exact ⟨rfl, .inl ⟨hstart, ds, hm⟩⟩
  | some l =>
    dsimp only
    rw [ends_bind, ends_onHost]
    intro r h₂ hload
    cases r with
    | error e =>
      intro x hx
      cases hx
    | ok o =>
      have hcycle : o.cycle = l.cycle := by
        obtain ⟨ds', hl⟩ := load_loads l t.2 _ _ hload
        cases hl
        rfl
      refine ((finishMount_finishes o t.1 h₂).and (finishMount_returns o (t.1, h₂))).mono
        fun r u hu x hx => ?_
      obtain ⟨⟨ds', hf⟩, hreturns⟩ := hu
      exact ⟨hreturns x hx, .inr ⟨l, ds, t.1, t.2, o, h₂, ds', hstart, hm, hload, hcycle, hf⟩⟩

/-- Without a load to run, a panel that has waited is where the gate says. -/
theorem Opens.gate {ds : List Doing} (hm : Opens p h none ds p' h') (hs : p.surface = .main)
    (hw : p.Waits) : p'.stage = h.gate p.session p.name ∧ p'.stage ≠ .errored := by
  cases hm with
  | past hn => exact absurd hw hn
  | missing _ hr =>
    have hc : h.registry.contains p.name = false := by rw [Registry.contains, hr]; rfl
    simp [Host.gate_of_missing hc]
  | shut _ hr _ he =>
    have hc : h.registry.contains p.name = true := by rw [Registry.contains, hr]; rfl
    simp [Host.gate_of_shut hc he]
  | pageless _ _ hsettings => cases hs.symm.trans hsettings

/-- A load is started only for a panel that the gate lets in, and the panel then waits for it. -/
theorem Opens.letsIn {l : PendingLoad} {o : LoadOutcome} {ds : List Doing}
    (hm : Opens p h (some l) ds p' h') (hs : p.surface = .main) (ho : o.cycle = l.cycle) :
    h.Admits p.session p.name ∧ p'.awaits o = true := by
  cases hm with
  | letIn hw hr hc he =>
    refine ⟨⟨?_, he hs⟩, ?_⟩
    · rw [Registry.contains, hr]
      rfl
    · rw [awaits, ho]
      simp

/-- The outcome that the panel waits for decides whether it is mounted or stops. -/
theorem Finishes.decides {o : LoadOutcome} {ds : List Doing} (hf : Finishes serve o p h ds p' h')
    (ha : p.awaits o = true) :
    (∃ c, o.result = .ok c ∧ p'.stage = .mounted) ∨
      ∃ f, o.result = .error f ∧ p'.stage = .errored ∧ p'.failure = some f := by
  cases hf with
  | dropped hn => cases ha.symm.trans hn
  | @failed f _ _ _ ho =>
    exact .inr ⟨f, ho, stage_enter _ _, failure_enter _ _⟩
  | @plain c _ ho => exact .inl ⟨c, ho, stage_enter _ _⟩
  | @hooked c _ _ _ _ ho => exact .inl ⟨c, ho, stage_enter _ _⟩

/-- A panel that has waited is mounted, or otherwise sent, as the gate says, but for a load that has
failed. -/
theorem mount_gate (hp : p.Sound) (hs : p.surface = .main) (hw : p.Waits) {x : Stage}
    (run : start (mount serve) (p, h) = some (.ok x, p', h')) :
    x = p'.stage ∧
    (x = h.gate p.session p.name ∨
      x = .errored ∧ h.gate p.session p.name = .mounted ∧ ∃ f, p'.failure = some f) ∧
    ∀ f, p'.failure = some f ↔ p.LoadFails serve h f := by
  have hp' : p'.Sound := by
    obtain ⟨ds, hm⟩ := mount_mounts p h _ _ run
    exact hm.sound hp
  obtain ⟨rfl, ⟨hstart, ds, hm⟩ | ⟨l, ds, p₁, h₁, o, h₂, ds', hstart, hm, hload, hcycle, hf⟩⟩ :=
    mount_comes serve p h _ _ run x rfl
  · obtain ⟨hgate, hno⟩ := hm.gate hs hw
    refine ⟨rfl, .inl hgate, fun f => ⟨fun hfail => ?_, ?_⟩⟩
    · rw [hp'.failure_eq_none hno] at hfail
      cases hfail
    · rintro ⟨l, p₁, h₁, -, -, hstart', -⟩
      cases hstart.symm.trans hstart'
  · obtain ⟨hadm, ha⟩ := hm.letsIn hs hcycle
    have hgate := Host.gate_of_admits hadm
    have hfails : ∀ f, p.LoadFails serve h f ↔ o.result = .error f := by
      refine fun f => ⟨?_, fun ho => ⟨l, p₁, h₁, o, h₂, hstart, hload, ho⟩⟩
      rintro ⟨l', p₂, h₃, o', h₄, hstart', hload', ho'⟩
      cases hstart.symm.trans hstart'
      cases hload.symm.trans hload'
      exact ho'
    have hf : Finishes serve o p₁ h₂ ds' p' h' := hf
    rcases hf.decides ha with ⟨c, ho, hmounted⟩ | ⟨f, ho, herrored, hfail⟩
    · have hno : p'.stage ≠ .errored := by simp [hmounted]
      refine ⟨rfl, .inl (hmounted.trans hgate.symm), fun f => ?_⟩
      simp [hfails, ho, hp'.failure_eq_none hno]
    · refine ⟨rfl, .inr ⟨herrored, hgate, f, hfail⟩, fun f' => ?_⟩
      simp [hfails, ho, hfail]

theorem start_sync_of_waits (serve : Server Host) (hw : p.Waits) (h : Host) :
    start (sync serve) (p, h) = start (mount serve) (p, p.unmarked h) := by
  have hcurrent : start current (p, h) = some (.ok p, p, h) := rfl
  rw [sync, start_bind, hcurrent]
  rcases hw with hw | hw | hw
  all_goals
    simp only [hw]
    rfl

theorem Syncs.gate {ds : List Doing} (hm : Syncs serve p h ds p' h') (hs : p.surface = .main)
    (hp : p.stage = .mounted) : p'.stage = h.gate p.session p.name := by
  cases hm with
  | kept _ hk =>
    obtain ⟨hr, he⟩ := hk hp
    rw [hp, Host.gate_of_admits ⟨hr, he hs⟩]
  | missing _ hr => rw [stage_enter, Host.gate_of_missing hr]
  | shut _ hr _ he => rw [stage_enter, Host.gate_of_shut hr he]
  | mounted hw => simp [Waits, hp] at hw

/-- A sync sends a panel that is mounted where the gate says. -/
theorem sync_gate (hs : p.surface = .main) (hp : p.stage = .mounted) {x : Stage}
    (run : start (sync serve) (p, h) = some (.ok x, p', h')) :
    x = p'.stage ∧ x = h.gate p.session p.name := by
  have hw : ¬ p.Waits := by simp [Waits, hp]
  obtain ⟨ds, hm⟩ := sync_syncs p h _ _ run
  have hx : x = p'.stage := sync_returns p h hw _ _ run x rfl
  exact ⟨hx, hx.trans (hm.gate hs hp)⟩

/-! ## The second sync -/

theorem start_sync_of_admitted (serve : Server Host) (hs : p.surface = .main)
    (hp : p.stage = .mounted) (ha : h.Admits p.session p.name) :
    start (sync serve) (p, h) = some (.ok p.stage, p, p.unmarked h) := by
  have hcurrent : start current (p, h) = some (.ok p, p, h) := rfl
  have hunmark : start (onHost p.unmark) (p, h) = some (.ok ⟨⟩, p, p.unmarked h) := rfl
  have hr : (p.unmarked h).registry.contains p.name = true := ha.1
  have he : start (onHost p.isEnabled) (p, p.unmarked h) =
      some (.ok ((h.sessionAt p.session).isEnabled p.name), p, p.unmarked h) := rfl
  have hlast : start current (p, p.unmarked h) = some (.ok p, p, p.unmarked h) := rfl
  rw [sync, start_bind, hcurrent]
  simp only [start_bind, hunmark, hp, start_get, hr, hs, he, ha.2, Bool.not_true,
    Bool.false_eq_true, ↓reduceIte, hlast, start_pure]

/-- The plugin is found and not let in, as before. -/
theorem start_sync_of_shut (serve : Server Host) (hs : p.surface = .main)
    (hp : p.stage = .disabled) (hr : h.registry.contains p.name = true)
    (he : (h.sessionAt p.session).isEnabled p.name = false) :
    start (sync serve) (p, h) =
      some (.ok p.stage, { p with installed := h.registry.get? p.name }, p.unmarked h) := by
  obtain ⟨i, hi⟩ : ∃ i, h.registry.get? p.name = some i := Option.isSome_iff_exists.mp hr
  have hsame : (p.found i).enter .disabled = p.found i := enter_of_stage hp
  have hmount : start (startMount serve) (p, p.unmarked h) =
      some (.ok none, p.found i, p.unmarked h) := by
    have hcurrent : start current (p, p.unmarked h) = some (.ok p, p, p.unmarked h) := rfl
    have hchange : start (change fun p => { p with installed := some i }) (p, p.unmarked h) =
      some (.ok ⟨⟩, p.found i, p.unmarked h) := rfl
    have hcurrent' : start current (p.found i, p.unmarked h) =
      some (.ok (p.found i), p.found i, p.unmarked h) := rfl
    have he' : start (onHost (p.found i).isEnabled) (p.found i, p.unmarked h) =
      some (.ok ((h.sessionAt p.session).isEnabled p.name), p.found i, p.unmarked h) := rfl
    have hgo : start (goTo .disabled) (p.found i, p.unmarked h) =
      some (.ok ⟨⟩, (p.found i).enter .disabled, p.unmarked h) := rfl
    have hi' : (p.unmarked h).registry.get? p.name = some i := hi
    have hs' : (p.found i).surface = .main := hs
    simp only [startMount, startFound, start_bind, hcurrent, hp, start_get, hi', hchange, hcurrent',
      hs', he', he, Bool.false_eq_true, ↓reduceIte, hgo, hsame, start_pure]
  rw [start_sync_of_waits serve (.inr (.inl hp)), hi, mount, start_bind, hmount]
  rfl

end

theorem waits_or_mounted_or_stopped (p : Panel) :
    p.Waits ∨ p.stage = .mounted ∨ p.stage = .notFound ∨ p.stage = .errored := by
  unfold Waits
  cases p.stage <;> simp

/-- A sync leaves a panel alone that is where the gate says, or that has stopped. -/
theorem start_sync_of_gate (serve : Server Host) {p : Panel} (hs : p.surface = .main) {h : Host}
    (hp : p.stage = h.gate p.session p.name ∨ p.stage = .notFound ∨ p.stage = .errored) :
    ∃ i, start (sync serve) (p, h) =
      some (.ok p.stage, { p with installed := i }, p.unmarked h) := by
  rcases hp with hgate | hp
  · cases hstage : p.stage with
    | mounted =>
      have ha := Host.admits_of_gate (hgate.symm.trans hstage)
      exact ⟨p.installed, hstage ▸ start_sync_of_admitted serve hs hstage ha⟩
    | disabled =>
      obtain ⟨hr, he⟩ := Host.shut_of_gate (hgate.symm.trans hstage)
      exact ⟨_, hstage ▸ start_sync_of_shut serve hs hstage hr he⟩
    | notFound =>
      exact ⟨p.installed, hstage ▸ start_sync_of_stopped serve (.inl hstage) h⟩
    | resolving | loading | errored =>
      rw [hstage, Host.gate] at hgate
      split at hgate
      · split at hgate <;> cases hgate
      · cases hgate
  · exact ⟨p.installed, start_sync_of_stopped serve hp h⟩

/-- A sync of a main panel that is sound, as it is whatever it has been through: a panel that has
stopped is left alone, and what comes out of the sync is a panic of what runs outside the boundary.
Otherwise the panel is where the gate says. Only one that was not mounted may have stopped instead,
when the gate has let it in, and only with the failure of the load that it was let in for. A sync
that finds the gate as it was changes at most which installation the panel has found last: it calls
no code, and tells nobody. -/
theorem sync_follows_gate {p : Panel} (hp : p.Sound) (hs : p.surface = .main) (serve : Server Host)
    (h : Host) :
    (p.stage = .notFound ∨ p.stage = .errored →
      start (sync serve) (p, h) = some (.ok p.stage, p, p.unmarked h)) ∧
    (start (sync serve) (p, h) = none → Host.Tires sync serve (p, h)) ∧
    (∀ e, Unwinds (sync serve) (p, h) e ↔ Call.sync.Breaks serve p h e) ∧
    ∀ x p' h', start (sync serve) (p, h) = some (.ok x, p', h') →
      x = p'.stage ∧
      (p.stage = .mounted → x = h.gate p.session p.name) ∧
      (p.Waits →
        (x = h.gate p.session p.name ∨
          x = .errored ∧ h.gate p.session p.name = .mounted ∧ ∃ f, p'.failure = some f) ∧
        ∀ f, p'.failure = some f ↔ p.LoadFails serve (p.unmarked h) f) ∧
      ∀ serve' g, g.gate p.session p.name = h.gate p.session p.name →
        ∃ i, start (sync serve') (p', g) =
          some (.ok x, { p' with installed := i }, p'.unmarked g) := by
  refine ⟨fun hp => start_sync_of_stopped serve hp h,
    Host.tires_of_start fun _ _ hserve => sync_within hserve, sync_unwinds_iff serve p h, ?_⟩
  intro x p' h' run
  have hmounted : p.stage = .mounted → x = p'.stage ∧ x = h.gate p.session p.name := fun hp =>
    sync_gate hs hp run
  have hwaits : p.Waits → x = p'.stage ∧
      (x = h.gate p.session p.name ∨
        x = .errored ∧ h.gate p.session p.name = .mounted ∧ ∃ f, p'.failure = some f) ∧
      ∀ f, p'.failure = some f ↔ p.LoadFails serve (p.unmarked h) f := fun hw =>
    mount_gate (h := p.unmarked h) hp hs hw ((start_sync_of_waits serve hw h).symm.trans run)
  have hleft : x = p'.stage ∧
      (x = h.gate p.session p.name ∨ x = .notFound ∨ x = .errored) := by
    rcases p.waits_or_mounted_or_stopped with hw | hp | hp
    · obtain ⟨hx, hgate, -⟩ := hwaits hw
      exact ⟨hx, hgate.imp_right fun hx => .inr hx.1⟩
    · exact (hmounted hp).imp_right .inl
    · cases run.symm.trans (start_sync_of_stopped serve hp h)
      exact ⟨rfl, .inr hp⟩
  obtain ⟨rfl, hx⟩ := hleft
  refine ⟨rfl, fun hp => (hmounted hp).2, fun hw => (hwaits hw).2, fun serve' g hg => ?_⟩
  obtain ⟨ds, hm⟩ := sync_syncs p h _ _ run
  have hplace := hm.keeps fixed_place
  simp only [place, Prod.mk.injEq] at hplace
  obtain ⟨hsurface, hsession, hname⟩ := hplace
  refine start_sync_of_gate serve' (hsurface.trans hs) ?_
  rw [hsession, hname, hg]
  exact hx

open Course in
/-- A panel is mounted by a sync, and the next one finds nothing to do. -/
theorem sync_follows_gate_timer : ∃ p h,
    start (sync (Host.server 1)) timerCreated = some (.ok .mounted, p, h) ∧
    timerCreated.2.gate 0 "timer" = .mounted ∧ p.loads = 1 ∧
    ∃ i, start (sync (Host.server 1)) (p, h) =
      some (.ok .mounted, { p with installed := i }, p.unmarked h) := by
  obtain ⟨p, h, run, hgate, hloads⟩ : ∃ p h,
      start (sync (Host.server 1)) timerCreated = some (.ok .mounted, p, h) ∧
      h.gate 0 "timer" = .mounted ∧ p.loads = 1 := ⟨_, _, rfl, rfl, rfl⟩
  have hsound : timerCreated.1.Sound := ⟨rfl, by simp [timerCreated], by simp [timerCreated]⟩
  obtain ⟨-, -, -, hsync⟩ := sync_follows_gate hsound rfl (Host.server 1) timerCreated.2
  obtain ⟨-, -, -, hagain⟩ := hsync _ _ _ run
  exact ⟨p, h, run, rfl, hloads, hagain (Host.server 1) h hgate⟩

end Panel
end Plugboard
