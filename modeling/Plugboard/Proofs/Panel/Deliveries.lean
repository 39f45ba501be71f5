import Plugboard.Proofs.Panel.Reports

/-!
Outcomes of loads that are handed to a panel late, or to another panel than the one that has started
the load. A panel tells outcomes apart by a number alone, which counts the loads that it has started
itself.

* `StartsNone`: a call that starts no load brings no panel into the loading stage.
* `call_follows`: what each call does about the load that it starts.
* `Relay`: a panel with the loads that it has started and the outcomes that have come of them, which
  may be handed over at any time and in any order. `Relay.Due` says which of them is still wanted.
* `Relay.Kept`: the invariant. `awaits_iff_due`: the panel awaits exactly the outcome that is due.
* `Relay.late_loads_dropped`: what it comes to for a whole run.
* `Relay.foreign_load_dropped_iff`: when the outcome of another panel is dropped.
-/
namespace Plugboard

open Run

theorem LoadOutcome.standing_of_ok {o : LoadOutcome} {c : Component Code} (ho : o.result = .ok c) :
    o.standing = .mounted c := by
  rw [LoadOutcome.standing, ho]

theorem LoadOutcome.standing_of_error {o : LoadOutcome} {f : Failure} (ho : o.result = .error f) :
    o.standing = .errored f := by
  rw [LoadOutcome.standing, ho]

namespace Panel

/-! ## Calls, and the loads that they start -/

/-- No load was started, and a panel that is loading has been so all along. -/
structure StartsNone (p p' : Panel) : Prop where
  loads : p'.loads = p.loads
  loading : p'.stage = .loading → p.stage = .loading ∧ p'.transitions = p.transitions

theorem startsNone_refl (p : Panel) : StartsNone p p := ⟨rfl, fun hp => ⟨hp, rfl⟩⟩

theorem StartsNone.trans {p p' p'' : Panel} (h : StartsNone p p') (h' : StartsNone p' p'') :
    StartsNone p p'' where
  loads := h'.loads.trans h.loads
  loading hp := by
    obtain ⟨hp', ht'⟩ := h'.loading hp
    obtain ⟨hp, ht⟩ := h.loading hp'
    exact ⟨hp, ht'.trans ht⟩

theorem startsNone_of_stage {p p' : Panel} (hl : p'.loads = p.loads) (hp : p'.stage ≠ .loading) :
    StartsNone p p' := ⟨hl, fun h => absurd h hp⟩

section
variable {serve : Server Host} {p p' : Panel} {h h' : Host} {ds : List Doing}

theorem Opens.startsNone (hm : Opens p h none ds p' h') : StartsNone p p' := by
  cases hm with
  | past => exact startsNone_refl p
  | missing | shut | pageless =>
    exact startsNone_of_stage (by simp [found]) (by simp)

/-- A load is started in the name of the panel, and under the next number. -/
structure Starts (p : Panel) (l : PendingLoad) (p' : Panel) : Prop where
  plugin : l.plugin = p.name
  cycle : l.cycle = p.loads + 1
  loads : p'.loads = l.cycle
  stage : p'.stage = .loading
  noted : p.Sound → p'.transitions.getLast? = some .loading

theorem Opens.starts {l : PendingLoad} (hm : Opens p h (some l) ds p' h') : Starts p l p' := by
  have hsound : p.Sound → p'.Sound := fun hp => hm.sound hp
  cases hm with
  | letIn hw hr hc he hl =>
    subst hl
    have hstage : ∀ i, ((p.found i).enter .loading).stage = .loading := fun _ => stage_enter _ _
    exact ⟨rfl, rfl, rfl, hstage _, fun hp => (hsound hp).last.trans (congrArg some (hstage _))⟩

theorem Finishes.startsNone {o : LoadOutcome} (hf : Finishes serve o p h ds p' h') :
    StartsNone p p' := by
  cases hf with
  | dropped => exact startsNone_refl p
  | failed | plain => exact startsNone_of_stage (loads_enter _ _) (by simp)
  | hooked =>
    refine startsNone_of_stage (loads_enter _ _) fun hp => ?_
    cases (stage_enter _ _).symm.trans hp

theorem Syncs.startsNone (hs : Syncs serve p h ds p' h') (hw : ¬ p.Waits) : StartsNone p p' := by
  cases hs with
  | kept => exact startsNone_refl p
  | missing | shut => exact startsNone_of_stage (loads_enter _ _) (by simp)
  | mounted hw' => exact absurd hw' hw

theorem Renders.startsNone (hm : Renders serve p h ds p' h') : StartsNone p p' := by
  cases hm with
  | still | blank | shown => exact startsNone_refl p
  | failed => exact startsNone_of_stage (loads_enter _ _) (by simp)

end

/-- The load that the first half of mounting starts, with the panel as it is then. -/
def opened (serve : Server Host) (p : Panel) (h : Host) : Option (PendingLoad × Panel) :=
  match start (startMount serve) (p, h) with
  | some (.ok (some l), p', _) => some (l, p')
  | _ => none

/-- The load that a call starts. Mounting in one go begins with the first half, and so does a sync
of a panel that waits. -/
def Call.opened (serve : Server Host) (p : Panel) (h : Host) : Call → Option (PendingLoad × Panel)
  | .startMount | .mount => p.opened serve h
  | .sync => p.opened serve (p.unmarked h)
  | .load _ | .finishMount _ | .render | .drop => none

/-- The panel after a call, by the load that the call has started. -/
def Follows (p : Panel) : Option (PendingLoad × Panel) → Panel → Prop
  | none, p' => StartsNone p p'
  | some (l, p₁), p' => Starts p l p₁ ∧ StartsNone p₁ p'

section
variable {serve : Server Host}

theorem startMount_follows (p : Panel) (h : Host) :
    Ends (startMount serve) (p, h) fun r t => ∃ o, r = .ok o ∧
      p.opened serve h = o.map (·, t.1) ∧ Follows p (p.opened serve h) t.1 := by
  intro r t run
  obtain ⟨o, ds, rfl, hm⟩ := startMount_opens p h _ _ run
  refine ⟨o, rfl, ?_⟩
  unfold opened
  rw [run]
  cases o with
  | none => exact ⟨rfl, hm.startsNone⟩
  | some l => exact ⟨rfl, hm.starts, startsNone_refl _⟩

theorem mount_follows (p : Panel) (h : Host) :
    Ends (mount serve) (p, h) fun _ t => Follows p (p.opened serve h) t.1 := by
  rw [mount, ends_bind]
  refine (startMount_follows p h).mono fun r t hr => ?_
  obtain ⟨o, rfl, ho, hf⟩ := hr
  cases o with
  | none =>
    simp only [ends_bind, ends_current, ends_pure]
    exact hf
  | some l =>
    rw [ho] at hf ⊢
    dsimp only
    rw [ends_bind, ends_onHost]
    intro r h₂ _
    cases r with
    | error x => exact hf
    | ok o =>
      refine (finishMount_finishes o t.1 h₂).mono fun r u hr => ?_
      obtain ⟨ds, hfin⟩ := hr
      exact ⟨hf.1, hf.2.trans hfin.startsNone⟩

/-- A panel that does not wait starts no load. -/
theorem opened_of_not_waits {p : Panel} (hw : ¬ p.Waits) (h : Host) : p.opened serve h = none := by
  unfold opened
  split
  next l p' h' run =>
    obtain ⟨o, ds, ho, hm⟩ := startMount_opens p h _ _ run
    cases ho
    cases hm with
    | letIn hp => exact absurd hp hw
  next => rfl

theorem sync_follows (p : Panel) (h : Host) :
    Ends (sync serve) (p, h) fun _ t => Follows p (p.opened serve (p.unmarked h)) t.1 := by
  have hwait : p.Waits → Ends (sync serve) (p, h) fun _ t =>
      Follows p (p.opened serve (p.unmarked h)) t.1 := by
    intro hw
    have hmount : Ends (mount serve) (p, p.unmarked h) fun _ t =>
        Follows p (p.opened serve (p.unmarked h)) t.1 := mount_follows p (p.unmarked h)
    rw [sync, ends_bind, ends_current]
    dsimp only
    rw [ends_bind, ends_onHost, unmark, ends_modify]
    rcases hw with hstage | hstage | hstage
    all_goals
      rw [hstage]
      exact hmount
  by_cases hw : p.Waits
  · exact hwait hw
  · rw [opened_of_not_waits hw]
    exact (sync_syncs p h).mono fun _ _ hr => hr.elim fun _ hs => hs.startsNone hw

theorem call_follows (call : Call) (p : Panel) (h : Host) :
    Ends (call.run serve) (p, h) fun _ t => Follows p (call.opened serve p h) t.1 := by
  cases call with
  | startMount => exact ends_discard ((startMount_follows p h).mono fun _ _ ⟨_, _, _, hf⟩ => hf)
  | mount => exact ends_discard (mount_follows p h)
  | sync => exact ends_discard (sync_follows p h)
  | load l => exact ends_discard ((ends_onHost _ _ _).mpr fun _ _ _ => startsNone_refl p)
  | finishMount o =>
    exact ends_discard ((finishMount_finishes o p h).mono fun _ _ ⟨_, hf⟩ => hf.startsNone)
  | render => exact ends_discard ((render_renders p h).mono fun _ _ ⟨_, hm, _⟩ => hm.startsNone)
  | drop =>
    rw [Call.run, ends_bind, ends_current]
    exact (ends_onHost _ _ _).mpr fun _ _ _ => startsNone_refl p

end
end Panel

/-! ## A panel and its loads -/

/-- A panel on its host. Its loads are known by their place among those that were started. -/
structure Relay where
  panel : Panel
  host : Host
  started : List PendingLoad
  /-- The stages that the panel had entered when the newest load was started. -/
  entered : List Stage
  /-- What came of loads, each with the place of its load. -/
  arrived : List (Nat × LoadOutcome)

namespace Relay

/-- What may be done next. A load may be run more than once, also one that a mount has run, and an
outcome may be handed over more than once. -/
inductive Move
  /-- Any call of the panel, also with an outcome from elsewhere. -/
  | call (serve : Server Host) (call : Panel.Call)
  | load (serve : Server Host) (n : Nat)
  | deliver (serve : Server Host) (k : Nat)
  /-- Anything that is done to the host meanwhile. -/
  | outside (h : Host)

/-- A panel that was just made. -/
def fresh (p : Panel) (h : Host) : Relay := ⟨p, h, [], [], []⟩

def note (s : Relay) : Option (PendingLoad × Panel) → Relay
  | none => s
  | some (l, p) => { s with started := s.started ++ [l], entered := p.transitions }

/-- A call, which may end in a panic. -/
def act (s : Relay) (serve : Server Host) (call : Panel.Call) : Option Relay :=
  (start (call.run serve) (s.panel, s.host)).map fun x =>
    { s.note (call.opened serve s.panel s.host) with panel := x.2.1, host := x.2.2 }

/-- The relay after a move; none when there is no such load or outcome, or when the call is given
up. -/
def next (s : Relay) : Move → Option Relay
  | .call serve call => s.act serve call
  | .load serve n => do
    let l ← s.started[n]?
    let (r, h) ← start (Panel.load serve l) s.host
    return { s with host := h, arrived := s.arrived ++ (r.toOption.map (n, ·)).toList }
  | .deliver serve k => do
    let (_, o) ← s.arrived[k]?
    s.act serve (.finishMount o)
  | .outside h => some { s with host := h }

def play (s : Relay) (moves : List Move) : Option Relay := moves.foldlM next s

/-- The load at this place is the newest, and the panel has not left the loading stage since it was
started: every stage that is entered is noted. -/
def Due (s : Relay) (n : Nat) : Prop :=
  n + 1 = s.started.length ∧ s.panel.transitions = s.entered

instance (s : Relay) (n : Nat) : Decidable (s.Due n) :=
  inferInstanceAs (Decidable (n + 1 = s.started.length ∧ s.panel.transitions = s.entered))

/-- An outcome is handed over that is not due. -/
def isLate (s : Relay) : Move → Bool
  | .deliver _ k => (s.arrived[k]?).any fun x => !decide (s.Due x.1)
  | _ => false

/-- The moves without those that hand over an outcome late. -/
def timely (s : Relay) : List Move → List Move
  | [] => []
  | m :: moves =>
    let rest := match s.next m with
      | none => moves
      | some t => t.timely moves
    if s.isLate m then rest else m :: rest

/-! ## The invariant -/

structure Kept (s : Relay) : Prop where
  sound : s.panel.Sound
  loads : s.panel.loads = s.started.length
  loading : s.panel.stage = .loading → s.panel.transitions = s.entered
  last : s.started ≠ [] → s.entered.getLast? = some .loading
  started : ∀ n l, s.started[n]? = some l → l.plugin = s.panel.name ∧ l.cycle = n + 1
  arrived : ∀ n o, (n, o) ∈ s.arrived → ∃ l, s.started[n]? = some l ∧ o.IsOf l

theorem fresh_kept {surface : Surface} {session : Nat} {name : String} {h₀ h : Host} {p : Panel}
    (made : start (Panel.create surface session name) h₀ = some (.ok p, h)) :
    (fresh p h).Kept := by
  rw [Panel.start_create] at made
  cases made
  exact ⟨⟨rfl, by simp [fresh], by simp [fresh]⟩, rfl, nofun, fun hn => absurd rfl hn, nofun, nofun⟩

section
variable {s t : Relay}

theorem act_kept (hk : s.Kept) {serve : Server Host} {call : Panel.Call}
    (run : s.act serve call = some t) : t.Kept := by
  obtain ⟨x, e, rfl⟩ := Option.map_eq_some_iff.mp run
  have hf := Panel.call_follows call s.panel s.host _ _ e
  obtain ⟨ds, ha⟩ := Panel.call_acts call s.panel s.host _ _ e
  have hname : x.2.1.name = s.panel.name := ha.keeps Panel.fixed_name
  cases ho : call.opened serve s.panel s.host with
  | none =>
    rw [ho] at hf
    refine ⟨ha.sound hk.sound, hf.loads.trans hk.loads, fun hp => ?_, hk.last, fun n l hl => ?_,
      hk.arrived⟩
    · obtain ⟨hbefore, ht⟩ := hf.loading hp
      exact ht.trans (hk.loading hbefore)
    · rw [hname]
      exact hk.started n l hl
  | some y =>
    obtain ⟨l, p₁⟩ := y
    rw [ho] at hf
    obtain ⟨hs, hf⟩ := hf
    have hcycle : l.cycle = s.started.length + 1 := hs.cycle.trans (congrArg (· + 1) hk.loads)
    have hlength : (s.started ++ [l]).length = s.started.length + 1 := List.length_append
    refine ⟨ha.sound hk.sound, ?_, fun hp => (hf.loading hp).2, fun _ => hs.noted hk.sound,
      fun n l' hl => ?_, fun n o hmem => ?_⟩
    · exact (hf.loads.trans hs.loads).trans (hcycle.trans hlength.symm)
    · have hl : (s.started ++ [l])[n]? = some l' := hl
      have hold : s.started[n]? = some l' ∨ n = s.started.length ∧ l = l' := by grind
      rw [hname]
      rcases hold with hold | ⟨rfl, rfl⟩
      · exact hk.started n l' hold
      · exact ⟨hs.plugin, hcycle⟩
    · obtain ⟨l', hold, ho⟩ := hk.arrived n o hmem
      have hl : (s.started ++ [l])[n]? = some l' := by grind
      exact ⟨l', hl, ho⟩

theorem next_kept (hk : s.Kept) {m : Move} (run : s.next m = some t) : t.Kept := by
  cases m with
  | call serve call => exact act_kept hk run
  | load serve n =>
    obtain ⟨l, hl, run⟩ := Option.bind_eq_some_iff.mp run
    obtain ⟨⟨r, h⟩, e, run⟩ := Option.bind_eq_some_iff.mp run
    cases run
    refine ⟨hk.sound, hk.loads, hk.loading, hk.last, hk.started, fun k o hmem => ?_⟩
    rcases List.mem_append.mp hmem with hmem | hmem
    · exact hk.arrived k o hmem
    · obtain ⟨ds, hloads⟩ := Panel.load_loads l s.host _ _ e
      cases hloads with
      | unwound => cases hmem
      | @run _ _ result =>
        cases List.mem_singleton.mp hmem
        refine ⟨l, hl, rfl, fun c hc => ?_⟩
        cases result with
        | error f => cases hc
        | ok text =>
          cases hc
          rfl
  | deliver serve k =>
    obtain ⟨x, -, run⟩ := Option.bind_eq_some_iff.mp run
    exact act_kept hk run
  | outside h =>
    cases run
    exact ⟨hk.sound, hk.loads, hk.loading, hk.last, hk.started, hk.arrived⟩

theorem play_kept (hk : s.Kept) {moves : List Move} (run : s.play moves = some t) : t.Kept := by
  induction moves generalizing s with
  | nil =>
    cases run
    exact hk
  | cons m moves ih =>
    obtain ⟨u, hu, run⟩ := Option.bind_eq_some_iff.mp run
    exact ih (next_kept hk hu) run

/-! ## Outcomes that are handed over -/

/-- The panel awaits the outcome that is due, and no other. -/
theorem Kept.awaits_iff_due (hk : s.Kept) {n : Nat} {o : LoadOutcome} (ho : (n, o) ∈ s.arrived) :
    s.panel.awaits o = true ↔ s.Due n := by
  obtain ⟨l, hl, hcycle, -⟩ := hk.arrived n o ho
  have hcycle : o.cycle = n + 1 := hcycle.trans (hk.started n l hl).2
  rw [Panel.awaits, Bool.and_eq_true, beq_iff_eq, beq_iff_eq, hcycle, hk.loads, Due, and_comm]
  refine and_congr_right fun hn => ⟨hk.loading, fun ht => ?_⟩
  have hne : s.started ≠ [] := List.length_pos_iff.mp (by omega)
  have hlast := hk.last hne
  rwa [← ht, hk.sound.last, Option.some_inj] at hlast

/-- Handing over an outcome that is not due changes nothing. -/
theorem next_of_isLate (hk : s.Kept) {m : Move} (hm : s.isLate m = true) : s.next m = some s := by
  cases m with
  | deliver serve k =>
    obtain ⟨⟨n, o⟩, hx, hdue⟩ := (Option.any_eq_true _ _).mp hm
    have ha : s.panel.awaits o = false := by
      rw [← Bool.not_eq_true, hk.awaits_iff_due (List.mem_of_getElem? hx)]
      simpa using hdue
    have hcall : start (Panel.Call.run serve (.finishMount o)) (s.panel, s.host) =
        some (.ok ⟨⟩, s.panel, s.host) := by
      rw [Panel.Call.run, start_bind, Panel.finishMount_of_not_awaits ha]
      rfl
    rw [next, hx]
    exact congrArg (Option.map _) hcall
  | call | load | outside => cases hm

theorem play_timely (hk : s.Kept) (moves : List Move) :
    s.play (s.timely moves) = s.play moves := by
  induction moves generalizing s with
  | nil => rfl
  | cons m moves ih =>
    have hcons : ∀ l, s.play (m :: l) = (s.next m).bind fun t => t.play l := fun _ => rfl
    rw [hcons, timely]
    cases hm : s.isLate m with
    | true =>
      rw [next_of_isLate hk hm]
      exact ih hk
    | false =>
      rw [if_neg Bool.false_ne_true, hcons]
      cases hn : s.next m with
      | none => rfl
      | some t => exact ih (next_kept hk hn)

end
end Relay

namespace Panel

/-- The panel takes in what came of a load. -/
structure Took (p : Panel) (o : LoadOutcome) (p' : Panel) : Prop where
  stands : p'.Stands o.standing
  transitions : p'.transitions = p.transitions ++ [o.standing.stage]
  name : p'.name = p.name

theorem finishMount_tires {serve : Server Host} {s : Panel × Host} (o : LoadOutcome) :
    start (finishMount serve o) s = none →
      Host.Tires (fun serve => finishMount serve o) serve s :=
  Host.tires_of_start (m := fun serve => finishMount serve o) fun _ _ hserve =>
    finishMount_within hserve o

theorem finishMount_takes {serve : Server Host} {p : Panel} (hp : p.Sound) {o : LoadOutcome}
    (ha : p.awaits o = true) (h : Host) :
    Ends (finishMount serve o) (p, h) fun _ t => p.Took o t.1 := by
  have hstage := stage_of_awaits ha
  have hstopped : ∀ f, o.result = .error f → p.Took o (p.stopped f) := by
    intro f ho
    have hsound : (p.stopped f).Sound := hp.stopped (by simp [hstage]) f
    have hstanding := LoadOutcome.standing_of_error ho
    refine ⟨?_, ?_, name_enter _ _⟩
    · rw [hstanding]
      exact hsound.stands_errored (stage_enter _ _) (failure_enter _ _)
    · rw [hstanding, transitions_enter, if_neg (by simp [hstage])]
      rfl
  have hmounted : ∀ c, o.result = .ok c → p.Took o (p.holding c) := by
    intro c ho
    have hsound : (p.holding c).Sound := hp.holding (by simp [hstage]) c
    have hstanding := LoadOutcome.standing_of_ok ho
    refine ⟨?_, ?_, name_enter _ _⟩
    · rw [hstanding]
      exact hsound.stands_mounted (stage_enter _ _) (component_enter _ _)
    · rw [hstanding, transitions_enter, if_neg (by simp [hstage])]
      rfl
  refine (finishMount_finishes o p h).mono fun _ t hr => ?_
  obtain ⟨ds, hf⟩ := hr
  generalize t.1 = p', t.2 = h' at hf
  cases hf with
  | dropped hd => cases ha.symm.trans hd
  | failed _ ho => exact hstopped _ ho
  | plain _ ho => exact hmounted _ ho
  | hooked _ ho =>
    obtain ⟨⟨hstage, hc, hf⟩, ht, hn⟩ := hmounted _ ho
    exact ⟨⟨hstage, hc, hf⟩, ht, hn⟩

end Panel

namespace Relay

/-- From the creation of a panel on, an outcome is taken in exactly if it came of the newest load
and the panel has not left the loading stage since that load was started. Any other changes nothing
of the panel or its host whenever it is handed over, so that a run comes to the same without. -/
theorem late_loads_dropped {surface : Surface} {session : Nat} {name : String} {h₀ h₁ : Host}
    {p : Panel} {moves : List Move} {s : Relay}
    (made : start (Panel.create surface session name) h₀ = some (.ok p, h₁))
    (run : (fresh p h₁).play moves = some s) :
    (∀ n o, (n, o) ∈ s.arrived → ∀ serve : Server Host,
      (s.Due n →
        Ends (Panel.finishMount serve o) (s.panel, s.host) (fun _ t => s.panel.Took o t.1) ∧
        (start (Panel.finishMount serve o) (s.panel, s.host) = none →
          Host.Tires (fun serve => Panel.finishMount serve o) serve (s.panel, s.host))) ∧
      (¬ s.Due n → start (Panel.finishMount serve o) (s.panel, s.host) =
        some (.ok s.panel.stage, s.panel, s.host))) ∧
    (fresh p h₁).play ((fresh p h₁).timely moves) = some s := by
  have hk := fresh_kept made
  refine ⟨fun n o hmem serve => ?_, (play_timely hk moves).trans run⟩
  have hdue := (play_kept hk run).awaits_iff_due hmem
  have hsound := (play_kept hk run).sound
  refine ⟨fun hd => ⟨Panel.finishMount_takes hsound (hdue.mpr hd) s.host, ?_⟩, fun hd => ?_⟩
  · exact Panel.finishMount_tires o
  · refine Panel.finishMount_of_not_awaits ?_ s.host
    rw [← Bool.not_eq_true, hdue]
    exact hd

open Course

/-- Two loads are started and run, and each outcome is handed over twice. -/
def crossing : List Move :=
  [.call (Host.server 1) .startMount, .call (Host.server 1) .startMount,
    .load (Host.server 1) 0, .load (Host.server 1) 1,
    .deliver (Host.server 1) 0, .deliver (Host.server 1) 1, .deliver (Host.server 1) 0,
    .deliver (Host.server 1) 1]

/-- Only the outcome of the second load, handed over for the first time, is taken in: of the eight
moves five are left. -/
theorem late_loads_dropped_timer : ∃ s,
    (fresh timerCreated.1 timerCreated.2).play crossing = some s ∧ s.panel.stage = .mounted ∧
    ((fresh timerCreated.1 timerCreated.2).timely crossing).length = 5 ∧
    (fresh timerCreated.1 timerCreated.2).play
      ((fresh timerCreated.1 timerCreated.2).timely crossing) = some s := by
  have made : start (Panel.create .main 0 "timer") timerHost =
      some (.ok timerCreated.1, timerCreated.2) := rfl
  have hstage : ((fresh timerCreated.1 timerCreated.2).play crossing).map (·.panel.stage) =
      some .mounted := by decide +kernel
  have hlength : ((fresh timerCreated.1 timerCreated.2).timely crossing).length = 5 := by
    decide +kernel
  obtain ⟨s, run, hs⟩ := Option.map_eq_some_iff.mp hstage
  exact ⟨s, run, hs, hlength, (late_loads_dropped made run).2⟩

/-! ## Outcomes of other panels -/

/-- The outcome of another panel's load changes nothing of a panel, unless the panel is loading and
has started as many loads as the other one had by then. Then the panel takes it for its own, and
comes to show the component, or the failure, of another plugin under its own name. -/
theorem foreign_load_dropped_iff {surface surface' : Surface} {session session' : Nat}
    {name name' : String} {h₀ h₁ k₀ k₁ : Host} {p q : Panel} {moves moves' : List Move}
    {s t : Relay} {n : Nat} {o : LoadOutcome}
    (made : start (Panel.create surface session name) h₀ = some (.ok p, h₁))
    (run : (fresh p h₁).play moves = some s)
    (made' : start (Panel.create surface' session' name') k₀ = some (.ok q, k₁))
    (run' : (fresh q k₁).play moves' = some t) (ho : (n, o) ∈ s.arrived) :
    (∃ l, s.started[n]? = some l ∧ l.plugin = s.panel.name ∧ o.IsOf l) ∧
    ∀ (serve : Server Host) (h : Host),
      (¬ (t.panel.stage = .loading ∧ t.started.length = n + 1) →
        start (Panel.finishMount serve o) (t.panel, h) = some (.ok t.panel.stage, t.panel, h)) ∧
      (t.panel.stage = .loading ∧ t.started.length = n + 1 →
        Ends (Panel.finishMount serve o) (t.panel, h) (fun _ u => t.panel.Took o u.1) ∧
        (start (Panel.finishMount serve o) (t.panel, h) = none →
          Host.Tires (fun serve => Panel.finishMount serve o) serve (t.panel, h))) := by
  have hs := play_kept (fresh_kept made) run
  have ht := play_kept (fresh_kept made') run'
  obtain ⟨l, hl, hof⟩ := hs.arrived n o ho
  obtain ⟨hplugin, hnumber⟩ := hs.started n l hl
  have hcycle : o.cycle = n + 1 := hof.1.trans hnumber
  have hawaits : t.panel.awaits o = true ↔ t.panel.stage = .loading ∧ t.started.length = n + 1 := by
    rw [Panel.awaits, Bool.and_eq_true, beq_iff_eq, beq_iff_eq, hcycle, ht.loads,
      eq_comm (a := n + 1)]
  refine ⟨⟨l, hl, hplugin, hof⟩, fun serve h => ⟨fun hno => ?_, fun hyes => ⟨?_, ?_⟩⟩⟩
  · refine Panel.finishMount_of_not_awaits ?_ h
    rw [← Bool.not_eq_true, hawaits]
    exact hno
  · exact Panel.finishMount_takes ht.sound (hawaits.mpr hyes) h
  · exact Panel.finishMount_tires o

/-- A plugin that shows its own name. -/
def nameplate (name : String) : Definition Code :=
  { Definition.plain name name with panel := some (.ofText fun _ => .ok name) }

/-- A host with two of them, enabled for its user. -/
def nameplates : Host :=
  { Host.new .default .ignore (.memory .empty) .unreachable with
    registry := (((Registry.empty .ignore).install ⟨nameplate "left", 1⟩ rfl).2.install
      ⟨nameplate "right", 2⟩ rfl).2
    sessions := [{ Session.new (some "ada") with
      entries := [.new "left" true, .new "right" true] }]
    lastSerial := 2 }

/-- Both panels have started one load, so the right one takes in what came of the load of the left.
-/
theorem foreign_load_dropped_iff_nameplates : ∃ p h₁ q k₁ s t o,
    start (Panel.create .main 0 "left") nameplates = some (.ok p, h₁) ∧
    start (Panel.create .main 0 "right") h₁ = some (.ok q, k₁) ∧
    (fresh p h₁).play [.call (Host.server 1) .startMount, .load (Host.server 1) 0] = some s ∧
    (fresh q k₁).play [.call (Host.server 1) .startMount] = some t ∧ (0, o) ∈ s.arrived ∧
    Ends (Panel.finishMount (Host.server 1) o) (t.panel, t.host) fun _ u => t.panel.Took o u.1 := by
  obtain ⟨p, h₁, q, k₁, made, made', hleft, hright⟩ : ∃ p h₁ q k₁,
      start (Panel.create .main 0 "left") nameplates = some (.ok p, h₁) ∧
      start (Panel.create .main 0 "right") h₁ = some (.ok q, k₁) ∧
      ((fresh p h₁).play [.call (Host.server 1) .startMount, .load (Host.server 1) 0]).map
        (fun s => s.arrived.map Prod.fst) = some [0] ∧
      ((fresh q k₁).play [.call (Host.server 1) .startMount]).map
        (fun t => (t.panel.stage, t.started.length)) = some (.loading, 1) :=
    ⟨_, _, _, _, rfl, rfl, by decide +kernel, by decide +kernel⟩
  obtain ⟨s, run, harrived⟩ := Option.map_eq_some_iff.mp hleft
  obtain ⟨t, run', hwaits⟩ := Option.map_eq_some_iff.mp hright
  obtain ⟨⟨n, o⟩, hs, rfl⟩ := List.map_eq_singleton_iff.mp harrived
  have ho : (0, o) ∈ s.arrived := hs ▸ List.mem_singleton_self _
  obtain ⟨hstage, hlength⟩ := Prod.mk.inj hwaits
  obtain ⟨-, hgiven⟩ := foreign_load_dropped_iff made run made' run' ho
  exact ⟨p, h₁, q, k₁, s, t, o, made, made', run, run', ho,
    ((hgiven (Host.server 1) t.host).2 ⟨hstage, hlength⟩).1⟩

/-- Two panels each start a load, and the one on the right is handed what came of the load of the
one on the left: its stage before and afterwards, and what it shows then. -/
def mixUp : HostRun (Stage × Except Panic Stage × Except Panic View) := do
  let left ← Panel.create .main 0 "left"
  let right ← Panel.create .main 0 "right"
  let (l, _) ← beside (Panel.startMount (Host.server 1)) left
  let (_, right) ← beside (Panel.startMount (Host.server 1)) right
  match ← resume l with
  | none => return (right.stage, .ok right.stage, .ok .resolving)
  | some l => do
    let o ← Panel.load (Host.server 1) l
    let (stage, after) ← beside (Panel.finishMount (Host.server 1) o) right
    let (view, _) ← beside (Panel.render (Host.server 1)) after
    return (right.stage, stage, view)

/-- The right one is mounted, and shows the component of the left one. -/
theorem foreign_load_taken : (start mixUp nameplates).map Prod.fst =
    some (.ok (.loading, .ok .mounted, .ok (.content "right" "left"))) := by decide +kernel

end Relay
end Plugboard
