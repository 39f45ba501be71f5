import Mathlib.Logic.Relation
import Plugboard.Proofs.Panel.Doings
import Plugboard.Proofs.Panel.Stages

/-!
Each failure that a panel has to do with is told to the bus once.

* `Doing.failure?`, `Doing.event?`: what of a panel's doings is a failure, and what tells of one.
* `Standing`: a stage with what is held there. `Panel.Stands`: the fields of the panel are those.
* `Doing.leads`: the doings that a panel changes its standing for. Calls of hooks are none of them.
* `Accounts`: the failures and the events of some doings match, and so does the standing they end in.
  `Acts.accounted`: those of a call do.
* `Life`: a panel with everything it has done. `failures_reported_once`: what it comes to for a whole
  life.
-/
namespace Plugboard

open Run

/-- Where a panel stands: a stage, with the component or the failure that it holds there. -/
inductive Standing
  | resolving
  | notFound
  | disabled
  | loading
  | mounted (c : Component Code)
  | errored (f : Failure)

namespace Standing

def stage : Standing → Stage
  | .resolving => .resolving
  | .notFound => .notFound
  | .disabled => .disabled
  | .loading => .loading
  | .mounted _ => .mounted
  | .errored _ => .errored

def component? : Standing → Option (Component Code)
  | .mounted c => some c
  | _ => none

def failure? : Standing → Option Failure
  | .errored f => some f
  | _ => none

end Standing

/-- The stage of the panel is that of the standing, and it holds what is held there and nothing else.
-/
structure Panel.Stands (p : Panel) (s : Standing) : Prop where
  stage : p.stage = s.stage
  component : p.component = s.component?
  failure : p.failure = s.failure?

def Verdict.standing : Verdict → Standing
  | .missing => .notFound
  | .shut => .disabled
  | .letIn _ => .loading

/-- A failure that stops a panel. -/
def Failure.isFatal (f : Failure) : Bool := f.phase == .load || f.phase == .render

/-- A failed outcome says that the load has failed. -/
def LoadOutcome.IsFair (o : LoadOutcome) : Prop := ∀ f, o.result = .error f → f.phase = .load

/-- Where an outcome leads the panel that takes it. -/
def LoadOutcome.standing (o : LoadOutcome) : Standing :=
  match o.result with
  | .ok c => .mounted c
  | .error f => .errored f

namespace Doing

/-- Where it leads the panel; none for what leaves it as it is. -/
def leads : Doing → Option Standing
  | .looked v => some v.standing
  | .took o => some o.standing
  | .called .render (.error f) => some (.errored f)
  | _ => none

/-- The failure that is to be told of. -/
def failure? : Doing → Option Failure
  | .took o => o.standing.failure?
  | .called _ (.error f) => some f
  | _ => none

def event? : Doing → Option Event
  | .emitted e => some e
  | _ => none

/-- A load that was run, or an outcome that was taken. -/
def IsOfLoad : Doing → Prop
  | .loaded _ _ | .took _ => True
  | _ => False

end Doing

namespace Panel

/-- The failures among some doings are the ones that the bus is told of, each of them once. One that
stops the panel is the one it holds afterwards, and it stands where it was led last. -/
structure Accounts (name : String) (s : Standing) (ds : List Doing) (s' : Standing) : Prop where
  told : (ds.filterMap Doing.event?).Perm
    ((ds.filterMap Doing.failure?).map fun f => .error name f.payload)
  fatal : s'.failure?.toList =
    s.failure?.toList ++ (ds.filterMap Doing.failure?).filter Failure.isFatal
  standing : s' = (ds.filterMap Doing.leads).getLast?.getD s

theorem Accounts.refl (name : String) (s : Standing) : Accounts name s [] s :=
  ⟨.refl _, by simp, rfl⟩

theorem Accounts.trans {name : String} {s s' s'' : Standing} {ds ds' : List Doing}
    (h : Accounts name s ds s') (h' : Accounts name s' ds' s'') :
    Accounts name s (ds ++ ds') s'' where
  told := by
    rw [List.filterMap_append, List.filterMap_append, List.map_append]
    exact h.told.append h'.told
  fatal := by
    rw [h'.fatal, h.fatal, List.filterMap_append, List.filter_append, List.append_assoc]
  standing := by
    rw [h'.standing, h.standing, List.filterMap_append, List.getLast?_append]
    cases (ds'.filterMap Doing.leads).getLast? <;> rfl

/-- Doings that leave a panel where it stands. Their failures are told of as well. -/
structure Minor (name : String) (ds : List Doing) : Prop where
  told : (ds.filterMap Doing.event?).Perm
    ((ds.filterMap Doing.failure?).map fun f => .error name f.payload)
  fatal : (ds.filterMap Doing.failure?).filter Failure.isFatal = []
  leads : ds.filterMap Doing.leads = []

theorem Minor.nil (name : String) : Minor name [] := ⟨.refl _, rfl, rfl⟩

theorem Minor.accounts {name : String} {ds : List Doing} (h : Minor name ds) (s : Standing) :
    Accounts name s ds s :=
  ⟨h.told, by rw [h.fatal, List.append_nil], by rw [h.leads]; rfl⟩

/-- A panel comes to stand elsewhere by one doing. -/
theorem accounts_leads {name : String} {s : Standing} {d : Doing} {s' : Standing}
    (hs : s.failure? = none) (hd : d.leads = some s') (he : d.event? = none)
    (hf : d.failure? = none) (hs' : s'.failure? = none) : Accounts name s [d] s' := by
  refine ⟨?_, ?_, ?_⟩
  · simp [he, hf]
  · simp [hs, hs', hf]
  · simp [hd]

theorem accounts_looked {name : String} {s : Standing} (v : Verdict) (hs : s.failure? = none) :
    Accounts name s [.looked v] v.standing :=
  accounts_leads hs rfl rfl rfl (by cases v <;> rfl)

/-- A panel stops with a failure, and tells of it in the end. -/
theorem accounts_fatal {name : String} {s : Standing} {d : Doing} {ds : List Doing} {f : Failure}
    (hs : s.failure? = none) (hd : d.leads = some (.errored f)) (he : d.event? = none)
    (hf : d.failure? = some f) (hfatal : f.isFatal = true) (hds : Minor name ds) :
    Accounts name s (d :: (ds ++ [.emitted (.error name f.payload)])) (.errored f) := by
  have hfailures : (d :: (ds ++ [.emitted (.error name f.payload)])).filterMap Doing.failure? =
      f :: ds.filterMap Doing.failure? := by
    rw [List.filterMap_cons_some hf, List.filterMap_append]
    exact congrArg _ (List.append_nil _)
  have hevents : (d :: (ds ++ [.emitted (.error name f.payload)])).filterMap Doing.event? =
      ds.filterMap Doing.event? ++ [.error name f.payload] := by
    rw [List.filterMap_cons_none he, List.filterMap_append]
    rfl
  have hleads : (d :: (ds ++ [.emitted (.error name f.payload)])).filterMap Doing.leads =
      [.errored f] := by
    rw [List.filterMap_cons_some hd, List.filterMap_append, hds.leads]
    rfl
  refine ⟨?_, ?_, ?_⟩
  · rw [hfailures, hevents]
    exact (List.perm_append_singleton _ _).trans (hds.told.cons _)
  · rw [hfailures, hs, List.filter_cons_of_pos hfatal, hds.fatal]
    rfl
  · rw [hleads]
    rfl

/-- A sound panel holds nothing but what belongs to its stage. -/
theorem Sound.stands {p : Panel} (hp : p.Sound) {s : Standing} (hs : p.stage = s.stage)
    (hc : ∀ c, s = .mounted c → p.component = some c)
    (hf : ∀ f, s = .errored f → p.failure = some f) : p.Stands s := by
  refine ⟨hs, ?_, ?_⟩
  · cases s with
    | mounted c => exact hc c rfl
    | resolving | notFound | disabled | loading | errored =>
      exact hp.component_eq_none (by rw [hs]; nofun)
  · cases s with
    | errored f => exact hf f rfl
    | resolving | notFound | disabled | loading | mounted =>
      exact hp.failure_eq_none (by rw [hs]; nofun)

theorem Sound.stands_mounted {p : Panel} (hp : p.Sound) {c : Component Code}
    (hs : p.stage = .mounted) (hc : p.component = some c) : p.Stands (.mounted c) :=
  hp.stands hs (by rintro _ ⟨⟩; exact hc) nofun

theorem Sound.stands_errored {p : Panel} (hp : p.Sound) {f : Failure}
    (hs : p.stage = .errored) (hf : p.failure = some f) : p.Stands (.errored f) :=
  hp.stands hs nofun (by rintro _ ⟨⟩; exact hf)

section
variable {p : Panel} {s : Standing} (hp : p.Stands s)
include hp

theorem Stands.failure?_of_stage (he : p.stage ≠ .errored) : s.failure? = none := by
  cases s with
  | errored f => exact absurd hp.stage he
  | _ => rfl

theorem Stands.failure?_of_waits (hw : p.Waits) : s.failure? = none :=
  hp.failure?_of_stage hw.ne_errored

theorem Stands.failure?_of_awaits {o : LoadOutcome} (ha : p.awaits o = true) :
    s.failure? = none :=
  hp.failure?_of_waits (waits_of_awaits ha)

end

/-- From wherever the panel stands, some doings lead it to where it stands afterwards. -/
def Accounted (p : Panel) (ds : List Doing) (p' : Panel) : Prop :=
  ∀ s, p.Stands s → ∃ s', p'.Stands s' ∧ Accounts p.name s ds s'

theorem Accounted.refl (p : Panel) : Accounted p [] p := fun s hs => ⟨s, hs, .refl _ _⟩

theorem Accounted.trans {p p' p'' : Panel} {ds ds' : List Doing} (h : Accounted p ds p')
    (h' : Accounted p' ds' p'') (hn : p'.name = p.name) : Accounted p (ds ++ ds') p'' := by
  intro s hs
  obtain ⟨s', hs', ha⟩ := h s hs
  obtain ⟨s'', hs'', ha'⟩ := h' s' hs'
  exact ⟨s'', hs'', ha.trans (hn ▸ ha')⟩

theorem Minor.accounted {p : Panel} {ds : List Doing} (h : Minor p.name ds) : Accounted p ds p :=
  fun s hs => ⟨s, hs, h.accounts s⟩

/-- Every load that was run is the one that was asked for, or one that the panel was let in for; and
every outcome that was taken is the one that was given, or that of such a load. -/
structure Origins (call : Call) (ds : List Doing) : Prop where
  loaded : ∀ l o, .loaded l o ∈ ds → o.IsFair ∧ (call = .load l ∨ .looked (.letIn l) ∈ ds)
  taken : ∀ o, .took o ∈ ds → call = .finishMount o ∨ ∃ l, .loaded l o ∈ ds

section
variable {serve : Server Host} {p p' : Panel} {h h' : Host} {ds : List Doing}

theorem Tells.event {f : Failure} {e : Event} (ht : Tells serve p f h e h') :
    e = .error p.name f.payload := by
  cases ht
  rfl

/-- What comes out of the boundary says in which phase the plugin has failed. -/
theorem phase_of_guarded {plugin : String} {phase : Phase} {code : Code} {f : Failure}
    (run : start (guarded serve plugin phase code) h = some (.ok (.error f), h')) :
    f.phase = phase := by
  have hphase : Ends (guarded serve plugin phase code) h fun r _ =>
      ∀ f, r = .ok (.error f) → f.phase = phase := by
    rw [guarded, ends_bind, ends_contain]
    intro r h₁ _
    refine (ends_pure _ _ _).mpr fun f hf => ?_
    rcases r with x | x | text
    · cases hf
      rfl
    · cases hf
      rfl
    · cases hf
  exact hphase _ _ run f rfl

/-- A hook leaves the panel as it is. -/
theorem Attends.minor {phase : Phase} {hook : Code} (hp : phase = .init ∨ phase = .destroy)
    (ha : Attends serve p phase hook h ds h') : Minor p.name ds := by
  cases ha with
  | well run => rcases hp with rfl | rfl <;> exact ⟨.refl _, rfl, rfl⟩
  | @badly f _ _ _ run ht =>
    obtain rfl := ht.event
    have hminor : f.isFatal = false := by
      rw [Failure.isFatal, phase_of_guarded run]
      rcases hp with rfl | rfl <;> rfl
    have hfailures : [Doing.called phase (.error f), .emitted (.error p.name f.payload)].filterMap
      Doing.failure? = [f] := rfl
    refine ⟨.refl _, ?_, ?_⟩
    · simp [hfailures, hminor]
    · rcases hp with rfl | rfl <;> rfl

theorem Parts.minor (hl : Parts serve p h ds h') : Minor p.name ds := by
  cases hl with
  | still => exact .nil _
  | called _ _ _ _ ha => exact ha.minor (.inr rfl)

theorem Greets.minor {i : Installed Code} (hg : Greets serve i p h ds h') : Minor p.name ds := by
  cases hg with
  | still | unwound => exact .nil _
  | called _ _ _ ha => exact ha.minor (.inl rfl)

/-- A load does nothing to the panel until its outcome is taken. -/
theorem Loads.minor {l : PendingLoad} {r : Except Panic LoadOutcome}
    (hl : Loads serve l h r ds h') (name : String) : Minor name ds := by
  cases hl with
  | unwound => exact .nil _
  | run => exact ⟨.refl _, rfl, rfl⟩

theorem Loads.isFair {l : PendingLoad} {o : LoadOutcome} (hl : Loads serve l h (.ok o) ds h') :
    o.IsFair := by
  cases hl with
  | @run rest h₁ result _ _ run =>
    intro f hf
    cases result with
    | ok text => cases hf
    | error f' =>
      cases hf
      exact phase_of_guarded run

theorem Opens.accounted (hp : p.Sound) {o : Option PendingLoad} (hm : Opens p h o ds p' h') :
    Accounted p ds p' := by
  have hsound := hm.sound hp
  intro s hs
  cases hm with
  | past => exact ⟨s, hs, .refl _ _⟩
  | missing hw | pageless hw =>
    exact ⟨.notFound, hsound.stands (stage_enter _ _) nofun nofun,
      accounts_looked .missing (hs.failure?_of_waits hw)⟩
  | shut hw =>
    exact ⟨.disabled, hsound.stands (stage_enter _ _) nofun nofun,
      accounts_looked .shut (hs.failure?_of_waits hw)⟩
  | letIn hw =>
    exact ⟨.loading, hsound.stands (stage_enter _ _) nofun nofun,
      accounts_looked (.letIn _) (hs.failure?_of_waits hw)⟩

theorem Finishes.accounted (hp : p.Sound) {o : LoadOutcome} (ho : o.IsFair)
    (hf : Finishes serve o p h ds p' h') : Accounted p ds p' := by
  have hsound := hf.sound hp
  intro s hs
  have hmounted : ∀ c, p.awaits o = true → o.result = .ok c →
      Accounts p.name s [.took o] (.mounted c) := by
    intro c ha hr
    have hstanding : o.standing = .mounted c := by rw [LoadOutcome.standing, hr]
    exact accounts_leads (hs.failure?_of_awaits ha) (congrArg some hstanding) rfl
      (congrArg Standing.failure? hstanding) rfl
  cases hf with
  | dropped => exact ⟨s, hs, .refl _ _⟩
  | @failed f _ _ ha hr ht =>
    obtain rfl := ht.event
    have hstanding : o.standing = .errored f := by rw [LoadOutcome.standing, hr]
    have hfatal : f.isFatal = true := by simp [Failure.isFatal, ho f hr]
    exact ⟨.errored f, hsound.stands_errored (stage_enter _ _) (failure_enter _ _),
      accounts_fatal (d := .took o) (hs.failure?_of_awaits ha) (congrArg some hstanding) rfl
        (congrArg Standing.failure? hstanding) hfatal (.nil _)⟩
  | @plain c ha hr =>
    exact ⟨.mounted c, hsound.stands_mounted (stage_enter _ _) (component_enter _ _),
      hmounted c ha hr⟩
  | @hooked c _ _ _ ha hr _ _ hg =>
    have hminor : Minor p.name _ := name_enter { p with component := some c } .mounted ▸ hg.minor
    exact ⟨.mounted c, hsound.stands_mounted (stage_enter _ _) (component_enter _ _),
      (hmounted c ha hr).trans (hminor.accounts _)⟩

theorem Mounts.accounted (hp : p.Sound) (hm : Mounts serve p h ds p' h') :
    Accounted p ds p' := by
  cases hm with
  | short hm => exact hm.accounted hp
  | unwound hm hl =>
    exact (hm.accounted hp).trans (hl.minor _).accounted (hm.keeps fixed_name)
  | whole hm hl hf =>
    have hfinish := hf.accounted (hm.sound hp) hl.isFair
    exact (hm.accounted hp).trans ((hl.minor _).accounted.trans hfinish rfl) (hm.keeps fixed_name)

theorem Syncs.accounted (hp : p.Sound) (hm : Syncs serve p h ds p' h') : Accounted p ds p' := by
  have hsound := hm.sound hp
  intro s hs
  cases hm with
  | kept => exact ⟨s, hs, .refl _ _⟩
  | missing hstage _ hl =>
    have hnone := hs.failure?_of_stage (by simp [hstage])
    exact ⟨.notFound, hsound.stands (stage_enter _ _) nofun nofun,
      (accounts_looked .missing hnone).trans (hl.minor.accounts _)⟩
  | shut hstage _ _ _ hl =>
    have hnone := hs.failure?_of_stage (by simp [hstage])
    exact ⟨.disabled, hsound.stands (stage_enter _ _) nofun nofun,
      (accounts_looked .shut hnone).trans (hl.minor.accounts _)⟩
  | mounted _ hm => exact hm.accounted hp s hs

theorem Renders.accounted (hp : p.Sound) (hm : Renders serve p h ds p' h') :
    Accounted p ds p' := by
  have hsound := hm.sound hp
  intro s hs
  cases hm with
  | still | blank => exact ⟨s, hs, .refl _ _⟩
  | shown => exact ⟨s, hs, .refl _, (List.append_nil _).symm, rfl⟩
  | @failed c f ds' e _ _ _ hstage _ run hl ht =>
    obtain rfl := ht.event
    have hfatal : f.isFatal = true := by simp [Failure.isFatal, phase_of_guarded run]
    exact ⟨.errored f, hsound.stands_errored (stage_enter _ _) (failure_enter _ _),
      accounts_fatal (hs.failure?_of_stage (by simp [hstage])) rfl rfl rfl hfatal hl.minor⟩

theorem Acts.accounted (hp : p.Sound) {call : Call} (ho : ∀ o, call = .finishMount o → o.IsFair)
    (ha : Acts serve p h call ds p' h') : Accounted p ds p' := by
  cases ha with
  | opened hm => exact hm.accounted hp
  | loaded hl => exact (hl.minor _).accounted
  | finished hf => exact hf.accounted hp (ho _ rfl)
  | mounted hm => exact hm.accounted hp
  | synced hm => exact hm.accounted hp
  | rendered hm => exact hm.accounted hp
  | dropped hl => exact hl.minor.accounted

/-! ## Loads and their outcomes -/

theorem Attends.apart {phase : Phase} {hook : Code} (ha : Attends serve p phase hook h ds h') :
    ∀ d ∈ ds, ¬ d.IsOfLoad := by
  cases ha <;> simp [Doing.IsOfLoad]

theorem Parts.apart (hl : Parts serve p h ds h') : ∀ d ∈ ds, ¬ d.IsOfLoad := by
  cases hl with
  | still => simp
  | called _ _ _ _ ha => exact ha.apart

theorem Greets.apart {i : Installed Code} (hg : Greets serve i p h ds h') :
    ∀ d ∈ ds, ¬ d.IsOfLoad := by
  cases hg with
  | still | unwound => simp
  | called _ _ _ ha => exact ha.apart

theorem Opens.apart {o : Option PendingLoad} (hm : Opens p h o ds p' h') :
    (∀ d ∈ ds, ¬ d.IsOfLoad) ∧ ∀ l, o = some l → .looked (.letIn l) ∈ ds := by
  cases hm <;> simp [Doing.IsOfLoad]

theorem Loads.eq {l l' : PendingLoad} {o : LoadOutcome} {r : Except Panic LoadOutcome}
    (hl : Loads serve l h r ds h') (hmem : .loaded l' o ∈ ds) : l' = l ∧ r = .ok o := by
  cases hl with
  | unwound => cases hmem
  | run =>
    cases List.mem_singleton.mp hmem
    exact ⟨rfl, rfl⟩

/-- The second half of mounting runs no load, and takes no outcome but the one it is given. -/
theorem Finishes.taken {o : LoadOutcome} (hf : Finishes serve o p h ds p' h') :
    ∀ d ∈ ds, d.IsOfLoad → d = .took o := by
  cases hf with
  | dropped => simp
  | failed | plain => simp [Doing.IsOfLoad]
  | hooked _ _ _ _ hg =>
    intro d hd hload
    rcases List.mem_cons.mp hd with rfl | hd
    · rfl
    · exact absurd hload (hg.apart d hd)

theorem Loads.doings {l : PendingLoad} {o : LoadOutcome} (hl : Loads serve l h (.ok o) ds h') :
    ds = [.loaded l o] := by
  cases hl
  rfl

theorem Origins.of_apart {call : Call} (hno : ∀ d ∈ ds, ¬ d.IsOfLoad) : Origins call ds :=
  ⟨fun _ _ hd => (hno _ hd trivial).elim, fun _ hd => (hno _ hd trivial).elim⟩

/-- A mount runs the load that it was let in for, and takes its outcome. -/
theorem Mounts.origins {call : Call} (hm : Mounts serve p h ds p' h') : Origins call ds := by
  cases hm with
  | short hm => exact .of_apart hm.apart.1
  | unwound hm hl =>
    cases hl
    rw [List.append_nil]
    exact .of_apart hm.apart.1
  | @whole l o ds₁ ds₂ ds₃ _ _ _ _ _ hm hl hf =>
    obtain ⟨hno, hlooked⟩ := hm.apart
    obtain rfl := hl.doings
    have hall : ∀ d ∈ ds₁ ++ ([.loaded l o] ++ ds₃), d.IsOfLoad → d = .loaded l o ∨ d = .took o := by
      intro d hd hload
      rcases List.mem_append.mp hd with hd | hd
      · exact absurd hload (hno d hd)
      · exact (List.mem_cons.mp hd).imp_right fun hd => hf.taken d hd hload
    refine ⟨fun l' o' hd => ?_, fun o' hd => ?_⟩
    · rcases hall _ hd trivial with heq | heq <;> cases heq
      exact ⟨hl.isFair, .inr (List.mem_append_left _ (hlooked l rfl))⟩
    · rcases hall _ hd trivial with heq | heq <;> cases heq
      exact .inr ⟨l, List.mem_append_right _ List.mem_cons_self⟩

theorem Acts.origins {call : Call} (ha : Acts serve p h call ds p' h') : Origins call ds := by
  cases ha with
  | opened hm => exact .of_apart hm.apart.1
  | @loaded l r _ _ hl =>
    refine ⟨fun l' o hd => ?_, fun o hd => ?_⟩
    · obtain ⟨rfl, rfl⟩ := hl.eq hd
      exact ⟨hl.isFair, .inl rfl⟩
    · cases hl with
      | unwound => cases hd
      | run => cases List.mem_singleton.mp hd
  | finished hf =>
    refine ⟨fun l o hd => ?_, fun o hd => ?_⟩
    · cases hf.taken _ hd trivial
    · cases hf.taken _ hd trivial
      exact .inl rfl
  | mounted hm => exact hm.origins
  | synced hm =>
    cases hm with
    | kept => exact .of_apart (by simp)
    | missing _ _ hl | shut _ _ _ _ hl =>
      exact .of_apart (List.forall_mem_cons.mpr ⟨id, hl.apart⟩)
    | mounted _ hm => exact hm.origins
  | rendered hm =>
    cases hm with
    | still | blank => exact .of_apart (by simp)
    | shown => exact .of_apart (by simp [Doing.IsOfLoad])
    | failed _ _ _ hl _ =>
      refine .of_apart (List.forall_mem_cons.mpr ⟨id, List.forall_mem_append.mpr ⟨hl.apart, ?_⟩⟩)
      simp [Doing.IsOfLoad]
  | dropped hl => exact .of_apart hl.apart

/-! ## A panel that has failed -/

theorem Opens.silent {o : Option PendingLoad} (hm : Opens p h o ds p' h') (hw : ¬ p.Waits) :
    o = none ∧ ds = [] ∧ p' = p := by
  cases hm with
  | past => exact ⟨rfl, rfl, rfl⟩
  | missing hw' | shut hw' | pageless hw' | letIn hw' => exact absurd hw' hw

theorem Parts.silent (hl : Parts serve p h ds h') (hc : p.component = none) : ds = [] := by
  cases hl with
  | still => rfl
  | called hc' => cases hc.symm.trans hc'

/-- A panel that has failed does nothing any more. -/
theorem Acts.silent {call : Call} (ha : Acts serve p h call ds p' h') (hs : p.Sound)
    (hp : p.stage = .errored) (hc : ∀ l, call ≠ .load l) : ds = [] ∧ p' = p := by
  have hw : ¬ p.Waits := by simp [Waits, hp]
  have hm : p.stage ≠ .mounted := by simp [hp]
  cases ha with
  | opened hm => exact (hm.silent hw).2
  | loaded => exact (hc _ rfl).elim
  | finished hf =>
    have hno : ∀ o, p.awaits o = false := fun o => by simp [awaits, hp]
    cases hf with
    | dropped => exact ⟨rfl, rfl⟩
    | failed ha | plain ha | hooked ha => cases (hno _).symm.trans ha
  | mounted hm =>
    cases hm with
    | short hm => exact (hm.silent hw).2
    | unwound hm | whole hm => cases (hm.silent hw).1
  | synced hs =>
    cases hs with
    | kept => exact ⟨rfl, rfl⟩
    | missing hp' | shut hp' => exact absurd hp' hm
    | mounted hw' => exact absurd hw' hw
  | rendered hr =>
    cases hr with
    | still => exact ⟨rfl, rfl⟩
    | blank hp' | shown hp' | failed hp' => exact absurd hp' hm
  | dropped hl => exact ⟨hl.silent (hs.component_eq_none hm), rfl⟩

end

theorem start_discard {σ α : Type} {m : Run σ α} {a : α} {s t : σ}
    (e : start m s = some (.ok a, t)) : start (do let _ ← m) s = some (.ok ⟨⟩, t) := by
  rw [start_bind, e]
  rfl

/-- Nor does anything come of its calls, but that its marks and its handlers are taken away. -/
theorem start_of_errored (serve : Server Host) {p : Panel} (hs : p.Sound) (hp : p.stage = .errored)
    (h : Host) {call : Call} (hc : ∀ l, call ≠ .load l) :
    ∃ h', start (call.run serve) (p, h) = some (.ok ⟨⟩, p, h') ∧ h'.journal = h.journal := by
  have hcurrent : start current (p, h) = some (.ok p, p, h) := rfl
  have hopen : start (startMount serve) (p, h) = some (.ok none, p, h) := by
    rw [startMount, start_bind, hcurrent]
    simp only [hp]
    rfl
  have hempty : p.component = none := hs.component_eq_none (by simp [hp])
  cases call with
  | startMount => exact ⟨h, start_discard hopen, rfl⟩
  | load l => exact (hc l rfl).elim
  | finishMount o =>
    have hno : p.awaits o = false := by simp [awaits, hp]
    exact ⟨h, start_discard (finishMount_of_not_awaits hno h), rfl⟩
  | mount =>
    have hmount : start (mount serve) (p, h) = some (.ok p.stage, p, h) := by
      rw [mount, start_bind, hopen]
      rfl
    exact ⟨h, start_discard hmount, rfl⟩
  | sync =>
    exact ⟨p.unmarked h, start_discard (start_sync_of_stopped serve (.inr hp) h), rfl⟩
  | render =>
    have hrender : start (render serve) (p, h) = some (.ok p.errorView, p, h) := by
      have hv : p.stillView = some p.errorView := by rw [stillView, hp]
      rw [render, start_bind, hcurrent]
      simp only [hv]
      rfl
    exact ⟨h, start_discard hrender, rfl⟩
  | drop =>
    obtain ⟨bus, e, -⟩ := start_unsubscribeAll p.subscriptions h
    have hdrop : start (drop serve p) h = some (.ok ⟨⟩, { h with bus := bus }) := by
      rw [drop, start_bind, runDestroy, hempty]
      exact e
    refine ⟨{ h with bus := bus }, ?_, rfl⟩
    rw [Call.run, start_bind, hcurrent]
    simp only [onHost, start_below, hdrop]
    rfl

/-- A load is the panel's own if it was let in for it, and an outcome if it is one of its loads. -/
def Call.Own (ds : List Doing) : Call → Prop
  | .load l => .looked (.letIn l) ∈ ds
  | .finishMount o => ∃ l, .loaded l o ∈ ds
  | _ => True

def Call.isDrop : Call → Bool
  | .drop => true
  | _ => false

end Panel

/-! ## Whole lives -/

/-- A panel, its host, and everything that the panel has done. -/
structure Life where
  panel : Panel
  host : Host
  doings : List Doing
  dropped : Bool

namespace Life

def begun (p : Panel) (h : Host) : Life := ⟨p, h, [], false⟩

/-- The failures that the panel has to tell of. -/
def failures (w : Life) : List Failure := w.doings.filterMap Doing.failure?

/-- What it has told the bus. -/
def events (w : Life) : List Event := w.doings.filterMap Doing.event?

/-- What may happen next: a call of the panel, which may end in a panic, or anything else that is
done to the host meanwhile. A panel that is dropped is not called again. -/
inductive Step (w : Life) : Life → Prop
  | call {serve call ds r p h} (hd : w.dropped = false) (ho : Panel.Call.Own w.doings call)
      (run : start (Panel.Call.run serve call) (w.panel, w.host) = some (r, p, h))
      (ha : Panel.Acts serve w.panel w.host call ds p h) :
      Step w ⟨p, h, w.doings ++ ds, call.isDrop⟩
  | outside {h} : Step w { w with host := h }

abbrev Reaches : Life → Life → Prop := Relation.ReflTransGen Step

/-- The invariant of a panel for this plugin. -/
structure Kept (name : String) (w : Life) : Prop where
  plugin : w.panel.name = name
  sound : w.panel.Sound
  accounts : ∃ s, w.panel.Stands s ∧ Panel.Accounts name .resolving w.doings s
  loaded : ∀ l o, .loaded l o ∈ w.doings → o.IsFair ∧ .looked (.letIn l) ∈ w.doings
  taken : ∀ o, .took o ∈ w.doings → ∃ l, .loaded l o ∈ w.doings

section
variable {name : String} {w w' : Life}

theorem step_kept (hk : w.Kept name) (hstep : Step w w') : w'.Kept name := by
  cases hstep with
  | outside => exact { hk with }
  | @call serve call ds r p h hd ho run ha =>
    have hfair : ∀ o, call = .finishMount o → o.IsFair := by
      rintro o rfl
      obtain ⟨l, hl⟩ := ho
      exact (hk.loaded l o hl).1
    have horigins := ha.origins
    obtain ⟨s, hs, hbefore⟩ := hk.accounts
    obtain ⟨s', hs', haccounts⟩ := ha.accounted hk.sound hfair s hs
    rw [hk.plugin] at haccounts
    refine ⟨(ha.keeps Panel.fixed_name).trans hk.plugin, ha.sound hk.sound,
      ⟨s', hs', hbefore.trans haccounts⟩, fun l o hl => ?_, fun o ht => ?_⟩
    · rcases List.mem_append.mp hl with hl | hl
      · exact (hk.loaded l o hl).imp_right (List.mem_append_left _)
      · obtain ⟨hf, rfl | hlooked⟩ := horigins.loaded l o hl
        · exact ⟨hf, List.mem_append_left _ ho⟩
        · exact ⟨hf, List.mem_append_right _ hlooked⟩
    · rcases List.mem_append.mp ht with ht | ht
      · exact (hk.taken o ht).imp fun _ => List.mem_append_left _
      · rcases horigins.taken o ht with rfl | ⟨l, hl⟩
        · exact ho.imp fun _ => List.mem_append_left _
        · exact ⟨l, List.mem_append_right _ hl⟩

theorem reaches_kept (hk : w.Kept name) (hr : Reaches w w') : w'.Kept name := by
  induction hr with
  | refl => exact hk
  | tail _ hstep ih => exact step_kept ih hstep

end

theorem created_kept (s : Surface) (session : Nat) (name : String) (h : Host) :
    Ends (Panel.create s session name) h fun r h' => ∀ p, r = .ok p → (begun p h').Kept name := by
  rw [ends_of_start (Panel.start_create s session name h)]
  rintro p ⟨⟩
  exact ⟨rfl, ⟨rfl, by simp [begun], by simp [begun]⟩, ⟨.resolving, ⟨rfl, rfl, rfl⟩, .refl _ _⟩,
    by simp [begun], by simp [begun]⟩

/-- Whatever the plugin does, and whatever happens to the host around the panel: the events that the
panel sends are those of its failures, one for each, and nothing else. A failure is one of a hook, of
the component, or of a load of its own whose outcome the panel takes; an outcome that it does not wait
for is dropped and not told of. One at most stops the panel, which then holds it. Where the panel
stands depends on what it has seen of its plugin, on its loads and its component, and on no hook. A
panel that has failed calls nothing any more, and tells of nothing. -/
theorem failures_reported_once {s : Surface} {session : Nat} {name : String} {h₀ h₁ : Host}
    {p : Panel} {w : Life} (made : start (Panel.create s session name) h₀ = some (.ok p, h₁))
    (hr : Reaches (begun p h₁) w) :
    w.events.Perm (w.failures.map fun f => .error name f.payload) ∧
    (∀ o, .took o ∈ w.doings → ∃ l, .loaded l o ∈ w.doings) ∧
    w.failures.filter Failure.isFatal = w.panel.failure.toList ∧
    (w.panel.failure.isSome ↔ w.panel.stage = .errored) ∧
    w.panel.Stands ((w.doings.filterMap Doing.leads).getLast?.getD .resolving) ∧
    (∀ serve call r p' h', start (Panel.Call.run serve call) (w.panel, w.host) = some (r, p', h') →
      ∃ ds, Panel.Acts serve w.panel w.host call ds p' h') ∧
    (w.panel.stage = .errored → ∀ serve h call, (∀ l, call ≠ .load l) →
      (∃ h', start (Panel.Call.run serve call) (w.panel, h) = some (.ok ⟨⟩, w.panel, h') ∧
        h'.journal = h.journal) ∧
      ∀ ds p' h', Panel.Acts serve w.panel h call ds p' h' → ds = [] ∧ p' = w.panel) := by
  obtain ⟨-, hsound, ⟨s, hs, haccounts⟩, -, htaken⟩ :=
    reaches_kept (created_kept s session name h₀ _ _ made p rfl) hr
  have hfatal : w.failures.filter Failure.isFatal = w.panel.failure.toList := by
    rw [hs.failure]
    exact haccounts.fatal.symm
  refine ⟨haccounts.told, htaken, hfatal, hsound.failure, haccounts.standing ▸ hs,
    fun serve call r p' h' run => Panel.call_acts call w.panel w.host r _ run, ?_⟩
  intro hp serve h call hc
  exact ⟨Panel.start_of_errored serve hsound hp h hc, fun ds p' h' ha => ha.silent hsound hp hc⟩

/-! ## A plugin that fails twice -/

/-- Its component cannot be rendered, and its destroy hook panics. -/
def quitter : Definition Code :=
  { Definition.plain "quitter" "Quitter" with
    panel := some ⟨.later .skip, fun _ => .fail ⟨"gone", []⟩⟩
    destroy := some (.panic (.owned "stuck")) }

/-- A host with the plugin installed and enabled for its user. -/
def quitterHost : Host :=
  { Host.new .default .ignore (.memory .empty) .unreachable with
    registry := ((Registry.empty .ignore).install ⟨quitter, 1⟩ rfl).2
    sessions := [{ Session.new (some "ada") with entries := [.new "quitter" true] }]
    lastSerial := 1 }

def quitterGone : Failure := .ofFault "quitter" .render ⟨"gone", []⟩

def quitterStuck : Failure := .ofPanic "quitter" .destroy (.owned "stuck")

def quitterCreated : Panel × Host :=
  ({ name := "quitter", surface := .main, session := 0, serial := 2, stage := .resolving,
     transitions := [.resolving], installed := none, component := none, failure := none,
     initFired := false, loads := 0,
     subscriptions := [⟨1, .enabled⟩, ⟨2, .disabled⟩] },
   { quitterHost with
     bus := ((Bus.empty.on .enabled (.mark 2 "quitter")).2.on .disabled (.mark 2 "quitter")).2
     lastSerial := 2 })

def quitterLoad : PendingLoad :=
  ⟨"quitter", 1, ⟨.later .skip, fun _ => .fail ⟨"gone", []⟩⟩, 2, 1⟩

def quitterMounted : Life where
  panel := { quitterCreated.1 with
    stage := .mounted, transitions := [.resolving, .loading, .mounted]
    installed := some ⟨quitter, 1⟩, component := some quitterLoad.component
    initFired := true, loads := 1 }
  host := { quitterCreated.2 with journal := [.entered (.panel 2) "quitter" .load 1] }
  doings := [.looked (.letIn quitterLoad), .loaded quitterLoad ⟨1, .ok quitterLoad.component⟩,
    .took ⟨1, .ok quitterLoad.component⟩]
  dropped := false

/-- A panel that was mounted and then rendered. The component fails first, but the failure of the
destroy hook is told of before it. -/
theorem failures_reported_once_quitter : ∃ p h w,
    start (Panel.create .main 0 "quitter") quitterHost = some (.ok p, h) ∧
    Reaches (begun p h) w ∧
    w.failures = [quitterGone, quitterStuck] ∧
    w.events = [.error "quitter" quitterStuck.payload, .error "quitter" quitterGone.payload] ∧
    w.events.Perm (w.failures.map fun f => .error "quitter" f.payload) ∧
    w.panel.failure = some quitterGone := by
  have made : start (Panel.create .main 0 "quitter") quitterHost =
    some (.ok quitterCreated.1, quitterCreated.2) := rfl
  let loading : Panel := { quitterMounted.panel with
    stage := .loading, transitions := [.resolving, .loading], component := none
    initFired := false }
  have hopen : Panel.Opens quitterCreated.1 quitterCreated.2 (some quitterLoad)
      [.looked (.letIn quitterLoad)] loading quitterCreated.2 :=
    .letIn (i := ⟨quitter, 1⟩) (.inl rfl) rfl rfl (fun _ => rfl) rfl
  have hload : Panel.Loads (Host.server 1) quitterLoad quitterCreated.2
      (.ok ⟨1, .ok quitterLoad.component⟩) [.loaded quitterLoad ⟨1, .ok quitterLoad.component⟩]
      quitterMounted.host := by
    have hfirst : start (quitterLoad.component.load.begin (Host.server 1)) quitterMounted.host =
      some (.ok .skip, quitterMounted.host) := rfl
    have hrest : start (Panel.guarded (Host.server 1) "quitter" .load .skip) quitterMounted.host =
      some (.ok (.ok ""), quitterMounted.host) := rfl
    exact .run hfirst hrest
  have hfinish : Panel.Finishes (Host.server 1) ⟨1, .ok quitterLoad.component⟩ loading
      quitterMounted.host [.took ⟨1, .ok quitterLoad.component⟩] quitterMounted.panel
      quitterMounted.host := .hooked (i := ⟨quitter, 1⟩) rfl rfl rfl rfl (.still (.inr rfl))
  have hmounted : start (Panel.Call.run (Host.server 1) .mount) quitterCreated =
    some (.ok ⟨⟩, quitterMounted.panel, quitterMounted.host) := rfl
  have hown : Panel.Call.Own [] .mount := trivial
  have hacts : Panel.Acts (Host.server 1) quitterCreated.1 quitterCreated.2 .mount
    quitterMounted.doings quitterMounted.panel quitterMounted.host :=
      .mounted (.whole hopen hload hfinish)
  have hmount : Step (begun quitterCreated.1 quitterCreated.2)
      ⟨quitterMounted.panel, quitterMounted.host, quitterMounted.doings,
        Panel.Call.mount.isDrop⟩ := .call rfl hown hmounted hacts
  obtain ⟨p, h, ds, hrendered, hacts, hfailures, hevents⟩ : ∃ p h ds,
      start (Panel.Call.run (Host.server 1) .render) (quitterMounted.panel, quitterMounted.host) =
        some (.ok ⟨⟩, p, h) ∧
      Panel.Acts (Host.server 1) quitterMounted.panel quitterMounted.host .render ds p h ∧
      ds.filterMap Doing.failure? = [quitterGone, quitterStuck] ∧
      ds.filterMap Doing.event? = [.error "quitter" quitterStuck.payload,
        .error "quitter" quitterGone.payload] :=
    ⟨_, _, _, rfl, .rendered (.failed rfl rfl rfl (.called rfl rfl rfl rfl (.badly rfl (.told rfl)))
      (.told rfl)), rfl, rfl⟩
  have hown' : Panel.Call.Own quitterMounted.doings .render := trivial
  have hrender : Step quitterMounted ⟨p, h, quitterMounted.doings ++ ds, false⟩ :=
    .call rfl hown' hrendered hacts
  obtain ⟨htold, -, hfatal, -⟩ :=
    failures_reported_once made ((Relation.ReflTransGen.single hmount).tail hrender)
  have hfailures' : failures ⟨p, h, quitterMounted.doings ++ ds, false⟩ =
    [quitterGone, quitterStuck] := hfailures
  refine ⟨_, _, _, made, (Relation.ReflTransGen.single hmount).tail hrender, hfailures, hevents,
    htold, ?_⟩
  rw [hfailures'] at hfatal
  exact Option.toList_eq_singleton_iff.mp hfatal.symm

/-! ## A load that nobody waits for -/

/-- The failures of all hooks, components and loads that have run, taken or not. -/
def contained (w : Life) : List Failure := w.doings.filterMap fun d =>
  match d with
  | .loaded _ o => o.standing.failure?
  | .called _ (.error f) => some f
  | _ => none

/-- The loader of the plugin fails. -/
def faultyHost : Host := Panel.brittleHost (.later (.fail ⟨"boom", []⟩)) .skip

def faultyFailure : Failure := .ofFault "brittle" .load ⟨"boom", []⟩

/-- The loads of a panel for it. -/
def faultyLoad (n : Nat) : PendingLoad :=
  ⟨"brittle", n, ⟨.later (.fail ⟨"boom", []⟩), fun _ => .skip⟩, 2, 1⟩

def faultyCreated : Panel × Host :=
  ({ name := "brittle", surface := .main, session := 0, serial := 2, stage := .resolving,
     transitions := [.resolving], installed := none, component := none, failure := none,
     initFired := false, loads := 0,
     subscriptions := [⟨1, .enabled⟩, ⟨2, .disabled⟩] },
   { faultyHost with
     bus := ((Bus.empty.on .enabled (.mark 2 "brittle")).2.on .disabled (.mark 2 "brittle")).2
     lastSerial := 2 })

/-- The panel has started so many loads. -/
def faultyLoading (n : Nat) : Panel :=
  { faultyCreated.1 with
    stage := .loading, transitions := [.resolving, .loading]
    installed := some ⟨Panel.brittle (.later (.fail ⟨"boom", []⟩)) .skip, 1⟩, loads := n }

/-- The panel is mounted anew while its first load is on its way. When that load fails, the panel does
not wait for it any more: it stays where it is, and tells nobody. -/
theorem failed_load_untold : ∃ p h w o,
    start (Panel.create .main 0 "brittle") faultyHost = some (.ok p, h) ∧
    Reaches (begun p h) w ∧
    .loaded (faultyLoad 1) o ∈ w.doings ∧ o.result = .error faultyFailure ∧
    start (Panel.finishMount (Host.server 1) o) (w.panel, w.host) =
      some (.ok .loading, w.panel, w.host) ∧
    w.contained = [faultyFailure] ∧ w.events = [] ∧
    ¬ w.events.Perm (w.contained.map fun f => .error "brittle" f.payload) := by
  let o : LoadOutcome := ⟨1, .error faultyFailure⟩
  let loaded : Host :=
    { faultyCreated.2 with journal := [.entered (.panel 2) "brittle" .load 1] }
  have hopens : ∀ n, start (Panel.Call.run (Host.server 1) .startMount)
      (faultyLoading n, faultyCreated.2) =
        some (.ok ⟨⟩, faultyLoading (n + 1), faultyCreated.2) ∧
      Panel.Opens (faultyLoading n) faultyCreated.2 (some (faultyLoad (n + 1)))
        [.looked (.letIn (faultyLoad (n + 1)))] (faultyLoading (n + 1)) faultyCreated.2 :=
    fun n => ⟨rfl, .letIn (i := ⟨_, 1⟩) (.inr (.inr rfl)) rfl rfl (fun _ => rfl) rfl⟩
  have hown : ∀ ds, Panel.Call.Own ds .startMount := fun _ => trivial
  have hopened : start (Panel.Call.run (Host.server 1) .startMount) faultyCreated =
    some (.ok ⟨⟩, faultyLoading 1, faultyCreated.2) := rfl
  have hfirst : Step (begun faultyCreated.1 faultyCreated.2) ⟨faultyLoading 1, faultyCreated.2,
      [.looked (.letIn (faultyLoad 1))], false⟩ :=
    .call rfl (hown []) hopened (.opened (.letIn (i := ⟨_, 1⟩) (.inl rfl) rfl rfl (fun _ => rfl) rfl))
  have hsecond : Step ⟨faultyLoading 1, faultyCreated.2, [.looked (.letIn (faultyLoad 1))], false⟩
      ⟨faultyLoading 2, faultyCreated.2,
        [.looked (.letIn (faultyLoad 1)), .looked (.letIn (faultyLoad 2))], false⟩ :=
    .call rfl (hown _) (hopens 1).1 (.opened (hopens 1).2)
  have hloaded : start (Panel.Call.run (Host.server 1) (.load (faultyLoad 1)))
      (faultyLoading 2, faultyCreated.2) = some (.ok ⟨⟩, faultyLoading 2, loaded) := rfl
  have hbegun : start ((faultyLoad 1).component.load.begin (Host.server 1)) loaded =
    some (.ok (.fail ⟨"boom", []⟩), loaded) := rfl
  have hcontained : start (Panel.guarded (Host.server 1) "brittle" .load (.fail ⟨"boom", []⟩))
      loaded = some (.ok (.error faultyFailure), loaded) := rfl
  have hloads : Panel.Loads (Host.server 1) (faultyLoad 1) faultyCreated.2 (.ok o)
      [.loaded (faultyLoad 1) o] loaded := .run hbegun hcontained
  have hlet : Panel.Call.Own [.looked (.letIn (faultyLoad 1)), .looked (.letIn (faultyLoad 2))]
    (.load (faultyLoad 1)) := List.mem_cons_self
  have hload : Step ⟨faultyLoading 2, faultyCreated.2,
        [.looked (.letIn (faultyLoad 1)), .looked (.letIn (faultyLoad 2))], false⟩
      ⟨faultyLoading 2, loaded, [.looked (.letIn (faultyLoad 1)), .looked (.letIn (faultyLoad 2)),
        .loaded (faultyLoad 1) o], false⟩ :=
    .call rfl hlet hloaded (.loaded hloads)
  refine ⟨_, _, _, o, rfl, ((Relation.ReflTransGen.single hfirst).tail hsecond).tail hload,
    ?_, rfl, rfl, rfl, rfl, ?_⟩
  · simp
  · intro hperm
    cases hperm.length_eq

end Life
end Plugboard
