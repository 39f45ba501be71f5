import Plugboard.Panel.Dashboard
import Plugboard.Proofs.Panel.Enter
import Plugboard.Proofs.Run

/-!
Panels whose plugins ask nothing of the host, on two hosts at once. Such a plugin has counters of its
own and may do something else each time it is called; what it does depends on nothing but its own
counters and the context that it is handed. So on two hosts that have the plugin in common, and its
counters, it does the same.

* `Code.Solo`: code that asks nothing of the host. `Code.HandsOver`: code that panics, if at all,
  only in the rest that it hands over.
* `Host.Worked`: all that such a plugin changes on a host.
* `Host.Common`: what two hosts have to have in common for the panels of a plugin.
* `_lockstep`: each operation of a panel, on two hosts with that in common.
-/
namespace Plugboard

open Run

/-! ## Plugins that ask nothing of the host -/

/-- Code that asks nothing but to leave a note, or to count with a counter of its own. -/
inductive Code.Solo (own : Counter → Prop) : Code → Prop
  | done (text : String) : Solo own (.done text)
  | fail (f : Fault) : Solo own (.fail f)
  | panic (p : Panic) : Solo own (.panic p)
  | later {rest : Code} (h : Solo own rest) : Solo own (.later rest)
  | note {n : Note} {rest : Unit → Code} (h : ∀ x, Solo own (rest x)) :
      Solo own (.ask (.note n) rest)
  | count {c : Counter} {rest : Nat → Code} (hc : own c) (h : ∀ n, Solo own (rest n)) :
      Solo own (.ask (.count c) rest)

/-- Code that does not panic before it hands over the rest of its work. -/
inductive Code.HandsOver : Code → Prop
  | done (text : String) : HandsOver (.done text)
  | fail (f : Fault) : HandsOver (.fail f)
  | later (rest : Code) : HandsOver (.later rest)
  | ask {a : Answer} {op : Op Code a} {rest : a.Carrier → Code} (h : ∀ x, HandsOver (rest x)) :
      HandsOver (.ask op rest)

structure Component.Solo (own : Counter → Prop) (c : Component Code) : Prop where
  load : c.load.Solo own
  render : ∀ context, (c.render context).Solo own

/-- A plugin whose component and hooks ask nothing of the host. -/
structure Definition.Solo (own : Counter → Prop) (d : Definition Code) : Prop where
  panel : ∀ c, d.panel = some c → c.Solo own
  init : ∀ hook, d.init = some hook → ∀ context, (hook context).Solo own
  destroy : ∀ hook, d.destroy = some hook → hook.Solo own

/-- A plugin whose panics all stay inside the boundary of its panels. -/
structure Definition.HandsOver (d : Definition Code) : Prop where
  load : ∀ c, d.panel = some c → c.load.HandsOver
  init : ∀ hook, d.init = some hook → ∀ context, (hook context).HandsOver

/-- A plugin that asks nothing of the host, and that panics outside the boundary only if `breaks`
holds. -/
def Installed.Sound (own : Counter → Prop) (breaks : Prop) (i : Installed Code) : Prop :=
  i.definition.Solo own ∧ (i.definition.HandsOver ∨ breaks)

namespace Host

/-- Nobody listens on the bus but panels. -/
def OnlyMarks (h : Host) : Prop :=
  ∀ x ∈ h.bus.handlers, ∃ panel plugin, x.listener = .mark panel plugin

/-- What a plugin that asks nothing leaves behind: entries in the journal, marks of panels, and
what it has counted. -/
structure Worked (own : Counter → Prop) (k h : Host) : Prop where
  rest : h = { k with journal := h.journal, counters := h.counters, marked := h.marked }
  counters : ∀ c, ¬ own c → Table.get? c h.counters = Table.get? c k.counters

/-- Two hosts on which a plugin has worked, and has counted the same. -/
structure Abreast (own : Counter → Prop) (k k' h h' : Host) : Prop where
  left : Worked own k h
  right : Worked own k' h'
  counters : ∀ c, own c → Table.get? c h'.counters = Table.get? c h.counters

/-- What two hosts have in common for the panels of a plugin. -/
structure Common (own : Counter → Prop) (breaks : Prop) (name : String) (k k' : Host) : Prop where
  bus : k'.bus = k.bus
  marks : k.OnlyMarks
  sessions : k'.sessions = k.sessions
  found : k'.registry.get? name = k.registry.get? name
  sound : ∀ i, k.registry.get? name = some i → i.Sound own breaks

section
variable {own : Counter → Prop} {k k' : Host} {breaks : Prop}

theorem Worked.bus {h : Host} (w : Worked own k h) : h.bus = k.bus := by rw [w.rest]

theorem Worked.sessions {h : Host} (w : Worked own k h) : h.sessions = k.sessions := by rw [w.rest]

theorem Worked.registry {h : Host} (w : Worked own k h) : h.registry = k.registry := by rw [w.rest]

/-- A change of the journal and of marks alone. -/
theorem Worked.keep {f : Host → Host} (hf : ∀ h,
    f h = { h with journal := (f h).journal, marked := (f h).marked }) {h : Host}
    (w : Worked own k h) : Worked own k (f h) ∧ (f h).counters = h.counters := by
  have hcounters : (f h).counters = h.counters := by rw [hf h]
  refine ⟨⟨?_, fun c hc => ?_⟩, hcounters⟩
  · rw [hf h, w.rest]
  · rw [hcounters]
    exact w.counters c hc

theorem modify_lockstep {f : Host → Host} (hf : ∀ h,
    f h = { h with journal := (f h).journal, marked := (f h).marked }) :
    Lockstep (Abreast own k k') breaks (fun _ => True) (modify f : HostRun PUnit) (modify f) := by
  refine lockstep_modify fun h h' a => ?_
  obtain ⟨hleft, hcounters⟩ := a.left.keep hf
  obtain ⟨hright, hcounters'⟩ := a.right.keep hf
  refine ⟨hleft, hright, fun c hc => ?_⟩
  rw [hcounters, hcounters']
  exact a.counters c hc

theorem record_lockstep (x : Happening) :
    Lockstep (Abreast own k k') breaks (fun _ => True) (record x) (record x) :=
  modify_lockstep fun _ => rfl

theorem count_lockstep {c : Counter} (hc : own c) :
    Lockstep (Abreast own k k') breaks (fun _ => True) (count c) (count c) := by
  refine lockstep_get_bind fun h h' a => ?_
  rw [a.counters c hc]
  refine lockstep_bind (lockstep_modify fun h h' a => ?_) fun _ _ => lockstep_pure trivial
  refine ⟨⟨?_, fun x hx => ?_⟩, ⟨?_, fun x hx => ?_⟩, fun x hx => ?_⟩
  · rw [a.left.rest]
  · have hne : c ≠ x := fun he => hx (he ▸ hc)
    rw [Table.get?_put, if_neg hne, a.left.counters x hx]
  · rw [a.right.rest]
  · have hne : c ≠ x := fun he => hx (he ▸ hc)
    rw [Table.get?_put, if_neg hne, a.right.counters x hx]
  · rw [Table.get?_put, Table.get?_put, a.counters x hx]

variable {name : String} (hk : Common own breaks name k k')
include hk

theorem deliver_lockstep {breaks' : Prop} (play : Player) (e : Event) {x : Handler Listener}
    (hx : x ∈ k.bus.handlers) : Lockstep (Abreast own k k') breaks' (fun _ => True)
      (deliver play e x) (deliver play e x) := by
  obtain ⟨panel, plugin, hlistener⟩ := hk.marks x hx
  refine lockstep_bind (record_lockstep _) fun _ _ => ?_
  rw [hlistener]
  dsimp only
  split
  · exact modify_lockstep fun _ => rfl
  · exact lockstep_pure trivial

/-- An event finds the same panels on both hosts. -/
theorem emit_lockstep {breaks' : Prop} (play : Player) (e : Event) :
    Lockstep (Abreast own k k') breaks' (fun _ => True) (emit play e) (emit play e) := by
  refine lockstep_bind (record_lockstep _) fun _ _ => lockstep_get_bind fun h h' a => ?_
  have hbus : h'.bus = h.bus := by rw [a.right.bus, hk.bus, a.left.bus]
  rw [hbus]
  refine lockstep_bind (lockstep_forM fun x hx => deliver_lockstep hk play e ?_) fun _ _ =>
    lockstep_pure trivial
  rw [← a.left.bus]
  exact (List.mem_filter.mp hx).1

theorem session_lockstep {breaks' : Prop} (id : Nat) :
    Lockstep (Abreast own k k') breaks' (fun _ => True) (session id) (session id) := by
  refine lockstep_get_bind fun h h' a => ?_
  have hsession : h'.sessionAt id = h.sessionAt id := by
    rw [sessionAt, sessionAt, a.right.sessions, hk.sessions, a.left.sessions]
  rw [hsession]
  exact lockstep_pure trivial

theorem context_lockstep {breaks' : Prop} (id : Nat) (plugin : String) :
    Lockstep (Abreast own k k') breaks' (fun _ => True) (context id plugin)
      (context id plugin) :=
  lockstep_bind (session_lockstep hk id) fun _ _ => lockstep_pure trivial

end

/-! ## Code -/

section
variable {own : Counter → Prop} {k k' : Host} {breaks : Prop} (play : Player)

theorem serve_lockstep {a : Answer} {op : Op Code a} {P : a.Carrier → Prop}
    (hop : Lockstep (Abreast own k k') breaks P (fulfil play op) (fulfil play op)) :
    Lockstep (Abreast own k k') breaks P (serve play op) (serve play op) :=
  lockstep_bind (record_lockstep _) fun _ _ => hop

theorem run_lockstep {code : Code} (hc : code.Solo own) :
    Lockstep (Abreast own k k') True (fun _ => True) (code.run (serve play))
      (code.run (serve play)) := by
  induction hc with
  | done | fail => exact lockstep_pure trivial
  | panic p => exact lockstep_throw p trivial
  | later _ ih => exact ih
  | note _ ih =>
    exact lockstep_bind (serve_lockstep play (record_lockstep _)) fun x _ => ih x
  | count hc _ ih =>
    exact lockstep_bind (serve_lockstep play (count_lockstep hc)) fun n _ => ih n

/-- A loader or a hook comes to the point where it hands over the rest. -/
theorem begin_lockstep {code : Code} (hc : code.Solo own) (hb : code.HandsOver ∨ breaks) :
    Lockstep (Abreast own k k') breaks (Code.Solo own) (code.begin (serve play))
      (code.begin (serve play)) := by
  induction hc with
  | done text => exact lockstep_pure (.done text)
  | fail f => exact lockstep_pure (.fail f)
  | panic p => exact lockstep_throw p (hb.resolve_left nofun)
  | later h _ => exact lockstep_pure h
  | note _ ih =>
    refine lockstep_bind (serve_lockstep play (record_lockstep _)) fun x _ =>
      ih x (hb.imp_left ?_)
    rintro ⟨⟩
    rename_i h
    exact h x
  | count hc _ ih =>
    refine lockstep_bind (serve_lockstep play (count_lockstep hc)) fun n _ =>
      ih n (hb.imp_left ?_)
    rintro ⟨⟩
    rename_i h
    exact h n

end

end Host

/-! ## Panels -/

/-- A load of a plugin that asks nothing of the host. -/
def PendingLoad.Sound (own : Counter → Prop) (breaks : Prop) (l : PendingLoad) : Prop :=
  l.component.Solo own ∧ (l.component.load.HandsOver ∨ breaks)

namespace Panel

/-- A main panel of a plugin that asks nothing of the host. -/
structure Fit (own : Counter → Prop) (breaks : Prop) (name : String) (p : Panel) : Prop where
  plugin : p.name = name
  surface : p.surface = .main
  installed : ∀ i, p.installed = some i → i.Sound own breaks
  component : ∀ c, p.component = some c → c.Solo own

theorem Fit.enter {own : Counter → Prop} {breaks : Prop} {name : String} {p : Panel}
    (hp : p.Fit own breaks name) (next : Stage) : (p.enter next).Fit own breaks name where
  plugin := by rw [name_enter, hp.plugin]
  surface := by rw [surface_enter, hp.surface]
  installed i hi := hp.installed i (by rwa [installed_enter] at hi)
  component c hc := hp.component c (by rwa [component_enter] at hc)

/-- The same panel on two hosts that are abreast. -/
def Beside (own : Counter → Prop) (breaks : Prop) (name : String) (k k' : Host)
    (x y : Panel × Host) : Prop :=
  y.1 = x.1 ∧ x.1.Fit own breaks name ∧ Host.Abreast own k k' x.2 y.2

section
variable {own : Counter → Prop} {breaks breaks' : Prop} {name : String} {k k' : Host}

theorem current_lockstep : Lockstep (Beside own breaks name k k') breaks'
    (Fit own breaks name) current current := by
  refine lockstep_get_bind fun x y hxy => ?_
  rw [hxy.1]
  exact lockstep_pure hxy.2.1

theorem change_lockstep {f : Panel → Panel}
    (hf : ∀ p, Fit own breaks name p → Fit own breaks name (f p)) :
    Lockstep (Beside own breaks name k k') breaks' (fun _ => True) (change f) (change f) :=
  lockstep_modify fun _ _ hxy => ⟨congrArg f hxy.1, hf _ hxy.2.1, hxy.2.2⟩

theorem goTo_lockstep (next : Stage) :
    Lockstep (Beside own breaks name k k') breaks' (fun _ => True) (goTo next) (goTo next) :=
  change_lockstep fun _ hp => hp.enter next

theorem onHost_lockstep {α : Type} {Q : α → Prop} {m m' : HostRun α}
    (h : Lockstep (Host.Abreast own k k') breaks' Q m m') :
    Lockstep (Beside own breaks name k k') breaks' Q (onHost m) (onHost m') :=
  lockstep_below (fun _ _ hxy => hxy.2.2) (fun _ _ _ _ hxy hst => ⟨hxy.1, hxy.2.1, hst⟩) h

theorem startLoad_lockstep (i : Installed Code) {c : Component Code} (hc : c.Solo own)
    (hb : c.load.HandsOver ∨ breaks) :
    Lockstep (Beside own breaks name k k') breaks' (PendingLoad.Sound own breaks)
      (startLoad i c) (startLoad i c) :=
  lockstep_bind (change_lockstep fun _ hp => ⟨hp.plugin, hp.surface, hp.installed, hp.component⟩)
    fun _ _ => lockstep_bind current_lockstep fun _ _ => lockstep_pure ⟨hc, hb⟩

variable (play : Player)

theorem guarded_lockstep (plugin : String) (phase : Phase) {code : Code} (hc : code.Solo own) :
    Lockstep (Host.Abreast own k k') breaks' (fun _ => True)
      (guarded (Host.serve play) plugin phase code) (guarded (Host.serve play) plugin phase code) :=
  lockstep_bind (lockstep_contain (Host.run_lockstep play hc)) fun _ _ => lockstep_pure trivial

theorem guardedRest_lockstep (plugin : String) (phase : Phase) {code : Code}
    (hc : code.Solo own) (hb : code.HandsOver ∨ breaks) :
    Lockstep (Host.Abreast own k k') breaks (fun _ => True)
      (guardedRest (Host.serve play) plugin phase code)
      (guardedRest (Host.serve play) plugin phase code) :=
  lockstep_bind (Host.begin_lockstep play hc hb) fun _ hrest =>
    guarded_lockstep play plugin phase hrest

theorem load_lockstep {l : PendingLoad} (hl : l.Sound own breaks) :
    Lockstep (Host.Abreast own k k') breaks (fun o => ∀ c, o.result = .ok c → c.Solo own)
      (load (Host.serve play) l) (load (Host.serve play) l) := by
  refine lockstep_bind (Host.record_lockstep _) fun _ _ =>
    lockstep_bind (guardedRest_lockstep play _ _ hl.1.load hl.2) fun result _ =>
      lockstep_pure fun c hc => ?_
  cases result with
  | error f => cases hc
  | ok text =>
    cases hc
    exact hl.1

variable (hk : Host.Common own breaks name k k')
include hk

theorem report_lockstep (p : Panel) (f : Failure) :
    Lockstep (Host.Abreast own k k') breaks' (fun _ => True) (report (Host.serve play) p f)
      (report (Host.serve play) p f) :=
  lockstep_bind (Host.record_lockstep _) fun _ _ =>
    lockstep_bind (Host.emit_lockstep hk _ _) fun _ _ => lockstep_pure trivial

theorem fail_lockstep (f : Failure) :
    Lockstep (Beside own breaks name k k') breaks' (fun _ => True) (fail (Host.serve play) f)
      (fail (Host.serve play) f) :=
  lockstep_bind current_lockstep fun p _ =>
    lockstep_bind (onHost_lockstep (report_lockstep play hk p f)) fun _ _ =>
      lockstep_bind (change_lockstep fun _ hp =>
        ⟨hp.plugin, hp.surface, hp.installed, hp.component⟩) fun _ _ => goTo_lockstep _

theorem isEnabled_lockstep (p : Panel) :
    Lockstep (Host.Abreast own k k') breaks' (fun _ => True) p.isEnabled p.isEnabled :=
  lockstep_bind (Host.session_lockstep hk _) fun _ _ => lockstep_pure trivial

theorem startFound_lockstep {i : Installed Code} (hi : i.Sound own breaks) :
    Lockstep (Beside own breaks name k k') breaks'
      (fun o => ∀ l, o = some l → l.Sound own breaks)
      (startFound (Host.serve play) i) (startFound (Host.serve play) i) := by
  have hfound : ∀ p, Fit own breaks name p → Fit own breaks name { p with installed := some i } :=
    fun p hp => ⟨hp.plugin, hp.surface, fun j hj => Option.some.inj hj ▸ hi, hp.component⟩
  refine lockstep_bind (change_lockstep hfound) fun _ _ =>
    lockstep_bind current_lockstep fun p hp => ?_
  rw [hp.surface]
  refine lockstep_bind (onHost_lockstep (isEnabled_lockstep hk p)) fun enabled _ => ?_
  cases enabled with
  | false => exact lockstep_bind (goTo_lockstep _) fun _ _ => lockstep_pure nofun
  | true =>
    refine lockstep_bind (goTo_lockstep _) fun _ _ => ?_
    cases hc : i.definition.panel with
    | none => exact lockstep_bind (fail_lockstep play hk _) fun _ _ => lockstep_pure nofun
    | some c =>
      have hb : c.load.HandsOver ∨ breaks := hi.2.imp_left fun h => h.load c hc
      refine lockstep_bind (startLoad_lockstep i (hi.1.panel c hc) hb) fun l hl =>
        lockstep_pure ?_
      rintro _ ⟨⟩
      exact hl

theorem startMount_lockstep : Lockstep (Beside own breaks name k k') breaks'
    (fun o => ∀ l, o = some l → l.Sound own breaks)
    (startMount (Host.serve play)) (startMount (Host.serve play)) := by
  refine lockstep_bind current_lockstep fun p hp => ?_
  cases p.stage with
  | mounted | errored | notFound => exact lockstep_pure nofun
  | resolving | disabled | loading =>
    refine lockstep_get_bind fun x y hxy => ?_
    rw [hp.plugin, hxy.2.2.right.registry, hxy.2.2.left.registry, hk.found]
    cases hi : k.registry.get? name with
    | none =>
      exact lockstep_bind (onHost_lockstep (Host.record_lockstep _)) fun _ _ =>
        lockstep_bind (goTo_lockstep _) fun _ _ => lockstep_pure nofun
    | some i => exact startFound_lockstep play hk (hk.sound i hi)

theorem runInit_lockstep {i : Installed Code} (hi : i.Sound own breaks) :
    Lockstep (Beside own breaks name k k') breaks (fun _ => True)
      (runInit (Host.serve play) i) (runInit (Host.serve play) i) := by
  refine lockstep_bind current_lockstep fun p hp => ?_
  split
  · refine lockstep_bind (change_lockstep fun _ hp =>
      ⟨hp.plugin, hp.surface, hp.installed, hp.component⟩) fun _ _ => ?_
    cases hinit : i.definition.init with
    | none => exact lockstep_pure trivial
    | some hook =>
      refine onHost_lockstep (lockstep_bind (Host.record_lockstep _) fun _ _ =>
        lockstep_bind (Host.context_lockstep hk _ _) fun c _ =>
          lockstep_bind (guardedRest_lockstep play _ _ (hi.1.init hook hinit c)
            (hi.2.imp_left fun h => h.init hook hinit c)) fun r _ => ?_)
      cases r with
      | ok _ => exact lockstep_pure trivial
      | error f => exact report_lockstep play hk p f
  · exact lockstep_pure trivial

theorem finishMount_lockstep {o : LoadOutcome} (ho : ∀ c, o.result = .ok c → c.Solo own) :
    Lockstep (Beside own breaks name k k') breaks (fun _ => True)
      (finishMount (Host.serve play) o) (finishMount (Host.serve play) o) := by
  refine lockstep_bind current_lockstep fun p hp => ?_
  have hstage : Lockstep (Beside own breaks name k k') breaks (fun _ => True)
      (do return (← current).stage) (do return (← current).stage) :=
    lockstep_bind current_lockstep fun _ _ => lockstep_pure trivial
  dsimp only
  split
  · cases hr : o.result with
    | error f => exact lockstep_bind (fail_lockstep play hk f) fun _ _ => hstage
    | ok c =>
      have hchange : ∀ p, Fit own breaks name p →
          Fit own breaks name { p with component := some c } := fun p hp =>
        ⟨hp.plugin, hp.surface, hp.installed, fun _ hc => Option.some.inj hc ▸ ho c hr⟩
      refine lockstep_bind (change_lockstep hchange) fun _ _ =>
        lockstep_bind (goTo_lockstep _) fun _ _ => ?_
      split
      next i _ hinst =>
        exact lockstep_bind (runInit_lockstep play hk (hp.installed i hinst)) fun _ _ => hstage
      next => exact hstage
  · exact hstage

/-- Mounting a panel of the plugin comes to an end, on both hosts in the same way. -/
theorem mount_lockstep : Lockstep (Beside own breaks name k k') breaks (fun _ => True)
    (mount (Host.serve play)) (mount (Host.serve play)) := by
  refine lockstep_bind (startMount_lockstep play hk) fun o ho => ?_
  cases o with
  | none => exact lockstep_bind current_lockstep fun _ _ => lockstep_pure trivial
  | some l =>
    exact lockstep_bind (onHost_lockstep (load_lockstep play (ho l rfl))) fun _ ho =>
      finishMount_lockstep play hk ho

theorem runDestroy_lockstep {p : Panel} (hp : p.Fit own breaks name) :
    Lockstep (Host.Abreast own k k') breaks' (fun _ => True) (runDestroy (Host.serve play) p)
      (runDestroy (Host.serve play) p) := by
  unfold runDestroy
  split
  next c i _ _ hinst =>
    cases hd : i.definition.destroy with
    | none => exact lockstep_pure trivial
    | some hook =>
      have hhook : hook.Solo own := (hp.installed i hinst).1.destroy hook hd
      refine lockstep_bind (Host.record_lockstep _) fun _ _ =>
        lockstep_bind (guarded_lockstep play _ _ hhook) fun r _ => ?_
      cases r with
      | ok _ => exact lockstep_pure trivial
      | error f => exact report_lockstep play hk p f
  next => exact lockstep_pure trivial

theorem teardown_lockstep : Lockstep (Beside own breaks name k k') breaks' (fun _ => True)
    (teardown (Host.serve play)) (teardown (Host.serve play)) :=
  lockstep_bind current_lockstep fun _ hp =>
    lockstep_bind (change_lockstep fun _ hp => ⟨hp.plugin, hp.surface, hp.installed, nofun⟩)
      fun _ _ => onHost_lockstep (runDestroy_lockstep play hk hp)

theorem renderComponent_lockstep : Lockstep (Beside own breaks name k k') breaks' (fun _ => True)
    (renderComponent (Host.serve play)) (renderComponent (Host.serve play)) := by
  refine lockstep_bind current_lockstep fun p hp => ?_
  cases hc : p.component with
  | none => exact lockstep_pure trivial
  | some c =>
    refine lockstep_bind (onHost_lockstep (lockstep_bind (Host.record_lockstep _) fun _ _ =>
      lockstep_bind (Host.context_lockstep hk _ _) fun x _ =>
        guarded_lockstep play _ _ ((hp.component c hc).render x))) fun r _ => ?_
    cases r with
    | ok body => exact lockstep_pure trivial
    | error f =>
      exact lockstep_bind (teardown_lockstep play hk) fun _ _ =>
        lockstep_bind (fail_lockstep play hk f) fun _ _ =>
          lockstep_bind current_lockstep fun _ _ => lockstep_pure trivial

/-- So does rendering one, and never with a panic. -/
theorem render_lockstep : Lockstep (Beside own breaks name k k') breaks' (fun _ => True)
    (render (Host.serve play)) (render (Host.serve play)) := by
  refine lockstep_bind current_lockstep fun p hp => ?_
  cases p.stillView with
  | some v => exact lockstep_pure trivial
  | none => exact renderComponent_lockstep play hk

end

end Panel
end Plugboard
