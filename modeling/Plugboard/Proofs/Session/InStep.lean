import Mathlib.Logic.Relation
import Plugboard.Proofs.Session.Update
import Plugboard.Proofs.Session.Calls

/-!
A session and its store stay in step, whatever fails. The session hears of the store in two ways,
by the entry that a write hands back and by the entries of a refresh, and of a failure in neither;
and it is what the session holds, not what the store has, that the next update goes over.

* `Routine`: a session that is called one call after the other. Between two steps of a call anything
  may happen that leaves the session and the entries of its token alone; in particular the store may
  be told to fail its next call.
* `InStep`: the invariant. What the session holds is what the store has, and every plugin has the
  settings that the updates so far have made.
* `call_reaches`: calls without a pause are such routines.
* `kept_in_step`: the invariant holds along every routine that starts with a successful refresh.
-/
namespace Plugboard

open Run

/-- The host when its store in memory was told to fail the next call. -/
def Host.failing (text : String) (h : Host) : Host :=
  match h.store with
  | .memory m => { h with store := .memory { m with failNext := some text } }
  | .remote => h

theorem Host.failing_spares (id : Nat) (token text : String) (h : Host) :
    Spares id token h (h.failing text) := by
  unfold failing
  cases hs : h.store with
  | memory m =>
    refine ⟨⟨rfl, rfl, fun m' hm => ?_⟩, rfl⟩
    cases hs.symm.trans hm
    exact ⟨_, rfl, rfl⟩
  | remote =>
    refine ⟨⟨rfl, rfl, fun m' hm => ?_⟩, rfl⟩
    cases hs.symm.trans hm

/-- One session that is called one call after the other: the host, the call that is on its way with
what it waits for, and what every call before it has come to. -/
structure Routine where
  host : Host
  waiting : Option (SessionCall × Waiting)
  done : List (SessionCall × Except SessionError Outcome)

/-- What can be told of a call that has got so far. Nothing can go wrong any more with one that only
waits for its refresh. -/
def Progress.result? : Progress → Option (Except SessionError Outcome)
  | .finished result => some result
  | .waiting (.fetch _ outcome) => some (.ok outcome)
  | .waiting (.write _ _) => none

/-- The changes of an update of a plugin that has succeeded. -/
def changesFor (plugin : String) : SessionCall × Except SessionError Outcome → Option Settings
  | (.update other changes, .ok _) => if other = plugin then some changes else none
  | _ => none

/-- What a call waits for belongs to the session as it is. -/
def Waiting.Due (s : Session) (token : String) (c : SessionCall) : Waiting → Prop
  | .write other w => other = token ∧ s.writeOf c = some w
  | .fetch r _ => r.token = token

namespace Routine

/-- A host on which nothing is on its way. -/
def idle (h : Host) : Routine := ⟨h, none, []⟩

/-- The call has taken its step, and the host is this one now. -/
def next (t : Routine) (c : SessionCall) (h : Host) : Progress → Routine
  | .finished result => ⟨h, none, t.done ++ [(c, result)]⟩
  | .waiting w => ⟨h, some (c, w), t.done⟩

/-- All that can be told of the calls. -/
def told (t : Routine) : List (SessionCall × Except SessionError Outcome) :=
  t.done ++ (t.waiting.bind fun x => (Progress.waiting x.2).result?.map (x.1, ·)).toList

/-- The changes of a plugin's settings so far, oldest first. -/
def updates (t : Routine) (plugin : String) : List Settings :=
  t.told.filterMap (changesFor plugin)

inductive Step (play : Player) (id : Nat) (token : String) (t : Routine) : Routine → Prop
  | began {c : SessionCall} {p : Progress} {h : Host} (hw : t.waiting = none)
      (e : start (Host.beginCall id c) t.host = some (.ok p, h)) :
      Step play id token t (t.next c h p)
  | resumed {c : SessionCall} {w : Waiting} {p : Progress} {h : Host}
      (hw : t.waiting = some (c, w))
      (hs : ∀ x, w = .write token x →
        Host.HandlersWithin (Host.Spares id token) play token x t.host)
      (e : start (Host.resumeCall play id w) t.host = some (.ok p, h)) :
      Step play id token t (t.next c h p)
  | outside {h : Host} (hs : Host.Spares id token t.host h) :
      Step play id token t { t with host := h }

/-- The session holds what the store has for its token, and the settings of every plugin are those
it had at first with the changes so far put over them, one after the other. -/
structure InStep (id : Nat) (token : String) (base : String → Settings) (t : Routine) :
    Prop where
  login : (t.host.sessionAt id).token = some token
  attached : (t.host.sessionAt id).detached = false
  store : ∃ m, t.host.store = .memory m ∧
    m.entries? token = some (t.host.sessionAt id).entries
  settings : ∀ plugin, (t.host.sessionAt id).settingsOf plugin =
    (t.updates plugin).foldl Settings.overlay (base plugin)
  due : ∀ c w, t.waiting = some (c, w) → w.Due (t.host.sessionAt id) token c

/-! ## What is told -/

theorem told_of_idle {t : Routine} (hw : t.waiting = none) : t.told = t.done := by
  rw [told, hw, Option.bind_none, Option.toList_none, List.append_nil]

theorem told_of_waiting {t : Routine} {c : SessionCall} {w : Waiting}
    (hw : t.waiting = some (c, w)) :
    t.told = t.done ++ ((Progress.waiting w).result?.map (c, ·)).toList := by
  rw [told, hw, Option.bind_some]

theorem told_next (t : Routine) (c : SessionCall) (h : Host) (p : Progress) :
    (t.next c h p).told = t.done ++ (p.result?.map (c, ·)).toList := by
  cases p with
  | finished result => exact told_of_idle rfl
  | waiting w => exact told_of_waiting rfl

@[simp] theorem host_next (t : Routine) (c : SessionCall) (h : Host) (p : Progress) :
    (t.next c h p).host = h := by
  cases p <;> rfl

/-- A call that is on its way was not told of before it has got through its write. -/
theorem updates_next {t : Routine} {c : SessionCall} {h : Host} {p : Progress}
    (ht : t.told = t.done) (plugin : String) : (t.next c h p).updates plugin =
      t.updates plugin ++ (p.result?.bind fun r => changesFor plugin (c, r)).toList := by
  rw [updates, updates, told_next, ht, List.filterMap_append]
  cases p.result? with
  | none => rfl
  | some r => cases hc : changesFor plugin (c, r) <;> simp [hc]

/-! ## One step -/

section
variable {play : Player} {id : Nat} {token : String} {base : String → Settings} {t : Routine}

/-- Only the entries matter to what a session that stays attached to its token has to keep. -/
theorem InStep.move (ht : t.InStep id token base) {t' : Routine} {m : MemoryStore}
    (hlogin : (t'.host.sessionAt id).token = (t.host.sessionAt id).token)
    (hattached : (t'.host.sessionAt id).detached = (t.host.sessionAt id).detached)
    (hentries : (t'.host.sessionAt id).entries = (t.host.sessionAt id).entries)
    (hm : t'.host.store = .memory m) (hstore : m.entries? token = some (t.host.sessionAt id).entries)
    (hupdates : ∀ plugin, t'.updates plugin = t.updates plugin)
    (hdue : ∀ c w, t'.waiting = some (c, w) → w.Due (t'.host.sessionAt id) token c) :
    t'.InStep id token base where
  login := hlogin.trans ht.login
  attached := hattached.trans ht.attached
  store := ⟨m, hm, hentries.symm ▸ hstore⟩
  settings plugin := by
    rw [hupdates, ← ht.settings, Session.settingsOf_eq, Session.settingsOf_eq, hentries]
  due := hdue

theorem began_inStep (ht : t.InStep id token base) (hw : t.waiting = none) {c : SessionCall}
    {p : Progress} {h : Host} (e : start (Host.beginCall id c) t.host = some (.ok p, h)) :
    (t.next c h p).InStep id token base := by
  obtain ⟨m, hm, hstore⟩ := ht.store
  rw [Host.beginCall_start] at e
  obtain ⟨hp, rfl⟩ := Prod.mk.inj (Option.some.inj e)
  cases Except.ok.inj hp
  cases hwrite : (t.host.sessionAt id).writeOf c with
  | some w =>
    rw [Session.begin_of_writeOf hwrite ht.login, Host.withSession_sessionAt]
    refine ht.move rfl rfl rfl hm hstore (fun plugin => ?_) ?_
    · rw [updates_next (told_of_idle hw)]
      exact List.append_nil _
    · rintro _ _ ⟨⟩
      exact ⟨rfl, hwrite⟩
  | none =>
    obtain rfl : c = .refresh := by cases c <;> first | rfl | cases hwrite
    rw [Session.begin_refresh_of_attached ht.login ht.attached]
    have hsession := Host.sessionAt_withSession ht.login
      { t.host.sessionAt id with
        loading := true, refreshes := (t.host.sessionAt id).refreshes + 1 }
    refine ht.move ?_ ?_ ?_ (m := m) hm hstore (fun plugin => ?_) ?_
    · rw [host_next, hsession]
    · rw [host_next, hsession]
    · rw [host_next, hsession]
    · rw [updates_next (told_of_idle hw)]
      exact List.append_nil _
    · rintro _ _ ⟨⟩
      exact rfl

/-- A refresh can bring nothing new. -/
theorem fetched_inStep (ht : t.InStep id token base) {c : SessionCall} {r : Refresh}
    {o : Outcome} (hw : t.waiting = some (c, .fetch r o)) {p : Progress} {h : Host}
    (e : start (Host.resumeCall play id (.fetch r o)) t.host = some (.ok p, h)) :
    (t.next c h p).InStep id token base := by
  obtain ⟨m, hm, hstore⟩ := ht.store
  have hr : r.token = token := ht.due _ _ hw
  have hfetch := Host.fetch_memory hm r.token
  rw [Host.resumeCall_start_of_fetched play id hfetch] at e
  cases e
  have hsession := Host.sessionAt_refreshed (h := { t.host with
    store := .memory (m.fetch r.token).2
    journal := t.host.journal ++ [.stored (.fetch r.token)] }) ht.login r (m.fetch r.token).1
  refine ht.move ?_ ?_ ?_ rfl ((m.entries?_fetch _ _).trans hstore) (fun plugin => ?_) ?_
  · exact (congrArg Session.token hsession).trans (Session.token_finishRefresh _ _ _)
  · exact (congrArg Session.detached hsession).trans (Session.detached_finishRefresh _ _ _)
  · refine (congrArg Session.entries hsession).trans ?_
    rcases Session.entries_finishRefresh_cases _ r (m.fetch r.token).1 with h | ⟨l, hl, h⟩
    · exact h
    · have hsame := (MemoryStore.entries?_of_fetch hl).symm.trans (hr ▸ hstore)
      exact h.trans (Option.some.inj hsame)
  · rw [updates, updates, told_next, told_of_waiting hw]
    rfl
  · rintro _ _ ⟨⟩

/-- What a write does to the settings is what its call is told to have done. -/
theorem settings_of_written {s : Session} {c : SessionCall} {w : Write}
    (hw : s.writeOf c = some w) (plugin : String) :
    settingsIn (MemoryStore.applyWrite w s.entries).2 plugin =
      (changesFor plugin (c, .ok w.outcome)).toList.foldl Settings.overlay
        (s.settingsOf plugin) := by
  rw [MemoryStore.settingsIn_applyWrite]
  cases c with
  | refresh => cases hw
  | toggle other enabled =>
    cases hw
    rfl
  | update other changes =>
    cases hw
    by_cases h : other = plugin
    · simp [changesFor, h]
    · simp [changesFor, h, Session.settingsOf_eq]

theorem written_inStep (ht : t.InStep id token base) {c : SessionCall} {other : String}
    {w : Write} (hw : t.waiting = some (c, .write other w))
    (hs : ∀ x, Waiting.write other w = .write token x →
      Host.HandlersWithin (Host.Spares id token) play token x t.host) {p : Progress} {h : Host}
    (e : start (Host.resumeCall play id (.write other w)) t.host = some (.ok p, h)) :
    (t.next c h p).InStep id token base := by
  obtain ⟨m, hm, hstore⟩ := ht.store
  obtain ⟨rfl, hwrite⟩ := ht.due _ _ hw
  have hpending : t.told = t.done := by
    rw [told_of_waiting hw]
    exact List.append_nil _
  have hwritten := Host.write_memory hm other w
  cases ha : (m.write other w).1 with
  | error cause =>
    rw [ha] at hwritten
    rw [Host.resumeCall_start_of_refused play id hwritten] at e
    cases e
    have hsame := MemoryStore.entries?_of_write_error ha other
    refine ht.move rfl rfl rfl rfl (hsame.trans hstore) (fun plugin => ?_) ?_
    · rw [updates_next hpending]
      cases c <;> exact List.append_nil _
    · rintro _ _ ⟨⟩
  | ok entry =>
    rw [ha] at hwritten
    cases hemit : start (Host.emit play w.event) { t.host with
        store := .memory (m.write other w).2
        journal := t.host.journal ++ [.stored (.write other w)] } with
    | none => cases e.symm.trans (Host.resumeCall_start_of_exhausted play id hwritten hemit)
    | some x =>
      obtain ⟨x, h₂⟩ := x
      obtain ⟨n, rfl⟩ := Host.emit_ok hemit
      obtain ⟨⟨hlogin, hentries, hkept⟩, hattached⟩ := hs w rfl entry _ n h₂ hwritten hemit
      replace hlogin := hlogin.trans ht.login
      replace hattached := hattached.trans ht.attached
      obtain ⟨m₂, hm₂, hkept⟩ := hkept _ rfl
      obtain ⟨l, hl, rfl, hafter⟩ := MemoryStore.entries?_of_write ha
      obtain rfl : l = (t.host.sessionAt id).entries := Option.some.inj (hl.symm.trans hstore)
      have hresume := Host.resumeCall_start_of_written play id hwritten hemit
      rw [Session.afterWrite_of_attached hlogin hattached] at hresume
      cases e.symm.trans hresume
      have hsession := Host.sessionAt_withSession hlogin
      have hput : Session.putEntry (MemoryStore.applyWrite w (t.host.sessionAt id).entries).1
          (h₂.sessionAt id).entries =
            (MemoryStore.applyWrite w (t.host.sessionAt id).entries).2 := by
        rw [hentries]
        exact Session.putEntry_applyWrite w _
      refine ⟨?_, ?_, ⟨m₂, hm₂, ?_⟩, fun plugin => ?_, ?_⟩
      · rw [host_next, hsession]
        exact hlogin
      · rw [host_next, hsession]
        exact hattached
      · rw [host_next, hsession, hkept, hafter, hput]
      · rw [host_next, hsession, Session.settingsOf_eq, hput, settings_of_written hwrite,
          ht.settings, updates_next hpending, List.foldl_append]
        rfl
      · rintro _ _ ⟨⟩
        exact rfl

theorem outside_inStep (ht : t.InStep id token base) {h : Host}
    (hs : Host.Spares id token t.host h) :
    ({ t with host := h } : Routine).InStep id token base := by
  obtain ⟨m, hm, hstore⟩ := ht.store
  obtain ⟨m', hm', hkept⟩ := hs.store m hm
  refine ht.move hs.login hs.attached hs.entries hm' (hkept.trans hstore) (fun _ => rfl) ?_
  intro c w hw
  have hdue := ht.due c w hw
  cases w with
  | fetch r o => exact hdue
  | write other w =>
    obtain ⟨hother, hwrite⟩ := hdue
    exact ⟨hother, (Session.writeOf_congr hs.entries c).trans hwrite⟩

theorem step_inStep {t' : Routine} (ht : t.InStep id token base)
    (hs : Step play id token t t') : t'.InStep id token base := by
  cases hs with
  | began hw e => exact began_inStep ht hw e
  | outside hs => exact outside_inStep ht hs
  | @resumed c w p h hw hs e =>
    cases w with
    | fetch r o => exact fetched_inStep ht hw e
    | write other w => exact written_inStep ht hw hs e

/-! ## Runs -/

abbrev Reaches (play : Player) (id : Nat) (token : String) : Routine → Routine → Prop :=
  Relation.ReflTransGen (Step play id token)

theorem reaches_inStep {t' : Routine} (ht : t.InStep id token base)
    (hr : Reaches play id token t t') : t'.InStep id token base := by
  induction hr with
  | refl => exact ht
  | tail _ hs ih => exact step_inStep ih hs

/-- A call that goes on waiting has its write behind it. -/
theorem resumeCall_waiting {w next : Waiting} {h h' : Host}
    (e : start (Host.resumeCall play id w) h = some (.ok (.waiting next), h')) :
    ∃ r o, next = .fetch r o := by
  obtain ⟨f, h₁, hanswered, hland, -⟩ := Host.resumeCall_ends play id w h _ _ e _ rfl
  cases hanswered with
  | fetched => cases hland
  | refused => cases hland
  | @written _ w entry =>
    simp only [Session.land] at hland
    split at hland
    · cases hland
    · cases hland
      exact ⟨_, _, rfl⟩

theorem settle_fetch_reaches {c : SessionCall} {r : Refresh} {o : Outcome}
    {result : Except SessionError Outcome} {h : Host} (hw : t.waiting = some (c, .fetch r o))
    (e : start (Host.settle play id (.fetch r o)) t.host = some (.ok result, h)) :
    Reaches play id token t ⟨h, none, t.done ++ [(c, result)]⟩ := by
  obtain ⟨answer, h₁, hfetch, -⟩ := Host.fetch_answers r.token t.host
  have hresume := Host.resumeCall_start_of_fetched play id hfetch o
  rw [Host.settle_eq, start_bind, hresume] at e
  cases e
  exact .single (.resumed hw nofun hresume)

theorem settle_reaches {c : SessionCall} {w : Waiting} {result : Except SessionError Outcome}
    {h : Host} (hw : t.waiting = some (c, w))
    (hs : ∀ x, w = .write token x →
      Host.HandlersWithin (Host.Spares id token) play token x t.host)
    (e : start (Host.settle play id w) t.host = some (.ok result, h)) :
    Reaches play id token t ⟨h, none, t.done ++ [(c, result)]⟩ := by
  rw [Host.settle_eq, start_bind] at e
  split at e
  · cases e
  · cases e
  next p h₁ hresume =>
    have hstep : Step play id token t (t.next c h₁ p) := .resumed hw hs hresume
    cases p with
    | finished result =>
      cases e
      exact .single hstep
    | waiting next =>
      obtain ⟨r, o, rfl⟩ := resumeCall_waiting hresume
      exact .head hstep (settle_fetch_reaches rfl e)

/-- A whole call without a pause is a part of a routine. -/
theorem call_reaches {c : SessionCall} {result : Except SessionError Outcome} {h : Host}
    (hw : t.waiting = none)
    (hs : ∀ x, (t.host.sessionAt id).writeOf c = some x →
      Host.HandlersWithin (Host.Spares id token) play token x t.host)
    (e : start (Host.call play id c) t.host = some (.ok result, h)) :
    Reaches play id token t ⟨h, none, t.done ++ [(c, result)]⟩ := by
  have hbegin := Host.beginCall_start id c t.host
  rw [Host.call, start_bind, hbegin] at e
  have hstep : Step play id token t _ := .began hw hbegin
  rcases (t.host.sessionAt id).begin_cases c with
    ⟨r, hb⟩ | ⟨other, w, -, hwrite, hb⟩ | ⟨r, -, hb⟩ <;> rw [hb] at hstep e
  · cases e
    exact .single hstep
  · refine .head hstep (settle_reaches rfl ?_ e)
    rintro x ⟨⟩
    rw [Host.withSession_sessionAt]
    exact hs w hwrite
  · exact .head hstep (settle_fetch_reaches rfl e)

/-! ## After a refresh -/

/-- What the session holds is what the store has. -/
theorem InStep.persisted (ht : t.InStep id token base) (plugin : String) :
    t.host.persisted token plugin = (t.host.sessionAt id).settingsOf plugin := by
  obtain ⟨m, hm, hstore⟩ := ht.store
  rw [Host.persisted_of_memory hm, MemoryStore.settings, MemoryStore.snapshot, hstore]
  rfl

/-- A refresh that has left no error behind has brought the session in step. -/
theorem refresh_inStep {h₀ h : Host} (hm : ∃ m, h₀.store = .memory m)
    (ht : (h₀.sessionAt id).token = some token) (hd : (h₀.sessionAt id).detached = false)
    (e : start (Host.call play id .refresh) h₀ = some (.ok (.ok .refreshed), h))
    (he : (h.sessionAt id).error = none) :
    (idle h).InStep id token (fun plugin => (h.sessionAt id).settingsOf plugin) := by
  obtain ⟨m, hm⟩ := hm
  obtain ⟨answer, h₁, hfetch, -⟩ :=
    Host.fetch_answers token (h₀.withSession id (h₀.sessionAt id).startRefresh.2)
  obtain ⟨hanswer, hstore, hsame⟩ := Host.fetched_of_memory
    (h := h₀.withSession id (h₀.sessionAt id).startRefresh.2) (m := m) hm hfetch
  cases e.symm.trans (Host.call_start_of_refresh play id ht hd hfetch)
  have hbefore : h₁.sessionAt id = { h₀.sessionAt id with
      loading := true, refreshes := (h₀.sessionAt id).refreshes + 1 } := by
    rw [hsame, Host.sessionAt_withSession ht, Session.startRefresh_of_attached ht hd]
  have hlogin : (h₁.sessionAt id).token = some token := by rw [hbefore]; exact ht
  have hattached : (h₁.sessionAt id).detached = false := by rw [hbefore]; exact hd
  have hawaits : (h₁.sessionAt id).awaits ⟨token, (h₀.sessionAt id).refreshes + 1⟩ = true :=
    Session.awaits_iff.mpr ⟨hattached, by rw [hbefore], hlogin⟩
  have hafter := Host.sessionAt_refreshed hlogin
    ⟨token, (h₀.sessionAt id).refreshes + 1⟩ answer
  rw [Session.finishRefresh_of_awaited hawaits] at hafter
  cases answer with
  | error cause =>
    rw [hafter] at he
    cases he
  | ok l =>
    have hentries : (m.fetch token).2.entries? token = some l :=
      (m.entries?_fetch _ _).trans (MemoryStore.entries?_of_fetch hanswer.symm)
    refine ⟨?_, ?_, ⟨_, hstore, ?_⟩, fun _ => rfl, nofun⟩
    · exact (congrArg Session.token hafter).trans hlogin
    · exact (congrArg Session.detached hafter).trans hattached
    · exact hentries.trans (congrArg (fun s => some s.entries) hafter).symm

/-- Whatever fails along a routine that starts with a successful refresh, the session holds what
the store has for its token, entry by entry; and between two calls the store has, for every plugin,
the settings from the start with the changes of all successful updates put over them in turn. -/
theorem kept_in_step {h₀ h : Host} (hm : ∃ m, h₀.store = .memory m)
    (ht : (h₀.sessionAt id).token = some token) (hd : (h₀.sessionAt id).detached = false)
    (e : start (Host.call play id .refresh) h₀ = some (.ok (.ok .refreshed), h))
    (he : (h.sessionAt id).error = none) {t : Routine}
    (hr : Reaches play id token (idle h) t) :
    (∃ m, t.host.store = .memory m ∧
      m.entries? token = some (t.host.sessionAt id).entries) ∧
    (t.waiting = none → ∀ plugin, t.host.persisted token plugin =
      (t.done.filterMap (changesFor plugin)).foldl Settings.overlay
        (h.persisted token plugin)) := by
  have hstart := refresh_inStep hm ht hd e he
  have hend := reaches_inStep hstart hr
  refine ⟨hend.store, fun hw plugin => ?_⟩
  have hpersisted : h.persisted token plugin = _ := hstart.persisted plugin
  rw [hend.persisted, hend.settings, updates, told_of_idle hw, hpersisted]
  rfl

end

/-- A user who has a plugin twice. -/
def twice : List Entry := [⟨"chat", true, .ofList [("z", "0")], false⟩, .new "chat" false]

/-- After a refresh, the first of two updates is refused by the store, and the second is not. -/
theorem kept_in_step_failing :
    let m := MemoryStore.empty.seed "ada" twice
    let h : Host := { Host.alone { Session.new (some "ada") with entries := twice, refreshes := 1 }
      { m with fetches := 1 } with journal := [.stored (.fetch "ada")] }
    start (Host.call (Host.player 1) 0 .refresh) (Host.alone (.new (some "ada")) m) =
        some (.ok (.ok .refreshed), h) ∧
      ∃ t, Reaches (Host.player 1) 0 "ada" (idle h) t ∧
        t.done = [(.update "chat" Traffic.firstKey,
            .error (.storage (.failed "update_config" "down"))),
          (.update "chat" Traffic.secondKey, .ok (.updated (.ofList [("b", "2"), ("z", "0")])))] ∧
        ∃ m', t.host.store = .memory m' ∧
          m'.entries? "ada" = some (t.host.sessionAt 0).entries := by
  intro m h
  have hrefresh : start (Host.call (Host.player 1) 0 .refresh)
      (Host.alone (.new (some "ada")) m) = some (.ok (.ok .refreshed), h) := rfl
  have hfailing : Reaches (Host.player 1) 0 "ada" (idle h) (idle (h.failing "down")) :=
    .single (.outside (h.failing_spares 0 "ada" "down"))
  have hfirst : Reaches (Host.player 1) 0 "ada" (idle (h.failing "down")) _ :=
    call_reaches (c := .update "chat" Traffic.firstKey) rfl
      (fun _ _ => Host.unheard_spares rfl 0 "ada") rfl
  have hr : Reaches (Host.player 1) 0 "ada" (idle h) _ :=
    (hfailing.trans hfirst).trans (call_reaches (c := .update "chat" Traffic.secondKey) rfl
      (fun _ _ => Host.unheard_spares rfl 0 "ada") rfl)
  exact ⟨hrefresh, _, hr, rfl, (kept_in_step ⟨_, rfl⟩ rfl rfl hrefresh rfl hr).1⟩

end Routine
end Plugboard
