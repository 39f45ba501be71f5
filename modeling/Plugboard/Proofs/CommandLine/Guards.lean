import Plugboard.Proofs.CommandLine.Opening
import Plugboard.Proofs.Session.Writing

/-!
Commands that write are guarded: one that is refused writes nothing, and any other writes once and
succeeds exactly if the store has taken the write.

* `IsAssignment`: a key that is not blank, an equals sign, and a value. `parseAssignments_ok_iff`: that
  is what the arguments have to be.
* `Command.write?`: what a command wants written for a user with some entries.
* `Refusal`: everything that keeps a command from writing.
* `Stopped`, `Wrote`: what a command comes to that is refused, and one that is not. `Guarded`: it comes
  to the one or the other.
* `writes_guarded`: there is no third way.
-/
namespace Plugboard.CommandLine

open Run

/-! ## Arguments -/

def IsAssignment (raw : String) : Prop :=
  ∃ key value, raw.toList = key ++ '=' :: value ∧ '=' ∉ key ∧ key.all Text.isBlank = false

/-- A list whose first equals sign comes after these characters. -/
theorem split_at_equals {key : List Char} (hk : '=' ∉ key) (value : List Char) :
    (key ++ '=' :: value).takeWhile (· != '=') = key ∧
      (key ++ '=' :: value).dropWhile (· != '=') = '=' :: value := by
  have hall : ∀ c ∈ key, (c != '=') = true := by
    intro c hc
    have hne : c ≠ '=' := fun he => hk (he ▸ hc)
    simpa using hne
  constructor
  · rw [List.takeWhile_append_of_pos hall]
    simp
  · rw [List.dropWhile_append_of_pos hall]
    simp

theorem parseAssignment_ok_iff (raw : String) :
    (∃ a, parseAssignment raw = .ok a) ↔ IsAssignment raw := by
  constructor
  · rintro ⟨a, ha⟩
    unfold parseAssignment at ha
    dsimp only at ha
    split at ha
    next c value hdrop =>
      obtain rfl : c = '=' := by
        have hhead := List.head?_dropWhile_not (· != '=') raw.toList
        rw [hdrop] at hhead
        simpa using hhead
      split at ha
      · cases ha
      next hblank =>
        refine ⟨raw.toList.takeWhile (· != '='), value, ?_, ?_, by simpa using hblank⟩
        · rw [← hdrop, List.takeWhile_append_dropWhile]
        · intro hmem
          simpa using List.all_eq_true.mp List.all_takeWhile _ hmem
    next => cases ha
  · rintro ⟨key, value, hraw, hk, hblank⟩
    obtain ⟨htake, hdrop⟩ := split_at_equals hk value
    simp [parseAssignment, hraw, htake, hdrop, hblank]

theorem mapM_ok_iff {α β ε : Type} {f : α → Except ε β} {l : List α} :
    (∃ bs, l.mapM f = .ok bs) ↔ ∀ a ∈ l, ∃ b, f a = .ok b := by
  induction l with
  | nil => exact ⟨fun _ _ ha => absurd ha List.not_mem_nil, fun _ => ⟨[], rfl⟩⟩
  | cons a l ih =>
    rw [List.mapM_cons, List.forall_mem_cons, ← ih]
    cases f a with
    | error e => simp [bind, Except.bind]
    | ok b =>
      cases l.mapM f with
      | error e => simp [bind, Except.bind]
      | ok bs => simp [bind, Except.bind, pure, Except.pure]

theorem parseAssignments_ok_iff (raw : List String) :
    (∃ changes, parseAssignments raw = .ok changes) ↔ ∀ a ∈ raw, IsAssignment a := by
  have hiff := mapM_ok_iff (f := parseAssignment) (l := raw)
  simp only [parseAssignment_ok_iff] at hiff
  rw [← hiff, parseAssignments]
  cases raw.mapM parseAssignment <;> simp [Except.map]

theorem exists_malformed {raw : List String} {e : HostError} (h : parseAssignments raw = .error e) :
    ∃ a ∈ raw, ¬ IsAssignment a := by
  by_contra hall
  obtain ⟨changes, hok⟩ := (parseAssignments_ok_iff raw).mpr fun a ha =>
    not_not.mp fun hn => hall ⟨a, ha, hn⟩
  cases h.symm.trans hok

/-! ## Commands that write -/

/-- The plugin that a command wants something written for. -/
def Command.writesFor? : Command → Option String
  | .toggle plugin _ | .settingsSet plugin _ => some plugin
  | _ => none

/-- What a command wants written for a user with these entries. -/
def Command.write? (l : List Entry) : Command → Option Write
  | .toggle plugin enabled => some (.toggle plugin enabled)
  | .settingsSet plugin raw =>
    match parseAssignments raw with
    | .ok changes => some (.replaceSettings plugin ((settingsIn l plugin).overlay changes))
    | .error _ => none
  | _ => none

/-- The host has a token, and this is what the store answers to the first fetch. -/
structure Loads (h : Host) (token : String) (answer : Except StorageError (List Entry)) : Prop where
  login : h.config.token = some token
  asked : ∃ g, start (Host.fetch token) (h.opening token) = some (.ok answer, g)

/-- What keeps a command from writing. -/
inductive Refusal (h : Host) : Command → Prop
  | unknown {c : Command} {plugin : String} (hc : c.writesFor? = some plugin)
    (hr : h.registry.get? plugin = none) : Refusal h c
  | malformed {plugin a : String} {raw : List String} (ha : a ∈ raw) (hn : ¬ IsAssignment a) :
    Refusal h (.settingsSet plugin raw)
  | missingToken {c : Command} (ht : h.config.token = none) : Refusal h c
  | unloaded {c : Command} {token : String} {cause : StorageError}
    (hl : Loads h token (.error cause)) : Refusal h c
  | rejected {plugin token : String} {raw : List String} {p : Installed Code} {schema : Schema}
    {l : List Entry} {changes : Settings} (hr : h.registry.get? plugin = some p)
    (hs : p.definition.schema = some schema) (hl : Loads h token (.ok l))
    (hp : parseAssignments raw = .ok changes)
    (hv : schema.accepts ((settingsIn l plugin).overlay changes) = false) :
    Refusal h (.settingsSet plugin raw)

/-- The command fails, and nothing was written. -/
def Stopped (serve : Server Host) (c : Command) (h : Host) : Prop :=
  ∃ lines e h' done, start (c.run serve) h = some (.ok ⟨[], lines, some e⟩, h') ∧
    h'.journal = h.journal ++ done ∧ ∀ x ∈ done, ¬ x.IsWrite

/-- The store has given the entries `l`, and is asked for one write, the one that the command wants
for them. It answers at `taken`. If it refuses, the command fails. If it takes the write, the command
succeeds as soon as the event is delivered, whatever becomes of the refresh, and writes nothing more. -/
structure Wrote (serve : Server Host) (c : Command) (h : Host) (token : String) (l : List Entry)
    (w : Write) (answer : Except StorageError Entry) (taken : Host) : Prop where
  loads : Loads h token (.ok l)
  wanted : c.write? l = some w
  accepted : ∀ p schema settings, h.registry.get? w.plugin = some p →
    p.definition.schema = some schema → w = .replaceSettings w.plugin settings →
    schema.accepts settings = true
  asked : ∃ opened, Opened token (.ok l) h opened ∧
    start (Host.write token w) opened = some (.ok answer, taken)
  journal : ∃ before talk, taken.journal = h.journal ++ before ++ .stored (.write token w) :: talk ∧
    (∀ x ∈ before, ¬ x.IsWrite) ∧ ∀ x ∈ talk, ¬ x.IsWrite
  refused : ∀ cause, answer = .error cause →
    start (c.run serve) h = some (.ok (.failure (.session (.storage cause))), taken)
  succeeded : ∀ entry n told, answer = .ok entry →
    start (Host.emit (Code.run serve) w.event) taken = some (.ok n, told) →
    ∃ out h' done, start (c.run serve) h = some (.ok (.lines out), h') ∧
      h'.journal = told.journal ++ done ∧ ∀ x ∈ done, ¬ x.IsWrite
  exhausted : ∀ entry, answer = .ok entry →
    start (Host.emit (Code.run serve) w.event) taken = none → start (c.run serve) h = none

/-- The command is refused and stops, or it is not and writes. -/
def Guarded (serve : Server Host) (c : Command) (h : Host) : Prop :=
  (Refusal h c ∧ Stopped serve c h) ∨
    ¬ Refusal h c ∧ ∃ token l w answer taken, Wrote serve c h token l w answer taken

/-- Makes a call, and says what has come of it. -/
def carryOut (play : Player) (id : Nat) (call : SessionCall) (say : Outcome → List String) :
    HostRun Printed := do
  match ← Host.call play id call with
  | .error e => return .failure (.session e)
  | .ok o => return .lines (say o)

/-! ### Up to the call -/

section
variable {h : Host}

theorem Loads.unique {token token' : String} {answer answer' : Except StorageError (List Entry)}
    (hl : Loads h token answer) (hl' : Loads h token' answer') :
    token = token' ∧ answer = answer' := by
  obtain ⟨hlogin, g, e⟩ := hl
  obtain ⟨hlogin', g', e'⟩ := hl'
  cases hlogin.symm.trans hlogin'
  cases e.symm.trans e'
  exact ⟨rfl, rfl⟩

theorem Opened.not_isWrite {token : String} {answer : Except StorageError (List Entry)}
    {h' : Host} (ho : Opened token answer h h') :
    ∃ done, h'.journal = h.journal ++ done ∧ ∀ x ∈ done, ¬ x.IsWrite := by
  obtain ⟨talk, hjournal, htalk⟩ := ho.journal
  exact ⟨_, hjournal, List.forall_mem_cons.mpr ⟨fun hw => hw, fun x hx => (htalk x hx).not_isWrite⟩⟩

/-- A session opens with the entries of the store, or does not open, and nothing was written. -/
theorem loads_cases (play : Player) (h : Host) :
    ((h.config.token = none ∨ ∃ token cause, Loads h token (.error cause)) ∧
      ∃ e h' done, start (openSession play) h = some (.ok (.error e), h') ∧
        h'.journal = h.journal ++ done ∧ ∀ x ∈ done, ¬ x.IsWrite) ∨
    ∃ token l opened, Loads h token (.ok l) ∧ Opened token (.ok l) h opened ∧
      start (openSession play) h = some (.ok (.ok h.sessions.length), opened) := by
  rcases openSession_cases play h with ⟨ht, e⟩ | ⟨token, answer, opened, ht, ho, e⟩
  · exact .inl ⟨.inl ht, _, h, [], e, by simp, by simp⟩
  · cases answer with
    | error cause =>
      obtain ⟨done, hjournal, hdone⟩ := ho.not_isWrite
      exact .inl ⟨.inr ⟨token, cause, ht, ho.asked⟩, _, opened, done, e, hjournal, hdone⟩
    | ok l => exact .inr ⟨token, l, opened, ⟨ht, ho.asked⟩, ho, e⟩

theorem refusal_of_unloaded {c : Command}
    (hwhy : h.config.token = none ∨ ∃ token cause, Loads h token (.error cause)) : Refusal h c := by
  rcases hwhy with ht | ⟨token, cause, hl⟩
  · exact .missingToken ht
  · exact .unloaded hl

variable {c : Command} {token : String} {l : List Entry}

/-- Nothing else keeps a command from writing. -/
theorem not_refusal {plugin : String} {p : Installed Code} (hc : c.writesFor? = some plugin)
    (hr : h.registry.get? plugin = some p) (hl : Loads h token (.ok l))
    (hargs : ∀ raw, c = .settingsSet plugin raw → ∃ changes, parseAssignments raw = .ok changes ∧
      ∀ schema, p.definition.schema = some schema →
        schema.accepts ((settingsIn l plugin).overlay changes) = true) : ¬ Refusal h c := by
  intro hrefusal
  cases hrefusal with
  | unknown hc' hr' =>
    cases hc.symm.trans hc'
    cases hr.symm.trans hr'
  | malformed ha hn =>
    cases hc
    obtain ⟨changes, hp, -⟩ := hargs _ rfl
    exact hn ((parseAssignments_ok_iff _).mp ⟨changes, hp⟩ _ ha)
  | missingToken ht => cases hl.login.symm.trans ht
  | unloaded hl' => cases (hl.unique hl').2
  | rejected hr' hs hl' hp' hv =>
    cases hc
    obtain ⟨changes, hp, haccepts⟩ := hargs _ rfl
    cases hr.symm.trans hr'
    cases hp.symm.trans hp'
    cases (hl.unique hl').2
    cases (haccepts _ hs).symm.trans hv

/-! ### The call -/

variable {serve : Server Host}

/-- What follows when nothing keeps the command from its call. -/
theorem wrote_of_call {w : Write} {call : SessionCall} {say : Outcome → List String} {opened : Host}
    (hl : Loads h token (.ok l)) (ho : Opened token (.ok l) h opened)
    (e : start (c.run serve) h =
      start (carryOut (Code.run serve) h.sessions.length call say) opened)
    (hcall : (Session.opened token (.ok l)).writeOf call = some w) (hwanted : c.write? l = some w)
    (haccepted : ∀ p schema settings, h.registry.get? w.plugin = some p →
      p.definition.schema = some schema → w = .replaceSettings w.plugin settings →
      schema.accepts settings = true) :
    ∃ answer taken, Wrote serve c h token l w answer taken := by
  rw [← ho.session] at hcall
  have ht : (opened.sessionAt h.sessions.length).token = some token := by
    rw [ho.session, Session.token_opened]
  obtain ⟨answer, taken, hw⟩ := Host.call_writing (Code.run serve) hcall ht
  obtain ⟨before, hopened, hbefore⟩ := ho.not_isWrite
  obtain ⟨talk, htaken, htalk⟩ := hw.journal
  refine ⟨answer, taken, hl, hwanted, haccepted, ⟨opened, ho, hw.asked⟩,
    ⟨before, talk, ?_, hbefore, fun x hx => (htalk x hx).not_isWrite⟩, ?_, ?_, ?_⟩
  · rw [htaken, hopened]
  · intro cause hcause
    rw [e, carryOut, start_bind, hw.refused cause hcause]
    rfl
  · intro entry n told hentry htold
    obtain ⟨h', done, hend, hjournal, hdone⟩ := hw.accepted entry n told hentry htold
    refine ⟨say w.outcome, h', done, ?_, hjournal, hdone⟩
    rw [e, carryOut, start_bind, hend]
    rfl
  · intro entry hentry htold
    rw [e, carryOut, start_bind, hw.exhausted entry hentry htold]

end

/-! ### Each command -/

section
variable (serve : Server Host) (h : Host) (plugin : String)

theorem toggle_guarded (enabled : Bool) : Guarded serve (.toggle plugin enabled) h := by
  cases hr : h.registry.get? plugin with
  | none =>
    exact .inl ⟨.unknown rfl hr, [], _, h, [], start_withPlugin_of_none hr _, by simp, by simp⟩
  | some p =>
    let say := fun _ : Outcome =>
      ["Plugin '" ++ plugin ++ "' " ++ (if enabled then "enabled" else "disabled") ++ "."]
    have hrun : start ((Command.toggle plugin enabled).run serve) h =
        start (withSession (Code.run serve) fun id =>
          carryOut (Code.run serve) id (.toggle plugin enabled) say) h := start_withPlugin hr _
    rcases loads_cases (Code.run serve) h with
      ⟨hwhy, e, h', done, hopen, hdone⟩ | ⟨token, l, opened, hl, ho, hopen⟩
    · exact .inl ⟨refusal_of_unloaded hwhy, [], e, h', done,
        hrun.trans (start_withSession_of_error hopen _), hdone⟩
    · have hwrote : ∃ answer taken, Wrote serve (.toggle plugin enabled) h token l
          (.toggle plugin enabled) answer taken :=
        wrote_of_call hl ho (hrun.trans (start_withSession hopen _)) rfl rfl fun _ _ _ _ _ => nofun
      exact .inr ⟨not_refusal rfl hr hl nofun, token, l, _, hwrote⟩

/-- Once its session is open, the command that sets settings looks at what the schema says of the
outcome. -/
theorem start_settingsSet_of_opened {p : Installed Code} {raw : List String} {changes : Settings}
    {token : String} {l : List Entry} {opened : Host} (hr : h.registry.get? plugin = some p)
    (hp : parseAssignments raw = .ok changes) (ho : Opened token (.ok l) h opened)
    (e : start (openSession (Code.run serve)) h = some (.ok (.ok h.sessions.length), opened)) :
    let merged := (settingsIn l plugin).overlay changes
    let violations := (p.definition.schema.getD .empty).violations merged
    start ((Command.settingsSet plugin raw).run serve) h =
      if violations.isEmpty then
        start (carryOut (Code.run serve) h.sessions.length (.update plugin changes) fun o =>
          ["Updated config for '" ++ plugin ++ "' (" ++ toString o.settings.entries.length ++
            " keys)."]) opened
      else some (.ok ⟨[], violations.map fun v => "  " ++ v.message,
        some (.other (invalidCount violations.length plugin))⟩, opened) := by
  intro merged violations
  have hsession : start (Host.session h.sessions.length) opened =
      some (.ok (.opened token (.ok l)), opened) := by
    rw [← ho.session]
    rfl
  have hrun : (Command.settingsSet plugin raw).run serve =
      settingsSet (Code.run serve) plugin raw := rfl
  rw [hrun, settingsSet, start_withPlugin hr, hp]
  simp only [start_withSession e, start_bind, hsession, Session.settingsOf_opened]
  change start (if violations.isEmpty = true then _ else _) opened = _
  split
  · rw [Host.update, carryOut, start_bind, start_bind, start_bind]
    rcases start (Host.call (Code.run serve) h.sessions.length (.update plugin changes)) opened with
      _ | ⟨_ | _ | _, _⟩ <;> rfl
  · rfl

/-- With its session open, the command writes unless the schema rejects the outcome. -/
theorem settingsSet_guarded_of_opened {p : Installed Code} {raw : List String} {changes : Settings}
    {token : String} {l : List Entry} {opened : Host} (hr : h.registry.get? plugin = some p)
    (hp : parseAssignments raw = .ok changes) (hl : Loads h token (.ok l))
    (ho : Opened token (.ok l) h opened)
    (e : start (openSession (Code.run serve)) h = some (.ok (.ok h.sessions.length), opened)) :
    Guarded serve (.settingsSet plugin raw) h := by
  have hrun := start_settingsSet_of_opened serve h plugin hr hp ho e
  dsimp only at hrun
  split at hrun
  next haccepts =>
    have hvalid : ∀ schema, p.definition.schema = some schema →
        schema.accepts ((settingsIn l plugin).overlay changes) = true := by
      intro schema hs
      rw [hs] at haccepts
      exact haccepts
    have hnot : ¬ Refusal h (.settingsSet plugin raw) := by
      refine not_refusal rfl hr hl fun raw' hraw => ?_
      cases hraw
      exact ⟨changes, hp, hvalid⟩
    have hwanted : (Command.settingsSet plugin raw).write? l =
        some (.replaceSettings plugin ((settingsIn l plugin).overlay changes)) := by
      rw [Command.write?, hp]
    have hcall : (Session.opened token (.ok l)).writeOf (.update plugin changes) =
        some (.replaceSettings plugin ((settingsIn l plugin).overlay changes)) := by
      rw [Session.writeOf, Session.settingsOf_opened]
    refine .inr ⟨hnot, token, l, _, wrote_of_call hl ho hrun hcall hwanted ?_⟩
    intro p' schema settings hr' hs hw
    cases hw
    cases hr.symm.trans hr'
    exact hvalid schema hs
  next hrejects =>
    obtain ⟨done, hjournal, hdone⟩ := ho.not_isWrite
    cases hs : p.definition.schema with
    | none =>
      rw [hs] at hrejects
      exact (hrejects rfl).elim
    | some schema =>
      rw [hs] at hrejects
      have hv : schema.accepts ((settingsIn l plugin).overlay changes) = false :=
        Bool.eq_false_iff.mpr hrejects
      exact .inl ⟨.rejected hr hs hl hp hv, _, _, opened, done, hrun, hjournal, hdone⟩

theorem settingsSet_guarded (raw : List String) : Guarded serve (.settingsSet plugin raw) h := by
  cases hr : h.registry.get? plugin with
  | none =>
    exact .inl ⟨.unknown rfl hr, [], _, h, [], start_withPlugin_of_none hr _, by simp, by simp⟩
  | some p =>
    cases hp : parseAssignments raw with
    | error e =>
      obtain ⟨a, ha, hn⟩ := exists_malformed hp
      have hrun : start ((Command.settingsSet plugin raw).run serve) h =
          some (.ok (.failure e), h) := by
        refine (start_withPlugin hr _).trans ?_
        rw [hp]
        rfl
      exact .inl ⟨.malformed ha hn, [], e, h, [], hrun, by simp, by simp⟩
    | ok changes =>
      rcases loads_cases (Code.run serve) h with
        ⟨hwhy, e, h', done, hopen, hdone⟩ | ⟨token, l, opened, hl, ho, hopen⟩
      · have hrun : start ((Command.settingsSet plugin raw).run serve) h =
            some (.ok (.failure e), h') := by
          refine (start_withPlugin hr _).trans ?_
          rw [hp]
          exact start_withSession_of_error hopen _
        exact .inl ⟨refusal_of_unloaded hwhy, [], e, h', done, hrun, hdone⟩
      · exact settingsSet_guarded_of_opened serve h plugin hr hp hl ho hopen

end

/-- A command that writes is refused, for one of the reasons in `Refusal`, or writes once. Refused, it
fails and nothing was written. Otherwise the store is asked for one write, the one that the command
wants for the entries that were loaded; the command succeeds if the store takes it and fails if the
store refuses it, and it writes nothing else. -/
theorem writes_guarded (serve : Server Host) {c : Command} {plugin : String}
    (hc : c.writesFor? = some plugin) (h : Host) :
    (Refusal h c ∧ Stopped serve c h) ∨
    ¬ Refusal h c ∧ ∃ token l w answer taken, Wrote serve c h token l w answer taken := by
  cases c with
  | toggle plugin enabled => exact toggle_guarded serve h plugin enabled
  | settingsSet plugin raw => exact settingsSet_guarded serve h plugin raw
  | _ => cases hc

/-- The entries of a user of the drive. -/
def gridEntries : List Entry := [⟨"drive", true, Settings.ofList [("view_mode", "grid")], true⟩]

theorem driveHost_loads : Loads (driveHost gridEntries) "ada" (.ok gridEntries) := ⟨rfl, _, rfl⟩

/-- A page size is written together with the settings that were there, and one that is no number is
refused. -/
theorem writes_guarded_drive :
    let h := driveHost gridEntries
    let accepted := Command.settingsSet "drive" ["page_size=25"]
    let rejected := Command.settingsSet "drive" ["page_size=many"]
    let merged := Settings.ofList [("view_mode", "grid"), ("page_size", "25")]
    (accepted.writesFor? = some "drive" ∧ ¬ Refusal h accepted ∧ ∃ answer taken,
      Wrote (Host.server 1) accepted h "ada" gridEntries (.replaceSettings "drive" merged)
        answer taken) ∧
    rejected.writesFor? = some "drive" ∧ Refusal h rejected ∧ Stopped (Host.server 1) rejected h := by
  intro h accepted rejected merged
  have haccepted : ¬ Refusal h (.settingsSet "drive" ["page_size=25"]) := by
    refine not_refusal (p := ⟨Drive.definition, 1⟩) rfl rfl driveHost_loads fun raw hraw => ?_
    cases hraw
    refine ⟨_, rfl, fun schema hs => ?_⟩
    cases hs
    decide
  have hrejected : Refusal h rejected :=
    .rejected (p := ⟨Drive.definition, 1⟩) rfl rfl driveHost_loads rfl (by decide)
  constructor
  · rcases writes_guarded (Host.server 1) (c := accepted) rfl h with
      ⟨hrefusal, -⟩ | ⟨hn, token, l, w, answer, taken, hw⟩
    · exact (haccepted hrefusal).elim
    · obtain ⟨rfl, hl⟩ := hw.loads.unique driveHost_loads
      cases hl
      cases hw.wanted
      exact ⟨rfl, hn, answer, taken, hw⟩
  · rcases writes_guarded (Host.server 1) (c := rejected) rfl h with hstopped | ⟨hn, -⟩
    · exact ⟨rfl, hstopped⟩
    · exact (hn hrejected).elim

end Plugboard.CommandLine
