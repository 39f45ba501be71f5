import Plugboard.Proofs.Storage
import Plugboard.Session.Call

/-!
What each step of a session changes and what it keeps.
-/
namespace Plugboard.Session

/-! ## Refreshes -/

/-- Starting a refresh notes that the session loads, and numbers the refresh. -/
theorem startRefresh_keeps {α : Type} (f : Session → α) (s : Session)
    (hf : ∀ loading refreshes, f { s with loading := loading, refreshes := refreshes } = f s) :
    f s.startRefresh.2 = f s := by
  unfold startRefresh
  split
  · rfl
  · split
    · rfl
    · exact hf _ _

@[simp] theorem token_startRefresh (s : Session) : s.startRefresh.2.token = s.token :=
  startRefresh_keeps Session.token s fun _ _ => rfl

theorem token_of_startRefresh {s s' : Session} {r : Option Refresh}
    (h : s.startRefresh = (r, s')) : s'.token = s.token := by
  rw [← token_startRefresh s, h]

@[simp] theorem entries_startRefresh (s : Session) : s.startRefresh.2.entries = s.entries :=
  startRefresh_keeps Session.entries s fun _ _ => rfl

@[simp] theorem error_startRefresh (s : Session) : s.startRefresh.2.error = s.error :=
  startRefresh_keeps Session.error s fun _ _ => rfl

@[simp] theorem detached_startRefresh (s : Session) : s.startRefresh.2.detached = s.detached :=
  startRefresh_keeps Session.detached s fun _ _ => rfl

/-- A session with a token that is not detached starts its next refresh; any other does nothing. -/
theorem startRefresh_cases (s : Session) : s.startRefresh = (none, s) ∨
    ∃ token, s.token = some token ∧ s.startRefresh = (some ⟨token, s.refreshes + 1⟩,
      { s with loading := true, refreshes := s.refreshes + 1 }) := by
  unfold startRefresh
  split
  next => exact .inl rfl
  next token ht =>
    split
    · exact .inl rfl
    · exact .inr ⟨token, ht, rfl⟩

theorem startRefresh_of_token_none {s : Session} (h : s.token = none) :
    s.startRefresh = (none, s) := by
  rw [startRefresh, h]

theorem startRefresh_of_attached {s : Session} {token : String} (h : s.token = some token)
    (hd : s.detached = false) : s.startRefresh =
      (some ⟨token, s.refreshes + 1⟩,
        { s with loading := true, refreshes := s.refreshes + 1 }) := by
  simp [startRefresh, h, hd]

/-- The end of a refresh touches neither the token nor the numbering. -/
theorem finishRefresh_keeps {α : Type} (f : Session → α) (s : Session) (r : Refresh)
    (a : Except StorageError (List Entry))
    (hf : ∀ entries error,
      f { s with loading := false, entries := entries, error := error } = f s) :
    f (s.finishRefresh r a) = f s := by
  unfold finishRefresh
  split
  · cases a with
    | ok entries => exact hf entries none
    | error e => exact hf s.entries _
  · rfl

@[simp] theorem token_finishRefresh (s : Session) (r : Refresh)
    (a : Except StorageError (List Entry)) : (s.finishRefresh r a).token = s.token :=
  finishRefresh_keeps Session.token s r a fun _ _ => rfl

@[simp] theorem detached_finishRefresh (s : Session) (r : Refresh)
    (a : Except StorageError (List Entry)) : (s.finishRefresh r a).detached = s.detached :=
  finishRefresh_keeps Session.detached s r a fun _ _ => rfl

@[simp] theorem refreshes_finishRefresh (s : Session) (r : Refresh)
    (a : Except StorageError (List Entry)) : (s.finishRefresh r a).refreshes = s.refreshes :=
  finishRefresh_keeps Session.refreshes s r a fun _ _ => rfl

theorem awaits_iff {s : Session} {r : Refresh} :
    s.awaits r = true ↔ s.detached = false ∧ s.refreshes = r.number ∧ s.token = some r.token := by
  simp [awaits, and_assoc]

/-- The end of a refresh leaves the entries alone or puts those of the answer in their place. -/
theorem entries_finishRefresh_cases (s : Session) (r : Refresh)
    (a : Except StorageError (List Entry)) : (s.finishRefresh r a).entries = s.entries ∨
      ∃ l, a = .ok l ∧ (s.finishRefresh r a).entries = l := by
  unfold finishRefresh
  split
  · cases a with
    | ok l => exact .inr ⟨l, rfl, rfl⟩
    | error e => exact .inl rfl
  · exact .inl rfl

/-- A refresh that the session waits for ends its loading, and says in all but the entries of a
failed one how it went. -/
theorem finishRefresh_of_awaited {s : Session} {r : Refresh} (h : s.awaits r = true)
    (a : Except StorageError (List Entry)) : s.finishRefresh r a = match a with
      | .ok l => { s with loading := false, entries := l, error := none }
      | .error e => { s with loading := false, error := some (failureText e) } := by
  unfold finishRefresh
  cases a with
  | ok l => exact if_pos h
  | error e => exact if_pos h

/-- The entries of a refresh that the session waits for are taken over. -/
theorem entries_finishRefresh {s : Session} {r : Refresh} (h : s.awaits r = true)
    (l : List Entry) : (s.finishRefresh r (.ok l)).entries = l := by
  unfold finishRefresh
  rw [if_pos h]

/-- A refresh that is not the newest one is dropped. -/
theorem finishRefresh_of_superseded {s : Session} {r : Refresh} (h : r.number ≠ s.refreshes)
    (a : Except StorageError (List Entry)) : s.finishRefresh r a = s := by
  have hr : ¬ s.awaits r = true := fun hr => h (awaits_iff.mp hr).2.1.symm
  unfold finishRefresh
  rw [if_neg hr]

theorem setToken_same {s : Session} {token : Option String} (h : s.token = token) :
    s.setToken token = s := if_pos h

theorem token_setToken (s : Session) (token : Option String) : (s.setToken token).token = token := by
  unfold setToken
  split
  next h => exact h
  next => rfl

/-! ## Writes -/

/-- Only the entries may change. -/
theorem applyWritten_keeps {α : Type} (f : Session → α) (s : Session) (token : String) (e : Entry)
    (hf : ∀ entries, f { s with entries := entries } = f s) :
    f (s.applyWritten token e) = f s := by
  unfold applyWritten
  split
  · exact hf _
  · rfl

@[simp] theorem token_applyWritten (s : Session) (token : String) (e : Entry) :
    (s.applyWritten token e).token = s.token :=
  applyWritten_keeps Session.token s token e fun _ => rfl

@[simp] theorem detached_applyWritten (s : Session) (token : String) (e : Entry) :
    (s.applyWritten token e).detached = s.detached :=
  applyWritten_keeps Session.detached s token e fun _ => rfl

@[simp] theorem refreshes_applyWritten (s : Session) (token : String) (e : Entry) :
    (s.applyWritten token e).refreshes = s.refreshes :=
  applyWritten_keeps Session.refreshes s token e fun _ => rfl

@[simp] theorem loading_applyWritten (s : Session) (token : String) (e : Entry) :
    (s.applyWritten token e).loading = s.loading :=
  applyWritten_keeps Session.loading s token e fun _ => rfl

theorem mem_putEntry {e x : Entry} {l : List Entry} (h : x ∈ putEntry e l) : x = e ∨ x ∈ l := by
  induction l with
  | nil => exact .inl (List.mem_singleton.mp h)
  | cons a rest ih =>
    unfold putEntry at h
    split at h
    · rcases List.mem_cons.mp h with rfl | h
      · exact .inl rfl
      · exact .inr (List.mem_cons_of_mem _ h)
    · rcases List.mem_cons.mp h with rfl | h
      · exact .inr List.mem_cons_self
      · exact (ih h).imp_right (List.mem_cons_of_mem _)

/-- An entry that is put among others is the first one for its plugin, and no other plugin's first
one changes. -/
theorem entryIn_putEntry (e : Entry) (l : List Entry) (plugin : String) :
    entryIn (putEntry e l) plugin = if e.plugin = plugin then some e else entryIn l plugin := by
  induction l with
  | nil => exact entryIn_cons e [] plugin
  | cons a rest ih =>
    unfold putEntry
    split
    next h =>
      rw [entryIn_cons, entryIn_cons, h]
      split <;> rfl
    next h =>
      rw [entryIn_cons, entryIn_cons, ih]
      by_cases ha : a.plugin = plugin
      · have he : e.plugin ≠ plugin := fun he => h (ha.trans he.symm)
        rw [if_pos ha, if_neg he, if_pos ha]
      · rw [if_neg ha, if_neg ha]

/-- A session that takes over what the store has written has the entries that the store has, if it
had them before. -/
theorem putEntry_applyWrite (w : Write) (l : List Entry) :
    putEntry (MemoryStore.applyWrite w l).1 l = (MemoryStore.applyWrite w l).2 := by
  induction l with
  | nil => rfl
  | cons e rest ih =>
    have hplugin := MemoryStore.plugin_applyWrite w (e :: rest)
    unfold MemoryStore.applyWrite at hplugin ⊢
    split
    next h =>
      rw [if_pos h] at hplugin
      rw [putEntry, if_pos (h.trans hplugin.symm)]
    next h =>
      rw [if_neg h] at hplugin
      rw [putEntry, if_neg fun he => h (he.trans hplugin), ih]

theorem applyWritten_of_attached {s : Session} {token : String} (ht : s.token = some token)
    (hd : s.detached = false) (e : Entry) :
    s.applyWritten token e = { s with entries := putEntry e s.entries } := by
  simp [applyWritten, ht, hd]

theorem applyWritten_of_detached {s : Session} (hd : s.detached = true) (token : String)
    (e : Entry) : s.applyWritten token e = s := by
  simp [applyWritten, hd]

theorem startRefresh_of_detached {s : Session} (hd : s.detached = true) :
    s.startRefresh = (none, s) := by
  unfold startRefresh
  split
  · rfl
  · rw [if_pos hd]

theorem settingsOf_eq (s : Session) (plugin : String) :
    s.settingsOf plugin = settingsIn s.entries plugin := rfl

/-- What the session holds for a plugin stays what it is, if a refresh brings the same. -/
theorem settingsOf_finishRefresh {s : Session} {r : Refresh}
    {a : Except StorageError (List Entry)} {plugin : String} {c : Settings}
    (hs : s.settingsOf plugin = c) (ha : ∀ l, a = .ok l → settingsIn l plugin = c) :
    (s.finishRefresh r a).settingsOf plugin = c := by
  rcases s.entries_finishRefresh_cases r a with he | ⟨l, hl, he⟩
  · rw [settingsOf_eq, he, ← settingsOf_eq, hs]
  · rw [settingsOf_eq, he, ha l hl]

theorem afterWrite_of_attached {s : Session} {token : String} (ht : s.token = some token)
    (hd : s.detached = false) (e : Entry) : s.afterWrite token e =
      (some ⟨token, s.refreshes + 1⟩, { s with
        entries := putEntry e s.entries, loading := true, refreshes := s.refreshes + 1 }) := by
  have hstart := startRefresh_of_attached (s := s.applyWritten token e)
    ((token_applyWritten s token e).trans ht) ((detached_applyWritten s token e).trans hd)
  rw [afterWrite, hstart, applyWritten_of_attached ht hd]

theorem afterWrite_of_detached {s : Session} (hd : s.detached = true) (token : String)
    (e : Entry) : s.afterWrite token e = (none, s) := by
  rw [afterWrite, applyWritten_of_detached hd, startRefresh_of_detached hd]

/-- What the store has written for the session's own token is what the session then holds. -/
theorem settingsOf_afterWrite {s : Session} {token : String} (ht : s.token = some token)
    (hd : s.detached = false) (e : Entry) :
    (s.afterWrite token e).2.settingsOf e.plugin = e.settings := by
  rw [settingsOf_eq, afterWrite_of_attached ht hd, settingsIn, entryIn_putEntry, if_pos rfl]
  rfl

/-- What a call asks to be written depends on nothing but the entries. -/
theorem writeOf_congr {s s' : Session} (h : s'.entries = s.entries) (call : SessionCall) :
    s'.writeOf call = s.writeOf call := by
  cases call with
  | refresh | toggle => rfl
  | update plugin changes => rw [writeOf, writeOf, settingsOf_eq, settingsOf_eq, h]

/-! ## Calls -/

/-- A call that begins is over at once, waits for a write, or waits for the fetch of a refresh. Only
the last changes the session. -/
theorem begin_cases (s : Session) (call : SessionCall) :
    (∃ result, s.begin call = (.finished result, s)) ∨
    (∃ token w, s.token = some token ∧ s.writeOf call = some w ∧
      s.begin call = (.waiting (.write token w), s)) ∨
    (∃ r, s.startRefresh.1 = some r ∧
      s.begin call = (.waiting (.fetch r .refreshed), s.startRefresh.2)) := by
  unfold begin
  split
  next hw =>
    rcases s.startRefresh_cases with h | ⟨token, -, h⟩ <;> rw [h]
    · exact .inl ⟨_, rfl⟩
    · exact .inr (.inr ⟨_, rfl, rfl⟩)
  next w hw =>
    cases ht : s.token with
    | none => exact .inl ⟨_, rfl⟩
    | some token => exact .inr (.inl ⟨token, w, rfl, hw, rfl⟩)

theorem begin_of_token_none {s : Session} {call : SessionCall} {w : Write}
    (hw : s.writeOf call = some w) (h : s.token = none) :
    s.begin call = (.finished (.error .notAuthenticated), s) := by
  simp [begin, hw, h]

theorem begin_of_writeOf {s : Session} {call : SessionCall} {w : Write} {token : String}
    (hw : s.writeOf call = some w) (h : s.token = some token) :
    s.begin call = (.waiting (.write token w), s) := by
  simp [begin, hw, h]

theorem begin_refresh_of_attached {s : Session} {token : String} (h : s.token = some token)
    (hd : s.detached = false) : s.begin .refresh =
      (.waiting (.fetch ⟨token, s.refreshes + 1⟩ .refreshed),
        { s with loading := true, refreshes := s.refreshes + 1 }) := by
  simp [begin, writeOf, startRefresh_of_attached h hd]

/-- An update puts its changes over the settings that the session holds when it begins. -/
theorem begin_update {s : Session} {token : String} (h : s.token = some token) (plugin : String)
    (changes : Settings) : s.begin (.update plugin changes) =
      (.waiting (.write token
        (.replaceSettings plugin ((s.settingsOf plugin).overlay changes))), s) :=
  begin_of_writeOf rfl h

@[simp] theorem token_begin (s : Session) (call : SessionCall) :
    (s.begin call).2.token = s.token := by
  rcases s.begin_cases call with ⟨_, hb⟩ | ⟨_, _, -, -, hb⟩ | ⟨_, -, hb⟩ <;> simp [hb]

@[simp] theorem detached_begin (s : Session) (call : SessionCall) :
    (s.begin call).2.detached = s.detached := by
  rcases s.begin_cases call with ⟨_, hb⟩ | ⟨_, _, -, -, hb⟩ | ⟨_, -, hb⟩ <;> simp [hb]

@[simp] theorem token_afterWrite (s : Session) (token : String) (e : Entry) :
    (s.afterWrite token e).2.token = s.token := by
  rw [afterWrite, token_startRefresh, token_applyWritten]

@[simp] theorem detached_afterWrite (s : Session) (token : String) (e : Entry) :
    (s.afterWrite token e).2.detached = s.detached := by
  rw [afterWrite, detached_startRefresh, detached_applyWritten]

end Plugboard.Session
