import Plugboard.Proofs.Session.Calls
import Plugboard.Proofs.Session.Update

/-!
Updates of a session that may be detached. Such a session still writes, but hears of nothing, not
even of its own writes; and an update goes over what the session holds.

* `update_settings`: what one update does to the store and to the session.
* `updates_merge_iff`: two updates in turn are merged as long as the session was attached at the end
  of the first, or the second hides all that the first has brought.
* `detached_update_dropped`: otherwise the second takes away what the first has brought.
-/
namespace Plugboard.Host

open Run

section
variable {play : Player} {id : Nat} {token plugin : String}

/-- An update that succeeds is the call that succeeds. -/
theorem call_start_of_update {p c : Settings} {h h' : Host}
    (e : start (update play id plugin p) h = some (.ok (.ok c), h')) :
    ∃ o, start (call play id (.update plugin p)) h = some (.ok (.ok o), h') ∧ o.settings = c := by
  rw [update, start_bind] at e
  split at e
  · cases e
  · cases e
  next result h₁ hcall =>
    cases result with
    | error cause => cases e
    | ok o =>
      cases e
      exact ⟨o, hcall, rfl⟩

/-- What the store has written for a plugin reaches the session unless it is detached, and the
refresh after it brings nothing else for the plugin. -/
theorem landed_settings {entry : Entry} {m : MemoryStore} {h h' : Host}
    (hl : Landed id token entry h h') (hm : h.store = .memory m)
    (ht : (h.sessionAt id).token = some token)
    (hc : m.settings token entry.plugin = entry.settings) :
    (∃ m', h'.store = .memory m' ∧ m'.settings token entry.plugin = entry.settings) ∧
    (h'.sessionAt id).token = some token ∧
    (h'.sessionAt id).settingsOf entry.plugin =
      if (h'.sessionAt id).detached then (h.sessionAt id).settingsOf entry.plugin
      else entry.settings := by
  cases hd : (h.sessionAt id).detached with
  | true =>
    have hafter := Session.afterWrite_of_detached hd token entry
    cases hl with
    | refreshed ha => cases hafter.symm.trans ha
    | still ha =>
      cases hafter.symm.trans ha
      rw [withSession_sessionAt, hd, if_pos rfl]
      exact ⟨⟨m, hm, hc⟩, ht, rfl⟩
  | false =>
    have hafter := Session.afterWrite_of_attached ht hd entry
    cases hl with
    | still ha => cases hafter.symm.trans ha
    | @refreshed r s answer h₁ ha e =>
      obtain ⟨rfl, hs⟩ : r.token = token ∧ s = ((h.sessionAt id).afterWrite token entry).2 := by
        cases hafter.symm.trans ha
        exact ⟨rfl, by rw [ha]⟩
      obtain ⟨hanswer, hstore, hsame⟩ := fetched_of_memory
        (h := h.withSession id s) (m := m) hm e
      have hbefore : h₁.sessionAt id = s := (hsame id).trans (sessionAt_withSession ht s)
      have hlogin : s.token = some r.token := by rw [hs, Session.token_afterWrite, ht]
      have hattached : s.detached = false := by rw [hs, Session.detached_afterWrite, hd]
      have hsettings : s.settingsOf entry.plugin = entry.settings := by
        rw [hs, Session.settingsOf_afterWrite ht hd]
      rw [sessionAt_refreshed (hbefore ▸ hlogin), hbefore, Session.token_finishRefresh,
        Session.detached_finishRefresh, hattached, if_neg Bool.false_ne_true]
      refine ⟨⟨_, hstore, ?_⟩, hlogin, Session.settingsOf_finishRefresh hsettings fun l hl => ?_⟩
      · exact (MemoryStore.settings_of_entries? (m.entries?_fetch _ _) _).trans hc
      · have hentries := MemoryStore.entries?_of_fetch (hanswer.symm.trans hl)
        rw [MemoryStore.settings, MemoryStore.snapshot, hentries] at hc
        exact hc

/-- An update puts its changes over what the session holds. The store has the outcome then; the
session has it too unless it is detached, and a detached one holds what it has held before. -/
theorem update_settings {p c : Settings} {m : MemoryStore} {h h' : Host}
    (hm : h.store = .memory m) (ht : (h.sessionAt id).token = some token)
    (hs : HandlersWithin (Keeps id token) play token
      (.replaceSettings plugin (((h.sessionAt id).settingsOf plugin).overlay p)) h)
    (e : start (update play id plugin p) h = some (.ok (.ok c), h')) :
    c = ((h.sessionAt id).settingsOf plugin).overlay p ∧
    (∃ m', h'.store = .memory m' ∧ m'.settings token plugin = c) ∧
    (h'.sessionAt id).token = some token ∧
    (h'.sessionAt id).settingsOf plugin =
      if (h'.sessionAt id).detached then (h.sessionAt id).settingsOf plugin else c := by
  obtain ⟨o, e, ho⟩ := call_start_of_update e
  rw [call_start_of_write play id (Session.begin_update ht plugin p)] at e
  generalize ((h.sessionAt id).settingsOf plugin).overlay p = d at hs e ⊢
  have hwrite := write_memory hm token (.replaceSettings plugin d)
  cases ha : (m.write token (.replaceSettings plugin d)).1 with
  | error cause =>
    rw [ha] at hwrite
    cases e.symm.trans (settle_start_of_refused play id hwrite)
  | ok entry =>
    rw [ha] at hwrite
    obtain ⟨rfl, rfl, hd⟩ := MemoryStore.settings_of_write ha
    cases hemit : start (emit play (Write.replaceSettings entry.plugin entry.settings).event)
        { h with
          store := .memory (m.write token (.replaceSettings entry.plugin entry.settings)).2
          journal := h.journal ++
            [.stored (.write token (.replaceSettings entry.plugin entry.settings))] } with
    | none => cases e.symm.trans (settle_start_of_exhausted play id hwrite hemit)
    | some x =>
      obtain ⟨x, h₂⟩ := x
      obtain ⟨n, rfl⟩ := emit_ok hemit
      obtain ⟨hlogin, hentries, hstore⟩ := hs entry _ n h₂ hwrite hemit
      obtain ⟨m₂, hm₂, hkept⟩ := hstore _ rfl
      obtain ⟨h'', hsettle, hlanded⟩ := settle_start_of_written play id hwrite hemit
      cases e.symm.trans hsettle
      have hresult := landed_settings hlanded hm₂ (hlogin.trans ht)
        ((MemoryStore.settings_of_entries? hkept _).trans hd)
      rw [Session.settingsOf_eq (h₂.sessionAt id), hentries] at hresult
      exact ⟨ho.symm, ho ▸ hresult⟩

/-- Two updates of one plugin that succeed one after the other, from a session that holds what the
store has for the plugin, attached or not. While they run, and between them, anything may happen that
keeps the token of the session, its entries, and what the store has for the token. -/
theorem updates_merge_iff {p q c₁ c₂ : Settings} {m : MemoryStore} {h h₁ g h₂ : Host}
    (hm : h.store = .memory m) (ht : (h.sessionAt id).token = some token)
    (hc : (h.sessionAt id).settingsOf plugin = h.persisted token plugin)
    (hs : HandlersWithin (Keeps id token) play token
      (.replaceSettings plugin (((h.sessionAt id).settingsOf plugin).overlay p)) h)
    (e : start (update play id plugin p) h = some (.ok (.ok c₁), h₁))
    (hg : Keeps id token h₁ g)
    (hs' : HandlersWithin (Keeps id token) play token
      (.replaceSettings plugin (((g.sessionAt id).settingsOf plugin).overlay q)) g)
    (e' : start (update play id plugin q) g = some (.ok (.ok c₂), h₂)) :
    let c := h.persisted token plugin
    h₂.persisted token plugin =
      (if (h₁.sessionAt id).detached then c else c.overlay p).overlay q ∧
    (h₂.persisted token plugin = (c.overlay p).overlay q ↔
      (h₁.sessionAt id).detached = false ∨
        ∀ k v, p.get? k = some v → q.get? k ≠ none ∨ c.get? k = some v) := by
  intro c
  obtain ⟨rfl, ⟨m₁, hm₁, -⟩, hlogin, hview⟩ := update_settings hm ht hs e
  obtain ⟨mg, hmg, -⟩ := hg.store m₁ hm₁
  have hsame : (g.sessionAt id).settingsOf plugin = (h₁.sessionAt id).settingsOf plugin := by
    rw [Session.settingsOf_eq, Session.settingsOf_eq, hg.entries]
  obtain ⟨rfl, ⟨m₂, hm₂, hlast⟩, -⟩ := update_settings hmg (hg.login.trans hlogin) hs' e'
  have hend : h₂.persisted token plugin =
      (if (h₁.sessionAt id).detached then c else c.overlay p).overlay q := by
    rw [persisted_of_memory hm₂, hlast, hsame, hview, hc]
  refine ⟨hend, ?_⟩
  rw [hend]
  cases (h₁.sessionAt id).detached with
  | false => simp
  | true =>
    rw [if_pos rfl, eq_comm, Settings.overlay_overlay_eq_iff]
    simp

end

/-! ## Two keys of a chat -/

/-- An attached session has both keys in its store after the two updates. -/
theorem updates_merge_attached :
    let h := alone Traffic.chatSession Traffic.chatStore
    ∃ h₁ h₂ c₁ c₂,
      start (update (player 1) 0 "chat" Traffic.firstKey) h = some (.ok (.ok c₁), h₁) ∧
      start (update (player 1) 0 "chat" Traffic.secondKey) h₁ = some (.ok (.ok c₂), h₂) ∧
      h₂.persisted "ada" "chat" =
        ((h.persisted "ada" "chat").overlay Traffic.firstKey).overlay Traffic.secondKey := by
  intro h
  let c : Settings := .ofList [("a", "1"), ("z", "0")]
  let w : Write := .replaceSettings "chat" c
  let l : List Entry := [⟨"chat", true, c, false⟩]
  let h₁ : Host := { alone { Traffic.chatSession with entries := l, refreshes := 1 }
      { Traffic.chatStore.seed "ada" l with fetches := 1, writes := 1 } with
    journal := [.stored (.write "ada" w), .published w.event, .stored (.fetch "ada")] }
  have e : start (update (player 1) 0 "chat" Traffic.firstKey) h = some (.ok (.ok c), h₁) := rfl
  have e' : start (update (player 1) 0 "chat" Traffic.secondKey) h₁ = some (.ok (.ok _), _) :=
    rfl
  have hunheard : ∀ {w g}, g.bus.handlersFor w.event.type = [] →
      HandlersWithin (Keeps 0 "ada") (player 1) "ada" w g := fun hb _ _ _ _ e he =>
    (unheard_spares hb 0 "ada" _ _ _ _ e he).toKeeps
  have hmerged := updates_merge_iff (g := h₁) rfl rfl rfl (hunheard rfl) e
    ⟨rfl, rfl, fun m hm => ⟨m, hm, rfl⟩⟩ (hunheard rfl) e'
  exact ⟨h₁, _, c, _, e, e', hmerged.2.mpr (.inl rfl)⟩

/-- A detached session loses the key of the first update with the second. -/
theorem detached_update_dropped :
    let h := alone Traffic.chatSession.detach Traffic.chatStore
    (h.sessionAt 0).settingsOf "chat" = h.persisted "ada" "chat" ∧
    ∃ h₁ h₂ c₁ c₂,
      start (update (player 1) 0 "chat" Traffic.firstKey) h = some (.ok (.ok c₁), h₁) ∧
      start (update (player 1) 0 "chat" Traffic.secondKey) h₁ = some (.ok (.ok c₂), h₂) ∧
      h₂.persisted "ada" "chat" ≠
        ((h.persisted "ada" "chat").overlay Traffic.firstKey).overlay Traffic.secondKey := by
  refine ⟨rfl, _, _, _, _, rfl, rfl, fun heq => ?_⟩
  cases congrArg (Settings.get? · "a") heq

end Plugboard.Host
