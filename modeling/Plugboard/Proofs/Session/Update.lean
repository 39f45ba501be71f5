import Plugboard.Proofs.Session.Freshness

/-!
Two updates of the settings of one plugin at once. An update puts its changes over the settings that
the session holds when it begins, and the store then replaces all settings of the plugin. So the
second update keeps the first one only if the first has landed before the second begins.

* `Traffic.Ledger`: the invariant of any number of updates on their way; the store has the settings
  of the update it took last.
* `Traffic.updates_kept_iff`: when both updates succeed, which of their changes are kept.
* `Traffic.update_lost`: two updates of which one is lost.
-/
namespace Plugboard

/-- The number of a call whose write the store has taken. -/
def Told.writer? : Told → Option Nat
  | .written call _ _ (.ok _) => some call
  | _ => none

/-- The session has taken over what the call has written. -/
def Flight.landed : Flight → Bool
  | .waiting (.fetch _ _) => true
  | .fetched _ _ _ => true
  | .finished (.ok _) => true
  | _ => false

/-- A move by which calls go on, and which leaves the entries of the token to them. -/
def Move.Continues (who : String) : Move MemoryStore → Prop
  | .serve _ => True
  | .land _ => True
  | .outside f => ∀ m, (f m).entries? who = m.entries? who
  | _ => False

theorem Move.Continues.leaves {who : String} {m : Move MemoryStore} (h : m.Continues who) :
    m.Leaves who := by
  cases m with
  | serve | land => trivial
  | outside f => exact h
  | begin | setToken | detach => exact h.elim

/-- What holds of an update with these settings on its way, by whether the store has taken it. -/
def Flight.Updates (who plugin : String) (c : Settings) (taken : Prop) : Flight → Prop
  | .waiting (.write token w) => token = who ∧ w = .replaceSettings plugin c ∧ ¬ taken
  | .written token _ (.ok e) => token = who ∧ e.plugin = plugin ∧ e.settings = c ∧ taken
  | .waiting (.fetch _ _) => taken
  | .fetched _ _ _ => taken
  | .finished (.ok _) => taken
  | .written _ _ (.error _) => True
  | .finished (.error _) => True

theorem Flight.Updates.taken {who plugin : String} {c : Settings} {taken : Prop} {f : Flight}
    (h : f.Updates who plugin c taken) (hf : f.landed = true) : taken := by
  unfold landed at hf
  split at hf
  · exact h
  · exact h
  · exact h
  · cases hf

namespace Traffic

/-- The calls whose writes the store has taken, in the order in which it took them. -/
def writers (t : Traffic MemoryStore) : List Nat := t.told.filterMap Told.writer?

/-- The invariant of updates on their way: `cs` are the settings that they write, by their numbers,
and `base` what the store had before. -/
structure Ledger (who plugin : String) (base : Settings) (cs : List Settings)
    (t : Traffic MemoryStore) : Prop where
  length : t.calls.length = cs.length
  updates : ∀ (k : Nat) (f : Flight) (c : Settings), t.calls[k]? = some f → cs[k]? = some c →
    f.Updates who plugin c (k ∈ t.writers)
  bounded : ∀ k ∈ t.writers, k < cs.length
  nodup : t.writers.Nodup
  store : t.store.settings who plugin = ((t.writers.getLast?.bind (cs[·]?)).getD base)

section
variable {who plugin : String} {base : Settings} {cs : List Settings} {t t' : Traffic MemoryStore}

/-- One update goes on and the others stay as they are. -/
theorem Ledger.set (h : t.Ledger who plugin base cs) {k : Nat} {f g : Flight}
    (hk : t.calls[k]? = some f) (hc : t'.calls = t.calls.set k g)
    (hw : ∀ j, j ≠ k → (j ∈ t'.writers ↔ j ∈ t.writers))
    (hg : ∀ c, f.Updates who plugin c (k ∈ t.writers) → g.Updates who plugin c (k ∈ t'.writers))
    (hbounded : ∀ j ∈ t'.writers, j < cs.length) (hnodup : t'.writers.Nodup)
    (hs : t'.store.settings who plugin = ((t'.writers.getLast?.bind (cs[·]?)).getD base)) :
    t'.Ledger who plugin base cs where
  length := by rw [hc, List.length_set, h.length]
  updates := by
    intro j x c hj hcs
    rw [hc] at hj
    by_cases hjk : j = k
    · subst hjk
      obtain ⟨hlt, -⟩ := List.getElem?_eq_some_iff.mp hk
      rw [List.getElem?_set_self hlt] at hj
      cases hj
      exact hg c (h.updates j f c hk hcs)
    · rw [List.getElem?_set_ne (Ne.symm hjk)] at hj
      rw [propext (hw j hjk)]
      exact h.updates j x c hj hcs
  bounded := hbounded
  nodup := hnodup
  store := hs

/-- An update goes on without a word from the store. -/
theorem Ledger.go (h : t.Ledger who plugin base cs) {k : Nat} {f g : Flight}
    (hk : t.calls[k]? = some f) (hc : t'.calls = t.calls.set k g) (hw : t'.writers = t.writers)
    (hg : ∀ c, f.Updates who plugin c (k ∈ t.writers) → g.Updates who plugin c (k ∈ t.writers))
    (hs : t'.store.settings who plugin = t.store.settings who plugin) :
    t'.Ledger who plugin base cs := by
  refine h.set hk hc (fun j _ => by rw [hw]) ?_ ?_ ?_ ?_ <;> rw [hw]
  · exact hg
  · exact h.bounded
  · exact h.nodup
  · rw [hs, h.store]

/-- The store answers the write of an update. -/
theorem Ledger.wrote (h : t.Ledger who plugin base cs) {k : Nat} {token : String} {w : Write}
    (hk : t.calls[k]? = some (.waiting (.write token w)))
    (hc : t'.calls = t.calls.set k (.written token w (t.store.write token w).1))
    (ht : t'.told = t.told ++ [.written k token w (t.store.write token w).1])
    (hs : t'.store = (t.store.write token w).2) : t'.Ledger who plugin base cs := by
  obtain ⟨hlt, -⟩ := List.getElem?_eq_some_iff.mp hk
  rw [h.length] at hlt
  have hck : cs[k]? = some cs[k] := List.getElem?_eq_getElem hlt
  obtain ⟨rfl, rfl, hnew⟩ := h.updates k _ _ hk hck
  cases ha : (t.store.write token (.replaceSettings plugin cs[k])).1 with
  | error e =>
    rw [ha] at hc ht
    refine h.go hk hc ?_ (fun _ _ => trivial) ?_
    · simp [writers, ht, Told.writer?]
    · rw [hs]
      exact MemoryStore.settings_of_entries? (MemoryStore.entries?_of_write_error ha _) plugin
  | ok e =>
    rw [ha] at hc ht
    obtain ⟨hplugin, hsettings, hstore⟩ := MemoryStore.settings_of_write ha
    have hw : t'.writers = t.writers ++ [k] := by simp [writers, ht, Told.writer?]
    refine h.set hk hc (fun j hj => ?_) (fun c hc => ?_) (fun j hj => ?_) ?_ ?_
    · simp [hw, hj]
    · obtain ⟨-, hcs, -⟩ := hc
      obtain rfl : cs[k] = c := (Write.replaceSettings.inj hcs).2
      exact ⟨rfl, hplugin, hsettings, by simp [hw]⟩
    · rcases List.mem_append.mp (hw ▸ hj) with hj | hj
      · exact h.bounded j hj
      · exact List.mem_singleton.mp hj ▸ hlt
    · rw [hw]
      refine List.nodup_append.mpr ⟨h.nodup, by simp, fun i hi j hj => ?_⟩
      rintro rfl
      exact hnew (List.mem_singleton.mp hj ▸ hi)
    · rw [hs, hstore, hw, List.getLast?_append, List.getLast?_singleton, Option.some_or,
        Option.bind_some, hck, Option.getD_some]

theorem moved_ledger {m : Move MemoryStore} (hl : m.Continues who)
    (hm : Moved .memory t m t') (h : t.Ledger who plugin base cs) :
    t'.Ledger who plugin base cs := by
  cases hm with
  | still => exact h
  | began => exact hl.elim
  | named => exact hl.elim
  | detached => exact hl.elim
  | fetched hk =>
    refine h.go hk rfl ?_ (fun _ ht => ht) ?_
    · simp [writers, Told.writer?]
    · exact MemoryStore.settings_of_entries? (MemoryStore.entries?_fetch _ _ _) plugin
  | wrote hk => exact h.wrote hk rfl rfl rfl
  | refreshed hk => exact h.go hk rfl rfl (fun _ ht => ht) rfl
  | failed hk => exact h.go hk rfl rfl (fun _ _ => trivial) rfl
  | applied hk =>
    refine h.go hk rfl rfl (fun _ ht => ?_) rfl
    split <;> exact ht.2.2.2
  | outside f =>
    exact { h with store := (MemoryStore.settings_of_entries? (hl _) plugin).trans h.store }

/-- When all calls but the first are out of the question, the store has what the first wrote. -/
theorem Ledger.first {c : Settings} (h : t.Ledger who plugin base [c]) (hw : 0 ∈ t.writers) :
    t.store.settings who plugin = c := by
  obtain ⟨k, hk⟩ := Option.ne_none_iff_exists'.mp
    (mt List.getLast?_eq_none_iff.mp (List.ne_nil_of_mem hw))
  have hlt : k < 1 := h.bounded k (List.mem_of_getLast? hk)
  obtain rfl : k = 0 := by omega
  rw [h.store, hk]
  rfl

theorem start_ledger {s : Session} {store : MemoryStore}
    (hc : store.entries? who = some s.entries) :
    (start s store).Ledger who plugin (s.settingsOf plugin) [] where
  length := rfl
  updates := by simp
  bounded := by simp [writers]
  nodup := List.nodup_nil
  store := by
    rw [start, MemoryStore.settings, MemoryStore.snapshot, hc]
    rfl

/-- An update that begins only adds a call that waits for the store. -/
theorem step_begin (ht : t.session.token = some who) (plugin : String) (changes : Settings) :
    t.step .memory (.begin (.update plugin changes)) =
      { t with calls := t.calls ++ [.waiting (.write who
        (.replaceSettings plugin ((t.session.settingsOf plugin).overlay changes)))] } := by
  rw [step, Session.begin_update ht]
  rfl

/-- One more update, over the settings that the session holds. -/
theorem Ledger.begin (h : t.Ledger who plugin base cs) (ht : t.session.token = some who)
    (changes : Settings) : (t.step .memory (.begin (.update plugin changes))).Ledger who plugin base
      (cs ++ [(t.session.settingsOf plugin).overlay changes]) := by
  rw [step_begin ht]
  refine ⟨by simp [h.length], ?_, fun k hk => ?_, h.nodup, ?_⟩
  · intro k f c hk hc
    dsimp only at hk
    by_cases hlt : k < t.calls.length
    · rw [List.getElem?_append_left hlt] at hk
      rw [List.getElem?_append_left (h.length ▸ hlt)] at hc
      exact h.updates k f c hk hc
    · rw [List.getElem?_append_right (Nat.le_of_not_lt hlt)] at hk
      rw [List.getElem?_append_right (h.length ▸ Nat.le_of_not_lt hlt), ← h.length] at hc
      have hmem := List.mem_singleton.mp (List.mem_of_getElem? hk)
      obtain rfl := List.mem_singleton.mp (List.mem_of_getElem? hc)
      subst hmem
      exact ⟨rfl, rfl, fun hw => hlt (h.length ▸ h.bounded k hw)⟩
  · rw [List.length_append]
    exact Nat.lt_add_right _ (h.bounded k hk)
  · refine h.store.trans ?_
    change _ = (t.writers.getLast?.bind _).getD base
    cases hlast : t.writers.getLast? with
    | none => rfl
    | some k =>
      rw [Option.bind_some, Option.bind_some,
        List.getElem?_append_left (h.bounded k (List.mem_of_getLast? hlast))]

end

/-! ## One update alone -/

/-- What the session holds while its only call is an update: the settings from before, and the new
ones from the moment the update has landed. -/
structure Sees (who plugin : String) (base c : Settings) (t : Traffic MemoryStore) : Prop where
  ledger : t.Ledger who plugin base [c]
  token : t.session.token = some who
  attached : t.session.detached = false
  made : ∀ f ∈ t.calls, f.For who
  view : ∀ f, t.calls[0]? = some f →
    t.session.settingsOf plugin = if f.landed then c else base
  answer : ∀ r outcome l, t.calls[0]? = some (.fetched r outcome (.ok l)) →
    settingsIn l plugin = c

section
variable {who plugin : String} {base c : Settings} {t t' : Traffic MemoryStore}

/-- What the only call is like after a move, and what the session holds then. -/
theorem Sees.set (h : t.Sees who plugin base c) {m : Move MemoryStore} (hl : m.Continues who)
    (hm : Moved .memory t m t') {k : Nat} {f g : Flight} (hk : t.calls[k]? = some f)
    (hc : t'.calls = t.calls.set k g)
    (hview : t'.session.settingsOf plugin = if g.landed then c else base)
    (hanswer : ∀ r outcome l, g = .fetched r outcome (.ok l) → settingsIn l plugin = c) :
    t'.Sees who plugin base c := by
  obtain ⟨hlt, -⟩ := List.getElem?_eq_some_iff.mp hk
  have hlength : t.calls.length = 1 := h.ledger.length
  obtain rfl : k = 0 := by omega
  obtain ⟨htoken, hdetached⟩ := moved_attached h.token hl.leaves hm
  have hg : t'.calls[0]? = some g := by rw [hc, List.getElem?_set_self hlt]
  exact {
    ledger := moved_ledger hl hm h.ledger
    token := htoken
    attached := hdetached.trans h.attached
    made := moved_made h.made h.token hm
    view := fun x hx => by
      cases hg.symm.trans hx
      exact hview
    answer := fun r outcome l hx => hanswer r outcome l (Option.some.inj (hg.symm.trans hx)) }

theorem moved_sees {m : Move MemoryStore} (hl : m.Continues who) (hm : Moved .memory t m t')
    (h : t.Sees who plugin base c) : t'.Sees who plugin base c := by
  have hzero : ∀ {k : Nat} {f : Flight}, t.calls[k]? = some f → k = 0 := by
    intro k f hk
    have hlength : t.calls.length = 1 := h.ledger.length
    obtain ⟨hlt, -⟩ := List.getElem?_eq_some_iff.mp hk
    omega
  cases hm with
  | still => exact h
  | began | named | detached => exact hl.elim
  | @fetched k r outcome hk =>
    obtain rfl := hzero hk
    have hview := h.view _ hk
    refine h.set hl (.fetched hk) hk rfl hview fun r' outcome' l he => ?_
    have ha : (t.store.fetch r.token).1 = .ok l := (Flight.fetched.inj he).2.2
    have hr : r.token = who := h.made _ (List.mem_of_getElem? hk)
    have htaken : 0 ∈ t.writers := (h.ledger.updates 0 _ c hk rfl).taken rfl
    have hstore := h.ledger.first htaken
    rw [MemoryStore.settings, MemoryStore.snapshot, ← hr,
      MemoryStore.entries?_of_fetch ha] at hstore
    exact hstore
  | @wrote k token w hk =>
    obtain rfl := hzero hk
    have hview := h.view _ hk
    exact h.set hl (.wrote hk) hk rfl hview (by simp)
  | @refreshed k r outcome a hk =>
    obtain rfl := hzero hk
    have hview := h.view _ hk
    refine h.set hl (.refreshed hk) hk rfl ?_ (by simp)
    rcases t.session.entries_finishRefresh_cases r a with he | ⟨l, rfl, he⟩
    · rw [Session.settingsOf_eq, he]
      exact hview
    · rw [Session.settingsOf_eq, he]
      exact h.answer _ _ _ hk
  | @failed k _ _ _ hk =>
    obtain rfl := hzero hk
    have hview := h.view _ hk
    exact h.set hl (.failed hk) hk rfl hview (by simp)
  | @applied k token w e hk =>
    obtain rfl := hzero hk
    obtain ⟨rfl, rfl, rfl, -⟩ := h.ledger.updates 0 _ c hk rfl
    refine h.set hl (.applied hk) hk rfl ?_ ?_
    · rw [Session.settingsOf_afterWrite h.token h.attached]
      split <;> rfl
    · split <;> simp
  | outside f =>
    exact { h with ledger := moved_ledger hl (.outside f) h.ledger }

theorem start_sees {s : Session} {store : MemoryStore} (hs : s.token = some who)
    (hd : s.detached = false) (hc : store.entries? who = some s.entries) (changes : Settings) :
    ((start s store).step .memory (.begin (.update plugin changes))).Sees who plugin
      (s.settingsOf plugin) ((s.settingsOf plugin).overlay changes) where
  ledger := (start_ledger hc).begin hs changes
  token := by rw [step_begin hs]; exact hs
  attached := by rw [step_begin hs]; exact hd
  made := by
    rw [step_begin hs]
    intro f hf
    obtain rfl := List.mem_singleton.mp hf
    exact rfl
  view := by
    rw [step_begin hs]
    rintro f hf
    cases hf
    rfl
  answer := by
    rw [step_begin hs]
    simp

end

/-! ## Two updates at once -/

/-- What the store has answered is not taken back. -/
theorem writers_prefix {who : String} (t : Traffic MemoryStore) (moves : List (Move MemoryStore))
    (hm : ∀ m ∈ moves, m.Continues who) : t.writers <+: (t.run .memory moves).writers := by
  have htold : t.told <+: (t.run .memory moves).told := by
    refine run_induction (P := fun t' => t.told <+: t'.told) (fun t₁ t₂ m _ hmoved h => ?_)
      (List.prefix_refl _) moves hm
    cases hmoved with
    | fetched | wrote => exact h.trans (List.prefix_append _ _)
    | still | began | refreshed | failed | applied | named | detached | outside => exact h
  exact htold.filterMap _

/-- Whether the session has taken over what a call has written. -/
def HasLanded (t : Traffic MemoryStore) (k : Nat) : Prop :=
  ∃ f, t.calls[k]? = some f ∧ f.landed = true

theorem Ledger.taken {who plugin : String} {base : Settings} {cs : List Settings}
    {t : Traffic MemoryStore} (h : t.Ledger who plugin base cs) {k : Nat} (hk : t.HasLanded k) :
    k ∈ t.writers := by
  obtain ⟨f, hf, hlanded⟩ := hk
  obtain ⟨hlt, -⟩ := List.getElem?_eq_some_iff.mp hf
  rw [h.length] at hlt
  exact (h.updates k f _ hf (List.getElem?_eq_getElem hlt)).taken hlanded

/-- With both writes taken, the store has the settings of the one that it took last. -/
theorem Ledger.both {who plugin : String} {base c c' : Settings} {t : Traffic MemoryStore}
    (h : t.Ledger who plugin base [c, c']) (hw : 0 ∈ t.writers) :
    t.writers.getLast? = some 0 ∧ t.store.settings who plugin = c ∨
    t.writers.getLast? = some 1 ∧ t.store.settings who plugin = c' := by
  obtain ⟨k, hk⟩ := Option.ne_none_iff_exists'.mp
    (mt List.getLast?_eq_none_iff.mp (List.ne_nil_of_mem hw))
  have hlt : k < 2 := h.bounded k (List.mem_of_getLast? hk)
  have hstore := h.store
  rw [hk] at hstore ⊢
  obtain rfl | rfl : k = 0 ∨ k = 1 := by omega
  · exact .inl ⟨rfl, hstore⟩
  · exact .inr ⟨rfl, hstore⟩

/-- What has been written before is not written again, so that of something new the last is new. -/
theorem getLast?_ne_of_prefix {l l' : List Nat} {i j : Nat} (hp : l <+: l') (hn : l'.Nodup)
    (hi : i ∈ l) (hj : j ∉ l) (hj' : j ∈ l') : l'.getLast? ≠ some i := by
  obtain ⟨more, rfl⟩ := hp
  have hmore : j ∈ more := (List.mem_append.mp hj').resolve_left hj
  intro hlast
  rw [List.getLast?_append] at hlast
  cases hx : more.getLast? with
  | none => exact List.ne_nil_of_mem hmore (List.getLast?_eq_none_iff.mp hx)
  | some x =>
    rw [hx, Option.some_or] at hlast
    cases hlast
    exact (List.nodup_append.mp hn).2.2 i hi i (List.mem_of_getLast? hx) rfl

/-- Two updates of one plugin that both succeed, with anything in between that leaves the entries of
the token alone. Both changes are kept exactly when the first update had landed before the second
began, or the update that the store took first wanted nothing new. -/
theorem updates_kept_iff {who plugin : String} {s : Session} {store : MemoryStore}
    {p q : Settings} {before after : List (Move MemoryStore)} (hs : s.token = some who)
    (hd : s.detached = false) (hc : store.entries? who = some s.entries) (hpq : p.Apart q)
    (hb : ∀ m ∈ before, m.Continues who) (ha : ∀ m ∈ after, m.Continues who) :
    let t₁ := ((start s store).step .memory (.begin (.update plugin p))).run .memory before
    let t := (t₁.step .memory (.begin (.update plugin q))).run .memory after
    (∃ o, t.calls[0]? = some (.finished (.ok o))) →
    (∃ o, t.calls[1]? = some (.finished (.ok o))) →
    ((t.store.settings who plugin).Contains p ∧ (t.store.settings who plugin).Contains q ↔
      t₁.HasLanded 0 ∨
      t.writers.getLast? = some 1 ∧ (s.settingsOf plugin).Contains p ∨
      t.writers.getLast? = some 0 ∧ (s.settingsOf plugin).Contains q) := by
  intro t₁ t hfirst hsecond
  have h₁ : t₁.Sees who plugin (s.settingsOf plugin) ((s.settingsOf plugin).overlay p) :=
    run_induction (fun _ _ _ => moved_sees) (start_sees hs hd hc p) before hb
  have h : t.Ledger who plugin (s.settingsOf plugin) ([(s.settingsOf plugin).overlay p] ++
      [(t₁.session.settingsOf plugin).overlay q]) :=
    run_induction (fun _ _ _ => moved_ledger) (h₁.ledger.begin h₁.token q) after ha
  have htaken : 0 ∈ t.writers := h.taken (hfirst.elim fun _ hf => ⟨_, hf, rfl⟩)
  have htaken' : 1 ∈ t.writers := h.taken (hsecond.elim fun _ hf => ⟨_, hf, rfl⟩)
  have hlt : 0 < t₁.calls.length := by rw [h₁.ledger.length]; exact Nat.one_pos
  have hview := h₁.view _ (List.getElem?_eq_getElem hlt)
  cases hlanded : t₁.calls[0].landed with
  | true =>
    rw [hlanded, if_pos rfl] at hview
    rw [hview] at h
    have hhas : t₁.HasLanded 0 := ⟨_, List.getElem?_eq_getElem hlt, hlanded⟩
    have hnew : 1 ∉ t₁.writers := fun hw => Nat.lt_irrefl 1 (h₁.ledger.bounded 1 hw)
    have hprefix : t₁.writers <+: t.writers :=
      writers_prefix (t₁.step .memory (.begin (.update plugin q))) after ha
    have hlast := getLast?_ne_of_prefix hprefix h.nodup (h₁.ledger.taken hhas) hnew htaken'
    rcases h.both htaken with ⟨hzero, -⟩ | ⟨-, hstore⟩
    · exact absurd hzero hlast
    · rw [hstore]
      have hp := (Settings.contains_overlay_iff hpq).mpr
        (Settings.contains_overlay (s.settingsOf plugin) p)
      exact iff_of_true ⟨hp, Settings.contains_overlay _ q⟩ (.inl hhas)
  | false =>
    rw [hlanded, if_neg Bool.false_ne_true] at hview
    rw [hview] at h
    have hnot : ¬ t₁.HasLanded 0 := by
      rintro ⟨f, hf, hfl⟩
      rw [List.getElem?_eq_getElem hlt] at hf
      cases hf
      exact Bool.false_ne_true (hlanded.symm.trans hfl)
    rcases h.both htaken with ⟨hlast, hstore⟩ | ⟨hlast, hstore⟩
    · rw [hstore, hlast, Settings.contains_overlay_iff hpq.symm]
      simp [hnot, Settings.contains_overlay]
    · rw [hstore, hlast, Settings.contains_overlay_iff hpq]
      simp [hnot, Settings.contains_overlay]

/-! ## Two keys of a chat -/

/-- A session that holds what its store has for it. -/
def chatSession : Session :=
  { Session.new (some "ada") with entries := [⟨"chat", true, .ofList [("z", "0")], false⟩] }

def chatStore : MemoryStore := MemoryStore.empty.seed "ada" chatSession.entries

def firstKey : Settings := .ofList [("a", "1")]

def secondKey : Settings := .ofList [("b", "2")]

theorem keys_apart : firstKey.Apart secondKey := by
  intro k
  by_cases h : "a" = k
  · subst h
    exact .inr rfl
  · exact .inl (if_neg h)

/-- One update after the other: the first has landed, and both keys are kept. -/
theorem updates_kept_in_turn :
    let t := (((start chatSession chatStore).step .memory (.begin (.update "chat" firstKey))).run
      .memory [.serve 0, .land 0]).step .memory (.begin (.update "chat" secondKey)) |>.run
      .memory [.serve 0, .land 0, .serve 1, .land 1, .serve 1, .land 1]
    (t.store.settings "ada" "chat").Contains firstKey ∧
      (t.store.settings "ada" "chat").Contains secondKey :=
  (updates_kept_iff rfl rfl rfl keys_apart (by simp [Move.Continues]) (by simp [Move.Continues])
    ⟨_, rfl⟩ ⟨_, rfl⟩).mpr (.inl ⟨_, rfl, rfl⟩)

/-- Both updates begin before one of them has landed. Both succeed, and the first key is lost. -/
theorem update_lost :
    let t := (start chatSession chatStore).run .memory
      [.begin (.update "chat" firstKey), .begin (.update "chat" secondKey),
        .serve 0, .land 0, .serve 1, .land 1, .serve 0, .land 0, .serve 1, .land 1]
    chatStore.entries? "ada" = some chatSession.entries ∧ firstKey.Apart secondKey ∧
      (∃ o, t.calls[0]? = some (.finished (.ok o))) ∧
      (∃ o, t.calls[1]? = some (.finished (.ok o))) ∧
      ¬ (t.store.settings "ada" "chat").Contains firstKey := by
  refine ⟨rfl, keys_apart, ⟨_, rfl⟩, ⟨_, rfl⟩, fun h => ?_⟩
  cases h "a" "1" rfl

end Traffic
end Plugboard
