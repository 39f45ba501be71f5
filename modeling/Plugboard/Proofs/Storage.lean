import Plugboard.Storage.Memory

/-!
Settings put over settings, and what a call does to the store in memory: which entries it leaves to
whom, and how its answer and the entries after it belong together.
-/
namespace Plugboard

/-! ## Settings over settings -/

namespace Settings

theorem lookup_eq_none {k : String} {l : List (String × String)} (h : ∀ p ∈ l, k < p.1) :
    lookup k l = none := by
  induction l with
  | nil => rfl
  | cons p rest ih =>
    have hp : p.1 ≠ k := fun he => String.lt_irrefl k (he ▸ h p List.mem_cons_self)
    rw [lookup, if_neg hp]
    exact ih fun x hx => h x (List.mem_cons_of_mem _ hx)

theorem get?_foldl_insert (s : Settings) (k : String) {l : List (String × String)}
    (hl : l.Pairwise fun a b => a.1 < b.1) :
    (l.foldl (fun s p => s.insert p.1 p.2) s).get? k = (lookup k l).or (s.get? k) := by
  induction l generalizing s with
  | nil => rfl
  | cons p rest ih =>
    obtain ⟨hp, hrest⟩ := List.pairwise_cons.mp hl
    rw [List.foldl_cons, ih (s.insert p.1 p.2) hrest, get?_insert, lookup]
    by_cases h : p.1 = k
    · have hnone : lookup k rest = none := lookup_eq_none fun x hx => h ▸ hp x hx
      rw [if_pos h, if_pos h, hnone, Option.none_or, Option.some_or]
    · rw [if_neg h, if_neg h]

/-- What is put over the settings counts before them. -/
theorem get?_overlay (s top : Settings) (k : String) :
    (s.overlay top).get? k = (top.get? k).or (s.get? k) :=
  get?_foldl_insert s k top.ascending

/-- Every key of the other settings is there with its value. -/
def Contains (s t : Settings) : Prop := ∀ k v, t.get? k = some v → s.get? k = some v

/-- No key has a value in both. -/
def Apart (s t : Settings) : Prop := ∀ k, s.get? k = none ∨ t.get? k = none

theorem Apart.symm {s t : Settings} (h : s.Apart t) : t.Apart s := fun k => (h k).symm

theorem contains_overlay (s top : Settings) : (s.overlay top).Contains top := by
  intro k v h
  rw [get?_overlay, h, Option.some_or]

/-- What is put over the settings hides nothing of what has other keys. -/
theorem contains_overlay_iff {s top t : Settings} (h : t.Apart top) :
    (s.overlay top).Contains t ↔ s.Contains t := by
  have hget : ∀ k v, t.get? k = some v → (s.overlay top).get? k = s.get? k := by
    intro k v hk
    rcases h k with hn | hn
    · cases hn.symm.trans hk
    · rw [get?_overlay, hn, Option.none_or]
  constructor
  · intro hc k v hk
    rw [← hget k v hk, hc k v hk]
  · intro hc k v hk
    rw [hget k v hk, hc k v hk]

theorem eq_of_lookup {l l' : List (String × String)} (hl : l.Pairwise fun a b => a.1 < b.1)
    (hl' : l'.Pairwise fun a b => a.1 < b.1) (h : ∀ k, lookup k l = lookup k l') : l = l' := by
  induction l generalizing l' with
  | nil =>
    cases l' with
    | nil => rfl
    | cons q rest' =>
      have hq := h q.1
      simp [lookup] at hq
  | cons p rest ih =>
    cases l' with
    | nil =>
      have hp := h p.1
      simp [lookup] at hp
    | cons q rest' =>
      obtain ⟨hp, hrest⟩ := List.pairwise_cons.mp hl
      obtain ⟨hq, hrest'⟩ := List.pairwise_cons.mp hl'
      -- A first key is the least one, so that a list whose first key is greater does not have it.
      have hkey : p.1 = q.1 := by
        rcases Std.lt_trichotomy p.1 q.1 with hlt | heq | hlt
        · have hk := h p.1
          rw [lookup_eq_none (l := q :: rest') (List.forall_mem_cons.mpr
            ⟨hlt, fun x hx => String.lt_trans hlt (hq x hx)⟩)] at hk
          simp [lookup] at hk
        · exact heq
        · have hk := h q.1
          rw [lookup_eq_none (l := p :: rest) (List.forall_mem_cons.mpr
            ⟨hlt, fun x hx => String.lt_trans hlt (hp x hx)⟩)] at hk
          simp [lookup] at hk
      have hvalue : p.2 = q.2 := by
        have hk := h p.1
        simpa [lookup, hkey] using hk
      have htail : ∀ k, lookup k rest = lookup k rest' := by
        intro k
        by_cases hk : p.1 = k
        · rw [lookup_eq_none fun x hx => hk ▸ hp x hx,
            lookup_eq_none fun x hx => hk ▸ hkey ▸ hq x hx]
        · have hboth := h k
          rwa [lookup, lookup, if_neg hk, if_neg (hkey ▸ hk)] at hboth
      rw [Prod.ext hkey hvalue, ih hrest hrest' htail]

/-- Settings that answer every look-up alike are equal. -/
theorem eq_of_get? {s t : Settings} (h : ∀ k, s.get? k = t.get? k) : s = t := by
  have hentries := eq_of_lookup s.ascending t.ascending h
  cases s
  cases t
  cases hentries
  rfl

theorem lookup_eq_some_iff {l : List (String × String)} (hl : l.Pairwise fun a b => a.1 < b.1)
    {k v : String} : lookup k l = some v ↔ (k, v) ∈ l := by
  induction l with
  | nil => simp [lookup]
  | cons p rest ih =>
    obtain ⟨hp, hrest⟩ := List.pairwise_cons.mp hl
    rw [lookup, List.mem_cons, Prod.ext_iff]
    split
    next h =>
      have hnone : (k, v) ∉ rest := by
        intro hmem
        have hlt : p.1 < k := hp (k, v) hmem
        exact String.lt_irrefl k (h ▸ hlt)
      simp [hnone, h, eq_comm]
    next h => simp [ih hrest, Ne.symm h]

/-- A look-up finds the entries. -/
theorem get?_eq_some_iff {s : Settings} {k v : String} :
    s.get? k = some v ↔ (k, v) ∈ s.entries := lookup_eq_some_iff s.ascending

/-- No two entries have one key. -/
theorem nodup_keys (s : Settings) : (s.entries.map (·.1)).Nodup :=
  List.pairwise_map.mpr (s.ascending.imp Std.ne_of_lt)

/-- What was put under the topmost settings can be left out exactly if they hide all of it that is
new. -/
theorem overlay_overlay_eq_iff (s t top : Settings) : (s.overlay t).overlay top = s.overlay top ↔
    ∀ k v, t.get? k = some v → top.get? k ≠ none ∨ s.get? k = some v := by
  constructor
  · intro h k v hk
    cases htop : top.get? k with
    | some x => exact .inl nofun
    | none =>
      have hget := congrArg (get? · k) h
      simp only [get?_overlay, htop, hk, Option.none_or, Option.some_or] at hget
      exact .inr hget.symm
  · intro h
    refine eq_of_get? fun k => ?_
    rw [get?_overlay, get?_overlay, get?_overlay]
    cases ht : t.get? k with
    | none => rw [Option.none_or]
    | some v =>
      rcases h k v ht with htop | hs
      · obtain ⟨x, hx⟩ := Option.ne_none_iff_exists'.mp htop
        rw [hx, Option.some_or, Option.some_or]
      · rw [hs, Option.some_or]

end Settings

/-! ## Entries of one plugin -/

/-- The first entry for a plugin. -/
def entryIn (l : List Entry) (plugin : String) : Option Entry :=
  l.find? fun e => e.plugin == plugin

/-- The settings of the first entry for a plugin. -/
def settingsIn (l : List Entry) (plugin : String) : Settings :=
  ((entryIn l plugin).map (·.settings)).getD .empty

theorem entryIn_cons (e : Entry) (l : List Entry) (plugin : String) :
    entryIn (e :: l) plugin = if e.plugin = plugin then some e else entryIn l plugin := by
  by_cases h : e.plugin = plugin <;> simp [entryIn, h]

theorem plugin_apply (w : Write) (e : Entry) : (w.apply e).plugin = e.plugin := by
  cases w <;> rfl

namespace MemoryStore

/-- What is written is the first entry of the plugin, or a new one, with the write applied to it. -/
theorem applyWrite_fst (w : Write) (l : List Entry) :
    (applyWrite w l).1 = w.apply ((entryIn l w.plugin).getD (Entry.new w.plugin false)) := by
  induction l with
  | nil => rfl
  | cons e rest ih =>
    unfold applyWrite
    rw [entryIn_cons]
    split
    · rfl
    · exact ih

theorem plugin_applyWrite (w : Write) (l : List Entry) : (applyWrite w l).1.plugin = w.plugin := by
  induction l with
  | nil => exact plugin_apply w _
  | cons e rest ih =>
    unfold applyWrite
    split
    next h => exact (plugin_apply w e).trans h
    next => exact ih

/-- A write makes its entry the first one for its plugin, and changes that of no other plugin. -/
theorem entryIn_applyWrite (w : Write) (l : List Entry) (plugin : String) :
    entryIn (applyWrite w l).2 plugin =
      if w.plugin = plugin then some (applyWrite w l).1 else entryIn l plugin := by
  induction l with
  | nil =>
    have hplugin := plugin_applyWrite w []
    refine (entryIn_cons _ [] _).trans ?_
    rw [show (w.apply (Entry.new w.plugin false)).plugin = w.plugin from hplugin]
    rfl
  | cons e rest ih =>
    have hplugin := plugin_applyWrite w (e :: rest)
    unfold applyWrite at hplugin ⊢
    split
    next h =>
      rw [if_pos h] at hplugin
      rw [entryIn_cons, entryIn_cons, hplugin, h]
      split <;> rfl
    next h =>
      dsimp only
      rw [entryIn_cons, entryIn_cons, ih]
      by_cases he : e.plugin = plugin
      · have hw : w.plugin ≠ plugin := fun hw => h (he.trans hw.symm)
        rw [if_pos he, if_neg hw, if_pos he]
      · rw [if_neg he, if_neg he]

/-- What a write makes of the settings of a plugin. -/
theorem settingsIn_applyWrite (w : Write) (l : List Entry) (plugin : String) :
    settingsIn (applyWrite w l).2 plugin = match w with
      | .toggle _ _ => settingsIn l plugin
      | .replaceSettings other c => if other = plugin then c else settingsIn l plugin := by
  rw [settingsIn, entryIn_applyWrite, applyWrite_fst]
  cases w with
  | replaceSettings other c =>
    by_cases h : other = plugin
    · simp [h, Write.plugin, Write.apply]
    · simp [h, Write.plugin, settingsIn]
  | toggle other enabled =>
    by_cases h : other = plugin
    · subst h
      cases he : entryIn l other <;>
        simp [he, Write.plugin, Write.apply, Entry.new, settingsIn]
    · simp [h, Write.plugin, settingsIn]

/-- The settings that a token has for a plugin. -/
def settings (m : MemoryStore) (token plugin : String) : Settings :=
  settingsIn (m.snapshot token) plugin

/-- Fetching changes nobody's entries. -/
@[simp] theorem entries?_fetch (m : MemoryStore) (token other : String) :
    (m.fetch token).2.entries? other = m.entries? other := by
  unfold fetch takeFailure
  cases m.failNext with
  | some text => rfl
  | none =>
    dsimp only [Option.map_none]
    split <;> rfl

theorem entries?_of_fetch {m : MemoryStore} {token : String} {l : List Entry}
    (h : (m.fetch token).1 = .ok l) : m.entries? token = some l := by
  unfold fetch takeFailure at h
  cases hf : m.failNext with
  | some text => simp [hf] at h
  | none =>
    rw [hf] at h
    dsimp only [Option.map_none] at h
    split at h
    next entries hentries =>
      cases h
      exact hentries
    next => cases h

/-- A write that fails changes nobody's entries. -/
theorem entries?_of_write_error {m : MemoryStore} {token : String} {w : Write} {e : StorageError}
    (h : (m.write token w).1 = .error e) (other : String) :
    (m.write token w).2.entries? other = m.entries? other := by
  unfold write takeFailure at h ⊢
  cases hf : m.failNext with
  | some text => rfl
  | none =>
    rw [hf] at h
    dsimp only [Option.map_none] at h ⊢
    split
    next => rfl
    next entries hentries => simp [hentries] at h

/-- A write that succeeds goes into the entries of its token. -/
theorem entries?_of_write {m : MemoryStore} {token : String} {w : Write} {e : Entry}
    (h : (m.write token w).1 = .ok e) : ∃ l, m.entries? token = some l ∧
      e = (applyWrite w l).1 ∧ (m.write token w).2.entries? token = some (applyWrite w l).2 := by
  unfold write takeFailure at h ⊢
  cases hf : m.failNext with
  | some text => simp [hf] at h
  | none =>
    rw [hf] at h
    dsimp only [Option.map_none] at h ⊢
    split at h
    next => cases h
    next entries hentries =>
      cases h
      refine ⟨entries, hentries, rfl, ?_⟩
      exact (entries?_seed _ _ _ _).trans (if_pos rfl)

theorem settings_of_entries? {m m' : MemoryStore} {token : String}
    (h : m'.entries? token = m.entries? token) (plugin : String) :
    m'.settings token plugin = m.settings token plugin := by
  rw [settings, settings, snapshot, snapshot, h]

/-- New settings that the store has taken are the ones it has, and the ones it hands back. -/
theorem settings_of_write {m : MemoryStore} {token plugin : String} {c : Settings} {e : Entry}
    (h : (m.write token (.replaceSettings plugin c)).1 = .ok e) :
    e.plugin = plugin ∧ e.settings = c ∧
      (m.write token (.replaceSettings plugin c)).2.settings token plugin = c := by
  obtain ⟨l, -, he, hafter⟩ := entries?_of_write h
  have hsettings : e.settings = c := by rw [he, applyWrite_fst, Write.apply]
  have hplugin : (Write.replaceSettings plugin c).plugin = plugin := rfl
  refine ⟨he ▸ plugin_applyWrite _ l, hsettings, ?_⟩
  rw [settings, snapshot, hafter, Option.getD_some, settingsIn, entryIn_applyWrite,
    if_pos hplugin, ← he, Option.map_some, Option.getD_some, hsettings]

end MemoryStore
end Plugboard
