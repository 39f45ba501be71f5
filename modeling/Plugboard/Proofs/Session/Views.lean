import Plugboard.Proofs.Session.Identity

/-!
A session tells in three ways what is enabled: for one name, as the list of the enabled plugins, and
as the list of all plugins with a mark on each. Only the second does not look at the token. They
agree because a session without a token holds no entries, however late an answer comes that was
asked for with a token.

* `Session.ViewsAgree`: the three views of a session, beside a registry, say the same.
* `Session.viewsAgree`: they do if the session holds nothing without a token.
* `Traffic.views_agree`: they do after every run from a new session, beside every registry.
-/
namespace Plugboard

variable {Code : Type}

namespace Registry

variable (r : Registry Code)

/-- What is found under some names, by the names: those that the registry has. -/
theorem names_byNames (names : List String) :
    (r.byNames names).map Installed.name = names.filter r.contains := by
  induction names with
  | nil => rfl
  | cons name names ih =>
    rw [byNames] at ih ⊢
    cases hp : r.get? name with
    | none =>
      have hnot : ¬ r.contains name = true := by rw [contains, hp]; exact Bool.false_ne_true
      rw [List.filterMap_cons_none hp, List.filter_cons_of_neg hnot, ih]
    | some p =>
      have hhas : r.contains name = true := by rw [contains, hp]; rfl
      rw [List.filterMap_cons_some hp, List.filter_cons_of_pos hhas, List.map_cons,
        name_of_get? hp, ih]

variable {r}

theorem mem_byNames {names : List String} {p : Installed Code} :
    p ∈ r.byNames names ↔ r.get? p.name = some p ∧ p.name ∈ names := by
  rw [byNames, List.mem_filterMap]
  constructor
  · rintro ⟨name, hname, hp⟩
    rw [name_of_get? hp]
    exact ⟨hp, hname⟩
  · rintro ⟨hp, hname⟩
    exact ⟨p.name, hname, hp⟩

end Registry

namespace Session

/-- The views of a session say the same about the plugins of a registry. -/
structure ViewsAgree (s : Session) (r : Registry Code) : Prop where
  /-- All plugins of the registry, in its order. -/
  plugins : (s.availablePlugins r).map Prod.fst = r.plugins
  /-- None of them twice. -/
  once : ((s.availablePlugins r).map fun x => x.1.name) = r.order ∧ r.order.Nodup
  marked : ∀ x ∈ s.availablePlugins r, x.2 = s.isEnabled x.1.name
  enabled : ∀ p ∈ r.plugins, p ∈ s.enabledPlugins r ↔ (p, true) ∈ s.availablePlugins r
  /-- As often as the session holds an enabled entry for the plugin. -/
  often : ∀ p ∈ r.plugins, (s.enabledPlugins r).countP (fun q => q.name == p.name) =
    s.entries.countP fun e => e.enabled && e.plugin == p.name
  /-- In the order of the entries. -/
  order : (s.enabledPlugins r).map Installed.name =
    ((s.entries.filter (·.enabled)).map (·.plugin)).filter r.contains
  installed : (∀ p ∈ s.enabledPlugins r, r.get? p.name = some p) ∧
    ∀ x ∈ s.availablePlugins r, r.get? x.1.name = some x.1
  loggedOut : s.token = none → s.enabledPlugins r = [] ∧ (∀ name, s.isEnabled name = false) ∧
    ∀ x ∈ s.availablePlugins r, x.2 = false

section
variable {s : Session} {r : Registry Code}

theorem isEnabled_of_token_none (h : s.token = none) (name : String) :
    s.isEnabled name = false := by
  rw [isEnabled, h]
  rfl

/-- Where there are no entries without a token, the token need not be looked at. -/
theorem isEnabled_iff (h : s.token = none → s.entries = []) {name : String} :
    s.isEnabled name = true ↔ name ∈ (s.entries.filter (·.enabled)).map (·.plugin) := by
  have hentries : (s.entries.any fun e => e.plugin == name && e.enabled) = true ↔
      name ∈ (s.entries.filter (·.enabled)).map (·.plugin) := by
    simp only [List.any_eq_true, Bool.and_eq_true, beq_iff_eq, List.mem_map, List.mem_filter]
    exact ⟨fun ⟨e, he, hname, hon⟩ => ⟨e, ⟨he, hon⟩, hname⟩,
      fun ⟨e, ⟨he, hon⟩, hname⟩ => ⟨e, he, hname, hon⟩⟩
  rw [← hentries, isEnabled]
  cases ht : s.token with
  | none => simp [h ht]
  | some token => simp

theorem mem_availablePlugins {x : Installed Code × Bool} :
    x ∈ s.availablePlugins r ↔ x.1 ∈ r.plugins ∧ x.2 = s.isEnabled x.1.name := by
  rw [availablePlugins, List.mem_map]
  constructor
  · rintro ⟨p, hp, rfl⟩
    exact ⟨hp, rfl⟩
  · rintro ⟨hp, hmark⟩
    exact ⟨x.1, hp, Prod.ext rfl hmark.symm⟩

theorem mem_enabledPlugins (h : s.token = none → s.entries = []) {p : Installed Code} :
    p ∈ s.enabledPlugins r ↔ r.get? p.name = some p ∧ s.isEnabled p.name = true := by
  rw [enabledPlugins, Registry.mem_byNames, isEnabled_iff h]

theorem countP_enabledPlugins {name : String} (hname : r.contains name = true) :
    (s.enabledPlugins r).countP (fun q => q.name == name) =
      s.entries.countP fun e => e.enabled && e.plugin == name := by
  have hnames : (s.enabledPlugins r).countP (fun q => q.name == name) =
      ((s.enabledPlugins r).map Installed.name).count name := by
    rw [List.count, List.countP_map]
    rfl
  rw [hnames, enabledPlugins, Registry.names_byNames, List.count_filter hname, List.count,
    List.countP_map, List.countP_filter]
  exact List.countP_congr fun e _ => by simp [and_comm]

/-- The views agree in a session that holds nothing without a token. -/
theorem viewsAgree (h : s.token = none → s.entries = []) (r : Registry Code) : s.ViewsAgree r where
  plugins := by rw [availablePlugins, List.map_map]; exact List.map_id' _
  once := by
    rw [availablePlugins, List.map_map, ← r.names_plugins]
    exact ⟨rfl, r.names_plugins.symm ▸ r.distinct⟩
  marked := fun x hx => (mem_availablePlugins.mp hx).2
  enabled := by
    intro p hp
    rw [mem_enabledPlugins h, mem_availablePlugins, ← Registry.mem_plugins_iff]
    exact and_congr_right fun _ => eq_comm
  often := fun p hp =>
    countP_enabledPlugins (by rw [Registry.contains, Registry.mem_plugins_iff.mp hp]; rfl)
  order := r.names_byNames _
  installed := ⟨fun p hp => ((mem_enabledPlugins h).mp hp).1,
    fun x hx => Registry.mem_plugins_iff.mp (mem_availablePlugins.mp hx).1⟩
  loggedOut := by
    intro ht
    refine ⟨?_, isEnabled_of_token_none ht, fun x hx => ?_⟩
    · rw [enabledPlugins, h ht]
      rfl
    · rw [(mem_availablePlugins.mp hx).2, isEnabled_of_token_none ht]

end

theorem Own.entries_of_token_none {told : List Told} {s : Session} (h : s.Own told)
    (ht : s.token = none) : s.entries = [] := by
  refine List.eq_nil_iff_forall_not_mem.mpr fun e he => ?_
  obtain ⟨_, hsome, _⟩ := h.entries e he
  cases ht.symm.trans hsome

end Session

namespace Traffic

variable {σ : Type}

/-- The invariant holds after every run from a new session. -/
theorem run_kept (keeper : Keeper σ) (token : Option String) (store : σ) (moves : List (Move σ)) :
    ((start (.new token) store).run keeper moves).Kept :=
  run_induction (fun _ _ _ _ hm h => ⟨moved_own h hm, moved_known h.known hm⟩)
    (start_kept token store) moves fun _ _ => trivial

/-- Whatever calls are made, whatever the store answers and in whatever order the answers come, and
whatever is installed: the three views of the session agree. -/
theorem views_agree (keeper : Keeper σ) (token : Option String) (store : σ) (moves : List (Move σ))
    (r : Registry Code) : ((start (.new token) store).run keeper moves).session.ViewsAgree r :=
  Session.viewsAgree (run_kept keeper token store moves).own.entries_of_token_none r

end Traffic
end Plugboard
