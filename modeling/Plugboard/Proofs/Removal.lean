import Plugboard.Proofs.Broadcast
import Plugboard.Proofs.Registrations

/-!
Taking a plugin out. Its destroy hook is plugin code and may ask for anything, and so may those who
hear of its failure; by then the plugin is gone, and however the hook ends, it stays gone unless some
of this code registers its name again.

* `Registry.Without`: a registry with one plugin less.
* `Host.Renews`: plugins that are newly there have new serial numbers, and hooks are called of plugins
  that were there or are new. `server_renews`: so it is along everything that is served.
* `Host.Farewell`: what follows when a plugin was taken out. `start_unregister`: nothing else does.
* `removal_certain`: a plugin that is there is taken out, whatever its hook does.
-/
namespace Plugboard

open Run

/-! ## A registry with one plugin less -/

namespace Registry

/-- The plugin is out, and all others are as they were and in the same order. -/
structure Without (r r' : Registry Code) (p : Installed Code) : Prop where
  get? : r'.get? p.name = none
  others : ∀ name, name ≠ p.name → r'.get? name = r.get? name
  plugins : r'.plugins = r.plugins.filter fun q => q.name ≠ p.name
  size : r'.size + 1 = r.size

theorem get?_remove (r : Registry Code) (name other : String) :
    (r.remove name).get? other = if name = other then none else r.get? other :=
  Table.get?_erase _ _ _

theorem plugins_remove (r : Registry Code) (name : String) :
    (r.remove name).plugins = r.plugins.filter fun q => q.name ≠ name := by
  have horder : (r.remove name).order = r.order.filter fun other => other ≠ name := rfl
  rw [plugins, plugins, horder, List.filterMap_filter, List.filter_filterMap]
  refine List.filterMap_congr fun other _ => ?_
  rw [get?_remove]
  cases hq : r.get? other with
  | none => simp
  | some q => by_cases h : name = other <;> simp [Option.filter_some, name_of_get? hq, h, Ne.symm]

theorem size_remove {r : Registry Code} {name : String} {p : Installed Code}
    (hp : r.get? name = some p) : (r.remove name).size + 1 = r.size := by
  have horder : (r.remove name).order = r.order.erase name := by
    rw [r.distinct.erase_eq_filter]
    exact List.filter_congr fun other _ => by simp [bne, ← Bool.beq_eq_decide_eq]
  have hmem : name ∈ r.order := (r.contains_iff name).mp (by rw [contains, hp]; rfl)
  have hsize : ∀ s : Registry Code, s.size = s.order.length := fun s => by
    rw [size_listing, ← s.listing_names, List.length_map]
  rw [hsize, hsize, horder, List.length_erase_add_one hmem]

theorem without_remove {r : Registry Code} {name : String} {p : Installed Code}
    (hp : r.get? name = some p) : r.Without (r.remove name) p := by
  obtain rfl := name_of_get? hp
  refine ⟨?_, fun other h => ?_, r.plugins_remove p.name, size_remove hp⟩
  · rw [get?_remove, if_pos rfl]
  · rw [get?_remove, if_neg h.symm]

/-- After a registration a plugin is the new one or one that was there. -/
theorem get?_register {r r' : Registry Code} {q : Installed Code} {result : Registration}
    (h : r.register q = .ok (result, r')) {name : String} {p : Installed Code}
    (hp : r'.get? name = some p) : p = q ∨ r.get? name = some p := by
  have hput : ∀ s : Registry Code, s.installed = Table.put q.name q r.installed →
      s.get? name = some p → p = q ∨ r.get? name = some p := by
    intro s hs hget
    rw [get?, hs, Table.get?_put] at hget
    split at hget
    · exact .inl (Option.some.inj hget).symm
    · exact .inr hget
  unfold register at h
  split at h
  · cases h
  next hq =>
    obtain rfl : (r.install q hq).2 = r' := congrArg Prod.snd (Except.ok.inj h)
    unfold install at hp
    split at hp
    · cases hpolicy : r.policy with
      | ignore =>
        rw [hpolicy] at hp
        exact .inr hp
      | replace =>
        rw [hpolicy] at hp
        exact hput _ rfl hp
    · exact hput _ rfl hp

end Registry

namespace Host

/-! ## Plugins that are newly there -/

/-- On the way from one host to the other, plugins come with numbers that were never handed out
before, and a destroy hook is only called of a plugin that was there or that came. -/
structure Renews (h h' : Host) : Prop where
  serial : h.lastSerial ≤ h'.lastSerial
  plugins : ∀ name p, h'.registry.get? name = some p →
    h.registry.get? name = some p ∨ h.lastSerial < p.serial ∧ p.serial ≤ h'.lastSerial
  journal : ∃ l, h'.journal = h.journal ++ l ∧ ∀ name n, .entered .registry name .destroy n ∈ l →
    (∃ p, h.registry.get? name = some p ∧ p.serial = n) ∨ h.lastSerial < n

instance : Std.Refl Renews :=
  ⟨fun _ => ⟨Nat.le_refl _, fun _ _ => .inl, [], (List.append_nil _).symm, fun _ _ => nofun⟩⟩

instance : IsTrans Host Renews where
  trans h₁ h₂ h₃ := by
    rintro ⟨hs, hp, l, hl, hc⟩ ⟨hs', hp', l', hl', hc'⟩
    refine ⟨Nat.le_trans hs hs', fun name p hget => ?_, l ++ l', ?_, fun name n hmem => ?_⟩
    · rcases hp' name p hget with hget | ⟨hlt, hle⟩
      · exact (hp name p hget).imp_right fun ⟨hlt, hle⟩ => ⟨hlt, Nat.le_trans hle hs'⟩
      · exact .inr ⟨Nat.lt_of_le_of_lt hs hlt, hle⟩
    · rw [hl', hl, List.append_assoc]
    · rcases List.mem_append.mp hmem with hmem | hmem
      · exact hc name n hmem
      · rcases hc' name n hmem with ⟨p, hget, rfl⟩ | hlt
        · exact (hp name p hget).imp (fun hget => ⟨p, hget, rfl⟩) And.left
        · exact .inr (Nat.lt_of_le_of_lt hs hlt)

/-- No plugin comes, and no hook is called. -/
theorem renews_of_same {h h' : Host} (hs : h.lastSerial ≤ h'.lastSerial)
    (hp : ∀ name p, h'.registry.get? name = some p → h.registry.get? name = some p)
    {l : List Happening} (hl : h'.journal = h.journal ++ l)
    (hc : ∀ name n, .entered .registry name .destroy n ∉ l) : Renews h h' :=
  ⟨hs, fun name p hget => .inl (hp name p hget), l, hl, fun name n hmem => absurd hmem (hc name n)⟩

theorem renews_of_aside (h h' : Host) (ha : Aside h h') : Renews h h' := by
  obtain ⟨l, hl, hall⟩ := ha.journal
  exact renews_of_same ha.serial (fun _ _ hget => ha.registry ▸ hget) hl fun _ _ hmem => hall _ hmem

theorem modify_renews {f : Host → Host} (hs : ∀ h, (f h).lastSerial = h.lastSerial)
    (hp : ∀ h name p, (f h).registry.get? name = some p → h.registry.get? name = some p)
    (hj : ∀ h, (f h).journal = h.journal) : Along Renews (modify f : HostRun PUnit) :=
  along_modify fun h => renews_of_same (Nat.le_of_eq (hs h).symm) (hp h)
    ((hj h).trans (List.append_nil _).symm) fun _ _ => nofun

theorem record_renews {x : Happening} (hx : ∀ name n, x ≠ .entered .registry name .destroy n) :
    Along Renews (record x) :=
  along_modify fun _ => renews_of_same (Nat.le_refl _) (fun _ _ => id) rfl fun name n hmem =>
    hx name n (List.mem_singleton.mp hmem).symm

/-- A definition that is not refused takes a serial number. -/
theorem register_counts (d : Definition Code) (h : Host) :
    Ends (register d) h fun r h' => (∃ e, r = .ok (.error e)) ∨ h.lastSerial < h'.lastSerial := by
  rw [register, ends_bind, ends_get]
  dsimp only
  cases h.registry.register ⟨d, h.lastSerial + 1⟩ with
  | error e => exact (ends_pure _ _ _).mpr (.inl ⟨e, rfl⟩)
  | ok q =>
    dsimp only
    rw [ends_bind, ends_set]
    dsimp only
    split
    · simp only [log, record, ends_bind, ends_modify, ends_pure]
      exact .inr (Nat.lt_succ_self _)
    · exact (ends_pure _ _ _).mpr (.inr (Nat.lt_succ_self _))

theorem register_renews (d : Definition Code) : Along Renews (register d) := by
  intro h
  refine ((register_ends d h).and (register_counts d h)).mono fun _ h' hr => ?_
  rcases hr with ⟨⟨_, -, -, rfl⟩ | ⟨result, registry, hok, rfl, ha⟩, hcount⟩
  · exact Std.Refl.refl _
  · have hlt : h.lastSerial < h'.lastSerial := hcount.resolve_left nofun
    obtain ⟨l, hl, hall⟩ := ha.journal
    refine ⟨ha.serial, fun name p hget => ?_, l, hl, fun _ _ hmem => (hall _ hmem).elim⟩
    rw [ha.registry] at hget
    rcases Registry.get?_register hok hget with rfl | hget
    · exact .inr ⟨Nat.lt_succ_self _, hlt⟩
    · exact .inl hget

/-! ## What follows when a plugin is out -/

/-- The host without a plugin. -/
def without (h : Host) (plugin : String) : Host := { h with registry := h.registry.remove plugin }

/-- The call of the destroy hook of a plugin that was taken out. -/
def hookCall (p : Installed Code) : Happening := .entered .registry p.name .destroy p.serial

def hookText (plugin text : String) : String :=
  "onDestroy for plugin '" ++ plugin ++ "' failed during unregister: " ++ text

/-- The event that tells of a destroy hook that failed. -/
def hookEvent (plugin text : String) : Event :=
  .error plugin (.object [("error", .string text), ("phase", .string Phase.destroy.name)])

/-- What is done once the hook was called. -/
def partWith (play : Player) (p : Installed Code) (hook : Code) :
    HostRun (Option (Installed Code)) := do
  match hookFailure (← contain (play hook)) with
  | none => return some p
  | some text => do
    reportHook play p.name text
    return some p

section
variable {play : Player} {plugin : String} {p : Installed Code} {h : Host}

theorem unregister_of_missing (play : Player) (hp : h.registry.get? plugin = none) :
    start (unregister play plugin) h = some (.ok none, h) := by
  rw [unregister, start_bind, start_get]
  dsimp only
  rw [hp, start_pure]

theorem unregister_of_hookless (play : Player) (hp : h.registry.get? plugin = some p)
    (hd : p.definition.destroy = none) :
    start (unregister play plugin) h = some (.ok (some p), h.without plugin) := by
  rw [unregister, start_bind, start_get]
  dsimp only
  rw [hp]
  dsimp only
  rw [start_bind, start_modify, hd]
  rfl

theorem unregister_of_hook (play : Player) (hp : h.registry.get? plugin = some p) {hook : Code}
    (hd : p.definition.destroy = some hook) :
    start (unregister play plugin) h =
      start (partWith play p hook) ((h.without plugin).recorded (hookCall p)) := by
  obtain rfl := Registry.name_of_get? hp
  rw [unregister, start_bind, start_get]
  dsimp only
  rw [hp]
  dsimp only
  rw [start_bind, start_modify, hd]
  rfl

theorem partWith_along {R : Host → Host → Prop} [Std.Refl R] [IsTrans Host R]
    (haside : ∀ h h', Aside h h' → R h h') (hemit : ∀ e, Along R (emit play e))
    (hplay : ∀ code, Along R (play code)) (p : Installed Code) (hook : Code) :
    Along R (partWith play p hook) := by
  refine along_bind (along_contain (hplay hook)) fun ending => ?_
  cases hookFailure ending with
  | none => exact along_pure _
  | some text =>
    exact along_bind (reportHook_along haside hemit p.name text) fun _ => along_pure _

end

/-! ## Requests -/

section
variable {play : Player} (hplay : ∀ code, Along Renews (play code))
include hplay

theorem emit_renews (e : Event) : Along Renews (emit play e) := by
  refine along_bind (record_renews fun _ _ => nofun) fun _ => along_bind along_get fun _ =>
    along_bind (along_forM (fun handler => ?_) _) fun _ => along_pure _
  exact deliver_along renews_of_aside hplay (fun _ => record_renews fun _ _ => nofun)
    (fun _ => modify_renews (fun _ => rfl) (fun _ _ _ => id) fun _ => rfl) handler

theorem unregister_renews (plugin : String) : Along Renews (unregister play plugin) := by
  intro h
  cases hp : h.registry.get? plugin with
  | none => exact (ends_of_start (unregister_of_missing play hp)).mpr (Std.Refl.refl _)
  | some p =>
    have hold : ∀ name q, (h.registry.remove plugin).get? name = some q →
        h.registry.get? name = some q := by
      intro name q hget
      rw [Registry.get?_remove] at hget
      exact (Option.ite_none_left_eq_some.mp hget).2
    cases hd : p.definition.destroy with
    | none =>
      refine (ends_of_start (unregister_of_hookless play hp hd)).mpr ?_
      exact renews_of_same (Nat.le_refl _) hold (List.append_nil _).symm fun _ _ => nofun
    | some hook =>
      have hcalled : Renews h ((h.without plugin).recorded (hookCall p)) := by
        refine ⟨Nat.le_refl _, fun name q hget => .inl (hold name q hget), [hookCall p], rfl,
          fun name n hmem => ?_⟩
        cases List.mem_singleton.mp hmem
        exact .inl ⟨p, Registry.name_of_get? hp ▸ hp, rfl⟩
      intro r h' run
      rw [unregister_of_hook play hp hd] at run
      exact IsTrans.trans _ _ _ hcalled
        (partWith_along renews_of_aside (emit_renews hplay) hplay p hook _ r h' run)

theorem serve_renews {a : Answer} (op : Op Code a) : Along Renews (serve play op) := by
  refine along_bind (record_renews fun _ _ => nofun) fun _ => ?_
  cases op with
  | note | fresh | count | look | detach | setToken | callApi =>
    exact along_of_aside renews_of_aside (fulfil_aside play trivial)
  | emit e => exact emit_renews hplay e
  | subscribe label type handler =>
    exact fun h => (ends_of_start (start_subscribeAs label type handler h)).mpr
      (renews_of_same (Nat.le_refl _) (fun _ _ => id) (List.append_nil _).symm fun _ _ => nofun)
  | unsubscribe label =>
    exact fun h => (ends_of_start (start_unsubscribeAs label h)).mpr
      (renews_of_same (Nat.le_refl _) (fun _ _ => id) (List.append_nil _).symm fun _ _ => nofun)
  | clearBus => exact modify_renews (fun _ => rfl) (fun _ _ _ => id) fun _ => rfl
  | register d => exact register_renews d
  | unregister plugin => exact along_bind (unregister_renews hplay plugin) fun _ => along_pure _
  | clearRegistry => exact modify_renews (fun _ => rfl) (fun _ _ _ => nofun) fun _ => rfl
  | update c changes => exact update_along renews_of_aside (emit_renews hplay) _ _ _

end

theorem server_renews (depth : Nat) : ∀ a (op : Op Code a), Along Renews (server depth op) :=
  server_along (fun _ hplay _ => serve_renews hplay) depth

/-- Every serial number in the registry was handed out. -/
def Numbered (h : Host) : Prop := ∀ name p, h.registry.get? name = some p → p.serial ≤ h.lastSerial

theorem numbered_new (config : HostConfig) (policy : DuplicatePolicy) (store : Store)
    (backend : Http.Backend) : (new config policy store backend).Numbered := fun _ _ => nofun

/-- So it is of a host that plugin code has run on. -/
theorem Numbered.renews {h h' : Host} (hn : h.Numbered) (hr : Renews h h') : h'.Numbered :=
  fun name p hget => (hr.plugins name p hget).elim
    (fun hold => Nat.le_trans (hn name p hold) hr.serial) And.right

/-! ## Removals -/

/-- What follows when a plugin was taken out, and what it adds to the journal. Without a hook that is
nothing. A hook is called and run, and just when it fails, that is logged and published once. -/
inductive Farewell (depth : Nat) (p : Installed Code) (gone : Host) : List Happening → Host → Prop
  | hookless (hd : p.definition.destroy = none) : Farewell depth p gone [] gone
  | parted {hook ending l h'} (hd : p.definition.destroy = some hook)
      (run : start (player depth hook) (gone.recorded (hookCall p)) = some (ending, h'))
      (hok : hookFailure ending = none) (hl : h'.journal = gone.journal ++ hookCall p :: l) :
      Farewell depth p gone (hookCall p :: l) h'
  | failed {hook ending text l k l' h'} (hd : p.definition.destroy = some hook)
      (run : start (player depth hook) (gone.recorded (hookCall p)) = some (ending, k))
      (hfailed : hookFailure ending = some text) (hl : k.journal = gone.journal ++ hookCall p :: l)
      (hheard : Heard (hookEvent p.name text) k.roster (k.roster.listening .error) l' h'.roster) :
      Farewell depth p gone (hookCall p :: (l ++ .logged .error (hookText p.name text) ::
        .published (hookEvent p.name text) :: l')) h'

/-- The code of the hook is given up, or that of one who hears that it failed. -/
def HookGivenUp (depth : Nat) (p : Installed Code) (gone : Host) : Prop :=
  ∃ hook, p.definition.destroy = some hook ∧
    (start (player depth hook) (gone.recorded (hookCall p)) = none ∨
      ∃ ending text k, start (player depth hook) (gone.recorded (hookCall p)) = some (ending, k) ∧
        hookFailure ending = some text ∧
        GivenUp depth (hookEvent p.name text) (k.roster.listening .error)
          ((k.recorded (.logged .error (hookText p.name text))).recorded
            (.published (hookEvent p.name text))))

/-- How often the destroy hook of an installation is called. -/
def hookCalls (p : Installed Code) (l : List Happening) : Nat :=
  l.countP fun
    | .entered .registry name .destroy n => name == p.name && n == p.serial
    | _ => false

section
variable {depth : Nat} {plugin : String} {p : Installed Code} {hook : Code} {h : Host}

theorem start_partWith (hd : p.definition.destroy = some hook) (gone : Host) :
    match start (partWith (player depth) p hook) (gone.recorded (hookCall p)) with
    | none => HookGivenUp depth p gone
    | some (r, h') => r = .ok (some p) ∧ ∃ l, h'.journal = gone.journal ++ l ∧
        Farewell depth p gone l h' := by
  have hplay : ∀ code, Along Broadcasts (player depth code) := run_along (server_broadcasts depth)
  rw [partWith, start_bind, start_contain]
  cases run : start (player depth hook) (gone.recorded (hookCall p)) with
  | none => exact ⟨hook, hd, .inl run⟩
  | some x =>
    obtain ⟨ending, k⟩ := x
    obtain ⟨l, hl, -⟩ := hplay hook _ _ _ run
    rw [recorded, List.append_assoc, List.singleton_append] at hl
    dsimp only [Option.map_some]
    cases hfailed : hookFailure ending with
    | none => exact ⟨rfl, _, hl, .parted hd run hfailed hl⟩
    | some text =>
      let logged := k.recorded (.logged .error (hookText p.name text))
      have htold := start_emit hplay (hookEvent p.name text) logged
      have hreport : start (reportHook (player depth) p.name text) k =
          start (emit (player depth) (hookEvent p.name text) >>= fun _ => pure ⟨⟩) logged := rfl
      dsimp only
      rw [start_bind, hreport, start_bind]
      cases told : start (emit (player depth) (hookEvent p.name text)) logged with
      | none =>
        rw [told] at htold
        exact ⟨hook, hd, .inr ⟨ending, text, k, run, hfailed, htold⟩⟩
      | some x =>
        obtain ⟨r, h'⟩ := x
        rw [told] at htold
        obtain ⟨rfl, l', hl', hheard⟩ := htold
        refine ⟨rfl, _, ?_, .failed hd run hfailed hl hheard⟩
        have hlogged : logged.journal = k.journal ++ [.logged .error (hookText p.name text)] := rfl
        rw [hl', hlogged, hl]
        simp only [List.append_assoc, List.cons_append, List.nil_append]

/-- A plugin that is there is taken out, and its hook has its say. -/
theorem start_unregister (depth : Nat) (hp : h.registry.get? plugin = some p) :
    match start (unregister (player depth) plugin) h with
    | none => HookGivenUp depth p (h.without plugin)
    | some (r, h') => r = .ok (some p) ∧ ∃ l, h'.journal = h.journal ++ l ∧
        Farewell depth p (h.without plugin) l h' := by
  cases hd : p.definition.destroy with
  | none =>
    rw [unregister_of_hookless _ hp hd]
    exact ⟨rfl, [], (List.append_nil _).symm, .hookless hd⟩
  | some hook =>
    rw [unregister_of_hook _ hp hd]
    exact start_partWith hd (h.without plugin)

/-- What holds along code holds from the call of the hook on. -/
theorem unregister_after {R : Host → Host → Prop} [Std.Refl R] [IsTrans Host R]
    (haside : ∀ h h', Aside h h' → R h h') (hemit : ∀ e, Along R (emit (player depth) e))
    (hplay : ∀ code, Along R (player depth code)) (hp : h.registry.get? plugin = some p) :
    Ends (unregister (player depth) plugin) h fun _ h' =>
      p.definition.destroy = none ∧ h' = h.without plugin ∨
        p.definition.destroy.isSome ∧ R ((h.without plugin).recorded (hookCall p)) h' := by
  intro r h' run
  cases hd : p.definition.destroy with
  | none =>
    rw [unregister_of_hookless _ hp hd] at run
    cases run
    exact .inl ⟨rfl, rfl⟩
  | some hook =>
    rw [unregister_of_hook _ hp hd] at run
    exact .inr ⟨rfl, partWith_along haside hemit hplay p hook _ r h' run⟩

theorem eq_hookCall_cons {h' : Host} {l rest : List Happening} (hl : h'.journal = h.journal ++ l)
    (hrest : h'.journal = ((h.without plugin).recorded (hookCall p)).journal ++ rest) :
    l = hookCall p :: rest := by
  refine List.append_cancel_left (hl.symm.trans (hrest.trans ?_))
  rw [recorded, List.append_assoc, List.singleton_append]
  rfl

/-- The hook is called once: what is installed later under the name has another number. -/
theorem unregister_calls (hn : h.Numbered) (hp : h.registry.get? plugin = some p) :
    Ends (unregister (player depth) plugin) h fun _ h' => ∀ l, h'.journal = h.journal ++ l →
      hookCalls p l = if p.definition.destroy.isSome then 1 else 0 := by
  have hplay : ∀ code, Along Renews (player depth code) := run_along (server_renews depth)
  refine (unregister_after renews_of_aside (emit_renews hplay) hplay hp).mono fun _ h' hr l hl => ?_
  rcases hr with ⟨hd, rfl⟩ | ⟨hd, hr⟩
  · rw [List.self_eq_append_right.mp hl, hd]
    rfl
  · obtain ⟨rest, hrest, hcalls⟩ := hr.journal
    have hnone : hookCalls p rest = 0 := by
      rw [hookCalls, List.countP_eq_zero]
      intro x hx
      split
      next name n =>
        rw [Bool.and_eq_true, beq_iff_eq, beq_iff_eq]
        rintro ⟨rfl, rfl⟩
        obtain rfl := Registry.name_of_get? hp
        rcases hcalls _ _ hx with ⟨q, hget, -⟩ | hlt
        · cases (Registry.without_remove hp).get?.symm.trans hget
        · exact Nat.lt_irrefl _ (Nat.lt_of_lt_of_le hlt (hn p.name p hp))
      · exact Bool.false_ne_true
    rw [eq_hookCall_cons hl hrest, if_pos hd, hookCalls, List.countP_cons, ← hookCalls, hnone]
    simp [hookCall]

/-- All that changes the registry once the plugin is out was asked for by plugin code. -/
theorem unregister_listing_after (hp : h.registry.get? plugin = some p) :
    Ends (unregister (player depth) plugin) h fun _ h' => ∀ l, h'.journal = h.journal ++ l →
      h'.registry.listing = l.foldl (Happening.refile h.registry.policy)
        (h.registry.listing.unregister plugin) := by
  have hplay : ∀ code, Along Files (player depth code) := run_along (server_files depth)
  refine (unregister_after files_of_aside (emit_files hplay) hplay hp).mono fun _ h' hr l hl => ?_
  rw [← Registry.listing_remove]
  rcases hr with ⟨-, rfl⟩ | ⟨-, -, rest, hrest, hlisting⟩
  · rw [List.self_eq_append_right.mp hl]
    rfl
  · rw [eq_hookCall_cons hl hrest, hlisting]
    rfl

end

end Host

/-! ## Names that stay out -/

namespace Listing

variable {policy : DuplicatePolicy} {name : String} {t : Listing Code}

theorem not_mem_refile (ht : name ∉ t.map Prod.fst) {x : Happening}
    (hx : ∀ d, x = .asked (.register d) → d.name ≠ name) :
    name ∉ (x.refile policy t).map Prod.fst := by
  cases x with
  | @asked a op =>
    cases op with
    | register d =>
      have hd : d.name ≠ name := hx d rfl
      simp only [Happening.refile, Op.refile, register, file]
      split
      · exact ht
      · split
        · cases policy with
          | ignore => exact ht
          | replace =>
            have hnames : (t.map fun x => if x.1 = d.name then (x.1, d) else x).map Prod.fst =
                t.map Prod.fst := by
              rw [List.map_map]
              exact List.map_congr_left fun x _ => by dsimp only [Function.comp]; split <;> rfl
            exact hnames ▸ ht
        · simpa [Ne.symm hd] using ht
    | unregister plugin =>
      exact fun hmem => ht ((List.filter_sublist.map Prod.fst).subset hmem)
    | clearRegistry => exact List.not_mem_nil
    | _ => exact ht
  | _ => exact ht

/-- A name that is out stays out as long as nobody registers it. -/
theorem not_mem_foldl_refile {l : List Happening}
    (hl : ∀ d, Happening.asked (.register d) ∈ l → d.name ≠ name) (ht : name ∉ t.map Prod.fst) :
    name ∉ (l.foldl (Happening.refile policy) t).map Prod.fst := by
  induction l generalizing t with
  | nil => exact ht
  | cons x l ih =>
    refine ih (fun d hd => hl d (List.mem_cons_of_mem _ hd)) (not_mem_refile ht fun d hx => ?_)
    exact hl d (hx ▸ List.mem_cons_self)

end Listing

namespace Host

/-- A plugin that is registered is taken out, and what comes back is the plugin that was there. Its
hook is called once, on a host whose registry has all plugins but this one, in their order; just when
it fails, by an error or a panic, one event tells of it. Whatever else the registry gains or loses was
asked for by the hook, or by those who heard that it failed, and the name is out in the end unless one
of them registered it. The removal is only given up where the code of one of them is. Taking out a
name that is not registered changes nothing. -/
theorem removal_certain {h : Host} (hn : h.Numbered) (depth : Nat) (plugin : String) :
    match h.registry.get? plugin with
    | none => start (unregister (player depth) plugin) h = some (.ok none, h)
    | some p => h.registry.Without (h.without plugin).registry p ∧
        match start (unregister (player depth) plugin) h with
        | none => HookGivenUp depth p (h.without plugin)
        | some (r, h') => r = .ok (some p) ∧ ∃ l, h'.journal = h.journal ++ l ∧
            Farewell depth p (h.without plugin) l h' ∧
            hookCalls p l = (if p.definition.destroy.isSome then 1 else 0) ∧
            h'.registry.listing = l.foldl (Happening.refile h.registry.policy)
              (h.registry.listing.unregister plugin) ∧
            ((∀ d, .asked (.register d) ∈ l → d.name ≠ plugin) →
              h'.registry.get? plugin = none) := by
  cases hp : h.registry.get? plugin with
  | none => exact unregister_of_missing _ hp
  | some p =>
    refine ⟨Registry.without_remove hp, ?_⟩
    have hstart := start_unregister depth hp
    match run : start (unregister (player depth) plugin) h with
    | none =>
      rw [run] at hstart
      exact hstart
    | some (r, h') =>
      rw [run] at hstart
      obtain ⟨rfl, l, hl, hfarewell⟩ := hstart
      have hlisting := unregister_listing_after hp _ _ run l hl
      refine ⟨rfl, l, hl, hfarewell, unregister_calls hn hp _ _ run l hl, hlisting, fun hout => ?_⟩
      have hnot : plugin ∉ h'.registry.order := by
        rw [← Registry.listing_names, hlisting]
        exact Listing.not_mem_foldl_refile hout (by simp [Listing.unregister])
      rwa [← Registry.contains_iff, Registry.contains, Option.not_isSome_iff_eq_none] at hnot

/-- Its hook has another plugin taken out when it fails, tries to take itself out, and fails. -/
def deserter : Definition Code :=
  { Definition.plain "deserter" "Deserter" with
    panel := some (signboard "here")
    destroy := some (.ask (.subscribe "last" .error fun _ => .ask (.unregister "mate") fun _ => .skip)
      fun _ => .ask (.unregister "deserter") fun _ => .panic (.owned "boom")) }

def crew : Code :=
  .ask (.register deserter) fun _ =>
    .ask (.register { heir with name := "mate" }) fun _ => .ask (.register heir) fun _ => .skip

def crewed : Host :=
  let h := Host.new .default .ignore (.memory .empty) .unreachable
  ((start (player 3 crew) h).map Prod.snd).getD h

theorem crewed_numbered : crewed.Numbered := by
  unfold crewed
  dsimp only
  cases run : start (player 3 crew) (.new .default .ignore (.memory .empty) .unreachable) with
  | none => exact numbered_new _ _ _ _
  | some x =>
    exact (numbered_new _ _ _ _).renews (run_along (server_renews 3) crew _ _ _ run)

theorem removal_certain_deserter : ∃ p h' l, crewed.Numbered ∧
    crewed.registry.get? "deserter" = some p ∧
    start (unregister (player 3) "deserter") crewed = some (.ok (some p), h') ∧
    h'.journal = crewed.journal ++ l ∧ hookCalls p l = 1 ∧
    h'.registry.listing.map Prod.fst = ["heir"] := by
  have hleft : (start (unregister (player 3) "deserter") crewed).map (fun x =>
      x.2.registry.listing.map Prod.fst) = some ["heir"] := by decide +kernel
  have hhook : (crewed.registry.get? "deserter").map (fun p => p.definition.destroy.isSome) =
      some true := by decide +kernel
  obtain ⟨⟨r, h'⟩, run, hlisting⟩ := Option.map_eq_some_iff.mp hleft
  obtain ⟨p, hp, hd⟩ := Option.map_eq_some_iff.mp hhook
  have hcertain := removal_certain crewed_numbered 3 "deserter"
  rw [hp, run] at hcertain
  obtain ⟨-, rfl, l, hl, -, hcalls, -⟩ := hcertain
  rw [if_pos hd] at hcalls
  exact ⟨p, h', l, crewed_numbered, hp, run, hl, hcalls, hlisting⟩

end Host
end Plugboard
