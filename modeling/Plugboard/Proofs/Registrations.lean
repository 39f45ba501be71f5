import Plugboard.Proofs.Panel.Turns
import Plugboard.Proofs.Registry

/-!
The registry over the runs of plugin code. Destroy hooks and handlers may register and unregister in
their turn, so the list of names and definitions is followed along the journal, which has every
request in the order in which it was asked.

* `Op.refile`: what a request changes of the list.
* `Host.Files`: the registry is what all requests in between have made of it.
* `server_files`: so it is along everything that is served, by induction on the depth.
* `Panel.Started.eq_of_errored`: no panel fails for the lack of a component.
* `registry_refines_listing`: what it comes to for a run.
-/
namespace Plugboard

open Run

/-- What a request changes of the registry. -/
def Op.refile (policy : DuplicatePolicy) {a : Answer} : Op Code a → Listing Code → Listing Code
  | .register d, t => t.register policy d
  | .unregister plugin, t => t.unregister plugin
  | .clearRegistry, _ => []
  | _, t => t

def Happening.refile (policy : DuplicatePolicy) (t : Listing Code) : Happening → Listing Code
  | .asked op => op.refile policy t
  | _ => t

namespace Host

/-- The registry of the later host is that of the earlier one after all requests in between. -/
def Files (h h' : Host) : Prop :=
  h'.registry.policy = h.registry.policy ∧ ∃ l, h'.journal = h.journal ++ l ∧
    h'.registry.listing = l.foldl (Happening.refile h.registry.policy) h.registry.listing

instance : Std.Refl Files := ⟨fun _ => ⟨rfl, [], (List.append_nil _).symm, rfl⟩⟩

instance : IsTrans Host Files where
  trans _ _ _ := by
    rintro ⟨hp, l, hl, ht⟩ ⟨hp', l', hl', ht'⟩
    refine ⟨hp'.trans hp, l ++ l', ?_, ?_⟩
    · rw [hl', hl, List.append_assoc]
    · rw [ht', hp, ht, List.foldl_append]

/-- One happening, with what it changes of the registry. -/
theorem files_of_happening {h h' : Host} (x : Happening) (hj : h'.journal = h.journal ++ [x])
    (hp : h'.registry.policy = h.registry.policy)
    (ht : h'.registry.listing = x.refile h.registry.policy h.registry.listing) : Files h h' :=
  ⟨hp, [x], hj, ht⟩

theorem files_of_eq {h h' : Host} (hj : h'.journal = h.journal) (hr : h'.registry = h.registry) :
    Files h h' := ⟨by rw [hr], [], by rw [hj, List.append_nil], by rw [hr]; rfl⟩

/-- What is not asked changes nothing. -/
theorem files_of_aside (h h' : Host) (ha : Aside h h') : Files h h' := by
  obtain ⟨l, hl, hall⟩ := ha.journal
  refine ⟨by rw [ha.registry], l, hl, ?_⟩
  rw [ha.registry]
  clear hl
  induction l with
  | nil => rfl
  | cons x l ih =>
    have hx : x.refile h.registry.policy h.registry.listing = h.registry.listing := by
      have haside := hall x List.mem_cons_self
      cases x with
      | asked => exact haside.elim
      | _ => rfl
    rw [List.foldl_cons, hx]
    exact ih fun y hy => hall y (List.mem_cons_of_mem _ hy)

theorem record_files {x : Happening} (hx : ∀ policy t, x.refile policy t = t) :
    Along Files (record x) :=
  along_modify fun _ => files_of_happening x rfl rfl (hx _ _).symm

theorem emit_files {play : Player} (hplay : ∀ code, Along Files (play code)) (e : Event) :
    Along Files (emit play e) := by
  refine along_bind (record_files fun _ _ => rfl) fun _ => along_bind along_get fun _ =>
    along_bind (along_forM (fun handler => ?_) _) fun _ => along_pure _
  exact deliver_along files_of_aside hplay (fun _ => record_files fun _ _ => rfl)
    (fun _ => along_modify fun _ => files_of_eq rfl rfl) handler

/-! ## Requests -/

/-- A request that changes nothing of the registry itself. -/
theorem serve_files_of_same {play : Player} {a : Answer} {op : Op Code a}
    (hop : ∀ policy t, op.refile policy t = t) (hf : Along Files (fulfil play op)) :
    Along Files (serve play op) := along_bind (record_files hop) fun _ => hf

theorem serve_register_files (play : Player) (d : Definition Code) :
    Along Files (serve play (.register d)) := by
  intro h
  rw [serve, record, ends_bind, ends_modify]
  refine (register_ends d _).mono fun r h' hr => ?_
  rcases hr with ⟨e, he, -, rfl⟩ | ⟨result, registry, hok, -, ha⟩
  · have hcheck : d.check = .error e := Registry.register_eq_error.mp he
    refine files_of_happening (.asked (.register d)) rfl rfl ?_
    simp [Happening.refile, Op.refile, Listing.register, hcheck]
  · obtain ⟨hpolicy, hlisting⟩ := Registry.listing_register hok
    refine IsTrans.trans _ _ _ (files_of_happening (.asked (.register d)) rfl hpolicy ?_)
      (files_of_aside _ _ ha)
    exact hlisting

/-- The plugin is taken out before its hook runs. -/
theorem serve_unregister_files {play : Player} (hplay : ∀ code, Along Files (play code))
    (plugin : String) : Along Files (serve play (.unregister plugin)) := by
  intro h
  rw [serve, record, ends_bind, ends_modify]
  refine ends_return _ ((unregister_ends files_of_aside (emit_files hplay) hplay
    (fun _ _ => record_files fun _ _ => rfl) plugin _).mono fun _ h' hr => ?_)
  rcases hr with ⟨hnone, rfl⟩ | hrest
  · refine files_of_happening (.asked (.unregister plugin)) rfl rfl ?_
    exact (h.registry.unregister_listing hnone).symm
  · refine IsTrans.trans h _ h' ?_ hrest
    exact files_of_happening (.asked (.unregister plugin)) rfl rfl
      (h.registry.listing_remove plugin)

theorem serve_clearRegistry_files (play : Player) : Along Files (serve play .clearRegistry) := by
  intro h
  rw [serve, record, ends_bind, ends_modify]
  refine (ends_modify _ _ _).mpr ?_
  exact files_of_happening (.asked .clearRegistry) rfl rfl h.registry.listing_clear

theorem serve_files {play : Player} (hplay : ∀ code, Along Files (play code)) {a : Answer}
    (op : Op Code a) : Along Files (serve play op) := by
  cases op with
  | register d => exact serve_register_files play d
  | unregister plugin => exact serve_unregister_files hplay plugin
  | clearRegistry => exact serve_clearRegistry_files play
  | note | fresh | count | look | detach | setToken | callApi =>
    exact serve_files_of_same (fun _ _ => rfl)
      (along_of_aside files_of_aside (fulfil_aside play trivial))
  | emit e => exact serve_files_of_same (fun _ _ => rfl) (emit_files hplay e)
  | subscribe label type handler =>
    refine serve_files_of_same (fun _ _ => rfl) fun h => ?_
    exact (ends_of_start (start_subscribeAs label type handler h)).mpr (files_of_eq rfl rfl)
  | unsubscribe label =>
    refine serve_files_of_same (fun _ _ => rfl) fun h => ?_
    exact (ends_of_start (start_unsubscribeAs label h)).mpr (files_of_eq rfl rfl)
  | clearBus =>
    exact serve_files_of_same (fun _ _ => rfl) (along_modify fun _ => files_of_eq rfl rfl)
  | update c changes =>
    exact serve_files_of_same (fun _ _ => rfl)
      (update_along files_of_aside (emit_files hplay) _ _ _)

theorem server_files (depth : Nat) : ∀ a (op : Op Code a), Along Files (server depth op) :=
  server_along (fun _ hplay _ => serve_files hplay) depth

/-- A definition that is refused leaves the whole host as it is. -/
theorem register_refused {d : Definition Code} {e : PluginError} {h h' : Host}
    (hr : start (register d) h = some (.ok (.error e), h')) : h' = h := by
  rcases register_ends d h _ _ hr with ⟨_, -, -, rfl⟩ | ⟨_, _, -, hok, -⟩
  · rfl
  · cases hok

end Host

/-- A definition that is in a registry has a component, so no panel fails for the lack of one. -/
theorem Panel.Started.eq_of_errored {p p' : Panel} {h h' : Host} {o : Option PendingLoad}
    (hm : Started p h o p' h') (he : p'.stage = .errored) : p' = p := by
  cases hm with
  | past => rfl
  | missing | disabled | pageless => simp at he
  | loading => cases (stage_enter _ _).symm.trans he
  | @bare i _ _ hr _ _ hc =>
    have hpanel := (Definition.check_eq_ok.mp (h.registry.checked _ i hr).2).panel
    rw [hc] at hpanel
    cases hpanel

/-- However plugin code runs, with destroy hooks and handlers that ask for more, the registry it
leaves answers as the list does on which all requests were done in their order. Every definition in
it is under its own name, which is in it once, and has passed its check; a definition that is
refused changes nothing, and no panel fails for the lack of a component. -/
theorem registry_refines_listing {depth : Nat} {code : Code} {h h' : Host}
    {r : Except Panic Ending} (run : start (code.run (Host.server depth)) h = some (r, h')) :
    ∃ l, h'.journal = h.journal ++ l ∧ h'.registry.policy = h.registry.policy ∧
      let t := l.foldl (Happening.refile h.registry.policy) h.registry.listing
      h'.registry.Answers t ∧
      (t.map Prod.fst).Nodup ∧
      (∀ x ∈ t, x.2.name = x.1 ∧ x.2.Sound) ∧
      (∀ d e k, start (Host.register d) h' = some (.ok (.error e), k) → k = h') ∧
      ∀ n p o p' k, start (Panel.startMount (Host.server n)) (p, h') = some (o, p', k) →
        p'.stage = .errored → p' = p := by
  obtain ⟨hpolicy, l, hl, ht⟩ := Host.run_along (Host.server_files depth) code h r h' run
  refine ⟨l, hl, hpolicy, ?_⟩
  dsimp only
  rw [← ht]
  refine ⟨h'.registry.answers_listing, ?_, fun x hx => ?_, fun d e k => Host.register_refused,
    fun n p o p' k e => ?_⟩
  · rw [Registry.listing_names]
    exact h'.registry.distinct
  · obtain ⟨hname, hcheck⟩ := Registry.mem_listing hx
    exact ⟨hname, Definition.check_eq_ok.mp hcheck⟩
  · have hserver := Host.server_quiet p.serial n
    obtain ⟨_, -, hm⟩ := Panel.startMount_ends hserver p h' rfl _ _ e
    exact hm.eq_of_errored

/-! ## A plugin that leaves an heir -/

/-- A component that shows a text. -/
def signboard (text : String) : Component Code := .ofText fun _ => .ok text

def heir : Definition Code :=
  { Definition.plain "heir" "Heir" with panel := some (signboard "here") }

/-- Its destroy hook registers another plugin, and one under the name that it had itself. -/
def testator : Definition Code :=
  { Definition.plain "testator" "Testator" with
    panel := some (signboard "here")
    destroy := some (.ask (.register heir) fun _ =>
      .ask (.register { heir with name := "testator" }) fun _ => .skip) }

/-- The hook runs between a registration that takes a name over and one that is refused. -/
def inheritance : Code :=
  .ask (.register testator) fun _ =>
    .ask (.register { heir with displayName := "Late heir" }) fun _ =>
      .ask (.unregister "testator") fun _ =>
        .ask (.register (Definition.plain "bare" "Bare")) fun _ => .skip

/-- The names and display names that are left in an empty registry. -/
def inherited : Option (List (String × String)) :=
  (start (inheritance.run (Host.server 3))
    (.new .default .replace (.memory .empty) .unreachable)).map fun x =>
      x.2.registry.listing.map fun y => (y.1, y.2.displayName)

theorem registry_refines_listing_inheritance : ∃ r h',
    start (inheritance.run (Host.server 3)) (.new .default .replace (.memory .empty) .unreachable) =
      some (r, h') ∧
    h'.registry.Answers (h'.journal.foldl (Happening.refile .replace) []) ∧
    h'.registry.listing.map (fun x => (x.1, x.2.displayName)) =
      [("heir", "Heir"), ("testator", "Heir")] := by
  have hleft : inherited = some [("heir", "Heir"), ("testator", "Heir")] := by decide +kernel
  obtain ⟨⟨r, h'⟩, run, hlisting⟩ := Option.map_eq_some_iff.mp hleft
  obtain ⟨l, hl, -, hanswers, -⟩ := registry_refines_listing run
  have hjournal : h'.journal = l := hl
  exact ⟨r, h', run, hjournal ▸ hanswers, hlisting⟩

end Plugboard
