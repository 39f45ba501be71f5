import Plugboard.Proofs.Panel.Isolation
import Plugboard.Proofs.Panel.Resync
import Plugboard.Proofs.Panel.Unmoved
import Plugboard.Proofs.Sidebar

/-!
Mounting the sidebar. When plugin code leaves the registry and the session alone and fails only
inside the boundary of its panel, each enabled plugin of the sidebar gets a panel, in the order of
the sidebar, and each panel comes to its end.

* `Host.Undisturbed`: hosts of a kind on which plugin code behaves like that.
* `Panel.mount_new_undisturbed`: mounting a new panel hands something back then.
* `Dashboard.mountEach_undisturbed`: so does mounting panels in turn, by induction on the names.
* `sidebar_mounts_in_order`: the sidebar of a registry by its changes, and its dashboard.
-/
namespace Plugboard

open Run

/-! ## Plugin code that behaves -/

namespace Host

/-- On hosts of this kind plugin code leaves the registry and the session alone and comes to an end:
the loaders and the init hooks of the plugins in the sidebar that are enabled, which do not panic
before they hand over the rest of their work, and the handlers on the bus. -/
structure Undisturbed (serve : Server Host) (id : Nat) (r : Registry Code) (s : Session)
    (K : Host → Prop) : Prop where
  registry : ∀ h, K h → h.registry = r
  session : ∀ h, K h → h.sessionAt id = s
  tended : ∀ h h', K h → h.Tended h' → K h'
  load : ∀ i ∈ r.sidebar, s.isEnabled i.name = true → ∀ c, i.definition.panel = some c →
    c.load.Begins serve K
  init : ∀ i ∈ r.sidebar, s.isEnabled i.name = true → ∀ hook, i.definition.init = some hook →
    (hook (s.context id i.name)).Begins serve K
  heard : ∀ h, K h → ∀ x ∈ h.bus.handlers, ∀ body, x.listener = .code body →
    ∀ e, (body e).Stays serve K

section
variable {serve : Server Host} {id : Nat} {r : Registry Code} {s : Session} {K : Host → Prop}
  (hK : Undisturbed serve id r s K)
include hK

theorem Undisturbed.unmoved : Unmoved serve id r s K := ⟨hK.registry, hK.session, hK.tended, hK.heard⟩

theorem Undisturbed.mountable {i : Installed Code} (hi : i ∈ r.sidebar)
    (he : s.isEnabled i.name = true) (hfound : r.get? i.name = some i) :
    Panel.Mountable serve id r s K .main i.name where
  load := by
    rintro c ⟨j, hj, hc⟩
    obtain rfl := Option.some.inj (hj.symm.trans hfound)
    exact hK.load j hi he c hc
  init := by
    intro _ j hook hj hhook
    obtain rfl := Option.some.inj (hj.symm.trans hfound)
    exact hK.init j hi he hook hhook

end
end Host

/-! ## One panel -/

namespace Panel

section
variable {serve : Server Host} {id : Nat} {r : Registry Code} {s : Session} {K : Host → Prop}
  (hK : Host.Undisturbed serve id r s K)
include hK

theorem create_undisturbed (i : Installed Code) : ∀ h, K h → ∃ p h',
    start (create .main id i.name) h = some (.ok p, h') ∧ K h' ∧ p.Seats r .main id i.name ∧
      p.Sound ∧ p.stage = .resolving := by
  intro h hh
  have made := start_create .main id i.name h
  exact ⟨_, _, made, hK.tended h _ hh (tended_create made), seats_create made r,
    ⟨rfl, by simp, by simp⟩, rfl⟩

/-- A new panel for an enabled plugin of the sidebar is mounted in the end, or it has stopped. -/
theorem mount_new_undisturbed {i : Installed Code} (hi : i ∈ r.sidebar)
    (he : s.isEnabled i.name = true) {p : Panel} (hp : p.Seats r .main id i.name)
    (hsound : p.Sound) (hstage : p.stage = .resolving) {h : Host} (hh : K h) :
    ∃ x p' h', start (mount serve) (p, h) = some (.ok x, p', h') ∧ K h' ∧
      p'.place = (.main, id, i.name) ∧ (p'.stage = .mounted ∨ p'.stage = .errored) := by
  have hfound : r.get? i.name = some i :=
    Registry.mem_plugins_iff.mp (List.mem_filter.mp (List.mem_mergeSort.mp hi)).1
  obtain ⟨x, ⟨p', h'⟩, run, ⟨hp', hh'⟩, -⟩ :=
    mount_unmoved hK.unmoved (hK.mountable hi he hfound) (p, h) ⟨hp, hh⟩
  refine ⟨x, p', h', run, hh', hp'.place, ?_⟩
  obtain ⟨hsurface, hsession, hname⟩ := hp.parts
  obtain ⟨rfl, hx, -⟩ := mount_gate hsound hsurface (.inl hstage) run
  have hadmits : h.Admits p.session p.name := by
    refine ⟨?_, ?_⟩
    · rw [hK.registry h hh, hname, Registry.contains, hfound]
      rfl
    · rw [hsession, hname, hK.session h hh]
      exact he
  rw [Host.gate_of_admits hadmits] at hx
  exact hx.imp_right And.left

end
end Panel

/-! ## The dashboard -/

namespace Dashboard

/-- The panel that a plugin gets has come to its end. -/
def Shows (id : Nat) (p : Panel) (i : Installed Code) : Prop :=
  p.place = (.main, id, i.name) ∧ (p.stage = .mounted ∨ p.stage = .errored)

variable {serve : Server Host} {id : Nat} {r : Registry Code} {s : Session} {K : Host → Prop}

theorem mountEach_undisturbed (hK : Host.Undisturbed serve id r s K) (l : List (Installed Code))
    (hl : ∀ i ∈ l, i ∈ r.sidebar) (ready : List Panel) {h : Host} (hh : K h) : ∃ panels h',
      start (mountEach serve id (Choice.wanted id .sidebar) ready (l.map Installed.name)) h =
        some (.ok (ready ++ panels), h') ∧ K h' ∧
      List.Forall₂ (Shows id) panels (l.filter fun i => s.isEnabled i.name) := by
  induction l generalizing ready h with
  | nil => exact ⟨[], h, by rw [List.append_nil]; rfl, hh, .nil⟩
  | cons i l ih =>
    obtain ⟨hi, hl⟩ := List.forall_mem_cons.mp hl
    have hwanted : start (Choice.wanted id .sidebar i.name) h =
        some (.ok (s.isEnabled i.name), h) := by
      rw [← hK.session h hh]
      rfl
    rw [List.map_cons, mountEach, start_bind, hwanted]
    cases he : s.isEnabled i.name with
    | false =>
      simp only [List.filter_cons, he, Bool.false_eq_true, ↓reduceIte]
      exact ih hl ready hh
    | true =>
      obtain ⟨p, h₁, hmade, hh₁, hp, hsound, hstage⟩ := Panel.create_undisturbed hK i h hh
      obtain ⟨x, p', h₂, run, hh₂, hshows⟩ :=
        Panel.mount_new_undisturbed hK hi he hp hsound hstage hh₁
      obtain ⟨panels, h', hrest, hh', hall⟩ := ih hl (ready ++ [p']) hh₂
      refine ⟨p' :: panels, h', ?_, hh', ?_⟩
      · simp only [↓reduceIte, start_bind, hmade, start_beside, run, Option.map_some]
        rw [hrest, List.append_assoc, List.singleton_append]
      · simp only [List.filter_cons, he, ↓reduceIte]
        exact .cons hshows hall

theorem mountSidebar_undisturbed (hK : Host.Undisturbed serve id r s K) {h : Host} (hh : K h) :
    ∃ d h', start (mountSidebar serve id) h = some (.ok d, h') ∧ K h' ∧ d.session = id ∧
      List.Forall₂ (Shows id) d.panels (r.sidebar.filter fun i => s.isEnabled i.name) := by
  obtain ⟨panels, h', run, hh', hall⟩ := mountEach_undisturbed hK r.sidebar (fun _ hi => hi) [] hh
  refine ⟨⟨id, panels⟩, h', ?_, hh', rfl, hall⟩
  have hmount : start (mountSidebar serve id) h = start (Choice.mount serve id .sidebar) h := rfl
  rw [hmount, Choice.start_mount, Choice.names, hK.registry h hh, run]
  rfl

end Dashboard

/-- The sidebar of a registry after any registrations, taken back or not, and clearings, and what
its plugins come to on a host with this registry. It has exactly the plugins that are registered and
shown there, each once, by ascending order, and plugins of the same order by the places of their
names. When plugin code leaves the registry and the session alone and fails only inside the
boundary, mounting it hands back a dashboard with one panel for each of them that is enabled, in
this order; each panel is mounted or has stopped. -/
theorem sidebar_mounts_in_order (policy : DuplicatePolicy) (changes : List (Registry.Change Code)) :
    Registry.Listed policy changes (Registry.replay policy changes).sidebar ∧
    ∀ (serve : Server Host) (id : Nat) (s : Session) (K : Host → Prop),
      Host.Undisturbed serve id (Registry.replay policy changes) s K → ∀ h, K h →
        ∃ d h', start (Dashboard.mountSidebar serve id) h = some (.ok d, h') ∧ K h' ∧
          d.session = id ∧ List.Forall₂ (Dashboard.Shows id) d.panels
            ((Registry.replay policy changes).sidebar.filter fun i => s.isEnabled i.name) :=
  ⟨Registry.sidebar_listed policy changes, fun _ _ _ _ hK _ hh =>
    Dashboard.mountSidebar_undisturbed hK hh⟩

/-! ## A sidebar with postings -/

/-- A plugin in the sidebar whose component loads like this. -/
def posting (name : String) (order : Option Int) (load : Code) : Definition Code :=
  { Definition.plain name "Posting" with
    panel := some ⟨.later load, fun _ => .skip⟩
    sidebar := ⟨true, none, none, order⟩ }

def weather : Installed Code := ⟨posting "weather" (some 99) .skip, 4⟩

def notes : Installed Code := ⟨posting "notes" none .skip, 2⟩

def mail : Installed Code := ⟨posting "mail" (some (-5)) (.panic (.owned "no mail")), 3⟩

def diary : Installed Code := ⟨posting "diary" (some 7) .skip, 5⟩

/-- The third one comes before the others, and the first one is taken back and registered again. -/
def postings : List (Registry.Change Code) :=
  [.register { weather with serial := 1 }, .register notes, .register mail, .unregister "weather",
    .register weather, .register diary]

theorem postings_sidebar :
    (Registry.replay .ignore postings).sidebar = [mail, diary, notes, weather] := by
  have hplugins : (Registry.replay .ignore postings).plugins.filter
      (fun p => p.definition.sidebar.shown) = [notes, mail, weather, diary] := rfl
  rw [Registry.sidebar, hplugins]
  simp [List.mergeSort, List.MergeSort.Internal.splitInTwo, Sidebar.effectiveOrder, notes, mail,
    weather, diary, posting]

/-- A host with the postings, all but the diary enabled for its user. -/
def postingsHost : Host :=
  { Host.new .default .ignore (.memory .empty) .unreachable with
    registry := Registry.replay .ignore postings
    sessions := [{ Session.new (some "ada") with
      entries := [.new "weather" true, .new "notes" true, .new "diary" false, .new "mail" true] }] }

theorem postingsHost_undisturbed : Host.Undisturbed (Host.server 1) 0
    (Registry.replay .ignore postings) (postingsHost.sessionAt 0) (Host.Tended postingsHost) where
  registry h hh := by rw [hh.rest]; rfl
  session h hh := by rw [hh.rest]; rfl
  tended _ _ := IsTrans.trans _ _ _
  load i hi _ c hc := by
    have hrest : ∀ load : Code, c.load = .later load →
        (∀ h, ∃ r, start (load.run (Host.server 1)) h = some (r, h)) →
        c.load.Begins (Host.server 1) (Host.Tended postingsHost) := by
      intro load hload hends h hh
      refine ⟨load, h, by rw [hload]; rfl, hh, fun h' hh' => ?_⟩
      obtain ⟨r, e⟩ := hends h'
      exact ⟨r, h', e, hh'⟩
    rw [postings_sidebar] at hi
    simp only [List.mem_cons, List.not_mem_nil, or_false] at hi
    rcases hi with rfl | rfl | rfl | rfl
    all_goals
      cases hc
      exact hrest _ rfl fun _ => ⟨_, rfl⟩
  init i hi _ hook hhook := by
    rw [postings_sidebar] at hi
    simp only [List.mem_cons, List.not_mem_nil, or_false] at hi
    rcases hi with rfl | rfl | rfl | rfl <;> cases hhook
  heard h hh x hx body hbody := by
    have hcode : x ∈ h.bus.handlers.filter fun x => !x.listener.isMark :=
      List.mem_filter.mpr ⟨hx, by rw [hbody]; rfl⟩
    rw [hh.code] at hcode
    exact absurd hcode List.not_mem_nil

/-- The three that are enabled get their panels, in another order than that of their registration:
the mail comes first by its order, and the notes, which have none, stay before the weather. -/
theorem sidebar_mounts_in_order_postings : ∃ d h',
    start (Dashboard.mountSidebar (Host.server 1) 0) postingsHost = some (.ok d, h') ∧
    (Registry.replay .ignore postings).order = ["notes", "mail", "weather", "diary"] ∧
    d.names = ["mail", "notes", "weather"] ∧
    ∀ p ∈ d.panels, p.stage = .mounted ∨ p.stage = .errored := by
  obtain ⟨d, h', run, -, -, hall⟩ := (sidebar_mounts_in_order .ignore postings).2 _ _ _ _
    postingsHost_undisturbed postingsHost (Std.Refl.refl _)
  have henabled : [mail, diary, notes, weather].filter
      (fun i => (postingsHost.sessionAt 0).isEnabled i.name) = [mail, notes, weather] := rfl
  rw [postings_sidebar, henabled] at hall
  obtain ⟨hend, hplaces⟩ := (List.forall₂_and_left _ _).mp (hall.imp fun _ _ => And.symm)
  have hnames : d.names = [mail, notes, weather].map Installed.name := by
    rw [Dashboard.names, ← List.forall₂_eq_eq_eq, List.forall₂_map_left_iff,
      List.forall₂_map_right_iff]
    exact hplaces.imp fun _ _ => congrArg fun x : Surface × Nat × String => x.2.2
  exact ⟨d, h', run, rfl, hnames, hend⟩

end Plugboard
