import Plugboard.Proofs.Panel.Gate
import Plugboard.Proofs.Panel.Isolation
import Plugboard.Proofs.Panel.Marks

/-!
Dashboards in step with what their user has enabled. A sync looks at the panels that are marked and
at no others, so it leaves no panel stale that has been marked.

* `Dashboard.Reaches`, `Dashboard.Orderly`: the life of a dashboard, and its invariant.
* `Dashboard.Ready`: what holds while the panels of a dashboard are made.
* `swept`: a sync over panels in turn, with the marks they had when it began.
* `sync_leaves_none_marked`: what a sync leaves mounted that is not enabled.
* `stale_after_logout`: a panel whose user has logged out, which no sync reaches.
-/
namespace Plugboard

open Run

/-! ## One panel -/

namespace Panel

variable {depth : Nat}

theorem mount_broadcasts : Along (Alongside Host.Broadcasts) (mount (Host.server depth)) :=
  mount_alongside Host.broadcasts_of_aside (Host.server_broadcasts depth)
    (Host.emit_broadcasts Host.player_broadcasts)
    fun _ _ _ _ => Host.record_broadcasts id fun _ => rfl

/-- The panel is at the same place, under the same number. -/
def Same (p q : Panel) : Prop := q.place = p.place ∧ q.serial = p.serial

theorem Same.name {p q : Panel} (hs : p.Same q) : q.name = p.name :=
  congrArg (fun x => x.2.2) hs.1

theorem Turned.same {p q : Panel} {h h' : Host} {call : Call} (ht : Turned p h call q h') :
    p.Same q := ⟨ht.place, ht.onward.serial⟩

theorem render_ends_same (p : Panel) (h : Host) :
    Ends (render (Host.server depth)) (p, h) fun _ t => p.Same t.1 :=
  (render_ends (Host.server_quiet p.serial depth) p h rfl).mono fun _ _ ht =>
    (Turned.rendered ht).same

/-- A panel that is not marked is passed over. -/
theorem syncMarked_ends (p : Panel) (h : Host) :
    Ends (Dashboard.syncMarked (Host.server depth)) (p, h) fun _ t =>
      p.needsSync h = false ∧ t = (p, h) ∨
        p.needsSync h = true ∧ Turned p h .sync t.1 t.2 ∧
          ∀ n, n ≠ p.serial → Host.Retains n h t.2 := by
  rw [Dashboard.syncMarked, ends_bind, ends_get]
  dsimp only
  cases hmark : p.needsSync h with
  | false => exact (ends_pure _ _ _).mpr (.inl ⟨rfl, rfl⟩)
  | true =>
    rw [if_pos rfl]
    refine ends_discard ?_
    intro r t e
    refine .inr ⟨rfl, ?_, fun n hn => sync_retains p h hn r t e⟩
    exact .synced (sync_ends (Host.server_quiet p.serial depth) p h rfl r t e)

/-- A panel that was looked at is mounted only if it is let in. -/
theorem Turned.admits_of_sync {p q : Panel} {h h' : Host} (ht : Turned p h .sync q h')
    (hs : p.surface = .main) (hq : q.stage = .mounted) : h.Admits p.session p.name := by
  by_cases hlooks : Call.Looks p .sync
  · exact ht.admits hlooks hs (.inr hq)
  · rcases ht.was_in hlooks (.inr hq) with hloading | hmounted
    · exact absurd (.inl (.inr (.inr hloading))) hlooks
    · exact absurd (.inr hmounted) hlooks

end Panel

/-! ## Panels in turn -/

section
variable {α β : Type} {m : Run (α × Host) β}

/-- What holds of each item holds of all, also when a panic has stopped the run. -/
theorem each_ends {S : α → α → Prop} (hrefl : ∀ a, S a a)
    (hm : ∀ a h, Ends m (a, h) fun _ t => S a t.1) (l : List α) (h : Host) :
    Ends (each m l) h fun r _ => ∃ result l', r = .ok (result, l') ∧ List.Forall₂ S l l' := by
  induction l generalizing h with
  | nil => exact (ends_pure _ _ _).mpr ⟨_, _, rfl, .nil⟩
  | cons a l ih =>
    rw [each, ends_bind, ends_beside]
    refine (hm a h).mono fun r t ht => ?_
    cases r with
    | error x =>
      refine (ends_pure _ _ _).mpr ⟨_, _, rfl, .cons ht ?_⟩
      exact List.forall₂_same.mpr fun b _ => hrefl b
    | ok b =>
      dsimp only
      rw [ends_bind]
      refine (ih t.2).mono fun r' t' ht' => ?_
      obtain ⟨result, l', rfl, hl⟩ := ht'
      exact (ends_pure _ _ _).mpr ⟨_, _, rfl, .cons ht hl⟩

/-- Without a panic the first item has its turn, and then the others from where it has ended. -/
theorem each_cons_ok {a : α} {l l' : List α} {bs : List β} {h h' : Host} :
    start (each m (a :: l)) h = some (.ok (.ok bs, l'), h') ↔
      ∃ b a' h₁ bs₁ l₁, start m (a, h) = some (.ok b, a', h₁) ∧
        start (each m l) h₁ = some (.ok (.ok bs₁, l₁), h') ∧ bs = b :: bs₁ ∧ l' = a' :: l₁ := by
  rw [each, start_bind, start_beside]
  constructor
  · intro e
    rcases em : start m (a, h) with _ | ⟨_ | b, a', h₁⟩
    · rw [em] at e
      cases e
    · rw [em] at e
      cases e
    · rw [em] at e
      change start (each m l >>= fun x => pure (x.1.map (b :: ·), a' :: x.2)) h₁ = _ at e
      rw [start_bind] at e
      rcases el : start (each m l) h₁ with _ | ⟨_ | ⟨_ | bs₁, l₁⟩, t⟩
      · rw [el] at e
        cases e
      · rw [el] at e
        cases e
      · rw [el] at e
        cases e
      · rw [el] at e
        cases e
        exact ⟨b, a', h₁, bs₁, l₁, rfl, el, rfl, rfl⟩
  · rintro ⟨b, a', h₁, bs₁, l₁, em, el, rfl, rfl⟩
    rw [em]
    change start (each m l >>= fun x => pure (x.1.map (b :: ·), a' :: x.2)) h₁ = _
    rw [start_bind, el]
    rfl

end

namespace Dashboard

/-- What may happen next to a dashboard on its host: its panels are rendered or synced, which may
end in a panic, or anything else is done to the host meanwhile. -/
inductive Step : Dashboard × Host → Dashboard × Host → Prop
  | render {depth s t r} (e : start (renderAll (Host.server depth)) s = some (r, t)) : Step s t
  | sync {depth s t r} (e : start (Dashboard.sync (Host.server depth)) s = some (r, t)) : Step s t
  | outside {d h h'} : Step (d, h) (d, h')

abbrev Reaches : Dashboard × Host → Dashboard × Host → Prop := Relation.ReflTransGen Step

/-- Main panels of one session, no two of them under one number. -/
structure Orderly (session : Nat) (panels : List Panel) : Prop where
  place : ∀ p ∈ panels, p.place = (.main, session, p.name)
  apart : (panels.map Panel.serial).Nodup

theorem Orderly.same {session : Nat} {panels panels' : List Panel} (ho : Orderly session panels)
    (hsame : List.Forall₂ Panel.Same panels panels') : Orderly session panels' := by
  have hserial : panels'.map Panel.serial = panels.map Panel.serial := by
    induction hsame with
    | nil => rfl
    | cons hp _ ih =>
      have hrest := ih ⟨fun q hq => ho.place q (List.mem_cons_of_mem _ hq),
        (List.nodup_cons.mp ho.apart).2⟩
      rw [List.map_cons, List.map_cons, hp.2, hrest]
  refine ⟨?_, hserial ▸ ho.apart⟩
  have hplace := ho.place
  clear hserial ho
  induction hsame with
  | nil => exact List.forall_mem_nil _
  | @cons p q _ _ hp _ ih =>
    obtain ⟨hfirst, hrest⟩ := List.forall_mem_cons.mp hplace
    refine List.forall_mem_cons.mpr ⟨?_, ih hrest⟩
    rw [hp.1, hfirst, hp.name]

/-- A panel with a higher number may come behind the others. -/
theorem Orderly.snoc {session : Nat} {panels : List Panel} {p : Panel} (ho : Orderly session panels)
    (hp : p.place = (.main, session, p.name)) (habove : ∀ q ∈ panels, q.serial < p.serial) :
    Orderly session (panels ++ [p]) := by
  refine ⟨List.forall_mem_append.mpr ⟨ho.place, List.forall_mem_singleton.mpr hp⟩, ?_⟩
  rw [List.map_append, List.nodup_append]
  refine ⟨ho.apart, by simp, fun x hx y hy => ?_⟩
  obtain ⟨q, hq, rfl⟩ := List.mem_map.mp hx
  obtain rfl := List.mem_singleton.mp hy
  exact Nat.ne_of_lt (habove q hq)

variable {depth : Nat}

theorem onPanels_ends {α : Type} {m : PanelRun α}
    (hm : ∀ p h, Ends m (p, h) fun _ t => p.Same t.1) (d : Dashboard) (h : Host) :
    Ends (onPanels m) (d, h) fun _ t =>
      t.1.session = d.session ∧ List.Forall₂ Panel.Same d.panels t.1.panels := by
  rw [onPanels, ends_bind, ends_get]
  dsimp only
  rw [ends_bind, ends_below]
  refine (each_ends (fun _ => ⟨rfl, rfl⟩) hm d.panels h).mono fun r h' hr => ?_
  obtain ⟨result, panels, rfl, hsame⟩ := hr
  dsimp only
  rw [ends_bind, ends_modify]
  cases result with
  | ok bs => exact (ends_pure _ _ _).mpr ⟨rfl, hsame⟩
  | error x => exact (ends_throw _ _ _).mpr ⟨rfl, hsame⟩

theorem syncMarked_ends_same (p : Panel) (h : Host) :
    Ends (syncMarked (Host.server depth)) (p, h) fun _ t => p.Same t.1 := by
  refine (Panel.syncMarked_ends p h).mono fun _ t ht => ?_
  rcases ht with ⟨-, rfl⟩ | ⟨-, ht, -⟩
  · exact ⟨rfl, rfl⟩
  · exact ht.same

theorem step_orderly {s t : Dashboard × Host} (hstep : Step s t)
    (ho : Orderly s.1.session s.1.panels) :
    t.1.session = s.1.session ∧ Orderly t.1.session t.1.panels := by
  obtain ⟨d, h⟩ := s
  cases hstep with
  | render e =>
    obtain ⟨hsession, hsame⟩ := onPanels_ends Panel.render_ends_same d h _ _ e
    exact ⟨hsession, hsession ▸ ho.same hsame⟩
  | sync e =>
    obtain ⟨hsession, hsame⟩ := ends_discard (onPanels_ends syncMarked_ends_same d h) _ _ e
    exact ⟨hsession, hsession ▸ ho.same hsame⟩
  | outside => exact ⟨rfl, ho⟩

theorem reaches_orderly {s t : Dashboard × Host} (hr : Reaches s t)
    (ho : Orderly s.1.session s.1.panels) :
    t.1.session = s.1.session ∧ Orderly t.1.session t.1.panels := by
  induction hr with
  | refl => exact ⟨rfl, ho⟩
  | tail _ hstep ih =>
    obtain ⟨hsession, ho'⟩ := step_orderly hstep ih.2
    exact ⟨hsession.trans ih.1, ho'⟩

/-! ## Making a dashboard -/

/-- A new panel listens, and has a number of its own. -/
theorem create_ends (session : Nat) (name : String) (h : Host) :
    Ends (Panel.create .main session name) h fun r h' => ∃ p, r = .ok p ∧
      p.place = (.main, session, p.name) ∧ p.serial = h.lastSerial + 1 ∧
      h'.lastSerial = h.lastSerial + 1 ∧ h'.journal = h.journal ∧
      h'.roster = (h.roster.join .enabled (.mark p.serial p.name)).join .disabled
        (.mark p.serial p.name) := by
  rw [ends_of_start (Panel.start_create .main session name h)]
  exact ⟨_, rfl, rfl, rfl, rfl, rfl, rfl⟩

/-- The panels that were made so far, with the host on which the first one was begun. Their numbers
go up, and they listen unless all handlers were taken away. -/
structure Ready (session : Nat) (base : Host) (ready : List Panel) (h : Host) : Prop where
  orderly : Orderly session ready
  below : ∀ p ∈ ready, p.serial ≤ h.lastSerial
  journal : base.journal <+: h.journal
  numbered : base.roster.Numbered → h.roster.Numbered
  heard : base.roster.Numbered → Host.Cleared base h ∨ ∀ p ∈ ready, h.roster.Hears p

section
variable {session : Nat} {base h h' : Host} {ready : List Panel}

theorem Ready.onward (hr : Ready session base ready h) (hn : h.lastSerial ≤ h'.lastSerial)
    (hb : Host.Broadcasts h h') : Ready session base ready h' where
  orderly := hr.orderly
  below p hp := Nat.le_trans (hr.below p hp) hn
  journal := hr.journal.trans hb.journal
  numbered hbase := hb.numbered (hr.numbered hbase)
  heard hbase := by
    rcases hr.heard hbase with hclear | hall
    · exact .inl (hclear.before hb.journal)
    · by_cases hclear : Host.Cleared h h'
      · exact .inl (hclear.after hr.journal)
      · exact .inr fun p hp => (hb.hears (hall p hp)).resolve_right hclear

/-- One more panel, which has just been made. -/
theorem Ready.snoc (hr : Ready session base ready h) {p : Panel}
    (hplace : p.place = (.main, session, p.name)) (hserial : p.serial = h.lastSerial + 1)
    (hlast : h'.lastSerial = h.lastSerial + 1) (hjournal : h'.journal = h.journal)
    (hroster : h'.roster = (h.roster.join .enabled (.mark p.serial p.name)).join .disabled
      (.mark p.serial p.name)) : Ready session base (ready ++ [p]) h' where
  orderly := hr.orderly.snoc hplace fun q hq => by
    have := hr.below q hq
    omega
  below := List.forall_mem_append.mpr ⟨fun q hq => by have := hr.below q hq; omega,
    List.forall_mem_singleton.mpr (by omega)⟩
  journal := hjournal ▸ hr.journal
  numbered hbase := hroster ▸ ((hr.numbered hbase).join _ _).join _ _
  heard hbase := by
    rcases hr.heard hbase with ⟨l, hl, hclear⟩ | hall
    · exact .inl ⟨l, hjournal.trans hl, hclear⟩
    · refine .inr (List.forall_mem_append.mpr ⟨fun q hq => ?_, List.forall_mem_singleton.mpr ?_⟩)
      · exact hroster ▸ ((hall q hq).join _ _).join _ _
      · exact hroster ▸ (hr.numbered hbase).hears_join

/-- The last panel may change as long as it keeps its place and its number. -/
theorem Ready.same {p q : Panel} (hr : Ready session base (ready ++ [p]) h) (hsame : p.Same q) :
    Ready session base (ready ++ [q]) h where
  orderly := hr.orderly.same
    (List.rel_append (List.forall₂_same.mpr fun _ _ => ⟨rfl, rfl⟩) (.cons hsame .nil))
  below := by
    obtain ⟨hready, hp⟩ := List.forall_mem_append.mp hr.below
    refine List.forall_mem_append.mpr ⟨hready, List.forall_mem_singleton.mpr ?_⟩
    rw [hsame.2]
    exact hp p List.mem_cons_self
  journal := hr.journal
  numbered := hr.numbered
  heard hbase := (hr.heard hbase).imp_right fun hall => by
    obtain ⟨hready, hp⟩ := List.forall_mem_append.mp hall
    refine List.forall_mem_append.mpr ⟨hready, List.forall_mem_singleton.mpr ?_⟩
    rw [Roster.Hears, hsame.2, hsame.name]
    exact hp p List.mem_cons_self

end

theorem mountEach_ready {session : Nat} {wanted : String → HostRun Bool}
    (hw : ∀ name, Along Host.Aside (wanted name)) (names : List String) {base : Host}
    {ready : List Panel} {h : Host} (hr : Ready session base ready h) :
    Ends (mountEach (Host.server depth) session wanted ready names) h fun r h' =>
      ∀ panels, r = .ok panels → Ready session base panels h' := by
  induction names generalizing ready h with
  | nil =>
    refine (ends_pure _ _ _).mpr ?_
    rintro _ ⟨⟩
    exact hr
  | cons name names ih =>
    rw [mountEach, ends_bind]
    refine (hw name h).mono fun r h₁ ha => ?_
    have hr₁ := hr.onward ha.serial (Host.broadcasts_of_aside _ _ ha)
    cases r with
    | error => rintro _ ⟨⟩
    | ok b =>
      cases b with
      | false => exact ih hr₁
      | true =>
        dsimp only
        rw [if_pos rfl, ends_bind]
        refine (create_ends session name h₁).mono fun r h₂ hmade => ?_
        obtain ⟨p, rfl, hplace, hserial, hlast, hjournal, hroster⟩ := hmade
        have hr₂ := hr₁.snoc hplace hserial hlast hjournal hroster
        dsimp only
        rw [ends_bind, ends_beside]
        intro r t e
        have hmounted := Panel.mount_ends (Host.server_quiet p.serial depth) p h₂ rfl r t e
        have hkept := Panel.mount_retains (n := 0) (p, h₂) r t e
        have hheard := Panel.mount_broadcasts (p, h₂) r t e
        have hr₃ := (hr₂.onward hkept.serial hheard).same (Panel.Turned.mounted hmounted).same
        cases r with
        | ok stage => exact ih hr₃
        | error x =>
          dsimp only
          rw [ends_bind]
          intro r u _
          cases r with
          | error => rintro _ ⟨⟩
          | ok => exact (ends_throw _ _ _).mpr (by rintro _ ⟨⟩)

theorem mount_ready {choice : Choice} {session : Nat} {h h' : Host} {d : Dashboard}
    (made : start (choice.mount (Host.server depth) session) h = some (.ok d, h')) :
    d.session = session ∧ Ready session h d.panels h' := by
  have hw : ∀ name, Along Host.Aside (choice.wanted session name) := by
    intro name
    cases choice with
    | these => exact along_pure _
    | sidebar => exact along_bind (Host.session_aside session) fun _ => along_pure _
  have hbegun : Ready session h [] h :=
    ⟨⟨List.forall_mem_nil _, List.nodup_nil⟩, List.forall_mem_nil _, List.prefix_refl _, id,
      fun _ => .inr (List.forall_mem_nil _)⟩
  rw [choice.start_mount] at made
  obtain ⟨⟨r, k⟩, e, hr⟩ := Option.map_eq_some_iff.mp made
  cases r with
  | error => cases hr
  | ok panels =>
    cases hr
    exact ⟨rfl, mountEach_ready hw _ hbegun _ _ e panels rfl⟩

/-! ## What a sync leaves -/

/-- A sync of all panels without a panic. -/
theorem sync_ok {d d' : Dashboard} {h h' : Host} :
    start (Dashboard.sync (Host.server depth)) (d, h) = some (.ok ⟨⟩, d', h') ↔
      d'.session = d.session ∧ ∃ bs,
        start (each (syncMarked (Host.server depth)) d.panels) h =
          some (.ok (.ok bs, d'.panels), h') := by
  rw [Dashboard.sync, onPanels, start_bind, start_bind, start_get]
  dsimp only
  rw [start_bind, start_below]
  rcases e : start (each (syncMarked (Host.server depth)) d.panels) h with
    _ | ⟨_ | ⟨_ | bs, panels⟩, t⟩
  · simp
  · simp
  · simp [start_bind, resume]
  · simp only [Option.map_some, start_bind, start_modify, resume, start_pure, Option.some.injEq,
      Prod.mk.injEq, true_and, Except.ok.injEq]
    constructor
    · rintro ⟨rfl, rfl⟩
      exact ⟨rfl, bs, ⟨rfl, rfl⟩, rfl⟩
    · rintro ⟨hsession, -, ⟨-, rfl⟩, rfl⟩
      exact ⟨by rw [← hsession], rfl⟩

/-- Registry and session are the same whenever some of the panels have had their turn. -/
def Still (depth : Nat) (d : Dashboard) (h : Host) : Prop :=
  ∀ n e g, start (Dashboard.sync (Host.server depth)) ({ d with panels := d.panels.take n }, h) =
      some (.ok ⟨⟩, e, g) →
    g.registry = h.registry ∧ g.sessionAt d.session = h.sessionAt d.session

theorem swept {base h h' : Host} {session : Nat} {panels panels' : List Panel} {bs : List Unit}
    (ho : Orderly session panels)
    (hmark : ∀ p ∈ panels, p.needsSync base = true → p.needsSync h = true)
    (hstill : ∀ n bs qs g, start (each (syncMarked (Host.server depth)) (panels.take n)) h =
        some (.ok (.ok bs, qs), g) →
      g.registry = base.registry ∧ g.sessionAt session = base.sessionAt session)
    (e : start (each (syncMarked (Host.server depth)) panels) h =
      some (.ok (.ok bs, panels'), h')) :
    List.Forall₂ (fun p q => q.name = p.name ∧ (q.stage = .mounted →
      base.Admits session q.name ∨ q = p ∧ p.needsSync base = false)) panels panels' := by
  induction panels generalizing h panels' bs with
  | nil =>
    cases e
    exact .nil
  | cons p panels ih =>
    obtain ⟨b, q, h₁, bs₁, qs, ep, erest, rfl, rfl⟩ := each_cons_ok.mp e
    have hturn := Panel.syncMarked_ends p h _ _ ep
    obtain ⟨hregistry, hsession⟩ := hstill 0 [] [] h rfl
    obtain ⟨hplace, hplaces⟩ := List.forall_mem_cons.mp ho.place
    obtain ⟨hserial, hapart⟩ := List.nodup_cons.mp ho.apart
    obtain ⟨hmark₁, hmarks⟩ := List.forall_mem_cons.mp hmark
    refine .cons ?_ (ih ⟨hplaces, hapart⟩ (fun p' hp' hbase => ?_) (fun n bs qs g e' => ?_) erest)
    · rcases hturn with ⟨hno, heq⟩ | ⟨-, hturned, -⟩
      · cases heq
        refine ⟨rfl, fun _ => .inr ⟨rfl, ?_⟩⟩
        exact Bool.eq_false_iff.mpr fun hbase => by simp [hmark₁ hbase] at hno
      · have hname : q.name = p.name := hturned.same.name
        have hsurface : p.surface = .main := congrArg Prod.fst hplace
        have hsession' : p.session = session := congrArg (fun x => x.2.1) hplace
        refine ⟨hname, fun hq => .inl ?_⟩
        obtain ⟨hcontains, henabled⟩ := hturned.admits_of_sync hsurface hq
        rw [Host.Admits, hname, ← hregistry, ← hsession, ← hsession']
        exact ⟨hcontains, henabled⟩
    · -- the turn before takes no other mark away
      have hmarked := hmarks p' hp' hbase
      have hother : p'.serial ≠ p.serial := fun heq => hserial (heq ▸ List.mem_map_of_mem hp')
      rcases hturn with ⟨-, heq⟩ | ⟨-, -, hretains⟩
      · cases heq
        exact hmarked
      · rw [Panel.needsSync_iff] at hmarked ⊢
        exact (hretains _ hother).marked hmarked
    · exact hstill (n + 1) (b :: bs) (q :: qs) g
        (each_cons_ok.mpr ⟨b, q, h₁, bs, qs, ep, e', rfl, rfl⟩)

/-- A new dashboard's panels listen for news of their plugins, unless all handlers were taken away
meanwhile. A user who enables or disables a plugin marks the panels that listen, and a mark lasts
until its panel is synced. After a sync in which neither the registry nor the session changes, a
panel that is mounted is for a plugin that is registered and enabled, unless it was not marked when
the sync began; then the sync has left it as it was. -/
theorem sync_leaves_none_marked {choice : Choice} {session : Nat} {h₀ h₁ h : Host}
    {d₀ d : Dashboard}
    (made : start (choice.mount (Host.server depth) session) h₀ = some (.ok d₀, h₁))
    (run : Reaches (d₀, h₁) (d, h)) :
    (h₀.roster.Numbered → Host.Cleared h₀ h₁ ∨ ∀ p ∈ d₀.panels, h₁.roster.Hears p) ∧
    (∀ p ∈ d.panels, p.Attentive) ∧
    ∀ depth d' h', start (Dashboard.sync (Host.server depth)) (d, h) = some (.ok ⟨⟩, d', h') →
      d.Still depth h →
      d'.session = d.session ∧
      List.Forall₂ (fun p q => q.name = p.name ∧ (q.stage = .mounted →
        h'.Admits d.session q.name ∨ q = p ∧ p.needsSync h = false)) d.panels d'.panels := by
  obtain ⟨hsession₀, hready⟩ := mount_ready made
  refine ⟨hready.heard, fun p _ => p.attentive, fun depth d' h' synced still => ?_⟩
  obtain ⟨-, ho⟩ := reaches_orderly run (hsession₀ ▸ hready.orderly)
  obtain ⟨hsession, bs, e⟩ := sync_ok.mp synced
  have hend : h'.registry = h.registry ∧ h'.sessionAt d.session = h.sessionAt d.session := by
    refine still d.panels.length d' h' ?_
    rw [List.take_length]
    exact synced
  have hstill : ∀ n bs qs g, start (each (syncMarked (Host.server depth)) (d.panels.take n)) h =
      some (.ok (.ok bs, qs), g) →
      g.registry = h.registry ∧ g.sessionAt d.session = h.sessionAt d.session :=
    fun n bs qs g e => still n ⟨d.session, qs⟩ g (sync_ok.mpr ⟨rfl, bs, e⟩)
  have hadmits : ∀ name, h'.Admits d.session name ↔ h.Admits d.session name := fun name => by
    rw [Host.Admits, Host.Admits, hend.1, hend.2]
  simp only [hadmits]
  exact ⟨hsession, swept ho (fun _ _ => id) hstill e⟩

/-! ## A timer whose user comes and goes -/

/-- The timer's host, with the entries of its user in a store. -/
def kitchen : Host :=
  { Course.timerHost with store := .memory (MemoryStore.empty.seed "ada" [.new "timer" true]) }

/-- The host with a panel for the timer. -/
def kitchenShown : Host := { Course.timerMounted.2 with store := kitchen.store }

/-- The user has enabled the timer once more. -/
def kitchenToggled : Host :=
  { kitchenShown with
    store := .memory ⟨[("ada", [.new "timer" true])], none, 1, 1⟩
    sessions := [{ Session.new (some "ada") with
      entries := [.new "timer" true], refreshes := 1 }]
    marked := [2]
    journal := kitchenShown.journal ++ [.stored (.write "ada" (.toggle "timer" true)),
      .published (.enabled "timer"), .delivered 1 (.enabled "timer"), .stored (.fetch "ada")] }

/-- The panel is looked at, and stays. -/
theorem sync_leaves_none_marked_timer : ∃ d',
    start (Dashboard.mount (Host.server 1) 0 ["timer"]) kitchen =
      some (.ok ⟨0, [Course.timerMounted.1]⟩, kitchenShown) ∧
    start (Host.call (Host.player 1) 0 (.toggle "timer" true)) kitchenShown =
      some (.ok (.ok .toggled), kitchenToggled) ∧
    start (Dashboard.sync (Host.server 1)) (⟨0, [Course.timerMounted.1]⟩, kitchenToggled) =
      some (.ok ⟨⟩, d', { kitchenToggled with marked := [] }) ∧
    d'.stages = [("timer", .mounted)] ∧ kitchenToggled.Admits 0 "timer" := by
  have made : start ((Choice.these ["timer"]).mount (Host.server 1) 0) kitchen =
      some (.ok ⟨0, [Course.timerMounted.1]⟩, kitchenShown) := rfl
  have toggled : start (Host.call (Host.player 1) 0 (.toggle "timer" true)) kitchenShown =
      some (.ok (.ok .toggled), kitchenToggled) := rfl
  have synced : start (Dashboard.sync (Host.server 1))
      (⟨0, [Course.timerMounted.1]⟩, kitchenToggled) =
        some (.ok ⟨⟩, ⟨0, [Course.timerMounted.1]⟩, { kitchenToggled with marked := [] }) := rfl
  have numbered : kitchen.roster.Numbered := by rintro _ _ ⟨⟩
  have journal : ∀ x ∈ kitchenShown.journal, ¬ x.Clears := by
    simp [kitchenShown, Course.timerMounted, Happening.Clears]
  have still : Still 1 ⟨0, [Course.timerMounted.1]⟩ kitchenToggled := by
    rintro (_ | n) e g run
    · cases run
      exact ⟨rfl, rfl⟩
    · rw [List.take_of_length_le (by simp)] at run
      cases synced.symm.trans run
      exact ⟨rfl, rfl⟩
  obtain ⟨hheard, hattentive, hsync⟩ := sync_leaves_none_marked made (.single .outside)
  have heard : kitchenShown.roster.Hears Course.timerMounted.1 := by
    rcases hheard numbered with ⟨l, hl, x, hx, hclears⟩ | hall
    · obtain rfl : kitchenShown.journal = l := hl
      exact (journal x hx hclears).elim
    · exact hall _ List.mem_cons_self
  have hmarked : Course.timerMounted.1.needsSync kitchenToggled = true :=
    (hattentive _ List.mem_cons_self).toggled 1 0 true _ _ _ heard toggled
  obtain ⟨-, hpanels⟩ := hsync 1 _ _ synced still
  refine ⟨_, made, toggled, synced, rfl, ?_⟩
  rcases (List.forall₂_cons.mp hpanels).1.2 rfl with hadmits | ⟨-, hno⟩
  · exact hadmits
  · cases hmarked.symm.trans hno

/-- The user has logged out. -/
def kitchenLeft : Host :=
  { kitchenShown with sessions := kitchenShown.sessions.map fun s => s.setToken none }

/-- Nothing marks the panel of a user who logs out, and the next sync passes it over. -/
theorem stale_after_logout : ∃ d h₁ h d' h',
    start (Dashboard.mount (Host.server 1) 0 ["timer"]) kitchen = some (.ok d, h₁) ∧
    start (Host.changeSession 0 fun s => s.setToken none) h₁ = some (.ok ⟨⟩, h) ∧
    start (Dashboard.sync (Host.server 1)) (d, h) = some (.ok ⟨⟩, d', h') ∧
    h'.registry = h.registry ∧ h'.sessions = h.sessions ∧
    d'.stages = [("timer", .mounted)] ∧ ¬ h'.Admits 0 "timer" := by
  refine ⟨⟨0, [Course.timerMounted.1]⟩, kitchenShown, kitchenLeft, ⟨0, [Course.timerMounted.1]⟩,
    kitchenLeft, rfl, rfl, rfl, rfl, rfl, rfl, ?_⟩
  rintro ⟨-, henabled⟩
  cases henabled

end Dashboard
end Plugboard
