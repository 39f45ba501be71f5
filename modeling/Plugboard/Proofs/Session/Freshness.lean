import Mathlib.Data.List.Pairwise
import Plugboard.Proofs.Session.Identity
import Plugboard.Proofs.Storage

/-!
No old answer overwrites a newer one. A fetch may read the store before a write and arrive after it,
and writes may arrive in another order than the store took them.

* `Traffic.Numbered`: no two refreshes have the same number, and each gets at most one answer.
* `Traffic.Current`: the invariant of a session on a store in memory that nobody else writes to.
  When the newest refresh has succeeded and the store has changed since, the write that changed it
  has not landed yet, and its landing will start a newer refresh.
* `Traffic.fresh_at_rest`: once every call is finished and the newest refresh has succeeded, the
  session holds what the store holds.
-/
namespace Plugboard

/-- The number of a refresh that waits for its answer. -/
def Flight.due? : Flight → Option Nat
  | .waiting (.fetch r _) => some r.number
  | _ => none

/-- The number of a refresh that was answered. -/
def Told.answered? : Told → Option Nat
  | .fetched r _ => some r.number
  | _ => none

namespace Traffic

variable {σ : Type} {keeper : Keeper σ}

/-- The numbers of all refreshes that wait or were answered. -/
def tickets (t : Traffic σ) : List Nat :=
  t.calls.filterMap Flight.due? ++ t.told.filterMap Told.answered?

structure Numbered (t : Traffic σ) : Prop where
  nodup : t.tickets.Nodup
  bounded : ∀ n ∈ t.tickets, n ≤ t.session.refreshes

theorem start_numbered (s : Session) (store : σ) : (start s store).Numbered := by
  constructor <;> simp [tickets]

/-- Tickets that only change their places. -/
theorem Numbered.perm {t t' : Traffic σ} (h : t.Numbered) (hp : t'.tickets.Perm t.tickets)
    (hr : t.session.refreshes ≤ t'.session.refreshes) : t'.Numbered where
  nodup := hp.nodup_iff.mpr h.nodup
  bounded := fun n hn => Nat.le_trans (h.bounded n (hp.mem_iff.mp hn)) hr

/-- A new refresh takes the number after all others. -/
theorem Numbered.cons {t t' : Traffic σ} (h : t.Numbered)
    (hp : t'.tickets.Perm ((t.session.refreshes + 1) :: t.tickets))
    (hr : t'.session.refreshes = t.session.refreshes + 1) : t'.Numbered where
  nodup := by
    refine hp.nodup_iff.mpr (List.nodup_cons.mpr ⟨fun hn => ?_, h.nodup⟩)
    exact Nat.not_succ_le_self _ (h.bounded _ hn)
  bounded := by
    intro n hn
    rw [hr]
    rcases List.mem_cons.mp (hp.mem_iff.mp hn) with rfl | hn
    · exact Nat.le_refl _
    · exact Nat.le_succ_of_le (h.bounded n hn)

theorem due_append (calls : List Flight) (f : Flight) : (calls ++ [f]).filterMap Flight.due? =
    calls.filterMap Flight.due? ++ f.due?.toList := by
  rw [List.filterMap_append]
  cases h : f.due? <;> simp [h]

/-- The tickets around one call. -/
theorem due_set {calls : List Flight} {k : Nat} {f : Flight} (hk : calls[k]? = some f) :
    ∃ a b, calls.filterMap Flight.due? = a ++ f.due?.toList ++ b ∧
      ∀ g : Flight, (calls.set k g).filterMap Flight.due? = a ++ g.due?.toList ++ b := by
  obtain ⟨hlt, rfl⟩ := List.getElem?_eq_some_iff.mp hk
  refine ⟨(calls.take k).filterMap Flight.due?, (calls.drop (k + 1)).filterMap Flight.due?, ?_,
    fun g => ?_⟩
  · have hsplit : calls = calls.take k ++ calls[k] :: calls.drop (k + 1) := by
      rw [← List.drop_eq_getElem_cons hlt, List.take_append_drop]
    refine (congrArg (List.filterMap Flight.due?) hsplit).trans ?_
    rw [List.filterMap_append, List.filterMap_cons]
    cases calls[k].due? <;> simp
  · rw [List.set_eq_take_append_cons_drop, if_pos hlt]
    cases h : g.due? <;> simp [h]

/-- A session without a new refresh, and calls of which one may have changed, but not its number. -/
theorem Numbered.set {t t' : Traffic σ} (h : t.Numbered) {k : Nat} {f g : Flight}
    (hk : t.calls[k]? = some f) (hc : t'.calls = t.calls.set k g) (hg : g.due? = f.due?)
    (ht : t'.told.filterMap Told.answered? = t.told.filterMap Told.answered?)
    (hr : t.session.refreshes ≤ t'.session.refreshes) : t'.Numbered := by
  obtain ⟨a, b, hf, hset⟩ := due_set hk
  refine h.perm (.of_eq ?_) hr
  rw [tickets, tickets, hc, hset g, hf, hg, ht]

theorem moved_numbered {t t' : Traffic σ} {m : Move σ} (h : t.Numbered)
    (hm : Moved keeper t m t') : t'.Numbered := by
  cases hm with
  | still => exact h
  | began call =>
    rcases t.session.begin_cases call with ⟨result, hb⟩ | ⟨token, w, -, -, hb⟩ | ⟨r, hr, hb⟩
    · exact h.perm (.of_eq (by rw [tickets, due_append, hb]; simp [tickets, Flight.ofProgress,
        Flight.due?])) (by simp [hb])
    · exact h.perm (.of_eq (by rw [tickets, due_append, hb]; simp [tickets, Flight.ofProgress,
        Flight.due?])) (by simp [hb])
    · rcases t.session.startRefresh_cases with hs | ⟨token, -, hs⟩
      · cases (congrArg Prod.fst hs).symm.trans hr
      · obtain rfl : _ = r := Option.some.inj ((congrArg Prod.fst hs).symm.trans hr)
        refine h.cons ?_ (by rw [hb, hs])
        rw [tickets, due_append, hb]
        refine List.perm_iff_count.mpr fun n => ?_
        simp [Flight.due?, Flight.ofProgress, tickets, List.count_append, List.count_cons]
        omega
  | fetched hk =>
    obtain ⟨a, b, hf, hset⟩ := due_set hk
    refine h.perm ?_ (Nat.le_refl _)
    simp only [tickets, hset, hf, List.filterMap_append]
    refine List.perm_iff_count.mpr fun n => ?_
    simp [Flight.due?, Told.answered?, List.count_append, List.count_cons]
    omega
  | wrote hk => exact h.set hk rfl rfl (by simp [Told.answered?]) (Nat.le_refl _)
  | refreshed hk => exact h.set hk rfl rfl rfl (by simp)
  | failed hk => exact h.set hk rfl rfl rfl (Nat.le_refl _)
  | @applied k token w e hk =>
    rcases (t.session.applyWritten token e).startRefresh_cases with hs | ⟨_, -, hs⟩
    · have ha : t.session.afterWrite token e = (none, t.session.applyWritten token e) := hs
      rw [ha]
      exact h.set hk rfl rfl rfl (by simp)
    · obtain ⟨a, b, hf, hset⟩ := due_set hk
      have ha : t.session.afterWrite token e = _ := hs
      rw [ha]
      refine h.cons ?_ (by simp)
      simp only [tickets, hset, hf]
      refine List.perm_iff_count.mpr fun n => ?_
      simp [Flight.due?, List.count_append, List.count_cons]
      omega
  | named token =>
    refine h.perm (.refl _) ?_
    unfold Session.setToken
    split
    · exact Nat.le_refl _
    · exact Nat.le_succ _
  | detached => exact h.perm (.refl _) (Nat.le_refl _)
  | outside f => exact h.perm (.refl _) (Nat.le_refl _)

/-- A refresh is answered once. -/
theorem Numbered.once {t : Traffic σ} (h : t.Numbered) {r r' : Refresh}
    {a a' : Except StorageError (List Entry)} (ha : .fetched r a ∈ t.told)
    (ha' : .fetched r' a' ∈ t.told) (hn : r.number = r'.number) : a = a' := by
  have hpair := List.pairwise_filterMap.mp (List.nodup_append.mp h.nodup).2.1
  by_contra hne
  have hdiff : Told.fetched r a ≠ Told.fetched r' a' := fun he => hne (Told.fetched.inj he).2
  have hsymm : Std.Symm fun x y => ∀ n, Told.answered? x = some n →
      ∀ n', Told.answered? y = some n' → n ≠ n' :=
    ⟨fun _ _ hxy n hn n' hn' => (hxy n' hn' n hn).symm⟩
  exact hpair.forall ha ha' hdiff _ rfl _ rfl hn

end Traffic

/-! ## One session on a store of its own -/

/-- A move that keeps the session on its token, and leaves the entries of the token to the calls. -/
def Move.Leaves (token : String) : Move MemoryStore → Prop
  | .setToken other => other = some token
  | .detach => False
  | .outside f => ∀ m, (f m).entries? token = m.entries? token
  | _ => True

/-- A call on its way that was made with the token. -/
def Flight.For (token : String) : Flight → Prop
  | .waiting (.fetch r _) => r.token = token
  | .waiting (.write other _) => other = token
  | .fetched r _ _ => r.token = token
  | .written other _ _ => other = token
  | .finished _ => True

namespace Traffic

/-- A write that the store has taken and the session has not heard of. -/
def Behind (t : Traffic MemoryStore) : Prop := ∃ token w e, .written token w (.ok e) ∈ t.calls

/-- The session holds these entries, or will once the answer of its newest refresh lands. -/
def Holds (t : Traffic MemoryStore) (token : String) (l : List Entry) : Prop :=
  (∃ outcome, .fetched ⟨token, t.session.refreshes⟩ outcome (.ok l) ∈ t.calls) ∨
    t.session.entries = l

structure Current (who : String) (t : Traffic MemoryStore) : Prop where
  token : t.session.token = some who
  attached : t.session.detached = false
  numbered : t.Numbered
  known : ∀ f ∈ t.calls, f.Known t.told
  made : ∀ f ∈ t.calls, f.For who
  newest : ∀ l, .fetched ⟨who, t.session.refreshes⟩ (.ok l) ∈ t.told →
    t.Behind ∨ t.store.entries? who = some l ∧ t.Holds who l

theorem moved_made {who : String} {t t' : Traffic MemoryStore} {m : Move MemoryStore}
    (h : ∀ f ∈ t.calls, f.For who) (ht : t.session.token = some who)
    (hm : Moved .memory t m t') : ∀ f ∈ t'.calls, f.For who := by
  have hmem : ∀ {k : Nat} {f : Flight}, t.calls[k]? = some f → f.For who :=
    fun hk => h _ (List.mem_of_getElem? hk)
  have hstart : ∀ {s : Session} {r : Refresh}, s.token = some who → s.startRefresh.1 = some r →
      r.token = who := by
    intro s r hs hr
    rcases s.startRefresh_cases with he | ⟨token, htoken, he⟩ <;> rw [he] at hr
    · cases hr
    · cases hr
      exact Option.some.inj (htoken.symm.trans hs)
  cases hm with
  | still | named | detached | outside => exact h
  | began call =>
    intro f hf
    rcases List.mem_append.mp hf with hf | hf
    · exact h f hf
    · obtain rfl := List.mem_singleton.mp hf
      rcases t.session.begin_cases call with ⟨_, hb⟩ | ⟨token, w, htoken, -, hb⟩ | ⟨r, hr, hb⟩ <;>
        rw [hb]
      · trivial
      · exact Option.some.inj (htoken.symm.trans ht)
      · exact hstart ht hr
  | @fetched k r _ hk =>
    have hr : r.token = who := hmem hk
    exact forall_set h k hr
  | @wrote k token _ hk =>
    have htoken : token = who := hmem hk
    exact forall_set h k htoken
  | refreshed | failed => exact forall_set h _ trivial
  | applied =>
    refine forall_set h _ ?_
    split
    next => trivial
    next r hr => exact hstart ((Session.token_applyWritten _ _ _).trans ht) hr

/-- A call that is neither behind nor fetched may change as it likes. -/
theorem Behind.set {t t' : Traffic MemoryStore} (h : t.Behind) {k : Nat} {f g : Flight}
    (hk : t.calls[k]? = some f) (hf : ∀ token w e, f ≠ .written token w (.ok e))
    (hc : t'.calls = t.calls.set k g) : t'.Behind := by
  obtain ⟨token, w, e, hx⟩ := h
  exact ⟨token, w, e, hc ▸ mem_set_of_ne hk hx (hf token w e).symm g⟩

theorem Behind.append {t t' : Traffic MemoryStore} (h : t.Behind) {f : Flight}
    (hc : t'.calls = t.calls ++ [f]) : t'.Behind := by
  obtain ⟨token, w, e, hx⟩ := h
  exact ⟨token, w, e, hc ▸ List.mem_append_left _ hx⟩

theorem Holds.append {who : String} {l : List Entry} {t t' : Traffic MemoryStore}
    (h : t.Holds who l) {f : Flight} (hc : t'.calls = t.calls ++ [f])
    (hs : t'.session = t.session) : t'.Holds who l := by
  rcases h with ⟨outcome, hx⟩ | h
  · exact .inl ⟨outcome, by rw [hc, hs]; exact List.mem_append_left _ hx⟩
  · exact .inr (hs ▸ h)

theorem Holds.set {who : String} {l : List Entry} {t t' : Traffic MemoryStore}
    (h : t.Holds who l) {k : Nat} {f g : Flight} (hk : t.calls[k]? = some f)
    (hf : ∀ outcome, f ≠ .fetched ⟨who, t.session.refreshes⟩ outcome (.ok l))
    (hc : t'.calls = t.calls.set k g) (hs : t'.session = t.session) : t'.Holds who l := by
  rcases h with ⟨outcome, hx⟩ | h
  · exact .inl ⟨outcome, by rw [hc, hs]; exact mem_set_of_ne hk hx (hf outcome).symm g⟩
  · exact .inr (hs ▸ h)

/-- No refresh has been answered that was not started. -/
theorem Numbered.not_told {t : Traffic σ} (h : t.Numbered) {r : Refresh}
    {a : Except StorageError (List Entry)} (hr : t.session.refreshes < r.number) :
    .fetched r a ∉ t.told := by
  intro ha
  have hmem : r.number ∈ t.tickets :=
    List.mem_append_right _ (List.mem_filterMap.mpr ⟨_, ha, rfl⟩)
  exact Nat.not_le_of_lt hr (h.bounded _ hmem)

theorem moved_newest {who : String} {t t' : Traffic MemoryStore} {m : Move MemoryStore}
    (h : t.Current who) (hl : m.Leaves who) (hm : Moved .memory t m t') :
    ∀ l, .fetched ⟨who, t'.session.refreshes⟩ (.ok l) ∈ t'.told →
      t'.Behind ∨ t'.store.entries? who = some l ∧ t'.Holds who l := by
  cases hm with
  | still => exact h.newest
  | began call =>
    intro l hx
    by_cases hsame : (t.session.begin call).2 = t.session
    · rw [hsame] at hx
      rcases h.newest l hx with hb | ⟨hs, hh⟩
      · exact .inl (hb.append rfl)
      · exact .inr ⟨hs, hh.append rfl hsame⟩
    · rcases t.session.begin_cases call with ⟨_, hb⟩ | ⟨_, _, -, -, hb⟩ | ⟨_, -, hb⟩
      · exact absurd (by rw [hb]) hsame
      · exact absurd (by rw [hb]) hsame
      · have hstart := Session.startRefresh_of_attached h.token h.attached
        refine absurd hx (h.numbered.not_told ?_)
        simp [hb, hstart]
  | @fetched k r outcome hk =>
    intro l hx
    rcases List.mem_append.mp hx with hx | hx
    · rcases h.newest l hx with hb | ⟨hs, hh⟩
      · exact .inl (hb.set hk (by simp) rfl)
      · exact .inr ⟨(MemoryStore.entries?_fetch _ _ _).trans hs, hh.set hk (by simp) rfl rfl⟩
    · obtain ⟨hr, ha⟩ : (⟨who, t.session.refreshes⟩ : Refresh) = r ∧
          Except.ok l = (t.store.fetch r.token).1 := Told.fetched.inj (List.mem_singleton.mp hx)
      subst hr
      refine .inr ⟨(MemoryStore.entries?_fetch _ _ _).trans
        (MemoryStore.entries?_of_fetch ha.symm), .inl ⟨outcome, ?_⟩⟩
      rw [ha]
      exact mem_set_self hk _
  | @wrote k token w hk =>
    intro l hx
    have hx : Told.fetched ⟨who, t.session.refreshes⟩ (.ok l) ∈ t.told := by
      rcases List.mem_append.mp hx with hx | hx
      · exact hx
      · cases List.mem_singleton.mp hx
    cases ha : (t.store.write token w).1 with
    | ok e => exact .inl ⟨token, w, e, by rw [← ha]; exact mem_set_self hk _⟩
    | error e =>
      rcases h.newest l hx with hb | ⟨hs, hh⟩
      · exact .inl (hb.set hk (by simp) rfl)
      · have hsame := (MemoryStore.entries?_of_write_error ha who).trans hs
        exact .inr ⟨hsame, hh.set hk (by simp) rfl rfl⟩
  | @refreshed k r outcome a hk =>
    intro l hx
    rw [Session.refreshes_finishRefresh] at hx
    rcases h.newest l hx with hb | ⟨hs, hh⟩
    · exact .inl (hb.set hk (by simp) rfl)
    · refine .inr ⟨hs, ?_⟩
      have hr : r.token = who := h.made _ (List.mem_of_getElem? hk)
      by_cases hnumber : r.number = t.session.refreshes
      · have ha : a = .ok l :=
          h.numbered.once (h.known _ (List.mem_of_getElem? hk)) hx hnumber
        have hawaits : t.session.awaits r = true :=
          Session.awaits_iff.mpr ⟨h.attached, hnumber.symm, hr ▸ h.token⟩
        rw [ha]
        exact .inr (Session.entries_finishRefresh hawaits l)
      · rw [Session.finishRefresh_of_superseded hnumber]
        refine hh.set hk (fun _ he => hnumber ?_) rfl rfl
        rw [(Flight.fetched.inj he).1]
  | failed hk =>
    intro l hx
    rcases h.newest l hx with hb | ⟨hs, hh⟩
    · exact .inl (hb.set hk (by simp) rfl)
    · exact .inr ⟨hs, hh.set hk (by simp) rfl rfl⟩
  | @applied k token w e hk =>
    intro l hx
    have hstart : (t.session.afterWrite token e).2 = _ := congrArg Prod.snd
      (Session.startRefresh_of_attached ((Session.token_applyWritten _ token e).trans h.token)
        ((Session.detached_applyWritten _ token e).trans h.attached))
    refine absurd hx (h.numbered.not_told ?_)
    simp [hstart]
  | named token =>
    rw [Session.setToken_same (h.token.trans hl.symm)]
    exact h.newest
  | detached => exact hl.elim
  | outside f =>
    intro l hx
    rcases h.newest l hx with hb | ⟨hs, hh⟩
    · exact .inl hb
    · exact .inr ⟨(hl _).trans hs, hh⟩

/-- The session stays attached to its token. -/
theorem moved_attached {who : String} {t t' : Traffic MemoryStore} {m : Move MemoryStore}
    (ht : t.session.token = some who) (hl : m.Leaves who) (hm : Moved .memory t m t') :
    t'.session.token = some who ∧ t'.session.detached = t.session.detached := by
  cases hm with
  | still | fetched | wrote | failed | outside => exact ⟨ht, rfl⟩
  | began | refreshed | applied => simp [ht]
  | named token =>
    rw [Session.setToken_same (ht.trans hl.symm)]
    exact ⟨ht, rfl⟩
  | detached => exact hl.elim

theorem moved_current {who : String} {t t' : Traffic MemoryStore} {m : Move MemoryStore}
    (hl : m.Leaves who) (hm : Moved .memory t m t') (h : t.Current who) : t'.Current who where
  token := (moved_attached h.token hl hm).1
  attached := (moved_attached h.token hl hm).2.trans h.attached
  numbered := moved_numbered h.numbered hm
  known := moved_known h.known hm
  made := moved_made h.made h.token hm
  newest := moved_newest h hl hm

/-- Whatever is called and in whatever order the answers come: once every call is finished and the
newest refresh has succeeded, the session holds what the store holds for its token. -/
theorem fresh_at_rest {who : String} {s : Session} {store : MemoryStore}
    {moves : List (Move MemoryStore)} (hs : s.token = some who) (hd : s.detached = false)
    (hm : ∀ m ∈ moves, m.Leaves who) :
    let t := (start s store).run .memory moves
    (∀ f ∈ t.calls, ∃ result, f = .finished result) →
    ∀ l, .fetched ⟨who, t.session.refreshes⟩ (.ok l) ∈ t.told →
      t.store.entries? who = some t.session.entries := by
  intro t hdone l hx
  have hstart : (start s store).Current who :=
    ⟨hs, hd, start_numbered s store, by simp, by simp, by simp⟩
  have h : t.Current who := run_induction (fun _ _ _ => moved_current) hstart moves hm
  rcases h.newest l hx with ⟨_, _, _, hf⟩ | ⟨hstore, ⟨_, hf⟩ | hentries⟩
  · obtain ⟨_, hf⟩ := hdone _ hf
    cases hf
  · obtain ⟨_, hf⟩ := hdone _ hf
    cases hf
  · rw [hstore, hentries]

/-- A refresh that has read the store before a write and lands last of all. -/
theorem fresh_at_rest_toggle :
    let t := (start (.new (some "ada")) (MemoryStore.empty.seed "ada" [.new "chat" false])).run
      .memory [.begin .refresh, .begin (.toggle "chat" true), .serve 0, .serve 1, .land 1,
        .serve 1, .land 1, .land 0]
    t.session.entries = [.new "chat" true] ∧ t.store.entries? "ada" = some t.session.entries := by
  intro t
  have hdone : ∀ f ∈ t.calls, ∃ result, f = .finished result := by
    have hcalls : t.calls = [.finished (.ok .refreshed), .finished (.ok .toggled)] := rfl
    rw [hcalls]
    simp
  have hx : .fetched ⟨"ada", t.session.refreshes⟩ (.ok [.new "chat" true]) ∈ t.told :=
    List.mem_of_getElem? (i := 2) rfl
  exact ⟨rfl, fresh_at_rest rfl rfl (by simp [Move.Leaves]) hdone _ hx⟩

end Traffic
end Plugboard
