import Plugboard.Proofs.Session.Basic
import Plugboard.Proofs.Session.Traffic

/-!
Only the newest refresh counts. Any number of refreshes may be on their way at once, and one flag of
the session says that it loads.

* `Traffic.newest`: the call that has started the newest refresh since the token of the session has
  changed last, told from the moves alone and not from the numbers of the refreshes.
* `Traffic.Heeds`: the invariant. A refresh on its way has the session's own number exactly when it
  is the newest one, and the flag is up exactly while that one is on its way.
* `Traffic.newest_counts`: what it comes to for the flag and for every refresh that comes to its end.
-/
namespace Plugboard

/-- The refresh that a call has on its way. -/
def Flight.refresh? : Flight → Option Refresh
  | .waiting (.fetch r _) => some r
  | .fetched r _ _ => some r
  | _ => none

namespace Traffic

variable {σ : Type} {keeper : Keeper σ}

/-- The refresh that the call with a number has on its way. -/
def refreshOf? (t : Traffic σ) (k : Nat) : Option Refresh := t.calls[k]?.bind Flight.refresh?

/-- Between two moments a call has started a refresh. -/
def starts (t t' : Traffic σ) (k : Nat) : Bool := (t.refreshOf? k).isNone && (t'.refreshOf? k).isSome

/-- The call with the newest refresh after a move that leads from `t` to `t'`. With another token
there is none. -/
def newestAfter (t t' : Traffic σ) (latest : Option Nat) : Move σ → Option Nat
  | .begin _ => if t.starts t' t.calls.length then some t.calls.length else latest
  | .land k => if t.starts t' k then some k else latest
  | .setToken token => if t.session.token = token then latest else none
  | .serve _ | .detach | .outside _ => latest

/-- The call with the newest refresh after a run. -/
def newest (keeper : Keeper σ) (t : Traffic σ) (latest : Option Nat) : List (Move σ) → Option Nat
  | [] => latest
  | m :: rest =>
    (t.step keeper m).newest keeper (t.newestAfter (t.step keeper m) latest m) rest

structure Heeds (t : Traffic σ) (latest : Option Nat) : Prop where
  attached : t.session.detached = false
  bounded : ∀ k r, t.refreshOf? k = some r → r.number ≤ t.session.refreshes
  numbered : ∀ k r, t.refreshOf? k = some r →
    (latest = some k ↔ r.number = t.session.refreshes)
  token : ∀ k r, t.refreshOf? k = some r → latest = some k → t.session.token = some r.token
  loading : t.session.loading = true ↔ ∃ k, latest = some k ∧ (t.refreshOf? k).isSome

theorem start_heeds (token : Option String) (store : σ) :
    Heeds (start (.new token) store) none := by
  constructor <;> simp [refreshOf?, start, Session.new]

/-! ## The refreshes after one call has changed -/

theorem refreshOf?_of_call {t : Traffic σ} {k : Nat} {f : Flight} (hk : t.calls[k]? = some f) :
    t.refreshOf? k = f.refresh? := by
  rw [refreshOf?, hk, Option.bind_some]

theorem refreshOf?_length (t : Traffic σ) : t.refreshOf? t.calls.length = none := by
  rw [refreshOf?, List.getElem?_eq_none (Nat.le_refl _), Option.bind_none]

theorem refreshOf?_append {t t' : Traffic σ} {f : Flight} (hc : t'.calls = t.calls ++ [f])
    (j : Nat) : t'.refreshOf? j = if j = t.calls.length then f.refresh? else t.refreshOf? j := by
  rw [refreshOf?, hc]
  rcases Nat.lt_trichotomy j t.calls.length with hj | rfl | hj
  · rw [List.getElem?_append_left hj, if_neg (by omega), refreshOf?]
  · rw [if_pos rfl, List.getElem?_concat_length, Option.bind_some]
  · have hnone : t.calls[j]? = none := List.getElem?_eq_none (by omega)
    rw [if_neg (by omega), refreshOf?, hnone, List.getElem?_eq_none (by simp; omega)]

theorem refreshOf?_set {t t' : Traffic σ} {k : Nat} {f g : Flight} (hk : t.calls[k]? = some f)
    (hc : t'.calls = t.calls.set k g) (j : Nat) :
    t'.refreshOf? j = if j = k then g.refresh? else t.refreshOf? j := by
  obtain ⟨hlt, -⟩ := List.getElem?_eq_some_iff.mp hk
  rw [refreshOf?, hc]
  by_cases hj : j = k
  · rw [hj, if_pos rfl, List.getElem?_set_self hlt, Option.bind_some]
  · rw [if_neg hj, List.getElem?_set_ne (Ne.symm hj), refreshOf?]

/-- A call that changes, but not the refresh that it has on its way. -/
theorem refreshOf?_same {t t' : Traffic σ} {k : Nat} {f g : Flight} (hk : t.calls[k]? = some f)
    (hc : t'.calls = t.calls.set k g) (hg : g.refresh? = f.refresh?) (j : Nat) :
    t'.refreshOf? j = t.refreshOf? j := by
  rw [refreshOf?_set hk hc]
  split
  next hj => rw [hj, refreshOf?_of_call hk, hg]
  next => rfl

/-- A call whose refresh stays the same has started none. -/
theorem starts_of_same {t t' : Traffic σ} {k : Nat} (h : t'.refreshOf? k = t.refreshOf? k) :
    t.starts t' k = false := by
  rw [starts, h]
  cases t.refreshOf? k <;> rfl

/-! ## What a move does to the invariant -/

section
variable {t t' : Traffic σ} {latest : Option Nat} (h : t.Heeds latest)
include h

/-- The refreshes on their way are the same, and the session knows the same of them. -/
theorem Heeds.keep (hr : ∀ j, t'.refreshOf? j = t.refreshOf? j)
    (hd : t'.session.detached = t.session.detached)
    (hn : t'.session.refreshes = t.session.refreshes)
    (ht : t'.session.token = t.session.token)
    (hl : t'.session.loading = t.session.loading) : t'.Heeds latest where
  attached := hd.trans h.attached
  bounded := by
    intro k r hk
    rw [hn]
    exact h.bounded k r (hr k ▸ hk)
  numbered := by
    intro k r hk
    rw [hn]
    exact h.numbered k r (hr k ▸ hk)
  token := by
    intro k r hk
    rw [ht]
    exact h.token k r (hr k ▸ hk)
  loading := by simpa only [hl, hr] using h.loading

/-- A call that had no refresh on its way starts one. It takes the number after all others. -/
theorem Heeds.next {k : Nat} {token : String}
    (hr : ∀ j, t'.refreshOf? j =
      if j = k then some ⟨token, t.session.refreshes + 1⟩ else t.refreshOf? j)
    (hd : t'.session.detached = false) (hn : t'.session.refreshes = t.session.refreshes + 1)
    (ht : t'.session.token = some token) (hl : t'.session.loading = true) :
    t'.Heeds (some k) := by
  have hother : ∀ j r, j ≠ k → t'.refreshOf? j = some r → r.number ≤ t.session.refreshes := by
    intro j r hj hjr
    rw [hr, if_neg hj] at hjr
    exact h.bounded j r hjr
  have hself : t'.refreshOf? k = some ⟨token, t.session.refreshes + 1⟩ := by rw [hr, if_pos rfl]
  have hown : ∀ r, t'.refreshOf? k = some r → r = ⟨token, t.session.refreshes + 1⟩ :=
    fun r hk => Option.some.inj (hk.symm.trans hself)
  refine ⟨hd, fun j r hjr => ?_, fun j r hjr => ?_, fun j r hjr hj => ?_, ?_⟩
  · rw [hn]
    by_cases hj : j = k
    · subst hj
      exact Nat.le_of_eq (congrArg Refresh.number (hown r hjr))
    · exact Nat.le_succ_of_le (hother j r hj hjr)
  · rw [hn]
    by_cases hj : j = k
    · subst hj
      rw [hown r hjr]
      exact iff_of_true rfl rfl
    · have hle := hother j r hj hjr
      exact iff_of_false (fun he => hj (Option.some.inj he).symm) (by omega)
  · obtain rfl := Option.some.inj hj
    rw [hown r hjr, ht]
  · exact iff_of_true hl ⟨k, rfl, by rw [hself]; rfl⟩

/-- A call that had no refresh on its way goes on by starting one, if the session lets it. -/
theorem Heeds.started {k : Nat} {s : Session} (hnone : t.refreshOf? k = none)
    (hr : ∀ j, t'.refreshOf? j = if j = k then s.startRefresh.1 else t.refreshOf? j)
    (hs : t'.session = s.startRefresh.2) (hd : s.detached = t.session.detached)
    (hn : s.refreshes = t.session.refreshes) (ht : s.token = t.session.token)
    (hl : s.loading = t.session.loading) :
    t'.Heeds (if t.starts t' k then some k else latest) := by
  rcases s.startRefresh_cases with he | ⟨token, htoken, he⟩ <;> rw [he] at hr hs
  · have hall : ∀ j, t'.refreshOf? j = t.refreshOf? j := by
      intro j
      rw [hr]
      split
      next hj => rw [hj, hnone]
      next => rfl
    rw [starts_of_same (hall k)]
    exact h.keep hall (by rw [hs, hd]) (by rw [hs, hn]) (by rw [hs, ht]) (by rw [hs, hl])
  · have hstarts : t.starts t' k = true := by
      rw [starts, hnone, hr, if_pos rfl]
      rfl
    rw [if_pos hstarts]
    rw [hn] at hr
    exact h.next hr (by rw [hs]; exact hd.trans h.attached) (by rw [hs, hn])
      (by rw [hs]; exact htoken) (by rw [hs])

/-- The session waits for the refresh of the newest call. -/
theorem Heeds.awaits {k : Nat} {r : Refresh} (hk : t.refreshOf? k = some r)
    (hl : latest = some k) : t.session.awaits r = true :=
  Session.awaits_iff.mpr ⟨h.attached, ((h.numbered k r hk).mp hl).symm, h.token k r hk hl⟩

/-- What the end of any other refresh brings is dropped. -/
theorem Heeds.superseded {k : Nat} {r : Refresh} (hk : t.refreshOf? k = some r)
    (hl : latest ≠ some k) (answer : Except StorageError (List Entry)) :
    t.session.finishRefresh r answer = t.session :=
  Session.finishRefresh_of_superseded (mt (h.numbered k r hk).mpr hl) answer

/-- A refresh comes to its end. -/
theorem Heeds.refreshed {k : Nat} {r : Refresh} {outcome : Outcome}
    {answer : Except StorageError (List Entry)}
    (hk : t.calls[k]? = some (.fetched r outcome answer))
    (hc : t'.calls = t.calls.set k (.finished (.ok outcome)))
    (hs : t'.session = t.session.finishRefresh r answer) : t'.Heeds latest := by
  have hkr : t.refreshOf? k = some r := refreshOf?_of_call hk
  have hr := refreshOf?_set hk hc
  have hkeep : ∀ j x, t'.refreshOf? j = some x → t.refreshOf? j = some x := by
    intro j x hj
    rw [hr] at hj
    split at hj
    · cases hj
    · exact hj
  have hd : t'.session.detached = t.session.detached := by rw [hs, Session.detached_finishRefresh]
  have hn : t'.session.refreshes = t.session.refreshes := by
    rw [hs, Session.refreshes_finishRefresh]
  have ht : t'.session.token = t.session.token := by rw [hs, Session.token_finishRefresh]
  refine ⟨hd.trans h.attached, fun j x hj => ?_, fun j x hj => ?_, fun j x hj hl => ?_, ?_⟩
  · exact hn ▸ h.bounded j x (hkeep j x hj)
  · exact hn ▸ h.numbered j x (hkeep j x hj)
  · exact ht ▸ h.token j x (hkeep j x hj) hl
  by_cases hl : latest = some k
  · -- the flag goes down, and no other refresh holds it up
    have hdown : t'.session.loading = false := by
      rw [hs, Session.finishRefresh_of_awaited (h.awaits hkr hl)]
      cases answer <;> rfl
    refine iff_of_false (by simp [hdown]) ?_
    rintro ⟨j, hj, hsome⟩
    obtain rfl : j = k := Option.some.inj (hj.symm.trans hl)
    simp [hr, Flight.refresh?] at hsome
  · rw [hs, h.superseded hkr hl, h.loading]
    refine exists_congr fun j => and_congr_right fun hj => ?_
    have hjk : j ≠ k := by
      rintro rfl
      exact hl hj
    rw [hr, if_neg hjk]

/-- With another token every refresh on its way is out of date. -/
theorem Heeds.renamed {token : Option String} (ht : t.session.token ≠ token)
    (hc : t'.calls = t.calls) (hs : t'.session = t.session.setToken token) : t'.Heeds none := by
  have hr : ∀ j, t'.refreshOf? j = t.refreshOf? j := fun j => by rw [refreshOf?, refreshOf?, hc]
  rw [Session.setToken, if_neg ht] at hs
  have hn : t'.session.refreshes = t.session.refreshes + 1 := by rw [hs]
  refine ⟨by rw [hs]; exact h.attached, fun j r hj => ?_, fun j r hj => ?_, by simp, by simp [hs]⟩
  · rw [hn]
    exact Nat.le_succ_of_le (h.bounded j r (hr j ▸ hj))
  · have hle := h.bounded j r (hr j ▸ hj)
    exact iff_of_false (by simp) (by omega)

end

theorem begin_heeds {t : Traffic σ} {latest : Option Nat} (h : t.Heeds latest)
    (call : SessionCall) : (t.step keeper (.begin call)).Heeds
      (t.newestAfter (t.step keeper (.begin call)) latest (.begin call)) := by
  generalize ht' : t.step keeper (.begin call) = t'
  have hs : t'.session = (t.session.begin call).2 := by rw [← ht']; rfl
  have hc : t'.calls = t.calls ++ [.ofProgress (t.session.begin call).1] := by rw [← ht']; rfl
  have hr := refreshOf?_append hc
  have hnone := refreshOf?_length t
  have hquiet : (Flight.ofProgress (t.session.begin call).1).refresh? = none →
      t'.session = t.session → t'.Heeds (t.newestAfter t' latest (.begin call)) := by
    intro hf hsame
    have hall : ∀ j, t'.refreshOf? j = t.refreshOf? j := by
      intro j
      rw [hr, hf]
      split
      next hj => rw [hj, hnone]
      next => rfl
    rw [newestAfter, starts_of_same (hall _)]
    exact h.keep hall (by rw [hsame]) (by rw [hsame]) (by rw [hsame]) (by rw [hsame])
  rcases t.session.begin_cases call with ⟨result, hb⟩ | ⟨token, w, -, -, hb⟩ | ⟨r, hstart, hb⟩
  · exact hquiet (by rw [hb]; rfl) (by rw [hs, hb])
  · exact hquiet (by rw [hb]; rfl) (by rw [hs, hb])
  · have hf : (Flight.ofProgress (t.session.begin call).1).refresh? = t.session.startRefresh.1 := by
      rw [hb, hstart]
      rfl
    rw [hf] at hr
    rw [hb] at hs
    exact h.started hnone hr hs rfl rfl rfl rfl

theorem land_heeds {t : Traffic σ} {latest : Option Nat} (h : t.Heeds latest) (k : Nat) :
    (t.step keeper (.land k)).Heeds
      (t.newestAfter (t.step keeper (.land k)) latest (.land k)) := by
  have hm := step_moved keeper t (.land k)
  generalize ht' : t.step keeper (.land k) = t' at hm ⊢
  clear ht'
  cases hm with
  | still =>
    rw [newestAfter, starts_of_same rfl]
    exact h
  | refreshed hk =>
    have hon : (t.refreshOf? k).isNone = false := by rw [refreshOf?_of_call hk]; rfl
    rw [newestAfter, starts, hon]
    exact h.refreshed hk rfl rfl
  | @failed _ _ _ e hk =>
    let failed := { t with calls := t.calls.set k (.finished (.error (.storage e))) }
    have hall : ∀ j, failed.refreshOf? j = t.refreshOf? j := refreshOf?_same hk rfl rfl
    rw [newestAfter, starts_of_same (hall k)]
    exact h.keep hall rfl rfl rfl rfl
  | @applied _ token w e hk =>
    refine h.started (s := t.session.applyWritten token e) (refreshOf?_of_call hk) (fun j => ?_)
      rfl (by simp) (by simp) (by simp) (by simp)
    rw [refreshOf?_set hk rfl, Session.afterWrite]
    cases (t.session.applyWritten token e).startRefresh.1 <;> rfl

theorem serve_heeds {t : Traffic σ} {latest : Option Nat} (h : t.Heeds latest) (k : Nat) :
    (t.step keeper (.serve k)).Heeds latest := by
  have hm := step_moved keeper t (.serve k)
  generalize ht' : t.step keeper (.serve k) = t' at hm ⊢
  clear ht'
  cases hm with
  | still => exact h
  | fetched hk => exact h.keep (refreshOf?_same hk rfl rfl) rfl rfl rfl rfl
  | wrote hk => exact h.keep (refreshOf?_same hk rfl rfl) rfl rfl rfl rfl

theorem step_heeds {t : Traffic σ} {latest : Option Nat} (h : t.Heeds latest) (m : Move σ)
    (hm : m ≠ .detach) :
    (t.step keeper m).Heeds (t.newestAfter (t.step keeper m) latest m) := by
  cases m with
  | begin call => exact begin_heeds h call
  | serve k => exact serve_heeds h k
  | land k => exact land_heeds h k
  | detach => exact absurd rfl hm
  | outside f => exact h.keep (fun _ => rfl) rfl rfl rfl rfl
  | setToken token =>
    rw [newestAfter]
    split
    next ht =>
      have hsame : t.step keeper (.setToken token) = t := by rw [step, Session.setToken_same ht]
      rw [hsame]
      exact h
    next ht => exact h.renamed ht rfl rfl

theorem run_heeds {t : Traffic σ} {latest : Option Nat} (h : t.Heeds latest)
    (moves : List (Move σ)) (hm : ∀ m ∈ moves, m ≠ .detach) :
    (t.run keeper moves).Heeds (t.newest keeper latest moves) := by
  induction moves generalizing t latest with
  | nil => exact h
  | cons m rest ih =>
    have hnext : (t.step keeper m).Heeds (t.newestAfter (t.step keeper m) latest m) :=
      step_heeds h m (hm m List.mem_cons_self)
    exact ih hnext fun m' hm' => hm m' (List.mem_cons_of_mem _ hm')

/-- Whatever calls are made, whatever the store answers, in whatever order the answers come and
however often the token changes: an attached session loads exactly while its newest refresh is on
its way. The end of that refresh takes over its entries or notes its error, and the end of any
other one changes nothing. -/
theorem newest_counts (keeper : Keeper σ) (token : Option String) (store : σ)
    (moves : List (Move σ)) (hm : ∀ m ∈ moves, m ≠ .detach) :
    let t := (start (.new token) store).run keeper moves
    let latest := (start (.new token) store).newest keeper none moves
    (t.session.loading = true ↔ ∃ k, latest = some k ∧ (t.refreshOf? k).isSome) ∧
    ∀ k r outcome answer, t.calls[k]? = some (.fetched r outcome answer) →
      let s := (t.step keeper (.land k)).session
      (latest ≠ some k → s = t.session) ∧
      (latest = some k → s = match answer with
        | .ok l => { t.session with loading := false, entries := l, error := none }
        | .error e => { t.session with
            loading := false, error := some ("Failed to load plugins: " ++ e.message) }) := by
  intro t latest
  have h : t.Heeds latest := run_heeds (start_heeds token store) moves hm
  refine ⟨h.loading, fun k r outcome answer hk => ?_⟩
  have hkr : t.refreshOf? k = some r := refreshOf?_of_call hk
  have hland : (t.step keeper (.land k)).session = t.session.finishRefresh r answer := by
    rw [step, hk]
    rfl
  rw [hland]
  exact ⟨fun hl => h.superseded hkr hl answer,
    fun hl => Session.finishRefresh_of_awaited (h.awaits hkr hl) answer⟩

/-- A user logs in while the refresh of another is on its way, and starts one too. Both are answered:
the session loads until the second comes to its end, and the end of the first is as nothing. -/
theorem newest_counts_relogin :
    let store := (MemoryStore.empty.seed "ada" [.new "chat" true]).seed "bob" [.new "drive" true]
    let t := (start (.new (some "ada")) store).run .memory
      [.begin .refresh, .setToken (some "bob"), .begin .refresh, .serve 0, .serve 1]
    t.session.loading = true ∧
    (t.step .memory (.land 0)).session = t.session ∧
    (t.step .memory (.land 1)).session =
      { t.session with loading := false, entries := [.new "drive" true], error := none } := by
  intro store t
  obtain ⟨hloading, hend⟩ := newest_counts .memory (some "ada") store
    [.begin .refresh, .setToken (some "bob"), .begin .refresh, .serve 0, .serve 1] (by simp)
  have hfirst : t.calls[0]? = some (.fetched ⟨"ada", 1⟩ .refreshed (.ok [.new "chat" true])) := rfl
  have hsecond : t.calls[1]? = some (.fetched ⟨"bob", 3⟩ .refreshed (.ok [.new "drive" true])) :=
    rfl
  refine ⟨hloading.mpr ⟨1, rfl, rfl⟩, ?_, ?_⟩
  · exact (hend 0 _ _ _ hfirst).1 (by decide)
  · exact (hend 1 _ _ _ hsecond).2 rfl

end Traffic
end Plugboard
