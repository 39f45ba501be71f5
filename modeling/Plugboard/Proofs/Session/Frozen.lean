import Plugboard.Proofs.Session.Basic
import Plugboard.Proofs.Session.Traffic

/-!
Detached sessions stay as they are. Calls that were on their way go on, and new ones may begin; but
whatever the store answers them, such a session hears of nothing any more but of another token.

* `Session.renamed`: a session that is given one token after the other, and nothing else.
* `Traffic.Still`: what may come of a detached session, and of the refreshes that wait for the store.
* `Traffic.run_still`: nothing else does come of them, by induction on the moves.
* `Traffic.detached_session_frozen`: what can be seen of the session then, and what the store sees.
-/
namespace Plugboard

namespace Session

/-! ## One step of a detached session -/

section
variable {s : Session} (hd : s.detached = true)
include hd

theorem detach_of_detached : s.detach = s := by
  rw [detach, ← hd]

theorem finishRefresh_of_detached (r : Refresh) (a : Except StorageError (List Entry)) :
    s.finishRefresh r a = s := by
  have hr : ¬ s.awaits r = true := fun hr => by
    rw [(awaits_iff.mp hr).1] at hd
    cases hd
  unfold finishRefresh
  rw [if_neg hr]

/-- A call of a detached session may write, but fetches nothing. -/
theorem begin_of_detached (call : SessionCall) :
    (s.begin call).2 = s ∧ ∀ r outcome, (s.begin call).1 ≠ .waiting (.fetch r outcome) := by
  rcases s.begin_cases call with ⟨_, hb⟩ | ⟨_, _, -, -, hb⟩ | ⟨r, hr, -⟩
  · exact ⟨by rw [hb], by simp [hb]⟩
  · exact ⟨by rw [hb], by simp [hb]⟩
  · rw [startRefresh_of_detached hd] at hr
    cases hr

end

/-! ## Tokens -/

@[simp] theorem detached_setToken (s : Session) (token : Option String) :
    (s.setToken token).detached = s.detached := by
  unfold setToken
  split <;> rfl

/-- The session after it was given these tokens, the first one first. -/
def renamed (s : Session) (tokens : List (Option String)) : Session := tokens.foldl setToken s

theorem renamed_append (s : Session) (tokens tokens' : List (Option String)) :
    s.renamed (tokens ++ tokens') = (s.renamed tokens).renamed tokens' :=
  List.foldl_append

@[simp] theorem detached_renamed (s : Session) (tokens : List (Option String)) :
    (s.renamed tokens).detached = s.detached := by
  induction tokens generalizing s with
  | nil => rfl
  | cons token rest ih => exact (ih _).trans (s.detached_setToken token)

theorem renamed_of_same {s : Session} {tokens : List (Option String)}
    (h : ∀ token ∈ tokens, token = s.token) : s.renamed tokens = s := by
  induction tokens with
  | nil => rfl
  | cons token rest ih =>
    have hsame : s.setToken token = s := setToken_same (h token List.mem_cons_self).symm
    rw [renamed, List.foldl_cons, hsame]
    exact ih fun token' ht => h token' (List.mem_cons_of_mem _ ht)

/-- Nothing of a user can be seen. -/
def IsBlank (s : Session) : Prop := s.entries = [] ∧ s.error = none ∧ s.loading = false

theorem isBlank_setToken {s : Session} {token : Option String} (h : token ≠ s.token) :
    (s.setToken token).IsBlank := by
  rw [setToken, if_neg (Ne.symm h)]
  exact ⟨rfl, rfl, rfl⟩

theorem IsBlank.setToken {s : Session} (h : s.IsBlank) (token : Option String) :
    (s.setToken token).IsBlank := by
  by_cases ht : token = s.token
  · rwa [setToken_same ht.symm]
  · exact isBlank_setToken ht

theorem IsBlank.renamed {s : Session} (h : s.IsBlank) (tokens : List (Option String)) :
    (s.renamed tokens).IsBlank := by
  induction tokens generalizing s with
  | nil => exact h
  | cons token rest ih => exact ih (h.setToken token)

/-- One other token among them is enough, also when the first one comes back later. -/
theorem isBlank_renamed {s : Session} {tokens : List (Option String)}
    (h : ∃ token ∈ tokens, token ≠ s.token) : (s.renamed tokens).IsBlank := by
  induction tokens generalizing s with
  | nil =>
    obtain ⟨_, hmem, -⟩ := h
    cases hmem
  | cons token rest ih =>
    by_cases ht : token = s.token
    · have hsame : s.setToken token = s := setToken_same ht.symm
      obtain ⟨other, hmem, hne⟩ := h
      have hrest : other ∈ rest := (List.mem_cons.mp hmem).resolve_left fun he => hne (he.trans ht)
      rw [Session.renamed, List.foldl_cons, hsame]
      exact ih ⟨other, hrest, hne⟩
    · exact (isBlank_setToken ht).renamed rest

end Session

/-! ## Traffic of a detached session -/

def Move.token? {σ : Type} : Move σ → Option (Option String)
  | .setToken token => some token
  | _ => none

theorem mem_tokens {σ : Type} {moves : List (Move σ)} {token : Option String} :
    token ∈ moves.filterMap Move.token? ↔ .setToken token ∈ moves := by
  rw [List.mem_filterMap]
  constructor
  · rintro ⟨m, hm, ht⟩
    cases m with
    | setToken token' =>
      cases ht
      exact hm
    | begin | serve | land | detach | outside => cases ht
  · exact fun hm => ⟨_, hm, rfl⟩

/-- The refresh that a call has still to ask the store for. -/
def Flight.unasked? : Flight → Option Refresh
  | .waiting (.fetch r _) => some r
  | _ => none

/-- The refresh that the store has answered. -/
def Told.refresh? : Told → Option Refresh
  | .fetched r _ => some r
  | .written _ _ _ _ => none

namespace Traffic

variable {σ : Type} {keeper : Keeper σ}

/-- The refreshes that the store has still to be asked for. -/
def unasked (t : Traffic σ) : List Refresh := t.calls.filterMap Flight.unasked?

/-- The session was given these tokens, and nothing else became of it; and of the refreshes that
waited for the store, each is answered or still waits. No other one has come. -/
structure Still (t : Traffic σ) (tokens : List (Option String)) (t' : Traffic σ) : Prop where
  session : t'.session = t.session.renamed tokens
  refreshes : ∃ new, t'.told = t.told ++ new ∧
    (new.filterMap Told.refresh? ++ t'.unasked).Perm t.unasked

theorem Still.refl (t : Traffic σ) : t.Still [] t :=
  ⟨rfl, [], (List.append_nil _).symm, .refl _⟩

theorem Still.trans {t t' t'' : Traffic σ} {tokens tokens' : List (Option String)}
    (h : t.Still tokens t') (h' : t'.Still tokens' t'') : t.Still (tokens ++ tokens') t'' := by
  obtain ⟨hs, new, hnew, hperm⟩ := h
  obtain ⟨hs', new', hnew', hperm'⟩ := h'
  refine ⟨by rw [hs', hs, Session.renamed_append], new ++ new', ?_, ?_⟩
  · rw [hnew', hnew, List.append_assoc]
  · rw [List.filterMap_append, List.append_assoc]
    exact (hperm'.append_left _).trans hperm

/-! ## What a move does -/

theorem unasked_split (before after : List Flight) (f : Flight) :
    (before ++ f :: after).filterMap Flight.unasked? = before.filterMap Flight.unasked? ++
      (f.unasked?.toList ++ after.filterMap Flight.unasked?) := by
  rw [List.filterMap_append, List.filterMap_cons]
  cases f.unasked? <;> rfl

/-- Of a call that changes, only what it has to ask the store for counts. -/
theorem perm_unasked_set {calls : List Flight} {k : Nat} {f : Flight} (hk : calls[k]? = some f)
    (g : Flight) : (f.unasked?.toList ++ (calls.set k g).filterMap Flight.unasked?).Perm
      (g.unasked?.toList ++ calls.filterMap Flight.unasked?) := by
  obtain ⟨hlt, rfl⟩ := List.getElem?_eq_some_iff.mp hk
  obtain ⟨before, after, hcalls, -, hset⟩ : ∃ before after, calls = before ++ calls[k] :: after ∧
      before.length = k ∧ calls.set k g = before ++ g :: after := List.exists_of_set hlt
  generalize calls[k] = f at hcalls
  rw [hset, hcalls, unasked_split, unasked_split]
  refine (List.perm_append_comm_assoc _ _ _).trans (.trans (.append_left _ ?_)
    (List.perm_append_comm_assoc _ _ _))
  exact List.perm_append_comm_assoc _ _ _

section
variable {t : Traffic σ} {k : Nat} {f g : Flight}

/-- The session has not changed, and a call goes on that starts no refresh. -/
theorem still_of_set {store : σ} {new : List Told} (hk : t.calls[k]? = some f)
    (h : new.filterMap Told.refresh? ++ g.unasked?.toList = f.unasked?.toList) : t.Still []
      { t with store := store, calls := t.calls.set k g, told := t.told ++ new } := by
  refine ⟨rfl, new, rfl, ?_⟩
  have hperm := perm_unasked_set hk g
  rw [← h, List.append_assoc] at hperm
  exact (List.perm_append_left_iff _).mp ((List.perm_append_comm_assoc _ _ _).trans hperm)

/-- A call that goes on without the store, and starts no refresh. -/
theorem still_of_land (hk : t.calls[k]? = some f) (hf : f.unasked? = none)
    (hg : g.unasked? = none) : t.Still [] { t with calls := t.calls.set k g } := by
  have hset : t.Still [] { t with calls := t.calls.set k g, told := t.told ++ [] } :=
    still_of_set hk (by rw [hf, hg]; rfl)
  rwa [List.append_nil] at hset

end

theorem moved_still {t t' : Traffic σ} {m : Move σ} (hm : Moved keeper t m t')
    (hd : t.session.detached = true) (ht : m.token? = none) : t.Still [] t' := by
  cases hm with
  | still => exact .refl t
  | named token => cases ht
  | outside f => exact ⟨rfl, [], (List.append_nil _).symm, .refl _⟩
  | detached => exact ⟨Session.detach_of_detached hd, [], (List.append_nil _).symm, .refl _⟩
  | began call =>
    obtain ⟨hs, hnone⟩ := Session.begin_of_detached hd call
    have hflight : (Flight.ofProgress (t.session.begin call).1).unasked? = none := by
      rcases h : (t.session.begin call).1 with result | ⟨token, w⟩ | ⟨r, outcome⟩
      · rfl
      · rfl
      · exact (hnone r outcome h).elim
    refine ⟨hs, [], (List.append_nil _).symm, ?_⟩
    simp [unasked, hflight]
  | fetched hk => exact still_of_set hk rfl
  | wrote hk => exact still_of_set hk rfl
  | refreshed hk =>
    rw [Session.finishRefresh_of_detached hd]
    exact still_of_land hk rfl rfl
  | failed hk => exact still_of_land hk rfl rfl
  | applied hk =>
    rw [Session.afterWrite_of_detached hd]
    exact still_of_land hk rfl rfl

theorem step_still {t : Traffic σ} (hd : t.session.detached = true) (m : Move σ) :
    t.Still m.token?.toList (t.step keeper m) := by
  cases m with
  | setToken token => exact ⟨rfl, [], (List.append_nil _).symm, .refl _⟩
  | begin | serve | land | detach | outside => exact moved_still (step_moved keeper t _) hd rfl

theorem run_still {t : Traffic σ} (hd : t.session.detached = true) (moves : List (Move σ)) :
    t.Still (moves.filterMap Move.token?) (t.run keeper moves) := by
  induction moves generalizing t with
  | nil => exact .refl t
  | cons m rest ih =>
    have hfirst : t.Still m.token?.toList (t.step keeper m) := step_still hd m
    have hnext : (t.step keeper m).session.detached = true := by
      rw [hfirst.session, Session.detached_renamed, hd]
    have hboth := hfirst.trans (ih hnext)
    have htokens : (m :: rest).filterMap Move.token? =
        m.token?.toList ++ rest.filterMap Move.token? := by
      rw [List.filterMap_cons]
      cases m.token? <;> rfl
    rwa [htokens]

/-- A session that is detached with any calls on their way. Whatever comes after, it stays what it was
as long as it is given no other token; once it is, it is blank and stays so. The store is asked for
refreshes that had waited for it, for each of them once at most, and for no other. -/
theorem detached_session_frozen (keeper : Keeper σ) (t : Traffic σ) (moves : List (Move σ)) :
    let t' := (t.step keeper .detach).run keeper moves
    ((∀ token, .setToken token ∈ moves → token = t.session.token) →
      t'.session = t.session.detach) ∧
    ((∃ token, .setToken token ∈ moves ∧ token ≠ t.session.token) → t'.session.IsBlank) ∧
    ∃ new, t'.told = t.told ++ new ∧
      (new.filterMap Told.refresh? ++ t'.unasked).Perm t.unasked := by
  intro t'
  obtain ⟨hsession, hrefreshes⟩ : (t.step keeper .detach).Still (moves.filterMap Move.token?) t' :=
    run_still rfl moves
  refine ⟨fun hsame => ?_, fun ⟨token, hmem, hne⟩ => ?_, hrefreshes⟩
  · exact hsession.trans (Session.renamed_of_same fun token ht => hsame token (mem_tokens.mp ht))
  · exact hsession ▸ Session.isBlank_renamed ⟨token, mem_tokens.mpr hmem, hne⟩

end Traffic
end Plugboard
