import Plugboard.Proofs.Session.Basic
import Plugboard.Proofs.Session.Traffic

/-!
A session holds nothing of another user. Whatever was asked for with an earlier token is dropped
when it comes, however late, and however often the token has changed since.

* `Session.Own`: what a session holds was told to it for its present token.
* `Traffic.identity_kept`: this is so after every run from a new session.
-/
namespace Plugboard

/-- The store has handed out the entry to a call that was made with the token. -/
inductive Told.Vouches (token : String) (e : Entry) : Told → Prop
  | fetched {number : Nat} {l : List Entry} (h : e ∈ l) :
      Vouches token e (.fetched ⟨token, number⟩ (.ok l))
  | written {call : Nat} {w : Write} : Vouches token e (.written call token w (.ok e))

/-- An answer that is on its way to the session was given by the store. -/
def Flight.Known (told : List Told) : Flight → Prop
  | .fetched r _ a => .fetched r a ∈ told
  | .written token w a => ∃ call, .written call token w a ∈ told
  | _ => True

theorem Flight.Known.append {told : List Told} {f : Flight} (h : f.Known told)
    (more : List Told) : f.Known (told ++ more) := by
  cases f with
  | waiting => trivial
  | finished => trivial
  | fetched => exact List.mem_append_left _ h
  | written =>
    obtain ⟨call, h⟩ := h
    exact ⟨call, List.mem_append_left _ h⟩

namespace Session

/-- Everything that the session holds comes from answers to calls with its own token. -/
structure Own (told : List Told) (s : Session) : Prop where
  entries : ∀ e ∈ s.entries, ∃ token, s.token = some token ∧ ∃ x ∈ told, x.Vouches token e
  error : ∀ text, s.error = some text → ∃ token number cause, s.token = some token ∧
    .fetched ⟨token, number⟩ (.error cause) ∈ told ∧ text = failureText cause
  loading : s.token = none → s.loading = false

variable {told : List Told} {s : Session}

theorem new_own (token : Option String) : Own told (new token) := by
  constructor <;> simp [new]

theorem Own.append (h : s.Own told) (more : List Told) : s.Own (told ++ more) where
  entries := by
    intro e he
    obtain ⟨token, ht, x, hx, hv⟩ := h.entries e he
    exact ⟨token, ht, x, List.mem_append_left _ hx, hv⟩
  error := by
    intro text he
    obtain ⟨token, number, cause, ht, hx, htext⟩ := h.error text he
    exact ⟨token, number, cause, ht, List.mem_append_left _ hx, htext⟩
  loading := h.loading

theorem Own.startRefresh (h : s.Own told) : s.startRefresh.2.Own told where
  entries := by simpa using h.entries
  error := by simpa using h.error
  loading := by
    rw [token_startRefresh]
    intro ht
    rw [startRefresh_of_token_none ht]
    exact h.loading ht

theorem Own.begin (h : s.Own told) (call : SessionCall) : (s.begin call).2.Own told := by
  rcases begin_cases s call with ⟨result, hs⟩ | ⟨token, w, -, -, hs⟩ | ⟨r, -, hs⟩ <;> rw [hs]
  · exact h
  · exact h
  · exact h.startRefresh

/-- Another token leaves nothing that would need an answer. -/
theorem Own.setToken (h : s.Own told) (token : Option String) : (s.setToken token).Own told := by
  unfold Session.setToken
  split
  · exact h
  · constructor <;> simp

theorem Own.detach (h : s.Own told) : s.detach.Own told := { h with }

/-- A refresh that is taken over was made with the present token. -/
theorem Own.finishRefresh (h : s.Own told) {r : Refresh} {a : Except StorageError (List Entry)}
    (ha : .fetched r a ∈ told) : (s.finishRefresh r a).Own told := by
  unfold Session.finishRefresh
  split
  next hr =>
    obtain ⟨-, -, ht⟩ := awaits_iff.mp hr
    cases a with
    | ok l => exact ⟨fun e he => ⟨_, ht, _, ha, .fetched he⟩, by simp, fun _ => rfl⟩
    | error cause =>
      refine ⟨h.entries, fun text htext => ?_, fun _ => rfl⟩
      cases htext
      exact ⟨_, _, _, ht, ha, rfl⟩
  next => exact h

/-- A write that is taken over was made with the present token. -/
theorem Own.applyWritten (h : s.Own told) {call : Nat} {token : String} {w : Write} {e : Entry}
    (ha : .written call token w (.ok e) ∈ told) : (s.applyWritten token e).Own told := by
  unfold Session.applyWritten
  split
  next hs =>
    have ht : s.token = some token := by simp at hs; exact hs.2
    refine { h with entries := fun x hx => ?_ }
    rcases mem_putEntry hx with rfl | hx
    · exact ⟨token, ht, _, ha, .written⟩
    · exact h.entries x hx
  next => exact h

end Session

namespace Traffic

variable {σ : Type} {keeper : Keeper σ}

/-- The invariant of a run. -/
structure Kept (t : Traffic σ) : Prop where
  own : t.session.Own t.told
  known : ∀ f ∈ t.calls, f.Known t.told

theorem start_kept (token : Option String) (store : σ) : Kept (start (.new token) store) :=
  ⟨Session.new_own token, by simp⟩

theorem moved_known {t t' : Traffic σ} {m : Move σ} (h : ∀ f ∈ t.calls, f.Known t.told)
    (hm : Moved keeper t m t') : ∀ f ∈ t'.calls, f.Known t'.told := by
  cases hm with
  | still | named | detached | outside => exact h
  | began call =>
    intro f hf
    rcases List.mem_append.mp hf with hf | hf
    · exact h f hf
    · obtain rfl := List.mem_singleton.mp hf
      cases (t.session.begin call).1 <;> trivial
  | fetched hk =>
    exact forall_set (fun f hf => (h f hf).append _) _ (List.mem_append_right _ List.mem_cons_self)
  | @wrote k =>
    exact forall_set (fun f hf => (h f hf).append _) _
      ⟨k, List.mem_append_right _ List.mem_cons_self⟩
  | refreshed | failed => exact forall_set h _ trivial
  | applied =>
    refine forall_set h _ ?_
    split <;> trivial

theorem moved_own {t t' : Traffic σ} {m : Move σ} (h : t.Kept) (hm : Moved keeper t m t') :
    t'.session.Own t'.told := by
  have hmem : ∀ {k : Nat} {f : Flight}, t.calls[k]? = some f → f.Known t.told :=
    fun hk => h.known _ (List.mem_of_getElem? hk)
  cases hm with
  | still | failed | outside => exact h.own
  | began call => exact h.own.begin call
  | fetched | wrote => exact h.own.append _
  | refreshed hk => exact h.own.finishRefresh (hmem hk)
  | applied hk =>
    obtain ⟨call, htold⟩ := hmem hk
    exact (h.own.applyWritten htold).startRefresh
  | named token => exact h.own.setToken token
  | detached => exact h.own.detach

/-- Whatever calls are made, whatever the store answers and in whatever order the answers come: the
entries were handed out for the present token, the error is that of a refresh with it, and without
a token there is nothing at all. -/
theorem identity_kept (keeper : Keeper σ) (token : Option String) (store : σ)
    (moves : List (Move σ)) :
    let t := (start (.new token) store).run keeper moves
    (∀ e ∈ t.session.entries, ∃ token, t.session.token = some token ∧
      ∃ x ∈ t.told, x.Vouches token e) ∧
    (∀ text, t.session.error = some text → ∃ token number cause, t.session.token = some token ∧
      .fetched ⟨token, number⟩ (.error cause) ∈ t.told ∧ text = Session.failureText cause) ∧
    (t.session.token = none →
      t.session.entries = [] ∧ t.session.error = none ∧ t.session.loading = false) := by
  intro t
  have h : t.Kept := run_induction
    (fun _ _ _ _ hm h => ⟨moved_own h hm, moved_known h.known hm⟩)
    (start_kept token store) moves fun _ _ => trivial
  refine ⟨h.own.entries, h.own.error, fun hnone => ⟨?_, ?_, h.own.loading hnone⟩⟩
  · refine List.eq_nil_iff_forall_not_mem.mpr fun e he => ?_
    obtain ⟨_, hsome, _⟩ := h.own.entries e he
    cases hnone.symm.trans hsome
  · refine Option.eq_none_iff_forall_ne_some.mpr fun text he => ?_
    obtain ⟨_, _, _, hsome, _⟩ := h.own.error text he
    cases hnone.symm.trans hsome

end Traffic
end Plugboard
