import Plugboard.Proofs.Session.Atomic

/-!
A call that writes asks the store for one write, and what the store answers decides how the call
ends. Whatever else is written while it runs is written by the handlers of its event.

* `Happening.IsWrite`: a write that goes to the store.
* `Writing`: the course of a call that writes.
* `call_writing`: a call that writes, made with a token, takes such a course.
-/
namespace Plugboard

open Run

/-- A write goes to the store. -/
def Happening.IsWrite : Happening → Prop
  | .stored (.write _ _) => True
  | _ => False

theorem Happening.IsTalk.not_isWrite {x : Happening} (hx : x.IsTalk) : ¬ x.IsWrite := by
  cases x with
  | requested | logged => exact id
  | _ => exact hx.elim

namespace Host

/-- The store is asked once, at the start, and has answered at `taken`. A refusal is what the call
comes to. A write that was taken makes the call a success, as soon as its event is delivered; what the
call does after that is no write, and no failure either. -/
structure Writing (play : Player) (id : Nat) (c : SessionCall) (token : String) (w : Write)
    (h : Host) (answer : Except StorageError Entry) (taken : Host) : Prop where
  asked : start (write token w) h = some (.ok answer, taken)
  journal : ∃ talk, taken.journal = h.journal ++ .stored (.write token w) :: talk ∧
    ∀ x ∈ talk, x.IsTalk
  refused : ∀ cause, answer = .error cause →
    start (call play id c) h = some (.ok (.error (.storage cause)), taken)
  accepted : ∀ entry n told, answer = .ok entry →
    start (emit play w.event) taken = some (.ok n, told) →
    ∃ h' done, start (call play id c) h = some (.ok (.ok w.outcome), h') ∧
      h'.journal = told.journal ++ done ∧ ∀ x ∈ done, ¬ x.IsWrite
  exhausted : ∀ entry, answer = .ok entry → start (emit play w.event) taken = none →
    start (call play id c) h = none

theorem call_writing (play : Player) {id : Nat} {c : SessionCall} {token : String} {w : Write}
    {h : Host} (hw : (h.sessionAt id).writeOf c = some w)
    (ht : (h.sessionAt id).token = some token) :
    ∃ answer taken, Writing play id c token w h answer taken := by
  obtain ⟨answer, taken, ewrite, hasked⟩ := write_answers token w h
  have hcall := call_start_of_write play id (Session.begin_of_writeOf hw ht)
  refine ⟨answer, taken, ewrite, hasked.journal, ?_, ?_, ?_⟩
  · rintro cause rfl
    exact hcall.trans (settle_start_of_refused play id ewrite)
  · rintro entry n told rfl htold
    obtain ⟨h', hsettle, hlanded⟩ := settle_start_of_written play id ewrite htold
    obtain ⟨done, hjournal, hdone⟩ := hlanded.journal
    refine ⟨h', done, hcall.trans hsettle, hjournal, ?_⟩
    rcases hdone with rfl | ⟨other, talk, rfl, htalk⟩
    · simp
    · exact List.forall_mem_cons.mpr ⟨fun hw => hw, fun x hx => (htalk x hx).not_isWrite⟩
  · rintro entry rfl htold
    exact hcall.trans (settle_start_of_exhausted play id ewrite htold)

end Host
end Plugboard
