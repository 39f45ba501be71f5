import Plugboard.Proofs.Session.Bystanders
import Plugboard.Proofs.Session.Update

/-!
Sessions on one host do not interfere. As long as no two of them have the same token, and handlers
leave them alone, what becomes of one follows from its own calls, and the calls of all others could as
well not have been made.

* `Desk.calls`, `Host.callEach`: the calls of one user, and calls of many in turn.
* `callEach_desk`: each seat goes through its own calls.
* `sessions_apart`: the calls of others can be left out.
-/
namespace Plugboard

open Run Relation

/-- The calls of one user, one after the other. -/
def Desk.calls (d : Desk) : List SessionCall → List (Except SessionError Outcome) × Desk
  | [] => ([], d)
  | c :: rest =>
    let (r, d) := d.call c
    let (rs, d) := d.calls rest
    (r :: rs, d)

namespace Host

/-- Whole calls of sessions, one after the other, each result with the number of its session. -/
def callEach (play : Player) :
    List (Nat × SessionCall) → HostRun (List (Nat × Except SessionError Outcome))
  | [] => return []
  | (id, c) :: rest => do
    let r ← call play id c
    let rs ← callEach play rest
    return (id, r) :: rs

section
variable {play : Player} {seats : List Seat} (happart : SeatsApart seats)
include happart

theorem callEach_desk {calls : List (Nat × SessionCall)} {h : Host} (hroom : Room play seats h)
    (hcalls : ∀ x ∈ calls, ∃ s ∈ seats, s.id = x.1) : ∃ rs h',
      start (callEach play calls) h = some (.ok rs, h') ∧ Room play seats h' ∧
      rs.map (·.1) = calls.map (·.1) ∧ ∀ s ∈ seats,
        let own := (h.desk s).calls ((calls.filter (·.1 = s.id)).map (·.2))
        rs.filter (·.1 = s.id) = own.1.map (s.id, ·) ∧ h'.desk s = own.2 := by
  induction calls generalizing h with
  | nil => exact ⟨[], h, rfl, hroom, rfl, fun _ _ => ⟨rfl, rfl⟩⟩
  | cons x calls ih =>
    obtain ⟨id, c⟩ := x
    obtain ⟨⟨s₀, hs₀, hid⟩, hrest⟩ := List.forall_mem_cons.mp hcalls
    dsimp only at hid
    subst hid
    obtain ⟨h₁, ecall, hcourse⟩ := call_desk happart hs₀ hroom c
    obtain ⟨rs, h', erest, hroom', hids, hdesks⟩ := ih hcourse.room hrest
    refine ⟨(s₀.id, ((h.desk s₀).call c).1) :: rs, h', ?_, hroom', ?_, fun s hs => ?_⟩
    · rw [callEach, start_bind, ecall]
      dsimp only
      rw [start_bind, erest]
      rfl
    · rw [List.map_cons, List.map_cons, hids]
    · -- The first call changes the desk of its own seat, and the rest goes on from there.
      have hown := hdesks s hs
      by_cases heq : s = s₀
      · subst heq
        rw [hcourse.own] at hown
        simp only [List.filter_cons, List.map_cons, decide_true, if_true, Desk.calls]
        exact ⟨congrArg _ hown.1, hown.2⟩
      · have hne : s₀.id ≠ s.id := (hroom.id_ne happart hs₀ hs heq).symm
        rw [hcourse.others s hs heq] at hown
        simpa only [List.filter_cons, hne, decide_false, Bool.false_eq_true, if_false] using hown

/-- Seats take turns at their calls. Leave out all calls but those of one seat: its calls have the
same results, and in the end its session and the entries that the store has for it are the same. -/
theorem sessions_apart {h : Host} (hroom : Room play seats h) {calls : List (Nat × SessionCall)}
    (hcalls : ∀ x ∈ calls, ∃ s ∈ seats, s.id = x.1) {s : Seat} (hs : s ∈ seats) :
    ∃ rs h' g', start (callEach play calls) h = some (.ok rs, h') ∧
      start (callEach play (calls.filter (·.1 = s.id))) h =
        some (.ok (rs.filter (·.1 = s.id)), g') ∧
      g'.sessionAt s.id = h'.sessionAt s.id ∧ g'.entries? s.token = h'.entries? s.token := by
  obtain ⟨rs, h', e, -, -, hdesks⟩ := callEach_desk happart hroom hcalls
  have hleft : ∀ x ∈ calls.filter (·.1 = s.id), ∃ t ∈ seats, t.id = x.1 :=
    fun x hx => hcalls x (List.mem_filter.mp hx).1
  obtain ⟨rs', g', e', -, hids, hdesks'⟩ := callEach_desk happart hroom hleft
  obtain ⟨hresults, hdesk⟩ := hdesks s hs
  obtain ⟨hresults', hdesk'⟩ := hdesks' s hs
  simp only [List.filter_filter, Bool.and_self] at hresults' hdesk'
  have hall : rs'.filter (·.1 = s.id) = rs' := by
    refine List.filter_eq_self.mpr fun x hx => ?_
    have hmem : x.1 ∈ (calls.filter (·.1 = s.id)).map (·.1) :=
      hids ▸ List.mem_map_of_mem hx
    obtain ⟨y, hy, hyx⟩ := List.mem_map.mp hmem
    rw [← hyx]
    exact (List.mem_filter.mp hy).2
  have hsame : rs' = rs.filter (·.1 = s.id) := by rw [← hall, hresults', hresults]
  have hdesks : g'.desk s = h'.desk s := hdesk'.trans hdesk.symm
  refine ⟨rs, h', g', e, hsame ▸ e', ?_, ?_⟩
  · exact congrArg Desk.session hdesks
  · exact congrArg Desk.entries hdesks

end

/-! ## Two users -/

/-- Two sessions on a store that knows both users, and two listeners. -/
def shared : Host :=
  { alone Traffic.chatSession
      ((Traffic.chatStore.seed "bob" []).seed "ada" Traffic.chatSession.entries) with
    sessions := [Traffic.chatSession, Session.new (some "bob")]
    bus := (Bus.empty.add .enabled (.mark 0 "chat")).add .configUpdated
      (.code fun _ => .ask (.note (.said .null)) fun _ => .panic .other) }

theorem sessions_apart_shared :
    let ada : Seat := ⟨0, "ada"⟩
    let bob : Seat := ⟨1, "bob"⟩
    let calls : List (Nat × SessionCall) := [(0, .update "chat" Traffic.firstKey),
      (1, .toggle "chat" true), (0, .toggle "chat" true), (1, .update "chat" Traffic.secondKey)]
    SeatsApart [ada, bob] ∧ Room (player 1) [ada, bob] shared ∧
    (∀ x ∈ calls, ∃ s ∈ [ada, bob], s.id = x.1) ∧ bob ∈ [ada, bob] ∧
    ∃ rs h' g', start (callEach (player 1) calls) shared = some (.ok rs, h') ∧
      start (callEach (player 1) (calls.filter (·.1 = bob.id))) shared =
        some (.ok (rs.filter (·.1 = bob.id)), g') ∧
      g'.sessionAt bob.id = h'.sessionAt bob.id ∧ g'.entries? bob.token = h'.entries? bob.token := by
  intro ada bob calls
  have happart : SeatsApart [ada, bob] := by decide
  have hbystanders : ∀ x ∈ shared.bus.handlers, x.listener.IsBystander :=
    List.forall_mem_cons.mpr ⟨trivial, List.forall_mem_singleton.mpr fun _ =>
      .ask trivial fun _ => .panic _⟩
  have hlogin : ∀ s ∈ [ada, bob], (shared.sessionAt s.id).token = some s.token :=
    List.forall_mem_cons.mpr ⟨rfl, List.forall_mem_singleton.mpr rfl⟩
  have hroom : Room (player 1) [ada, bob] shared :=
    ⟨⟨_, rfl, rfl⟩, hlogin, handlersAloof_of_bystanders 0 hbystanders _⟩
  have hcalls : ∀ x ∈ calls, ∃ s ∈ [ada, bob], s.id = x.1 := by
    simp [calls, ada, bob]
  have hbob : bob ∈ [ada, bob] := List.mem_cons_of_mem _ List.mem_cons_self
  exact ⟨happart, hroom, hcalls, hbob, sessions_apart happart hroom hcalls hbob⟩

end Host
end Plugboard
