import Mathlib.Logic.Relation
import Plugboard.Proofs.Session.Calls

/-!
What a call of a session comes to depends on what belongs to its user alone: the session, and the
entries that the store has for its token.

* `Desk`, `Desk.call`: what belongs to a user, and what a call makes of it.
* `Seat`: a session, by its number and the token that it keeps.
* `Aloof`: the handlers of an event leave the seats alone.
* `Room`: the store does not fail, the seats have their tokens, and handlers are aloof from now on.
* `call_desk`: in a room, a call does to its own desk what `Desk.call` says, and nothing to any other.
-/
namespace Plugboard

open Run Relation

/-! ## Desks -/

/-- What belongs to one user: a session, and the entries that the store has for its token. -/
structure Desk where
  session : Session
  entries : Option (List Entry)
  deriving DecidableEq

namespace Desk

/-- The answer to a fetch. -/
def answer (d : Desk) : Except StorageError (List Entry) :=
  match d.entries with
  | some l => .ok l
  | none => .error .unauthorized

/-- A refresh from its start to its end. -/
def refresh (d : Desk) : Desk :=
  match d.session.startRefresh with
  | (none, s) => { d with session := s }
  | (some r, s) => { d with session := s.finishRefresh r d.answer }

/-- A write, what the session takes over of it, and the refresh after it. -/
def write (d : Desk) (token : String) (w : Write) : Except SessionError Outcome × Desk :=
  match d.entries with
  | none => (.error (.storage .unauthorized), d)
  | some l =>
    let (e, l) := MemoryStore.applyWrite w l
    (.ok w.outcome, refresh ⟨d.session.applyWritten token e, some l⟩)

/-- A whole call. -/
def call (d : Desk) (c : SessionCall) : Except SessionError Outcome × Desk :=
  match d.session.writeOf c, d.session.token with
  | none, _ => (.ok .refreshed, d.refresh)
  | some _, none => (.error .notAuthenticated, d)
  | some w, some token => d.write token w

end Desk

/-! ## A store that does not fail -/

namespace MemoryStore

variable {m : MemoryStore}

/-- Someone unknown is refused, and anyone else is handed their entries. -/
theorem fetch_of_steady (hm : m.failNext = none) (token : String) (s : Session) : m.fetch token =
    (Desk.answer ⟨s, m.entries? token⟩, { m with fetches := m.fetches + 1 }) := by
  obtain ⟨users, failNext, fetches, writes⟩ := m
  cases hm
  have hcounted : (⟨users, none, fetches + 1, writes⟩ : MemoryStore).entries? token =
    (⟨users, none, fetches, writes⟩ : MemoryStore).entries? token := rfl
  simp only [fetch, takeFailure, Option.map_none, Desk.answer, hcounted]
  cases (⟨users, none, fetches, writes⟩ : MemoryStore).entries? token <;> rfl

/-- Someone unknown is refused, and anyone else is written for. -/
theorem write_of_steady (hm : m.failNext = none) (token : String) (w : Write) :
    (m.entries? token = none ∧ m.write token w = (.error .unauthorized, m)) ∨
    ∃ l, m.entries? token = some l ∧ m.write token w = (.ok (applyWrite w l).1,
      { m.seed token (applyWrite w l).2 with writes := m.writes + 1 }) := by
  obtain ⟨users, failNext, fetches, writes⟩ := m
  cases hm
  cases hl : (⟨users, none, fetches, writes⟩ : MemoryStore).entries? token with
  | none => exact .inl ⟨rfl, by simp [write, takeFailure, hl]⟩
  | some l => exact .inr ⟨l, rfl, by simp [write, takeFailure, hl, seed]⟩

end MemoryStore

/-! ## Seats -/

/-- A session by its number, with the token that it keeps. -/
structure Seat where
  id : Nat
  token : String
  deriving DecidableEq

namespace Host

/-- What a store in memory has for a token. -/
def entries? (h : Host) (token : String) : Option (List Entry) :=
  match h.store with
  | .memory m => m.entries? token
  | .remote => none

/-- The store is in memory, and its next call is not told to fail. -/
def Steady (h : Host) : Prop := ∃ m, h.store = .memory m ∧ m.failNext = none

def desk (h : Host) (s : Seat) : Desk := ⟨h.sessionAt s.id, h.entries? s.token⟩

/-- What the call of a seat does to a host, but for the delivery of its event. -/
inductive Stride (s : Seat) : Host → Host → Prop
  | session {h : Host} {x : Session} (ht : x.token = some s.token) :
    Stride s h (h.withSession s.id x)
  | fetched {h h' : Host} {r : Except Panic (Except StorageError (List Entry))}
    (e : start (fetch s.token) h = some (r, h')) : Stride s h h'
  | wrote {h h' : Host} {w : Write} {r : Except Panic (Except StorageError Entry)}
    (e : start (write s.token w) h = some (r, h')) : Stride s h h'
  | talked {h : Host} {talk : List Happening} (ht : ∀ x ∈ talk, x.IsTalk) :
    Stride s h { h with journal := h.journal ++ talk }

/-- The desks of the seats are as they were, and the store is not told to fail. -/
structure Aloof (seats : List Seat) (h h' : Host) : Prop where
  desk : ∀ s ∈ seats, h'.desk s = h.desk s
  steady : h.Steady → h'.Steady

/-- One thing that may happen while seats make their calls. -/
inductive Step (play : Player) (seats : List Seat) : Host → Host → Prop
  | stride {s : Seat} {h h' : Host} (hs : s ∈ seats) (hstride : Stride s h h') :
    Step play seats h h'
  | told {w : Write} {r : Except Panic Nat} {h h' : Host}
    (e : start (emit play w.event) h = some (r, h')) : Step play seats h h'

/-- Whatever the calls of the seats come to, the delivery of an event that tells of a write ends and
leaves them alone. -/
def HandlersAloof (play : Player) (seats : List Seat) (h : Host) : Prop :=
  ∀ g, ReflTransGen (Step play seats) h g → ∀ w : Write, ∃ n g',
    start (emit play w.event) g = some (.ok n, g') ∧ Aloof seats g g'

/-- A host on which seats can make their calls undisturbed. -/
structure Room (play : Player) (seats : List Seat) (h : Host) : Prop where
  steady : h.Steady
  login : ∀ s ∈ seats, (h.sessionAt s.id).token = some s.token
  aloof : HandlersAloof play seats h

/-- No two seats have the same token. -/
def SeatsApart (seats : List Seat) : Prop := ∀ s ∈ seats, ∀ t ∈ seats, s.token = t.token → s = t

instance (seats : List Seat) : Decidable (SeatsApart seats) :=
  inferInstanceAs (Decidable (∀ s ∈ seats, ∀ t ∈ seats, s.token = t.token → s = t))

section
variable {h : Host} {s t : Seat}

theorem desk_withSession (ht : (h.sessionAt s.id).token = some s.token) (x : Session) :
    (h.withSession s.id x).desk s = { h.desk s with session := x } := by
  rw [desk, sessionAt_withSession ht]
  rfl

theorem desk_withSession_of_ne (hid : t.id ≠ s.id) (x : Session) :
    (h.withSession s.id x).desk t = h.desk t := by
  have hsession : (h.withSession s.id x).sessionAt t.id = h.sessionAt t.id := by
    simp [sessionAt, withSession, List.getD_eq_getElem?_getD, List.getElem?_set_ne (Ne.symm hid)]
  rw [desk, hsession]
  rfl

theorem entries?_of_memory {m : MemoryStore} (hm : h.store = .memory m) (token : String) :
    h.entries? token = m.entries? token := by
  rw [entries?, hm]

/-- Every seat has a session of its own. -/
theorem Room.id_ne {play : Player} {seats : List Seat} (hroom : Room play seats h)
    (happart : SeatsApart seats) (hs : s ∈ seats) (ht : t ∈ seats) (hne : t ≠ s) : t.id ≠ s.id := by
  intro hid
  have hlogin := hroom.login t ht
  rw [hid, hroom.login s hs] at hlogin
  exact hne (happart t ht s hs (Option.some.inj hlogin).symm)

end

/-- A fetch leaves every desk alone. -/
theorem fetched_aloof {h h' : Host} {token : String}
    {r : Except Panic (Except StorageError (List Entry))} (hsteady : h.Steady)
    (e : start (fetch token) h = some (r, h')) (seats : List Seat) : Aloof seats h h' := by
  obtain ⟨m, hm, hfail⟩ := hsteady
  cases e.symm.trans (fetch_memory hm token)
  refine ⟨fun s _ => ?_, fun _ => ⟨_, rfl, ?_⟩⟩
  · rw [desk, desk, entries?_of_memory hm, entries?_of_memory rfl, MemoryStore.entries?_fetch]
    rfl
  · rw [MemoryStore.fetch_of_steady hfail token (.new none)]
    exact hfail

/-- What a write does to the store. -/
theorem wrote_cases {h h' : Host} {token : String} {w : Write}
    {r : Except Panic (Except StorageError Entry)} (hsteady : h.Steady)
    (e : start (write token w) h = some (r, h')) :
    h'.Steady ∧ (∀ id, h'.sessionAt id = h.sessionAt id) ∧
    ((h.entries? token = none ∧ r = .ok (.error .unauthorized) ∧
      ∀ other, h'.entries? other = h.entries? other) ∨
    ∃ l, h.entries? token = some l ∧ r = .ok (.ok (MemoryStore.applyWrite w l).1) ∧
      ∀ other, h'.entries? other =
        if token = other then some (MemoryStore.applyWrite w l).2 else h.entries? other) := by
  obtain ⟨m, hm, hfail⟩ := hsteady
  cases e.symm.trans (write_memory hm token w)
  simp only [entries?_of_memory hm]
  rcases MemoryStore.write_of_steady hfail token w with ⟨hnone, hw⟩ | ⟨l, hl, hw⟩
  · rw [hw]
    exact ⟨⟨m, rfl, hfail⟩, fun _ => rfl, .inl ⟨hnone, rfl, fun _ => rfl⟩⟩
  · rw [hw]
    exact ⟨⟨_, rfl, hfail⟩, fun _ => rfl, .inr ⟨l, hl, rfl, fun other => m.entries?_seed _ _ _⟩⟩

section
variable {play : Player} {seats : List Seat} {s : Seat} {h h' : Host}

theorem HandlersAloof.step (ha : HandlersAloof play seats h) (hs : Step play seats h h') :
    HandlersAloof play seats h' := fun g hg => ha g (.head hs hg)

theorem Room.aloof_keeps (hroom : Room play seats h) (ha : Aloof seats h h')
    (hs : Step play seats h h') : Room play seats h' where
  steady := ha.steady hroom.steady
  login t ht := by
    have hdesk := congrArg Desk.session (ha.desk t ht)
    exact (congrArg Session.token hdesk).trans (hroom.login t ht)
  aloof := hroom.aloof.step hs

/-- A stride keeps the room, and the desks of all other seats. -/
theorem Room.stride (hroom : Room play seats h) (happart : SeatsApart seats) (hs : s ∈ seats)
    (hstride : Stride s h h') :
    Room play seats h' ∧ ∀ t ∈ seats, t ≠ s → h'.desk t = h.desk t := by
  have hstep : Step play seats h h' := .stride hs hstride
  cases hstride with
  | @session x hx =>
    refine ⟨⟨hroom.steady, fun t ht => ?_, hroom.aloof.step hstep⟩, fun t ht hne =>
      desk_withSession_of_ne (hroom.id_ne happart hs ht hne) x⟩
    by_cases hts : t = s
    · subst hts
      rw [sessionAt_withSession (hroom.login t hs), hx]
    · have hdesk := desk_withSession_of_ne (h := h) (hroom.id_ne happart hs ht hts) x
      exact (congrArg (·.session.token) hdesk).trans (hroom.login t ht)
  | fetched e =>
    have haloof := fetched_aloof hroom.steady e seats
    exact ⟨hroom.aloof_keeps haloof hstep, fun t ht _ => haloof.desk t ht⟩
  | wrote e =>
    obtain ⟨hsteady, hsessions, hentries⟩ := wrote_cases hroom.steady e
    refine ⟨⟨hsteady, fun t ht => by rw [hsessions]; exact hroom.login t ht,
      hroom.aloof.step hstep⟩, fun t ht hne => ?_⟩
    have htoken : s.token ≠ t.token := fun heq => hne (happart s hs t ht heq).symm
    rw [desk, desk, hsessions]
    rcases hentries with ⟨-, -, hkept⟩ | ⟨l, -, -, hkept⟩
    · rw [hkept]
    · rw [hkept, if_neg htoken]
  | talked => exact ⟨⟨hroom.steady, hroom.login, hroom.aloof.step hstep⟩, fun _ _ _ => rfl⟩

/-! ## Calls -/

/-- The seat has come to this desk, and has left every other seat alone. -/
structure Course (play : Player) (seats : List Seat) (s : Seat) (h h' : Host) (d : Desk) :
    Prop where
  room : Room play seats h'
  own : h'.desk s = d
  others : ∀ t ∈ seats, t ≠ s → h'.desk t = h.desk t

theorem Room.course (hroom : Room play seats h) : Course play seats s h h (h.desk s) :=
  ⟨hroom, rfl, fun _ _ _ => rfl⟩

variable {d : Desk} {g : Host} (happart : SeatsApart seats) (hs : s ∈ seats)

include happart hs in
theorem Course.stride (hc : Course play seats s h g d) (hstride : Stride s g h') :
    Course play seats s h h' (h'.desk s) := by
  obtain ⟨hroom, hothers⟩ := hc.room.stride happart hs hstride
  exact ⟨hroom, rfl, fun t ht hne => (hothers t ht hne).trans (hc.others t ht hne)⟩

include hs in
/-- An event is delivered to the end. -/
theorem Course.told (hc : Course play seats s h g d) (w : Write) : ∃ n h',
    start (emit play w.event) g = some (.ok n, h') ∧ Course play seats s h h' d := by
  obtain ⟨n, h', e, ha⟩ := hc.room.aloof g .refl w
  exact ⟨n, h', e, hc.room.aloof_keeps ha (.told e), (ha.desk s hs).trans hc.own,
    fun t ht hne => (ha.desk t ht).trans (hc.others t ht hne)⟩

include happart hs

/-- A session that starts no refresh. -/
theorem Course.still (hc : Course play seats s h g d) {x y : Session}
    (hx : x.token = some s.token) (hstart : x.startRefresh = (none, y)) :
    Course play seats s h (g.withSession s.id y) (Desk.refresh ⟨x, d.entries⟩) := by
  have hy : y.token = some s.token := (Session.token_of_startRefresh hstart).trans hx
  have hend := hc.stride happart hs (.session hy)
  rw [desk_withSession (hc.room.login s hs), hc.own] at hend
  simpa only [Desk.refresh, hstart] using hend

/-- A session that starts a refresh, and has its answer. -/
theorem Course.refreshed (hc : Course play seats s h g d) {x y : Session} {r : Refresh}
    (hx : x.token = some s.token) (hstart : x.startRefresh = (some r, y))
    {answer : Except StorageError (List Entry)}
    (e : start (fetch r.token) (g.withSession s.id y) = some (.ok answer, h')) :
    Course play seats s h (h'.refreshed s.id r answer) (Desk.refresh ⟨x, d.entries⟩) := by
  have hy : y.token = some s.token := (Session.token_of_startRefresh hstart).trans hx
  have hr : r.token = s.token := by
    rcases x.startRefresh_cases with hnone | ⟨token, htoken, hsome⟩
    · cases hstart.symm.trans hnone
    · cases hstart.symm.trans hsome
      exact Option.some.inj (htoken.symm.trans hx)
  rw [hr] at e
  have hstarted := hc.stride happart hs (.session hy)
  rw [desk_withSession (hc.room.login s hs), hc.own] at hstarted
  have hanswered := hstarted.stride happart hs (.fetched e)
  rw [(fetched_aloof hstarted.room.steady e seats).desk s hs, hstarted.own] at hanswered
  have hanswer : answer = d.answer := by
    obtain ⟨m, hm, hfail⟩ := hstarted.room.steady
    have hentries := congrArg Desk.entries hstarted.own
    cases e.symm.trans (fetch_memory hm s.token)
    rw [MemoryStore.fetch_of_steady hfail s.token d.session, ← entries?_of_memory hm]
    exact congrArg (fun l => Desk.answer ⟨d.session, l⟩) hentries
  have hsession : h'.sessionAt s.id = y := congrArg Desk.session hanswered.own
  have hfinished := hanswered.stride happart hs
    (.session (x := (h'.sessionAt s.id).finishRefresh r answer) (by
      rw [Session.token_finishRefresh, hsession, hy]))
  rw [desk_withSession (hanswered.room.login s hs), hanswered.own] at hfinished
  have hend := hfinished.stride happart hs
    (.talked (talk_complaint (h'.sessionAt s.id) r answer))
  have hdesk : (h'.refreshed s.id r answer).desk s = Desk.refresh ⟨x, d.entries⟩ := by
    refine hfinished.own.trans ?_
    simp only [Desk.refresh, hstart, hsession, hanswer]
    rfl
  exact ⟨hend.room, hdesk, hend.others⟩

/-- A call of a seat comes to an end, with the result that follows from its desk, and does to the
desk what follows from it. Every other desk stays as it is. -/
theorem call_desk (hroom : Room play seats h) (c : SessionCall) : ∃ h',
    start (call play s.id c) h = some (.ok ((h.desk s).call c).1, h') ∧
      Course play seats s h h' ((h.desk s).call c).2 := by
  have ht := hroom.login s hs
  have hcourse : Course play seats s h h (h.desk s) := hroom.course
  cases hw : (h.sessionAt s.id).writeOf c with
  | none =>
    have hc : c = .refresh := by
      cases c with
      | refresh => rfl
      | toggle | update => cases hw
    subst hc
    have hdesk : (h.desk s).call .refresh = (.ok .refreshed, (h.desk s).refresh) := rfl
    rw [hdesk]
    cases hd : (h.sessionAt s.id).detached with
    | true =>
      have hstart := Session.startRefresh_of_detached hd
      have hend := hcourse.still happart hs ht hstart
      rw [withSession_sessionAt] at hend
      refine ⟨h, call_start_of_finished play s.id ?_, hend⟩
      simp [Session.begin, Session.writeOf, hstart]
    | false =>
      have hstart := Session.startRefresh_of_attached ht hd
      obtain ⟨answer, h', e, -⟩ := fetch_answers s.token
        (h.withSession s.id (h.sessionAt s.id).startRefresh.2)
      refine ⟨_, call_start_of_refresh play s.id ht hd e, ?_⟩
      rw [hstart] at e
      exact hcourse.refreshed happart hs ht hstart e
  | some w =>
    have hdesk : (h.desk s).call c = (h.desk s).write s.token w := by
      simp only [Desk.call, desk, hw, ht]
    have hcall := call_start_of_write play s.id (Session.begin_of_writeOf hw ht)
    obtain ⟨answer, taken, e, -⟩ := write_answers s.token w h
    have htaken := hcourse.stride happart hs (.wrote e)
    obtain ⟨-, hsessions, ⟨hnone, hr, hkept⟩ | ⟨l, hl, hr, hkept⟩⟩ := wrote_cases hroom.steady e
    · cases hr
      have hwrite : (h.desk s).write s.token w = (.error (.storage .unauthorized), h.desk s) := by
        simp only [Desk.write, desk, hnone]
      have hsame : taken.desk s = h.desk s := by rw [desk, hsessions, hkept, desk]
      rw [hsame] at htaken
      rw [hdesk, hwrite]
      exact ⟨taken, hcall.trans (settle_start_of_refused play s.id e), htaken⟩
    · cases hr
      have hwrite : (h.desk s).write s.token w = (.ok w.outcome, Desk.refresh
          ⟨(h.sessionAt s.id).applyWritten s.token (MemoryStore.applyWrite w l).1,
            some (MemoryStore.applyWrite w l).2⟩) := by
        simp only [Desk.write, desk, hl]
      have hsame : taken.desk s = ⟨h.sessionAt s.id, some (MemoryStore.applyWrite w l).2⟩ := by
        rw [desk, hsessions, hkept, if_pos rfl]
      rw [hsame] at htaken
      obtain ⟨n, told, etold, htold⟩ := htaken.told hs w
      obtain ⟨h', hsettle, hlanded⟩ := settle_start_of_written play s.id e etold
      have hsession : told.sessionAt s.id = h.sessionAt s.id := congrArg Desk.session htold.own
      have htoken : ((h.sessionAt s.id).applyWritten s.token
          (MemoryStore.applyWrite w l).1).token = some s.token := by
        rw [Session.token_applyWritten, ht]
      rw [hdesk, hwrite]
      refine ⟨h', hcall.trans hsettle, ?_⟩
      cases hlanded with
      | still ha =>
        rw [hsession] at ha
        exact htold.still happart hs htoken ha
      | refreshed ha e' =>
        rw [hsession] at ha
        exact htold.refreshed happart hs htoken ha e'

end

end Host
end Plugboard
