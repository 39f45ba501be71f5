import Plugboard.Host.Sessions
import Plugboard.Proofs.Run

/-!
One session with any number of calls on their way. Each call goes from one call to the store to the
next; the store answers at one moment and the session hears of it at a later one, and anything may
come between, such as a handler of the event that tells of a write.

* `Traffic`: the session, the store, the calls, and everything the store has answered.
* `Traffic.step`, `Traffic.run`: one move, and any sequence of them. A move that does not apply to
  the call it names changes nothing.
* `Traffic.Moved`: all that a move can do, with what it needs.
* `resumeCall_ends`: what the host does for a waiting call is the answer of the store, the event,
  and a landing.
-/
namespace Plugboard

/-- A store, by its answers and what becomes of it. -/
structure Keeper (σ : Type) where
  fetch : String → σ → Except StorageError (List Entry) × σ
  write : String → Write → σ → Except StorageError Entry × σ

def Keeper.memory : Keeper MemoryStore where
  fetch token m := m.fetch token
  write token w m := m.write token w

/-- A call of a session on its way. -/
inductive Flight
  | waiting (w : Waiting)
  /-- The store has answered, and the session has not heard of it. -/
  | fetched (r : Refresh) (outcome : Outcome) (answer : Except StorageError (List Entry))
  | written (token : String) (w : Write) (answer : Except StorageError Entry)
  | finished (result : Except SessionError Outcome)

def Flight.ofProgress : Progress → Flight
  | .waiting w => .waiting w
  | .finished result => .finished result

/-- An answer of the store reaches the session. -/
def Session.land (s : Session) : Flight → Flight × Session
  | .fetched r outcome answer => (.finished (.ok outcome), s.finishRefresh r answer)
  | .written _ _ (.error e) => (.finished (.error (.storage e)), s)
  | .written token w (.ok e) =>
    match s.afterWrite token e with
    | (none, s) => (.finished (.ok w.outcome), s)
    | (some r, s) => (.waiting (.fetch r w.outcome), s)
  | .waiting w => (.waiting w, s)
  | .finished result => (.finished result, s)

/-- What the store has answered. The call that a write was for is known by its number. -/
inductive Told
  | fetched (r : Refresh) (answer : Except StorageError (List Entry))
  | written (call : Nat) (token : String) (w : Write) (answer : Except StorageError Entry)

structure Traffic (σ : Type) where
  session : Session
  store : σ
  /-- Every call that was begun, the oldest first. -/
  calls : List Flight
  told : List Told

inductive Move (σ : Type)
  | begin (call : SessionCall)
  /-- The store answers a call. -/
  | serve (call : Nat)
  /-- The answer reaches the session. -/
  | land (call : Nat)
  | setToken (token : Option String)
  | detach
  /-- Something else happens to the store. -/
  | outside (f : σ → σ)

namespace Traffic

variable {σ : Type}

/-- A session and a store between which nothing has happened. -/
def start (s : Session) (store : σ) : Traffic σ := ⟨s, store, [], []⟩

@[simp] theorem calls_start (s : Session) (store : σ) : (start s store).calls = [] := rfl

@[simp] theorem told_start (s : Session) (store : σ) : (start s store).told = [] := rfl

def serve (keeper : Keeper σ) (t : Traffic σ) (k : Nat) : Waiting → Traffic σ
  | .fetch r outcome =>
    let (answer, store) := keeper.fetch r.token t.store
    { t with
      store := store
      calls := t.calls.set k (.fetched r outcome answer)
      told := t.told ++ [.fetched r answer] }
  | .write token w =>
    let (answer, store) := keeper.write token w t.store
    { t with
      store := store
      calls := t.calls.set k (.written token w answer)
      told := t.told ++ [.written k token w answer] }

def land (t : Traffic σ) (k : Nat) (f : Flight) : Traffic σ :=
  { t with session := (t.session.land f).2, calls := t.calls.set k (t.session.land f).1 }

def step (keeper : Keeper σ) (t : Traffic σ) : Move σ → Traffic σ
  | .begin call =>
    { t with
      session := (t.session.begin call).2
      calls := t.calls ++ [.ofProgress (t.session.begin call).1] }
  | .serve k =>
    match t.calls[k]? with
    | some (.waiting w) => t.serve keeper k w
    | _ => t
  | .land k =>
    match t.calls[k]? with
    | some f => t.land k f
    | none => t
  | .setToken token => { t with session := t.session.setToken token }
  | .detach => { t with session := t.session.detach }
  | .outside f => { t with store := f t.store }

def run (keeper : Keeper σ) (t : Traffic σ) (moves : List (Move σ)) : Traffic σ :=
  moves.foldl (step keeper) t

/-! ## What a move can do -/

/-- All that a move can do, with what it needs for it. -/
inductive Moved (keeper : Keeper σ) (t : Traffic σ) : Move σ → Traffic σ → Prop
  | still {m : Move σ} : Moved keeper t m t
  | began (call : SessionCall) : Moved keeper t (.begin call)
      { t with
        session := (t.session.begin call).2
        calls := t.calls ++ [.ofProgress (t.session.begin call).1] }
  | fetched {k : Nat} {r : Refresh} {outcome : Outcome}
      (hk : t.calls[k]? = some (.waiting (.fetch r outcome))) : Moved keeper t (.serve k)
      { t with
        store := (keeper.fetch r.token t.store).2
        calls := t.calls.set k (.fetched r outcome (keeper.fetch r.token t.store).1)
        told := t.told ++ [.fetched r (keeper.fetch r.token t.store).1] }
  | wrote {k : Nat} {token : String} {w : Write}
      (hk : t.calls[k]? = some (.waiting (.write token w))) : Moved keeper t (.serve k)
      { t with
        store := (keeper.write token w t.store).2
        calls := t.calls.set k (.written token w (keeper.write token w t.store).1)
        told := t.told ++ [.written k token w (keeper.write token w t.store).1] }
  | refreshed {k : Nat} {r : Refresh} {outcome : Outcome}
      {answer : Except StorageError (List Entry)}
      (hk : t.calls[k]? = some (.fetched r outcome answer)) : Moved keeper t (.land k)
      { t with
        session := t.session.finishRefresh r answer
        calls := t.calls.set k (.finished (.ok outcome)) }
  | failed {k : Nat} {token : String} {w : Write} {e : StorageError}
      (hk : t.calls[k]? = some (.written token w (.error e))) : Moved keeper t (.land k)
      { t with calls := t.calls.set k (.finished (.error (.storage e))) }
  | applied {k : Nat} {token : String} {w : Write} {e : Entry}
      (hk : t.calls[k]? = some (.written token w (.ok e))) : Moved keeper t (.land k)
      { t with
        session := (t.session.afterWrite token e).2
        calls := t.calls.set k (match (t.session.afterWrite token e).1 with
          | none => .finished (.ok w.outcome)
          | some r => .waiting (.fetch r w.outcome)) }
  | named (token : Option String) : Moved keeper t (.setToken token)
      { t with session := t.session.setToken token }
  | detached : Moved keeper t .detach { t with session := t.session.detach }
  | outside (f : σ → σ) : Moved keeper t (.outside f) { t with store := f t.store }

/-- An answer that is not there changes nothing. -/
theorem land_same {t : Traffic σ} {k : Nat} {f : Flight} (hk : t.calls[k]? = some f)
    (hf : t.session.land f = (f, t.session)) : t.land k f = t := by
  obtain ⟨hlt, rfl⟩ := List.getElem?_eq_some_iff.mp hk
  rw [land, hf, List.set_getElem_self]

theorem step_moved (keeper : Keeper σ) (t : Traffic σ) (m : Move σ) :
    Moved keeper t m (t.step keeper m) := by
  cases m with
  | begin call => exact .began call
  | setToken token => exact .named token
  | detach => exact .detached
  | outside f => exact .outside f
  | serve k =>
    simp only [step]
    split
    next w hk =>
      cases w with
      | fetch r outcome => exact .fetched hk
      | write token w => exact .wrote hk
    next => exact .still
  | land k =>
    simp only [step]
    split
    next f hk =>
      cases f with
      | fetched r outcome answer => exact .refreshed hk
      | written token w answer =>
        cases answer with
        | error e => exact .failed hk
        | ok e =>
          have happlied : Moved keeper t (.land k) _ := .applied hk
          rw [land, Session.land]
          rcases h : t.session.afterWrite token e with ⟨_ | r, s⟩ <;> rwa [h] at happlied
      | waiting w =>
        rw [land_same hk rfl]
        exact .still
      | finished result =>
        rw [land_same hk rfl]
        exact .still
    next => exact .still

/-! ## One call among the others -/

theorem forall_set {P : Flight → Prop} {calls : List Flight} (h : ∀ f ∈ calls, P f) (k : Nat)
    {g : Flight} (hg : P g) : ∀ f ∈ calls.set k g, P f := by
  intro f hf
  rcases List.mem_or_eq_of_mem_set hf with hf | rfl
  · exact h f hf
  · exact hg

theorem mem_set_self {calls : List Flight} {k : Nat} {f : Flight} (hk : calls[k]? = some f)
    (g : Flight) : g ∈ calls.set k g := by
  obtain ⟨hlt, -⟩ := List.getElem?_eq_some_iff.mp hk
  exact List.mem_set hlt g

/-- A call that is not the one that changes is still there. -/
theorem mem_set_of_ne {calls : List Flight} {k : Nat} {f x : Flight} (hk : calls[k]? = some f)
    (hx : x ∈ calls) (hne : x ≠ f) (g : Flight) : x ∈ calls.set k g := by
  obtain ⟨i, hi⟩ := List.mem_iff_getElem?.mp hx
  have hik : k ≠ i := by
    rintro rfl
    exact hne (Option.some.inj (hi.symm.trans hk))
  refine List.mem_iff_getElem?.mpr ⟨i, ?_⟩
  rw [List.getElem?_set_ne hik, hi]

/-! ## Runs -/

/-- What a move keeps, a run keeps. -/
theorem run_induction {keeper : Keeper σ} {P : Traffic σ → Prop} {ok : Move σ → Prop}
    (hstep : ∀ t t' m, ok m → Moved keeper t m t' → P t → P t') {t : Traffic σ}
    (ht : P t) (moves : List (Move σ)) (hm : ∀ m ∈ moves, ok m) : P (t.run keeper moves) := by
  induction moves generalizing t with
  | nil => exact ht
  | cons m rest ih =>
    have hnext : P (t.step keeper m) :=
      hstep t _ m (hm m List.mem_cons_self) (step_moved keeper t m) ht
    exact ih hnext fun m' h => hm m' (List.mem_cons_of_mem _ h)

end Traffic

/-! ## What the host does -/

namespace Host

open Run

/-- What comes between a call that waits on the host and the landing of its answer. -/
inductive Answered (play : Player) (h : Host) : Waiting → Flight → Host → Prop
  | fetched {r : Refresh} {outcome : Outcome} {answer : Except StorageError (List Entry)}
      {h' : Host} (e : Run.start (fetch r.token) h = some (.ok answer, h')) :
      Answered play h (.fetch r outcome) (.fetched r outcome answer) h'
  | refused {token : String} {w : Write} {cause : StorageError} {h' : Host}
      (e : Run.start (write token w) h = some (.ok (.error cause), h')) :
      Answered play h (.write token w) (.written token w (.error cause)) h'
  | written {token : String} {w : Write} {entry : Entry} {n : Nat} {h₁ h' : Host}
      (e : Run.start (write token w) h = some (.ok (.ok entry), h₁))
      (he : Run.start (emit play w.event) h₁ = some (.ok n, h')) :
      Answered play h (.write token w) (.written token w (.ok entry)) h'

/-- A session that does not change stays where it is. -/
theorem set_sessionAt (h : Host) (id : Nat) : h.sessions.set id (h.sessionAt id) = h.sessions := by
  rw [sessionAt]
  by_cases hid : id < h.sessions.length
  · simp [List.getD, List.getElem?_eq_getElem hid]
  · exact List.set_eq_of_length_le (Nat.le_of_not_lt hid)

theorem finishRefresh_ends (id : Nat) (r : Refresh) (h : Host) :
    Ends (finishRefresh id r) h fun x h' => x = .ok ⟨⟩ → ∃ answer h₁,
      Run.start (fetch r.token) h = some (.ok answer, h₁) ∧
      h'.sessions = h₁.sessions.set id ((h₁.sessionAt id).finishRefresh r answer) := by
  rw [finishRefresh, ends_bind]
  intro x h₁ e
  cases x with
  | error p => simp
  | ok answer =>
    simp only [session, setSession, ends_bind, ends_get, ends_pure, ends_modify]
    split
    · cases answer with
      | error cause => exact (ends_modify _ _ _).mpr fun _ => ⟨_, h₁, e, rfl⟩
      | ok entries => exact (ends_pure _ _ _).mpr fun _ => ⟨_, h₁, e, rfl⟩
    · exact (ends_pure _ _ _).mpr fun _ => ⟨_, h₁, e, rfl⟩

/-- The host takes a waiting call on by an answer of the store and its landing. -/
theorem resumeCall_ends (play : Player) (id : Nat) (w : Waiting) (h : Host) :
    Ends (resumeCall play id w) h fun x h' => ∀ p, x = .ok p → ∃ f h₁, Answered play h w f h₁ ∧
      Flight.ofProgress p = ((h₁.sessionAt id).land f).1 ∧
      h'.sessions = h₁.sessions.set id ((h₁.sessionAt id).land f).2 := by
  cases w with
  | fetch r outcome =>
    rw [resumeCall, ends_bind]
    refine (finishRefresh_ends id r h).mono fun x h' hx => ?_
    cases x with
    | error p => simp
    | ok =>
      obtain ⟨answer, h₁, e, hs⟩ := hx rfl
      refine (ends_pure _ _ _).mpr fun p hp => ?_
      cases hp
      exact ⟨_, h₁, .fetched e, rfl, hs⟩
  | write token w =>
    rw [resumeCall, finishWrite, ends_bind, ends_bind]
    intro x h₁ e
    cases x with
    | error p => simp
    | ok answer =>
      cases answer with
      | error cause =>
        simp only [ends_pure]
        intro p hp
        cases hp
        exact ⟨_, h₁, .refused e, rfl, (set_sessionAt h₁ id).symm⟩
      | ok entry =>
        dsimp only
        rw [ends_bind]
        intro y h₂ he
        cases y with
        | error p => simp
        | ok n =>
          have hanswer : Answered play h (.write token w) (.written token w (.ok entry)) h₂ :=
            .written e he
          simp only [session, setSession, ends_bind, ends_get, ends_pure, ends_modify]
          rcases hl : (h₂.sessionAt id).afterWrite token entry with ⟨_ | r, s⟩
          all_goals
            refine (ends_pure _ _ _).mpr fun p hp => ⟨_, h₂, hanswer, ?_⟩
            cases hp
            simp only [Session.land, hl, Flight.ofProgress, and_self]

end Host
end Plugboard
