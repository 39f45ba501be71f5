import Plugboard.Proofs.Session.Calls
import Plugboard.Proofs.Session.Update

/-!
Calls that write are atomic. Either nothing has happened to anything that can be seen, or the store
has taken the write, and then its event goes out before the session hears of it.

* `Unchanged`: what a failed call leaves behind.
* `Carried`: the course of a call that succeeds, with the hosts it goes through.
* `call_atomic`: there is no third way, and a call fails only for want of a token or because the
  store has refused the write.
-/
namespace Plugboard.Host

open Run

/-- Nothing but the refused write was asked of the store, and no event was published. -/
structure Unchanged (h h' : Host) : Prop where
  rest : h' = { h with store := h'.store, backend := h'.backend, journal := h'.journal }
  journal : ∃ done, h'.journal = h.journal ++ done ∧
    ∀ x ∈ done, x.IsTalk ∨ ∃ token w, x = .stored (.write token w)
  entries : ∀ m, h.store = .memory m →
    ∃ m', h'.store = .memory m' ∧ ∀ token, m'.entries? token = m.entries? token

/-- The course of a call that writes and succeeds. The store takes the write at `taken`, when
the sessions are as they were and nothing else was asked or published; the event is published there
and delivered up to `told`; only then does the session hear of the write, and refresh. -/
structure Carried (play : Player) (id : Nat) (token : String) (w : Write) (entry : Entry)
    (h taken told h' : Host) : Prop where
  login : (h.sessionAt id).token = some token
  wrote : start (write token w) h = some (.ok (.ok entry), taken)
  asked : Asked (.write token w) h taken
  delivered : start ((taken.bus.handlersFor w.event.type).forM (deliver play w.event))
    { taken with journal := taken.journal ++ [.published w.event] } = some (.ok ⟨⟩, told)
  landed : Landed id token entry told h'
  journal : ∃ done, h'.journal = told.journal ++ done ∧
    (done = [] ∨ ∃ other talk, done = .stored (.fetch other) :: talk ∧ ∀ x ∈ talk, x.IsTalk)

theorem Unchanged.refl (h : Host) : Unchanged h h :=
  ⟨rfl, ⟨[], (List.append_nil _).symm, by simp⟩, fun m hm => ⟨m, hm, fun _ => rfl⟩⟩

/-- A write that the store refuses leaves its data alone. -/
theorem unchanged_of_refused {token : String} {w : Write} {cause : StorageError} {h h' : Host}
    (e : start (write token w) h = some (.ok (.error cause), h'))
    (ha : Asked (.write token w) h h') : Unchanged h h' := by
  obtain ⟨hrest, talk, hjournal, htalk⟩ := ha
  refine ⟨hrest, ⟨_, hjournal, ?_⟩, fun m hm => ?_⟩
  · intro x hx
    rcases List.mem_cons.mp hx with rfl | hx
    · exact .inr ⟨token, w, rfl⟩
    · exact .inl (htalk x hx)
  · rw [write_memory hm] at e
    obtain ⟨ha, rfl⟩ : Except.ok (m.write token w).1 = .ok (.error cause) ∧ _ = h' :=
      Prod.mk.inj (Option.some.inj e)
    exact ⟨_, rfl, MemoryStore.entries?_of_write_error (Except.ok.inj ha)⟩

/-- After the delivery of its event, a call publishes nothing and fetches once at most. -/
theorem Landed.journal {id : Nat} {token : String} {entry : Entry} {h h' : Host}
    (hl : Landed id token entry h h') : ∃ done, h'.journal = h.journal ++ done ∧
      (done = [] ∨ ∃ other talk, done = .stored (.fetch other) :: talk ∧
        ∀ x ∈ talk, x.IsTalk) := by
  cases hl with
  | still ha => exact ⟨[], (List.append_nil _).symm, .inl rfl⟩
  | @refreshed r s answer h₁ ha e =>
    obtain ⟨answer', h₁', e', hasked⟩ := fetch_answers r.token (h.withSession id s)
    cases e.symm.trans e'
    obtain ⟨talk, hjournal, htalk⟩ := hasked.journal
    let complaint := complaint (h₁.sessionAt id) r answer
    have hend : (h₁.refreshed id r answer).journal =
        h.journal ++ .stored (.fetch r.token) :: (talk ++ complaint) := by
      change h₁.journal ++ complaint = _
      rw [hjournal, journal_withSession, List.append_assoc, List.cons_append]
    refine ⟨_, hend, .inr ⟨r.token, _, rfl, ?_⟩⟩
    intro x hx
    exact (List.mem_append.mp hx).elim (htalk x) (talk_complaint _ _ _ x)

/-- A call that writes, whatever the store and the handlers of its event do. If it fails, what can
be seen of the sessions and of the store is as before, and no event was published and nothing
fetched. If it succeeds, it has published one event itself, after the store took the write, before
the fetch of the refresh, and with the sessions still as they were; the event carries the settings
that the call hands back. It fails only without a token or when the store refuses the write, so that
a refresh that fails is no failure of the call. -/
theorem call_atomic {play : Player} {id : Nat} {c : SessionCall} {w : Write} {h h' : Host}
    {r : Except Panic (Except SessionError Outcome)} (hw : (h.sessionAt id).writeOf c = some w)
    (e : start (call play id c) h = some (r, h')) :
    ((∃ cause, r = .ok (.error cause)) ∧ Unchanged h h' ∧
      ((h.sessionAt id).token = none ∨ ∃ token cause taken,
        (h.sessionAt id).token = some token ∧
        start (write token w) h = some (.ok (.error cause), taken))) ∨
    (r = .ok (.ok w.outcome) ∧
      (∃ token entry taken told, Carried play id token w entry h taken told h') ∧
      ∀ settings, w.outcome = .updated settings →
        w.event.payload = some (Json.ofSettings settings)) := by
  cases ht : (h.sessionAt id).token with
  | none =>
    have hcall := call_start_of_finished play id (Session.begin_of_token_none hw ht)
    cases e.symm.trans hcall
    exact .inl ⟨⟨_, rfl⟩, .refl h, .inl rfl⟩
  | some token =>
    rw [call_start_of_write play id (Session.begin_of_writeOf hw ht)] at e
    obtain ⟨answer, taken, ewrite, hasked⟩ := write_answers token w h
    cases answer with
    | error cause =>
      cases e.symm.trans (settle_start_of_refused play id ewrite)
      exact .inl ⟨⟨_, rfl⟩, unchanged_of_refused ewrite hasked,
        .inr ⟨token, cause, h', rfl, ewrite⟩⟩
    | ok entry =>
      cases htold : start (emit play w.event) taken with
      | none => cases e.symm.trans (settle_start_of_exhausted play id ewrite htold)
      | some x =>
        obtain ⟨x, told⟩ := x
        obtain ⟨n, rfl⟩ := emit_ok htold
        obtain ⟨h'', hsettle, hlanded⟩ := settle_start_of_written play id ewrite htold
        cases e.symm.trans hsettle
        refine .inr ⟨rfl, ⟨token, entry, taken, told, ht, ewrite, hasked, emit_start htold,
          hlanded, hlanded.journal⟩, ?_⟩
        intro settings hsettings
        cases w with
        | toggle plugin enabled => cases hsettings
        | replaceSettings plugin c =>
          cases hsettings
          rfl

/-- An update on a host that has nothing installed. -/
theorem call_atomic_update :
    let h := alone Traffic.chatSession Traffic.chatStore
    let w := Write.replaceSettings "chat" (.ofList [("a", "1"), ("z", "0")])
    (h.sessionAt 0).writeOf (.update "chat" Traffic.firstKey) = some w ∧
    ∃ h', start (call (player 1) 0 (.update "chat" Traffic.firstKey)) h =
        some (.ok (.ok w.outcome), h') ∧
      ∃ token entry taken told, Carried (player 1) 0 token w entry h taken told h' := by
  intro h w
  have hw : (h.sessionAt 0).writeOf (.update "chat" Traffic.firstKey) = some w := rfl
  have e : start (call (player 1) 0 (.update "chat" Traffic.firstKey)) h =
    some (.ok (.ok w.outcome), _) := rfl
  refine ⟨hw, _, e, ?_⟩
  rcases call_atomic hw e with ⟨⟨_, hr⟩, -⟩ | ⟨-, hcarried, -⟩
  · cases hr
  · exact hcarried

end Plugboard.Host
