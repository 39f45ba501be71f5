import Mathlib.Data.List.Induction
import Plugboard.Proofs.Headers
import Plugboard.Proofs.Journal
import Plugboard.Proofs.Session.Writing

/-!
In whose name a plugin acts. A context keeps the token that it was made with, and a call to the backend
carries that token for good. An update of settings goes through the session, and carries whatever token
the session has by then.

* `Since`: what may come between a context and its use, with the tokens that the session was given.
* `Vouched`, `Bears`: what a call to the backend, and an update, have to do with a token.
* `context_credentials`: a call to the backend keeps to the token of its context; an update does so just
  when the session has no token, or that one, at the time.
-/
namespace Plugboard

open Run

/-- The values that a request gives for its authorization. -/
def Http.Request.credentials (q : Http.Request) : List String :=
  (q.headers.filter fun header => Text.sameAsciiLetters "authorization" header.1).map (·.2)

/-- The headers that a plugin names do not count. -/
theorem ApiRequest.credentials_request (r : ApiRequest) (config : HostConfig)
    (plugin token endpoint : String) (u : Http.Url) :
    ((r.request config plugin token endpoint).sentTo u).credentials =
      ((Http.loginOf? (config.endpointUrl plugin endpoint)).map fun l => "Basic " ++ l).toList ++
        ["Bearer " ++ token] :=
  ((r.carries_request config plugin token endpoint).sentTo u).authorization

/-- A log line, or a request with the token for its only authorization beside the login. -/
def Happening.IsVouched (login token : Option String) : Happening → Prop
  | .requested q => ∃ t, token = some t ∧
    q.credentials = (login.map fun l => "Basic " ++ l).toList ++ ["Bearer " ++ t]
  | .logged _ _ => True
  | _ => False

namespace Host

/-! ## The tokens of a session -/

/-- From a host to a later one the session is given these tokens, the last one last. Whatever else
happens in between leaves its token alone. -/
inductive Since (id : Nat) (first : Host) : List (Option String) → Host → Prop
  | begin : Since id first [] first
  | elsewhere {tokens : List (Option String)} {h h' : Host} (hs : Since id first tokens h)
    (ht : (h'.sessionAt id).token = (h.sessionAt id).token)
    (hn : h.sessions.length ≤ h'.sessions.length) : Since id first tokens h'
  | named {tokens : List (Option String)} {token : Option String} {h h' : Host}
    (hs : Since id first tokens h)
    (e : start (changeSession id fun s => s.setToken token) h = some (.ok ⟨⟩, h')) :
    Since id first (tokens ++ [token]) h'

theorem sessionAt_withSession_of_lt {h : Host} {id : Nat} (hid : id < h.sessions.length)
    (s : Session) : (h.withSession id s).sessionAt id = s := by
  simp [sessionAt, withSession, hid]

/-- The token that was given last counts. -/
theorem Since.token {id : Nat} {first h : Host} {tokens : List (Option String)}
    (hs : Since id first tokens h) (hid : id < first.sessions.length) :
    id < h.sessions.length ∧
      (h.sessionAt id).token = tokens.getLast?.getD (first.sessionAt id).token := by
  induction hs with
  | begin => exact ⟨hid, rfl⟩
  | elsewhere _ ht hn ih => exact ⟨Nat.lt_of_lt_of_le ih.1 hn, ht.trans ih.2⟩
  | @named tokens token h h' _ e ih =>
    have hchange : start (changeSession id fun s => s.setToken token) h =
        some (.ok ⟨⟩, h.withSession id ((h.sessionAt id).setToken token)) := rfl
    cases e.symm.trans hchange
    rw [sessionAt_withSession_of_lt ih.1, Session.token_setToken, List.getLast?_concat]
    refine ⟨?_, rfl⟩
    simpa [withSession] using ih.1

/-! ## Calls to the backend -/

/-- The journal gains nothing but log lines and requests that carry the token, beside the login. -/
def Vouched (login token : Option String) (h h' : Host) : Prop :=
  ∃ l, h'.journal = h.journal ++ l ∧ ∀ x ∈ l, x.IsVouched login token

instance (login token : Option String) : Std.Refl (Vouched login token) :=
  ⟨fun _ => ⟨[], (List.append_nil _).symm, List.forall_mem_nil _⟩⟩

instance (login token : Option String) : IsTrans Host (Vouched login token) where
  trans _ _ _ := by
    rintro ⟨l, hl, hall⟩ ⟨l', hl', hall'⟩
    exact ⟨l ++ l', by rw [hl', hl, List.append_assoc], List.forall_mem_append.mpr ⟨hall, hall'⟩⟩

section
variable {login token : Option String}

theorem record_vouched {x : Happening} (hx : x.IsVouched login token) :
    Along (Vouched login token) (record x) :=
  along_modify fun _ => ⟨[x], rfl, List.forall_mem_singleton.mpr hx⟩

theorem exchange_vouched {r : Http.Request}
    (hr : ∀ u, (Happening.requested (r.sentTo u)).IsVouched login token) :
    Along (Vouched login token) (exchange r) :=
  exchange_along (fun u => record_vouched (hr u)) fun _ =>
    along_modify fun _ => ⟨[], (List.append_nil _).symm, List.forall_mem_nil _⟩

end

theorem callApi_vouched (c : Context) (endpoint : String) (r : ApiRequest) (h : Host) :
    Ends (callApi c endpoint r) h fun _ h' =>
      Vouched (Http.loginOf? (h.config.endpointUrl c.plugin endpoint)) c.token h h' := by
  cases hc : c.token with
  | none =>
    rw [ends_of_start (callApi_start_of_none endpoint r hc h)]
    exact Std.Refl.refl h
  | some token =>
    exact callApi_ends hc endpoint r (fun _ _ => record_vouched trivial) <|
      exchange_vouched fun u => ⟨token, rfl, r.credentials_request h.config c.plugin token endpoint u⟩

/-- No answer of the backend is taken for want of a token. -/
theorem readResponse_ne_notAuthenticated (url : String) (answer : Except Http.TransportError Http.Response) :
    ApiRequest.readResponse url answer ≠ .error .notAuthenticated := by
  unfold ApiRequest.readResponse
  cases answer with
  | error e => nofun
  | ok response =>
    dsimp only
    split <;> nofun

/-! ## Updates -/

/-- Either nothing was done for want of a token, or the first thing done was a write with the token. -/
def Bears (token : Option String) (r : Except Panic (Except SessionError Settings))
    (h h' : Host) : Prop :=
  (r = .ok (.error .notAuthenticated) ∧ h' = h) ∨
    ∃ t w rest, token = some t ∧ h'.journal = h.journal ++ .stored (.write t w) :: rest

theorem update_start (play : Player) (id : Nat) (plugin : String) (changes : Settings) (h : Host) :
    start (update play id plugin changes) h = (start (call play id (.update plugin changes)) h).map
      fun x => (x.1.map (·.map Outcome.settings), x.2) := by
  rw [update, start_bind]
  match start (call play id (.update plugin changes)) h with
  | none => rfl
  | some (.error p, t) => rfl
  | some (.ok a, t) => rfl

section
variable {id : Nat} {plugin : String} {changes : Settings} {h h' : Host}

theorem update_start_of_none (play : Player) (ht : (h.sessionAt id).token = none) :
    start (update play id plugin changes) h = some (.ok (.error .notAuthenticated), h) := by
  rw [update_start, call_start_of_finished play id (Session.begin_of_token_none rfl ht)]
  rfl

/-- What handlers do comes after the write. -/
theorem Writing.wrote {depth : Nat} {c : SessionCall} {token : String} {w : Write}
    {answer : Except StorageError Entry} {taken : Host}
    {r : Except Panic (Except SessionError Outcome)}
    (hw : Writing (player depth) id c token w h answer taken)
    (e : start (call (player depth) id c) h = some (r, h')) :
    ∃ rest, h'.journal = h.journal ++ .stored (.write token w) :: rest := by
  obtain ⟨talk, htaken, -⟩ := hw.journal
  cases answer with
  | error cause =>
    cases e.symm.trans (hw.refused cause rfl)
    exact ⟨talk, htaken⟩
  | ok entry =>
    cases htold : start (emit (player depth) w.event) taken with
    | none => cases e.symm.trans (hw.exhausted entry rfl htold)
    | some x =>
      obtain ⟨x, told⟩ := x
      obtain ⟨n, rfl⟩ := emit_ok htold
      obtain ⟨h'', done, hend, hjournal, -⟩ := hw.accepted entry n told rfl htold
      cases e.symm.trans hend
      obtain ⟨l, htold, -⟩ :=
        (emit_served (run_along (server_served depth)) w.event taken _ _ htold).journal
      refine ⟨talk ++ l ++ done, ?_⟩
      rw [hjournal, htold, htaken]
      simp only [List.append_assoc, List.cons_append]

theorem bears_iff {depth : Nat} {token : Option String}
    {r : Except Panic (Except SessionError Settings)}
    (e : start (update (player depth) id plugin changes) h = some (r, h')) :
    Bears token r h h' ↔
      (h.sessionAt id).token = none ∨ (h.sessionAt id).token = token := by
  cases ht : (h.sessionAt id).token with
  | none =>
    cases e.symm.trans (update_start_of_none (player depth) ht)
    exact ⟨fun _ => .inl rfl, fun _ => .inl ⟨rfl, rfl⟩⟩
  | some now =>
    obtain ⟨answer, taken, hw⟩ := call_writing (player depth)
      (c := .update plugin changes) rfl ht
    rw [update_start] at e
    obtain ⟨⟨r', h''⟩, ecall, heq⟩ := Option.map_eq_some_iff.mp e
    cases heq
    obtain ⟨rest, hjournal⟩ := hw.wrote ecall
    constructor
    · rintro (⟨-, rfl⟩ | ⟨t, w, rest', rfl, hjournal'⟩)
      · simp at hjournal
      · have heq := List.append_cancel_left (hjournal.symm.trans hjournal')
        cases heq
        exact .inr rfl
    · rintro (hnone | rfl)
      · cases hnone
      · exact .inr ⟨now, _, rest, rfl, hjournal⟩

end

/-! ## Contexts -/

/-- A context, and what was given to its session since the context was made. Whatever that was, a call
to the backend carries the token that the context reports, with no other but the login of its address,
and is refused, with nothing sent, if that is none. An update is refused if the session has no token by
then; with a token it writes once, and with that token, so that it keeps to the token of the context
just when the two are the same. -/
theorem context_credentials {id : Nat} {plugin : String} {first h₀ h : Host} {c : Context}
    {tokens : List (Option String)} (hid : id < first.sessions.length)
    (hc : start (context id plugin) first = some (.ok c, h₀)) (hs : Since id h₀ tokens h) :
    let now := tokens.getLast?.getD c.token
    (∀ endpoint r, ∃ result h', start (callApi c endpoint r) h = some (.ok result, h') ∧
      Vouched (Http.loginOf? (h.config.endpointUrl c.plugin endpoint)) c.token h h' ∧
      (result = .error .notAuthenticated ↔ c.token = none) ∧
      (c.token = none → h' = h)) ∧
    ∀ depth changes,
      (now = none → start (update (player depth) c.session c.plugin changes) h =
        some (.ok (.error .notAuthenticated), h)) ∧
      (∀ token, now = some token → ∃ w answer taken,
        Writing (player depth) c.session (.update c.plugin changes) token w h answer taken) ∧
      ∀ r h', start (update (player depth) c.session c.plugin changes) h = some (r, h') →
        (Bears c.token r h h' ↔ now = none ∨ now = c.token) := by
  intro now
  have hcontext : start (context id plugin) first =
    some (.ok ((first.sessionAt id).context id plugin), first) := rfl
  cases hc.symm.trans hcontext
  have hnow : (h.sessionAt id).token = now := (hs.token hid).2
  constructor
  · intro endpoint r
    obtain ⟨result, h', e, -⟩ := callApi_answers endpoint r ((first.sessionAt id).context id plugin) h
    refine ⟨result, h', e, callApi_vouched _ endpoint r h _ _ e, ?_, ?_⟩
    · cases ht : ((first.sessionAt id).context id plugin).token with
      | none =>
        cases e.symm.trans (callApi_start_of_none endpoint r ht h)
        simp
      | some token =>
        obtain ⟨url, answer, h'', e'⟩ := callApi_start_of_some endpoint r ht h
        cases e.symm.trans e'
        simpa using readResponse_ne_notAuthenticated url answer
    · intro ht
      cases e.symm.trans (callApi_start_of_none endpoint r ht h)
      rfl
  · intro depth changes
    refine ⟨fun hnone => update_start_of_none _ (hnow.trans hnone), fun token htoken => ?_,
      fun r h' e => ?_⟩
    · obtain ⟨answer, taken, hw⟩ := call_writing (player depth)
        (c := .update plugin changes) rfl (hnow.trans htoken)
      exact ⟨_, answer, taken, hw⟩
    · rw [← hnow]
      exact bears_iff e

/-- A host with one session on a store in memory, after the session was given these tokens. -/
def given (tokens : List (Option String)) : Host :=
  alone (tokens.foldl Session.setToken Traffic.chatSession) Traffic.chatStore

theorem since_given (tokens : List (Option String)) : Since 0 (given []) tokens (given tokens) := by
  induction tokens using List.reverseRecOn with
  | nil => exact .begin
  | append_singleton tokens token ih =>
    have hlast : given (tokens ++ [token]) =
        alone ((tokens.foldl Session.setToken Traffic.chatSession).setToken token)
          Traffic.chatStore := by
      rw [given, List.foldl_append]
      rfl
    rw [hlast]
    exact .named ih rfl

/-- The context of the one session. -/
def chatContext : Context := ⟨"chat", .ofList [("z", "0")], some "ada", 0⟩

theorem context_given : start (context 0 "chat") (given []) = some (.ok chatContext, given []) := rfl

/-- The user is back, and the context acts for them as before. -/
theorem context_credentials_relogin :
    let h := given [some "bob", none, some "ada"]
    0 < (given []).sessions.length ∧
    start (context 0 "chat") (given []) = some (.ok chatContext, given []) ∧
    Since 0 (given []) [some "bob", none, some "ada"] h ∧
    ∃ r h', start (update (player 1) 0 "chat" Traffic.firstKey) h = some (r, h') ∧
      Bears chatContext.token r h h' := by
  intro h
  have hs := since_given [some "bob", none, some "ada"]
  have e : start (update (player 1) 0 "chat" Traffic.firstKey) h = some (_, _) := rfl
  obtain ⟨-, hupdate⟩ := context_credentials Nat.one_pos context_given hs
  exact ⟨Nat.one_pos, context_given, hs, _, _, e,
    ((hupdate 1 Traffic.firstKey).2.2 _ _ e).mpr (.inr rfl)⟩

/-- Another user is there, and the context writes for that one. -/
theorem update_for_another :
    let h := given [some "bob"]
    chatContext.token = some "ada" ∧
    start (context 0 "chat") (given []) = some (.ok chatContext, given []) ∧
    Since 0 (given []) [some "bob"] h ∧
    ∃ r h', start (update (player 1) 0 "chat" Traffic.firstKey) h = some (r, h') ∧
      ¬ Bears chatContext.token r h h' ∧
      ∃ w rest, h'.journal = h.journal ++ .stored (.write "bob" w) :: rest := by
  intro h
  have e : start (update (player 1) 0 "chat" Traffic.firstKey) h = some (_, _) := rfl
  refine ⟨rfl, context_given, since_given _, _, _, e, fun hbears => ?_, _, _, rfl⟩
  rcases (bears_iff e).mp hbears with hnone | hsame
  · cases hnone
  · exact absurd hsame (by decide)

end Host
end Plugboard
