import Plugboard.Proofs.Endpoints
import Plugboard.Proofs.Headers

/-!
One exchange with the backend. A request is what the host hands to its client; of a request that
cannot be built, or that goes to a backend out of reach, nothing arrives. A name and a password in
an address are the client's own to send, in a header before those that it was handed.

* `Host.arrivals`, `Host.answerTo`: what arrives at the backend, and what the host is told.
* `exchange_start`: an exchange is just that. `ask_exchanges`: so is a call of a store behind HTTP.
* `callApi_credentialed`: a call of a plugin is one exchange, with the credentials of its context
  and no others but the login of its address, and its result is the verdict of the status.
-/
namespace Plugboard

open Http Run

namespace ApiRequest

section
variable {url : String} {response : Response}

/-- Every answer with a status of success has a value, whatever its body is. -/
theorem readResponse_eq_ok_iff : (∃ v, readResponse url (.ok response) = .ok v) ↔
    200 ≤ response.status ∧ response.status ≤ 299 := by
  have hsuccess : response.isSuccess = true ↔ 200 ≤ response.status ∧ response.status ≤ 299 := by
    simp [Response.isSuccess, Nat.lt_succ_iff]
  rw [← hsuccess, readResponse]
  cases response.isSuccess <;> simp

theorem readResponse_eq_error_iff {e : SessionError} : readResponse url (.ok response) = .error e ↔
    ¬ (200 ≤ response.status ∧ response.status ≤ 299) ∧
      e = .rejected url response.status response.text := by
  rw [← @readResponse_eq_ok_iff url, readResponse]
  cases response.isSuccess <;> simp [eq_comm]

end

end ApiRequest

namespace Host

/-- What arrives at the backend when the host sends a request. -/
def arrivals (h : Host) (r : Request) : List Request :=
  match r.build with
  | .error _ => []
  | .ok u => if h.backend.reachable then [r.sentTo u] else []

/-- What the host is told when it sends a request. -/
def answerTo (h : Host) (r : Request) : Except TransportError Response :=
  match r.build with
  | .error e => .error e
  | .ok u =>
    if h.backend.reachable then h.backend.next.1.received u
    else .error (.unsent u.text .unreachable)

/-- What arrives is what is sent to the address that was read. -/
theorem of_mem_arrivals {h : Host} {q a : Request} (ha : a ∈ h.arrivals q) :
    ∃ u, Url.parse q.url = .ok u ∧ a = q.sentTo u.withoutUser := by
  unfold arrivals at ha
  cases hbuild : q.build with
  | error e => simp [hbuild] at ha
  | ok u =>
    obtain ⟨v, hparse, -, rfl⟩ := Request.build_eq_ok hbuild
    simp only [hbuild] at ha
    split at ha
    · exact ⟨v, hparse, List.mem_singleton.mp ha⟩
    · cases ha

theorem requests_recorded (h : Host) (x : Happening) : (h.recorded x).requests =
    h.requests ++ match x with
      | .requested q => [q]
      | _ => [] := by
  rw [requests, requests, recorded, List.filterMap_append]
  cases x <;> rfl

theorem exchange_start (r : Request) (h : Host) : ∃ h',
    start (exchange r) h = some (.ok (h.answerTo r), h') ∧
      h'.requests = h.requests ++ h.arrivals r := by
  unfold exchange answerTo arrivals
  cases r.build with
  | error e => exact ⟨h, rfl, (List.append_nil _).symm⟩
  | ok u =>
    dsimp only
    rw [start_bind, start_get]
    cases hr : h.backend.reachable with
    | false =>
      refine ⟨h, ?_, (List.append_nil _).symm⟩
      simp only [hr]
      rfl
    | true =>
      refine ⟨{ h.recorded (.requested (r.sentTo u)) with
        backend := h.backend.next.2 }, ?_, requests_recorded h _⟩
      simp only [hr]
      rfl

/-- What the backend is asked for the store is one exchange. -/
theorem ask_exchanges {α : Type} (operation : String) (read : Written → Option α) (r : Request)
    (h : Host) : ∃ h',
    start (ask operation read r) h =
        some (.ok (RemoteStore.readResponse operation read (h.answerTo r)), h') ∧
      h'.requests = h.requests ++ h.arrivals r := by
  obtain ⟨h₁, e, hrequests⟩ := exchange_start r h
  simp only [ask, start_bind, e]
  cases h.answerTo r with
  | error cause => exact ⟨h₁, rfl, hrequests⟩
  | ok response =>
    cases hs : response.isSuccess with
    | true => exact ⟨h₁, by simp only [hs]; rfl, hrequests⟩
    | false =>
      refine ⟨h₁.recorded (.logged .warn (rejection operation response.status)),
        by simp only [hs]; rfl, ?_⟩
      exact (requests_recorded h₁ _).trans ((List.append_nil _).trans hrequests)

/-- A call with a token is one exchange. -/
theorem callApi_exchanges {c : Context} {token : String} (hc : c.token = some token)
    (endpoint : String) {r : ApiRequest} {h : Host} {q : Request}
    (hq : q = r.request h.config c.plugin token endpoint) :
    ∃ h', start (callApi c endpoint r) h =
        some (.ok (ApiRequest.readResponse q.url (h.answerTo q)), h') ∧
      h'.requests = h.requests ++ h.arrivals q := by
  obtain ⟨h₁, e, hrequests⟩ := exchange_start q h
  simp only [callApi, hc, start_bind, start_get, ← hq, e]
  cases h.answerTo q with
  | error cause => exact ⟨h₁, rfl, hrequests⟩
  | ok response =>
    cases hs : response.isSuccess with
    | true => exact ⟨h₁, by simp only [hs]; rfl, hrequests⟩
    | false =>
      refine ⟨h₁.recorded (.logged .warn (apiRejection c.plugin q.url response.status)),
        by simp only [hs]; rfl, ?_⟩
      exact (requests_recorded h₁ _).trans ((List.append_nil _).trans hrequests)

end Host

namespace Http

/-- The address names nobody who logs in. -/
def Url.Anonymous (u : Url) : Prop := ∀ a, u.authority = some a → a.user = "" ∧ a.password = none

theorem loginOf?_eq_none {address : String} (h : ∀ u, Url.parse address = .ok u → u.Anonymous) :
    loginOf? address = none := by
  unfold loginOf?
  split
  · rfl
  next u hparse =>
    cases ha : u.authority with
    | none => rw [Url.login?, ha, Option.bind_none]
    | some a =>
      obtain ⟨huser, hpassword⟩ := h u hparse a ha
      have hempty : unescaped? "" = some "" := by decide
      rw [Url.login?, ha, Option.bind_some, Authority.login?, huser, hpassword, hempty]
      rfl

end Http

namespace Host

/-- Without a token nothing is sent. With one there is one request, and whatever headers the plugin
gives, the token of the context is its authorization. The login that the address brings, if it names
somebody, is sent before the token, and no other authorization is. The request arrives if the address
is one that can be requested and the headers are legal. An answer of the backend is a value just when
its status is one of success, and is handed on as it is otherwise. -/
theorem callApi_credentialed (c : Context) (endpoint : String) (r : ApiRequest) (h : Host) :
    (c.token = none →
      start (callApi c endpoint r) h = some (.ok (.error .notAuthenticated), h)) ∧
    ∀ token, c.token = some token →
      let q := r.request h.config c.plugin token endpoint
      ∃ result h', start (callApi c endpoint r) h = some (.ok result, h') ∧
        h'.requests = h.requests ++ h.arrivals q ∧
        (∀ a ∈ h.arrivals q, a.Carries (loginOf? q.url) token r.headers) ∧
        ((∀ u, Url.parse q.url = .ok u → u.Anonymous) →
          ∀ a ∈ h.arrivals q, a.Carries none token r.headers) ∧
        (∀ u, h.backend.reachable = true → q.bare.build = .ok u → isHeaderValue token = true →
          (∀ header ∈ r.headers, headerFault? header = none) → h.arrivals q = [q.sentTo u]) ∧
        ∀ response, h.answerTo q = .ok response →
          ((∃ v, result = .ok v) ↔ 200 ≤ response.status ∧ response.status ≤ 299) ∧
          ∀ e, result = .error e ↔ ¬ (200 ≤ response.status ∧ response.status ≤ 299) ∧
            e = .rejected q.url response.status response.text := by
  refine ⟨fun hc => callApi_start_of_none endpoint r hc h, fun token hc => ?_⟩
  intro q
  obtain ⟨h', e, hrequests⟩ := callApi_exchanges hc endpoint (q := q) rfl
  have hcarries : ∀ a ∈ h.arrivals q, a.Carries (loginOf? q.url) token r.headers := fun a ha => by
    obtain ⟨u, -, rfl⟩ := of_mem_arrivals ha
    exact (r.carries_request h.config c.plugin token endpoint).sentTo _
  refine ⟨_, h', e, hrequests, hcarries, fun hnobody => ?_,
    fun u hreachable hbare htoken hlegal => ?_, fun response hresponse => ?_⟩
  · rwa [loginOf?_eq_none hnobody] at hcarries
  · have hbuild : q.build = .ok u :=
      ApiRequest.build_request_iff.mpr ⟨hbare, htoken, fun header hmem _ => hlegal header hmem⟩
    simp only [arrivals, hbuild, hreachable, if_true]
  · rw [hresponse]
    exact ⟨ApiRequest.readResponse_eq_ok_iff, fun e => ApiRequest.readResponse_eq_error_iff⟩

/-- A call with three headers, two of them in the place of those that the host sets. -/
def forging : ApiRequest :=
  { ApiRequest.plain with
    headers := [("AUTHORIZATION", "Bearer bob"), ("X-Request-Id", "7"),
      ("content-Type", "text/plain")] }

/-- The two are replaced, the third one arrives. -/
theorem callApi_credentialed_forging : (contextOf "chat").token = some "ada" ∧
    ∃ v h' a, start (callApi (contextOf "chat") "items" forging) answering =
        some (.ok (.ok v), h') ∧
      h'.requests = [a] ∧ a.Carries none "ada" forging.headers ∧
      a.headers = [("X-Request-Id", "7"), ("authorization", "Bearer ada"),
        ("content-type", "application/json")] := by
  let q := forging.request answering.config "chat" "ada" "items"
  let u : Url := { chatRoot with path := "/plugins/chat/items" }
  obtain ⟨result, h', e, hrequests, -, hnobody, harrives, hanswer⟩ :=
    (callApi_credentialed (contextOf "chat") "items" forging answering).2 "ada" rfl
  have hparse : Url.parse q.url = .ok u := by decide +kernel
  have hone : answering.arrivals q = [q.sentTo u] :=
    harrives u rfl (by decide +kernel) (by decide +kernel) (by decide +kernel)
  have hanonymous : ∀ v, Url.parse q.url = .ok v → v.Anonymous := by
    rintro v hv a ha
    cases hv.symm.trans hparse
    cases ha
    exact ⟨rfl, rfl⟩
  obtain ⟨v, rfl⟩ := (hanswer ⟨200, ""⟩ (by decide +kernel)).1.mpr (by decide)
  refine ⟨rfl, v, h', q.sentTo u, e, ?_, hnobody hanonymous _ ?_, by decide +kernel⟩
  · exact hrequests.trans (congrArg (answering.requests ++ ·) hone)
  · exact hone ▸ List.mem_singleton.mpr rfl

/-- A name and a password in the address are a second authorization, before that of the context. -/
theorem callApi_login : (contextOf "chat").token = some "ada" ∧
    ∃ x h' a, start (callApi (contextOf "chat") "http://u:p@[::1]:8000/x" .plain) answering =
        some (x, h') ∧
      h'.requests = [a] ∧ a.valuesOf "authorization" = ["Basic dTpw", "Bearer ada"] := by
  let q := ApiRequest.plain.request answering.config "chat" "ada" "http://u:p@[::1]:8000/x"
  let a : Request := ⟨"GET", "http://[::1]:8000/x",
    ("authorization", "Basic dTpw") :: ApiRequest.plain.sentHeaders "ada", none⟩
  obtain ⟨h', e, hrequests⟩ := callApi_exchanges (c := contextOf "chat") rfl "http://u:p@[::1]:8000/x"
    (h := answering) (q := q) rfl
  have hone : answering.arrivals q = [a] := by decide +kernel
  have hseen : h'.requests = [a] := by
    rw [hrequests, hone]
    rfl
  exact ⟨rfl, _, h', a, e, hseen, by decide +kernel⟩

end Host
end Plugboard
