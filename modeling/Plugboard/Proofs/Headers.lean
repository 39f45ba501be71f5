import Plugboard.Session.Api

/-!
The headers of a plugin's call. The names of headers are compared without regard to case, and one
that is given twice is sent twice; so what a plugin gives for the two headers that the host sets is
left out, wherever it stands and however it is spelled.

* `Http.Request.valuesOf`: the values that a request gives for a header.
* `Http.Request.Carries`: the token and the type of content once, and the given headers besides. The
  token comes after the name and the password of the address, if that has them.
* `Http.Request.headerFault?_sentTo`: what the client adds to a request is legal.
* `ApiRequest.carries_request`: every request of a plugin carries its token and no login.
* `ApiRequest.build_request_iff`: it is built if its address, its headers and its token are legal.
-/
namespace Plugboard

open Http

namespace Http.Request

/-- The values that a request gives for a header, in their order. -/
def valuesOf (q : Request) (name : String) : List String :=
  (q.headers.filter fun header => Text.sameAsciiLetters name header.1).map (·.2)

/-- The request has the token for its authorization, after the login if there is one, and JSON for
its only type of content. The other headers are those that were given, in their order. -/
structure Carries (q : Request) (login : Option String) (token : String)
    (given : List (String × String)) : Prop where
  authorization : q.valuesOf "authorization" =
    (login.map fun l => "Basic " ++ l).toList ++ ["Bearer " ++ token]
  contentType : q.valuesOf "content-type" = ["application/json"]
  others : (q.headers.filter fun header => !ApiRequest.isReserved header.1) =
    given.filter fun header => !ApiRequest.isReserved header.1

/-- The client puts the login of the address before what the request carries. -/
theorem Carries.sentTo {q : Request} {token : String} {given : List (String × String)}
    (hq : q.Carries none token given) (u : Url) : (q.sentTo u).Carries (loginOf? q.url) token given := by
  obtain ⟨hauthorization, htype, hothers⟩ := hq
  have hname : Text.sameAsciiLetters "authorization" "authorization" = true := by decide
  have hother : Text.sameAsciiLetters "content-type" "authorization" = false := by decide
  have hreserved : ApiRequest.isReserved "authorization" = true := by decide
  simp only [valuesOf] at hauthorization htype
  cases hl : loginOf? q.url with
  | none =>
    refine ⟨?_, ?_, ?_⟩ <;> simp [valuesOf, Request.sentTo, hl, hauthorization, htype, hothers]
  | some l =>
    refine ⟨?_, ?_, ?_⟩
    · simp [valuesOf, Request.sentTo, hl, hname, hauthorization]
    · simp [valuesOf, Request.sentTo, hl, hother, htype]
    · simp [Request.sentTo, hl, hreserved, hothers]

/-- The same request without headers, which is about its address alone. -/
def bare (q : Request) : Request := { q with headers := [] }

theorem build_eq_ok_iff {q : Request} {u : Url} : q.build = .ok u ↔
    q.bare.build = .ok u ∧ ∀ header ∈ q.headers, headerFault? header = none := by
  rw [← List.findSome?_eq_none_iff, build, build, bare]
  cases Url.parse q.url with
  | error e => simp
  | ok v =>
    cases q.headers.findSome? headerFault? with
    | none => simp
    | some fault => by_cases hhost : v.hasHost = true <;> simp [hhost]

theorem isHeaderValue_base64 (bytes : List Nat) :
    isHeaderValue (String.ofList (base64 bytes)) = true := by
  have hchar : ∀ c ∈ '=' :: base64Alphabet, (0x20 ≤ c.toNat && c.toNat != 0x7F) = true :=
    List.all_eq_true.mp (by decide)
  have hsextet : ∀ n, sextet n ∈ '=' :: base64Alphabet := fun n => by
    rw [sextet, List.getD_eq_getElem?_getD]
    cases h : base64Alphabet[n]? with
    | none => exact List.mem_cons_self
    | some c => exact List.mem_cons_of_mem _ (List.mem_of_getElem? h)
  have hall : ∀ c ∈ base64 bytes, c ∈ '=' :: base64Alphabet := by
    induction bytes using base64.induct with
    | case1 => exact List.forall_mem_nil _
    | case2 | case3 => simp only [base64, List.forall_mem_cons, hsextet]; simp
    | case4 a b c rest ih =>
      simp only [base64, List.forall_mem_cons]
      exact ⟨hsextet _, hsextet _, hsextet _, hsextet _, ih⟩
  rw [isHeaderValue, String.toList_ofList, List.all_eq_true]
  exact fun c hc => (Bool.or_eq_true _ _).mpr (.inr (hchar c (hall c hc)))

/-- The header that the client adds is always a legal one. -/
theorem headerFault?_login {a : Authority} {l : String} (hl : a.login? = some l) :
    headerFault? ("authorization", "Basic " ++ l) = none := by
  have hname : isHeaderName "authorization" = true := by decide +kernel
  have hfront : isHeaderValue "Basic " = true := by decide
  obtain ⟨bytes, rfl⟩ : ∃ bytes, l = String.ofList (base64 bytes) := by
    simp only [Authority.login?, Option.bind_eq_bind, Option.bind_eq_some_iff] at hl
    obtain ⟨user, -, hl⟩ := hl
    split at hl
    · cases hl
    · exact ⟨_, (Option.some.inj hl).symm⟩
  have hvalue : isHeaderValue ("Basic " ++ String.ofList (base64 bytes)) = true := by
    rw [isHeaderValue, String.toList_append, List.all_append, ← isHeaderValue, hfront,
      Bool.true_and, ← isHeaderValue]
    exact isHeaderValue_base64 bytes
  simp [headerFault?, hname, hvalue]

/-- So a request that can be built is sent with legal headers only. -/
theorem headerFault?_sentTo {q : Request} {u : Url} (hq : q.build = .ok u) :
    ∀ header ∈ (q.sentTo u).headers, headerFault? header = none := by
  refine List.forall_mem_append.mpr ⟨?_, (build_eq_ok_iff.mp hq).2⟩
  cases hl : loginOf? q.url with
  | none => exact List.forall_mem_nil _
  | some l =>
    obtain ⟨v, a, ha⟩ : ∃ v : Url, ∃ a : Authority, a.login? = some l := by
      unfold loginOf? at hl
      split at hl
      · cases hl
      next v _ =>
        obtain ⟨a, -, ha⟩ := Option.bind_eq_some_iff.mp hl
        exact ⟨v, a, ha⟩
    exact List.forall_mem_singleton.mpr (headerFault?_login ha)

end Http.Request

namespace ApiRequest

/-- What is passed on of the headers of a plugin is none of those that the host sets. -/
theorem filter_kept (name : String)
    (hname : ∀ other, Text.sameAsciiLetters name other = true → isReserved other = true)
    (given : List (String × String)) :
    (given.filter fun header => !isReserved header.1).filter
      (fun header => Text.sameAsciiLetters name header.1) = [] := by
  rw [List.filter_eq_nil_iff]
  intro header hmem h
  have hkept : isReserved header.1 = false := by simpa using (List.mem_filter.mp hmem).2
  exact Bool.false_ne_true (hkept.symm.trans (hname _ h))

theorem carries_request (r : ApiRequest) (config : HostConfig) (plugin token endpoint : String) :
    (r.request config plugin token endpoint).Carries none token r.headers where
  authorization := by
    have hself : Text.sameAsciiLetters "authorization" "authorization" = true := by decide
    have hother : Text.sameAsciiLetters "authorization" "content-type" = false := by decide
    have hkept := filter_kept "authorization"
      (fun other h => by rw [isReserved, h, Bool.true_or]) r.headers
    rw [Request.valuesOf, request, sentHeaders, List.filter_append, hkept]
    simp [hself, hother]
  contentType := by
    have hself : Text.sameAsciiLetters "content-type" "content-type" = true := by decide
    have hother : Text.sameAsciiLetters "content-type" "authorization" = false := by decide
    have hkept := filter_kept "content-type"
      (fun other h => by rw [isReserved, h, Bool.or_true]) r.headers
    rw [Request.valuesOf, request, sentHeaders, List.filter_append, hkept]
    simp [hself, hother]
  others := by
    have hset : isReserved "authorization" = true ∧ isReserved "content-type" = true := by decide
    rw [request, sentHeaders, List.filter_append, List.filter_filter]
    simp [hset]

/-- A token makes a legal header just when it is one. -/
theorem headerFault?_bearer (token : String) :
    headerFault? ("authorization", "Bearer " ++ token) = none ↔ isHeaderValue token = true := by
  have hname : isHeaderName "authorization" = true := by decide +kernel
  have hfront : isHeaderValue "Bearer " = true := by decide
  have hvalue : isHeaderValue ("Bearer " ++ token) = isHeaderValue token := by
    rw [isHeaderValue, String.toList_append, List.all_append, ← isHeaderValue, hfront,
      Bool.true_and, isHeaderValue]
  rw [headerFault?, hname, hvalue]
  cases isHeaderValue token <;> simp

/-- Of the headers that a plugin gives only those have to be legal that are passed on. -/
theorem build_request_iff {r : ApiRequest} {config : HostConfig} {plugin token endpoint : String}
    {u : Url} :
    let q := r.request config plugin token endpoint
    q.build = .ok u ↔ q.bare.build = .ok u ∧ isHeaderValue token = true ∧
      ∀ header ∈ r.headers, isReserved header.1 = false → headerFault? header = none := by
  intro q
  have htype : headerFault? ("content-type", "application/json") = none := by decide +kernel
  rw [Request.build_eq_ok_iff]
  refine and_congr_right fun _ => ?_
  change (∀ header ∈ r.sentHeaders token, _) ↔ _
  rw [sentHeaders, List.forall_mem_append, List.forall_mem_cons, headerFault?_bearer,
    List.forall_mem_singleton, and_comm]
  simp [htype]

end ApiRequest
end Plugboard
