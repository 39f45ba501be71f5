import Plugboard.Host.Sessions
import Plugboard.Proofs.Config
import Plugboard.Proofs.Http.Below
import Plugboard.Proofs.Session.Calls

/-!
Where the calls of a plugin go. Its endpoints are put behind its own address, and dot segments in
them are resolved only when the whole address is read.

* `PluginName.isName`: the name of a plugin stands for itself in an address.
* `HostConfig.clean_endpointUrl`, `HostConfig.readsOn_frontOf`: what is in front of the name is read
  in the same way for all plugins and endpoints.
* `HostConfig.wayOf`: how often an endpoint goes up, and the names that it then goes down.
* `callApi_reaches`: a call sends requests to the address of its endpoint only.
* `calls_confined_iff`: when they stay below the plugin's own address. Then they are not below that
  of another plugin.
-/
namespace Plugboard

open Http

/-! ## Names -/

namespace PluginName

theorem isLetter_iff {c : Char} : isLetter c = true ↔ 97 ≤ c.toNat ∧ c.toNat ≤ 122 := by
  rw [isLetter, Bool.and_eq_true, decide_eq_true_eq, decide_eq_true_eq]
  exact Iff.rfl

theorem toNat_of_isFollower {c : Char} (h : isFollower c = true) : c.toNat < 128 := by
  simp only [isFollower, Bool.or_eq_true, isLetter_iff, Bool.and_eq_true, decide_eq_true_eq,
    beq_iff_eq] at h
  rcases h with (⟨-, h⟩ | ⟨-, h⟩) | rfl
  · omega
  · have : c.toNat ≤ 57 := h
    omega
  · decide

/-- What holds of the followers among the first characters, one after the other, holds of all. -/
theorem forall_isFollower {P : Char → Prop} (h : ∀ n < 128, isFollower (Char.ofNat n) = true →
    P (Char.ofNat n)) {c : Char} (hc : isFollower c = true) : P c := by
  have hone := h c.toNat (toNat_of_isFollower hc)
  rw [Char.ofNat_toNat] at hone
  exact hone hc

/-- A letter, a digit or a hyphen stands for itself. -/
theorem kept_of_isFollower {c : Char} (h : isFollower c = true) :
    0x20 ≤ c.toNat ∧ c.toNat ≤ 0x7E ∧ c ∉ special :=
  forall_isFollower (P := fun c => 0x20 ≤ c.toNat ∧ c.toNat ≤ 0x7E ∧ c ∉ special)
    (by decide +kernel) h

/-- Dot segments begin with a dot or an escape. -/
theorem toLower_of_isFollower {c : Char} (h : isFollower c = true) :
    c.toLower ≠ '.' ∧ c.toLower ≠ '%' :=
  forall_isFollower (P := fun c => c.toLower ≠ '.' ∧ c.toLower ≠ '%') (by decide +kernel) h

theorem isName {name : String} (h : isValid name = true) : IsName name.toList := by
  rw [isValid] at h
  cases hcs : name.toList with
  | nil => rw [hcs] at h; cases h
  | cons c rest =>
    rw [hcs, isValidChars, Bool.and_eq_true, List.all_eq_true] at h
    obtain ⟨hletter, hrest⟩ := h
    have hfirst : isFollower c = true := by simp [isFollower, hletter]
    obtain ⟨hdot, hpercent⟩ := toLower_of_isFollower hfirst
    exact {
      kept := List.forall_mem_cons.mpr
        ⟨kept_of_isFollower hfirst, fun d hd => kept_of_isFollower (hrest d hd)⟩
      single := by simp [isSingleDot, hdot, hpercent]
      double := by simp [isDoubleDot, hdot, hpercent] }

end PluginName

/-! ## Addresses -/

namespace HostConfig

variable {c : HostConfig}

/-- An endpoint without the slashes in front, and as it is read. -/
def tailOf (endpoint : String) : List Char :=
  (Text.dropEndWhile isTrimmedFromUrl (endpoint.toList.dropWhile (· == '/'))).filter
    fun c => !isSkippedInUrl c

/-- What is in front of a slash, as it is read. -/
def beforeSlash (s : String) : List Char :=
  (s.toList.dropWhile isTrimmedFromUrl).filter fun c => !isSkippedInUrl c

/-- What is in front of the name of a plugin and the slash before it. -/
def frontOf (c : HostConfig) : List Char :=
  beforeSlash (Text.trimEndOf '/' c.baseUrl ++ "/" ++ Text.trimOf '/' c.apiRoot)

theorem filter_dropWhile_append_slash (as bs : List Char) :
    ((as ++ '/' :: bs).dropWhile isTrimmedFromUrl).filter (fun c => !isSkippedInUrl c) =
      (as.dropWhile isTrimmedFromUrl).filter (fun c => !isSkippedInUrl c) ++
        '/' :: bs.filter fun c => !isSkippedInUrl c := by
  have hskip : isSkippedInUrl '/' = false := by decide
  rw [dropWhile_append_stop (by decide), List.filter_append, List.filter_cons, hskip]
  rfl

/-- The base address is in front, the slashes at its end apart. -/
theorem frontOf_eq (c : HostConfig) : ∃ more,
    c.frontOf = beforeSlash (Text.trimEndOf '/' c.baseUrl) ++ '/' :: more := by
  refine ⟨(Text.trimOf '/' c.apiRoot).toList.filter fun c => !isSkippedInUrl c, ?_⟩
  rw [frontOf, beforeSlash, String.toList_append, String.toList_append, List.append_assoc]
  exact filter_dropWhile_append_slash _ _

/-- What is read of a base address goes on from there in slashes only. -/
theorem clean_baseUrl_isPrefix (c : HostConfig) : ∃ slashes, (∀ ch ∈ slashes, ch = '/') ∧
    Url.clean c.baseUrl.toList <+: beforeSlash (Text.trimEndOf '/' c.baseUrl) ++ '/' :: slashes := by
  let slashes := c.baseUrl.toList.rtakeWhile (· == '/')
  have hslashes : ∀ ch ∈ slashes, ch = '/' := by
    intro ch hch
    simpa using List.mem_rtakeWhile_imp hch
  have hbase : c.baseUrl.toList = (Text.trimEndOf '/' c.baseUrl).toList ++ slashes := by
    rw [Text.toList_trimEndOf]
    exact List.rdropWhile_append_rtakeWhile.symm
  have hturn : slashes ++ ['/'] = '/' :: slashes := by
    rw [List.eq_replicate_of_mem hslashes, ← List.replicate_succ', List.replicate_succ]
  refine ⟨slashes.filter fun c => !isSkippedInUrl c,
    fun ch hch => hslashes ch (List.mem_of_mem_filter hch), ?_⟩
  rw [beforeSlash, ← filter_dropWhile_append_slash, ← hturn, ← List.append_assoc, ← hbase,
    filter_dropWhile_append_slash]
  exact ((Text.dropEndWhile_isPrefix _ _).filter _).trans (List.prefix_append _ _)

theorem toList_endpointUrl (hcheck : c.check = .ok ()) {plugin endpoint : String}
    (hrel : isWebAddress endpoint = false) : (c.endpointUrl plugin endpoint).toList =
      (Text.trimEndOf '/' c.baseUrl ++ "/" ++ Text.trimOf '/' c.apiRoot).toList ++
        '/' :: (plugin.toList ++ '/' :: endpoint.toList.dropWhile (· == '/')) := by
  have hroot : (Text.trimOf '/' c.apiRoot).toList.dropWhile (· == '/') =
      (Text.trimOf '/' c.apiRoot).toList := by
    rw [Text.trimOf, String.toList_ofList, Text.dropWhile_stripChars]
  have hne : (Text.trimOf '/' c.apiRoot).toList ≠ [] := fun h =>
    (check_eq_ok.mp hcheck).2 (String.toList_inj.mp h)
  rw [endpointUrl, hrel, apiUrl]
  simp only [Bool.false_eq_true, if_false, String.toList_append, Text.trimStartOf,
    String.toList_ofList, List.append_assoc]
  rw [dropWhile_append_of_ne_nil _ (hroot.symm ▸ hne), hroot]
  simp

theorem clean_endpointUrl (hcheck : c.check = .ok ()) {plugin endpoint : String}
    (hname : IsName plugin.toList) (hrel : isWebAddress endpoint = false) :
    Url.clean (c.endpointUrl plugin endpoint).toList =
      c.frontOf ++ '/' :: (plugin.toList ++ '/' :: tailOf endpoint) := by
  have hstay : isTrimmedFromUrl '/' = false := by decide
  have hskip : isSkippedInUrl '/' = false := by decide
  rw [toList_endpointUrl hcheck hrel, Url.clean, Text.stripChars, dropWhile_append_stop hstay,
    ← List.cons_append, ← List.append_assoc, Text.dropEndWhile_append_of_last hstay,
    List.filter_append, List.filter_append, List.filter_cons, List.filter_cons, hskip,
    hname.filter_eq, frontOf, beforeSlash, tailOf]
  simp

/-- A base address that can be read has a host in front of the slashes at its end. -/
theorem host_of_baseUrl {base : Url} {n : Nat} (hbase : Url.parse c.baseUrl = .ok base)
    (hfragment : '#' ∉ c.frontOf) (hquery : '?' ∉ c.frontOf) {scheme : String} {rest : List Char}
    (hs : readScheme c.frontOf = some (scheme, rest)) (hk : schemeKind scheme = .web n) :
    rest.dropWhile (SchemeKind.web n).isSlash ≠ [] := by
  obtain ⟨more, hfront⟩ := c.frontOf_eq
  obtain ⟨slashes, hslashes, tail, htail⟩ := c.clean_baseUrl_isPrefix
  have hnone : ∀ mark, mark ≠ '/' → mark ∉ c.frontOf → mark ∉ Url.clean c.baseUrl.toList := by
    intro mark hne hmem hclean
    have hbefore : mark ∈ beforeSlash (Text.trimEndOf '/' c.baseUrl) ++ '/' :: slashes :=
      htail ▸ List.mem_append_left tail hclean
    rw [List.mem_append, List.mem_cons] at hbefore
    rcases hbefore with h | h | h
    · exact hmem (hfront ▸ List.mem_append_left _ h)
    · exact hne h
    · exact hne (hslashes _ h)
  -- The scheme of the base address is that of the addresses below it.
  rw [parse_eq (splitMark_of_notMem (hnone '#' (by decide) hfragment))
    (splitMark_of_notMem (hnone '?' (by decide) hquery))] at hbase
  obtain ⟨head, hread, -⟩ := exists_of_map_eq_ok hbase
  obtain ⟨own, hown⟩ := scheme_of_readHead hread
  have hlong := readScheme_append hown tail
  rw [htail, readScheme_append_slash] at hlong
  rw [hfront, readScheme_append_slash] at hs
  obtain ⟨⟨scheme', before⟩, hbefore, he⟩ := Option.map_eq_some_iff.mp hs
  rw [hbefore] at hlong
  obtain ⟨rfl, rfl⟩ : scheme' = scheme ∧ before ++ '/' :: more = rest := by simpa using he
  obtain ⟨rfl, hsame⟩ : scheme' = head.scheme ∧ before ++ '/' :: slashes = own ++ tail := by
    simpa using hlong
  have hhost := host_of_readHead hread hown hk
  intro hnil
  rw [List.dropWhile_eq_nil_iff, List.forall_mem_append] at hnil
  refine hhost (List.dropWhile_eq_nil_iff.mpr fun ch hch => ?_)
  have hmem : ch ∈ before ++ '/' :: slashes := hsame ▸ List.mem_append_left tail hch
  rw [List.mem_append, List.mem_cons] at hmem
  rcases hmem with h | rfl | h
  · exact hnil.1 ch h
  · rfl
  · rw [hslashes ch h]
    rfl

/-- What is in front of the names is read in the same way, whatever is behind it. A mark in it
decides at once; without one there has to be a host. -/
theorem readsOn_frontOf {base u : Url} {s : String} {cs : List Char}
    (hbase : Url.parse c.baseUrl = .ok base) (hs : Url.clean s.toList = c.frontOf ++ '/' :: cs)
    (hu : Url.parse s = .ok u) (hhttp : u.isHttp = true) : ReadsOn c.frontOf := by
  by_cases hfragment : '#' ∈ c.frontOf
  · exact readsOn_fragment hfragment
  by_cases hquery : '?' ∈ c.frontOf
  · exact readsOn_query hfragment hquery
  obtain ⟨rest, hscheme⟩ := readScheme_of_parse hfragment hquery hs hu
  obtain ⟨n, hk⟩ : ∃ n, schemeKind u.scheme = .web n := by
    rw [Url.isHttp, Bool.or_eq_true, beq_iff_eq, beq_iff_eq] at hhttp
    rcases hhttp with h | h <;> rw [h]
    · exact ⟨80, by decide⟩
    · exact ⟨443, by decide⟩
  exact readsOn_path hfragment hquery hscheme hk
    (host_of_baseUrl hbase hfragment hquery hscheme hk)

/-- The address of the plugin itself, which its endpoints are to be below. -/
def Home (c : HostConfig) (plugin : String) (root : Url) : Prop :=
  Url.parse (c.endpointUrl plugin "") = .ok root

/-- The way that an endpoint goes. -/
def wayOf (endpoint : String) : Way := Way.ofPath (pathPart (tailOf endpoint))

end HostConfig

/-! ## Calls -/

/-- A request goes to the address that is read, without name and password. -/
theorem Http.Request.build_eq_ok {r : Http.Request} {u : Url} (h : r.build = .ok u) :
    ∃ v, Url.parse r.url = .ok v ∧ v.isHttp = true ∧ u = v.withoutUser := by
  rw [build] at h
  cases hparse : Url.parse r.url with
  | error e => simp [hparse] at h
  | ok v =>
    have hscheme : v.withoutUser.isHttp = v.isHttp := rfl
    simp only [hparse] at h
    split at h
    · cases h
    · cases hfault : r.headers.findSome? headerFault? with
      | some fault => simp [hfault] at h
      | none =>
        simp only [hfault, hscheme] at h
        cases hhttp : v.isHttp with
        | false => simp [hhttp] at h
        | true =>
          simp only [hhttp, Bool.not_true, Bool.false_eq_true, if_false] at h
          split at h
          · cases h
          · exact ⟨v, rfl, hhttp, (Except.ok.inj h).symm⟩

/-- Where a request goes whose address reads so: name and password are sent in another way. -/
def Http.Request.GoesTo (q : Http.Request) (address : String) : Prop :=
  ∃ u, Url.parse address = .ok u ∧ u.isHttp = true ∧ q.url = u.withoutUser.requested.text

namespace Host

open Run

/-- The journal gains no request but such ones. -/
def Reaches (target : Http.Request → Prop) (h h' : Host) : Prop :=
  ∃ news, h'.journal = h.journal ++ news ∧ ∀ q, .requested q ∈ news → target q

section
variable {target : Http.Request → Prop}

instance : Std.Refl (Reaches target) :=
  ⟨fun _ => ⟨[], (List.append_nil _).symm, fun _ hq => absurd hq List.not_mem_nil⟩⟩

instance : IsTrans Host (Reaches target) where
  trans _ _ _ := by
    rintro ⟨l, hl, hall⟩ ⟨l', hl', hall'⟩
    refine ⟨l ++ l', by rw [hl', hl, List.append_assoc], fun q hq => ?_⟩
    exact (List.mem_append.mp hq).elim (hall q) (hall' q)

theorem record_reaches {x : Happening} (hx : ∀ q, x = .requested q → target q) :
    Along (Reaches target) (record x) :=
  along_modify fun _ => ⟨[x], rfl, fun q hq => hx q (List.mem_singleton.mp hq).symm⟩

/-- One exchange sends one request at most, to the address that was built. -/
theorem exchange_reaches {r : Http.Request}
    (hr : ∀ u q, r.build = .ok u → q.url = u.requested.text → target q) :
    Along (Reaches target) (exchange r) := by
  unfold exchange
  cases hbuild : r.build with
  | error e => exact along_pure _
  | ok u =>
    refine along_bind along_get fun h => ?_
    split
    · refine along_bind (record_reaches fun q hq => ?_) fun _ => along_bind along_get fun _ =>
        along_bind (along_modify fun _ => ⟨[], (List.append_nil _).symm, ?_⟩) fun _ => along_pure _
      · cases hq
        exact hr u _ hbuild rfl
      · exact fun _ hq => absurd hq List.not_mem_nil
    · exact along_pure _

end

/-- The requests of a call go to the address of its endpoint. -/
theorem callApi_reaches {c : Context} {endpoint : String} {r : ApiRequest} {h h' : Host}
    {x : Except Panic (Except SessionError Json)} (e : start (callApi c endpoint r) h = some (x, h')) :
    Reaches (·.GoesTo (h.config.endpointUrl c.plugin endpoint)) h h' := by
  cases hc : c.token with
  | none =>
    cases e.symm.trans (callApi_start_of_none endpoint r hc h)
    exact Std.Refl.refl h
  | some token =>
    have hexchange : Along (Reaches (·.GoesTo (h.config.endpointUrl c.plugin endpoint)))
        (exchange (r.request h.config c.plugin token endpoint)) := exchange_reaches fun u q hbuild hq =>
      have ⟨v, hparse, hhttp, he⟩ := Http.Request.build_eq_ok hbuild
      ⟨v, hparse, hhttp, he ▸ hq⟩
    exact callApi_ends hc endpoint r (fun _ _ => record_reaches nofun) hexchange _ _ e

/-- A request of a plugin with a relative endpoint stays below the plugin's own address just when
neither base nor namespace begins a fragment, and either they begin a query or the endpoint's way
comes back to the directories it leaves. If it does stay there, it is not below the address of
another plugin. -/
theorem calls_confined_iff {h h' : Host} {c : Context} {endpoint : String} {r : ApiRequest}
    {x : Except Panic (Except SessionError Json)} {base : Url} {news : List Happening}
    {q : Http.Request} (hcheck : h.config.check = .ok ())
    (hbase : Url.parse h.config.baseUrl = .ok base) (hname : PluginName.isValid c.plugin = true)
    (hrel : HostConfig.isWebAddress endpoint = false)
    (hrun : start (callApi c endpoint r) h = some (x, h'))
    (hnews : h'.journal = h.journal ++ news) (hq : .requested q ∈ news) :
    ∃ root, h.config.Home c.plugin root ∧
      (root.Covers q.url ↔ root.fragment = none ∧
        (root.query ≠ none ∨ (HostConfig.wayOf endpoint).Returns root.directories)) ∧
      (root.Covers q.url → ∀ other root', PluginName.isValid other = true →
        h.config.Home other root' → root'.Covers q.url → other = c.plugin) := by
  obtain ⟨news', hnews', hgoes⟩ := callApi_reaches hrun
  obtain rfl : news' = news := List.append_cancel_left (hnews'.symm.trans hnews)
  obtain ⟨u, hu, hhttp, hurl⟩ := hgoes q hq
  have hclean := HostConfig.clean_endpointUrl hcheck (PluginName.isName hname) hrel
  have hhome : ∀ plugin, IsName plugin.toList → Url.clean (h.config.endpointUrl plugin "").toList =
      h.config.frontOf ++ '/' :: (plugin.toList ++ '/' :: []) := fun plugin hplugin =>
    HostConfig.clean_endpointUrl hcheck hplugin rfl
  rcases HostConfig.readsOn_frontOf hbase hclean hu hhttp with ⟨e, he⟩ | ⟨b, hb, hread⟩
  · cases hu.symm.trans (he _ _ hclean)
  have hnamed : ∀ plugin, IsName plugin.toList →
      Url.parse (h.config.endpointUrl plugin "") = .ok ((b.enter plugin.toList).goOn []) :=
    fun plugin hplugin => by rw [hread _ _ (hhome plugin hplugin), b.goOn_enter hplugin]
  have hplugin := PluginName.isName hname
  have hgo : u = (b.enter c.plugin.toList).goOn (HostConfig.tailOf endpoint) := by
    have := hu.symm.trans (hread _ _ hclean)
    rw [b.goOn_enter hplugin] at this
    exact Except.ok.inj this
  refine ⟨_, hnamed c.plugin hplugin, ?_, fun hcovers other root' hother hroot hcovers' => ?_⟩
  · rw [hurl, hgo]
    exact Begun.covers_iff (hb.enter hplugin) _
  · cases hroot.symm.trans (hnamed other (PluginName.isName hother))
    exact String.toList_inj.mp
      (Begun.covers_unique hb (PluginName.isName hother) hplugin hcovers' hcovers)

/-- One directory up, past another one, and down again by the same name. -/
example : (HostConfig.wayOf "../notes/../chat/items").Returns ["".toList, "chat".toList] := by
  decide +kernel

/-- A host whose backend answers a call. -/
def answering : Host :=
  .new { HostConfig.default with baseUrl := "http://[::1]:8000" } .ignore .remote
    (.scripted [.answered 200 [] true])

def contextOf (plugin : String) : Context := ⟨plugin, .ofList [], some "ada", 0⟩

def requests (h : Host) : List Http.Request :=
  h.journal.filterMap fun
    | .requested q => some q
    | _ => none

theorem mem_requests {h : Host} {q : Http.Request} : q ∈ h.requests ↔ .requested q ∈ h.journal := by
  rw [requests, List.mem_filterMap]
  constructor
  · rintro ⟨x, hx, he⟩
    cases x <;> cases he
    exact hx
  · exact fun hq => ⟨_, hq, rfl⟩

/-- What the backend gets for an address. -/
def getFrom (url : String) : Http.Request :=
  ⟨"GET", url, ApiRequest.plain.sentHeaders "ada", none⟩

theorem requested_of_requests {plugin endpoint : String} {q : Http.Request}
    (hseen : (start (callApi (contextOf plugin) endpoint .plain) answering).map
      (fun ended => ended.2.requests) = some [q]) : ∃ x h',
    start (callApi (contextOf plugin) endpoint .plain) answering = some (x, h') ∧
      .requested q ∈ h'.journal := by
  obtain ⟨answer, h', e, -⟩ := callApi_answers endpoint .plain (contextOf plugin) answering
  rw [e, Option.map_some, Option.some.injEq] at hseen
  exact ⟨_, h', e, mem_requests.mp (hseen ▸ List.mem_singleton.mpr rfl)⟩

def chatRoot : Url := ⟨"http", some ⟨"", none, "[::1]", some 8000⟩, "/plugins/chat/", none, none⟩

theorem home_chat : answering.config.Home "chat" chatRoot := by
  rw [HostConfig.Home]
  rfl

/-- Going down and up again stays, and dots in a query do not count. -/
theorem calls_confined_detour :
    let q := getFrom "http://[::1]:8000/plugins/chat/items?x=../.."
    answering.config.check = .ok () ∧ (∃ base, Url.parse answering.config.baseUrl = .ok base) ∧
      (∃ x h', start (callApi (contextOf "chat") "/a/../items?x=../.." .plain) answering =
        some (x, h') ∧ .requested q ∈ h'.journal) ∧ chatRoot.Covers q.url := by
  intro q
  have hcheck : answering.config.check = .ok () := by decide +kernel
  have hbase : Url.parse answering.config.baseUrl = .ok _ := rfl
  obtain ⟨x, h', e, hq⟩ : ∃ x h',
      start (callApi (contextOf "chat") "/a/../items?x=../.." .plain) answering = some (x, h') ∧
        .requested q ∈ h'.journal :=
    requested_of_requests (by decide +kernel)
  obtain ⟨root, hroot, hiff, -⟩ := calls_confined_iff hcheck hbase (by decide) (by decide +kernel) e
    rfl hq
  cases home_chat.symm.trans hroot
  have hstays : (HostConfig.wayOf "/a/../items?x=../..").up = 0 := by decide +kernel
  exact ⟨hcheck, ⟨_, hbase⟩, ⟨x, h', e, hq⟩, hiff.mpr ⟨rfl, .inr (Way.returns_of_up hstays _)⟩⟩

/-- One plugin leaves its own address for that of another, and both get the same answer. -/
theorem call_of_another :
    let q := getFrom "http://[::1]:8000/plugins/notes/items"
    answering.config.check = .ok () ∧ (∃ base, Url.parse answering.config.baseUrl = .ok base) ∧
      (∃ x h', start (callApi (contextOf "chat") "../notes/items" .plain) answering =
        some (x, h') ∧ .requested q ∈ h'.journal) ∧
      (∃ x h', start (callApi (contextOf "notes") "items" .plain) answering = some (x, h') ∧
        .requested q ∈ h'.journal) ∧
      answering.config.Home "chat" chatRoot ∧ ¬ chatRoot.Covers q.url := by
  intro q
  refine ⟨by decide +kernel, ⟨_, rfl⟩, requested_of_requests (by decide +kernel),
    requested_of_requests (by decide +kernel), home_chat, ?_⟩
  rintro ⟨rest, hrest⟩
  have hstarts : Text.startsWith chatRoot.withoutUser.text q.url = true :=
    Text.startsWith_iff.mpr ⟨rest, hrest⟩
  exact absurd hstarts (by decide +kernel)

end Host

end Plugboard
