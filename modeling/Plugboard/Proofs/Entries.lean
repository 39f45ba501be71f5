import Plugboard.Proofs.Exchange
import Plugboard.Proofs.Http.Extension
import Plugboard.Proofs.Registry

/-!
Where the writes of a store go that is behind HTTP. Each is about one entry of the user, and the
name of the entry's plugin is a part of the address.

* `RemoteStore.listUrl`, `RemoteStore.entryUrl`: the addresses of all entries and of one of them.
* `RemoteStore.entries_read`: how these are read, with a base address that is accepted.
* `Host.Addresses`: a write is one request for its entry, or none if the name is not proper.
* `Host.writes_addressed_iff`: the addresses of the entries are all different, and the name is a
  segment of the path just when the base address has neither query nor fragment.
-/
namespace Plugboard

open Http Run

/-- A lower-case letter, and lower-case letters, digits and hyphens behind it. -/
def PluginName.IsProper (name : String) : Prop :=
  ∃ c rest, name.toList = c :: rest ∧ ('a' ≤ c ∧ c ≤ 'z') ∧
    ∀ x ∈ rest, ('a' ≤ x ∧ x ≤ 'z') ∨ ('0' ≤ x ∧ x ≤ '9') ∨ x = '-'

theorem PluginName.IsProper.isName {name : String} (h : IsProper name) : IsName name.toList :=
  PluginName.isName (isValid_iff.mpr h)

namespace RemoteStore

variable {config : HostConfig}

/-- The address of all entries. -/
def listUrl (config : HostConfig) : String :=
  Text.trimEndOf '/' config.baseUrl ++ "/user-plugins/"

/-- What is behind it in the address of one entry. -/
def tailOf (w : Write) : String := w.plugin ++ "/" ++ action w

/-- The address of one entry. -/
def entryUrl (config : HostConfig) (w : Write) : String :=
  Text.trimEndOf '/' config.baseUrl ++ "/user-plugins/" ++ w.plugin ++ "/" ++ action w

theorem entryUrl_eq (config : HostConfig) (w : Write) :
    entryUrl config w = listUrl config ++ tailOf w := by
  rw [entryUrl, tailOf, listUrl]
  simp only [String.append_assoc]

theorem address_eq (config : HostConfig) (path : String) :
    address config path = listUrl config ++ path := by
  rw [address, HostConfig.apiUrl, listUrl, ← String.toList_inj]
  simp [Text.trimStartOf]

theorem isName_action (w : Write) : IsName (action w).toList := by
  refine PluginName.isName ?_
  rcases w with ⟨_, _ | _⟩ | _ <;> rw [action] <;> decide

theorem toList_tailOf (w : Write) :
    (tailOf w).toList = w.plugin.toList ++ '/' :: (action w).toList := by
  simp [tailOf]

/-- A slash ends the name, so no other name goes on where it ends. -/
theorem tailOf_inj {w w' : Write} (hname : PluginName.IsProper w.plugin) :
    tailOf w = tailOf w' ↔ w.plugin = w'.plugin ∧ action w = action w' := by
  have hslash : '/' ∈ special := by decide
  rw [← String.toList_inj, toList_tailOf, toList_tailOf,
    List.append_cons_inj_of_notMem (hname.isName.notMem hslash) ((isName_action w).notMem hslash),
    String.toList_inj, String.toList_inj]
  simp

/-! ## Requests -/

theorem writeRequest_eq_error {token : String} {w : Write} (h : ¬ PluginName.IsProper w.plugin) :
    ∃ e, writeRequest config token w = .error (.invalidName w.plugin e) := by
  rw [PluginName.IsProper, ← PluginName.isValid_iff, ← PluginName.check_eq_ok] at h
  rw [writeRequest]
  cases hc : PluginName.check w.plugin with
  | error e => exact ⟨e, rfl⟩
  | ok => exact absurd hc h

theorem writeRequest_eq_ok {token : String} {w : Write} (h : PluginName.IsProper w.plugin) :
    ∃ q, writeRequest config token w = .ok q ∧ q.url = entryUrl config w := by
  rw [PluginName.IsProper, ← PluginName.isValid_iff, ← PluginName.check_eq_ok] at h
  refine ⟨_, by rw [writeRequest, h], ?_⟩
  rw [entryUrl_eq]
  exact address_eq config (tailOf w)

theorem readResponse_ne_invalidName {operation plugin : String}
    {answer : Except TransportError Response} {e : PluginError} :
    readResponse operation Entry.ofWritten? answer ≠ .error (.invalidName plugin e) := by
  unfold readResponse
  cases answer with
  | error cause => nofun
  | ok response =>
    dsimp only
    split
    · split <;> nofun
    · nofun

/-! ## Reading -/

/-- What is in front of the addresses of the store, as it is read. -/
def frontOf (config : HostConfig) : List Char :=
  HostConfig.beforeSlash (Text.trimEndOf '/' config.baseUrl ++ "/user-plugins")

theorem toNat_of_isAlpha {c : Char} (h : c.isAlpha = true) : 65 ≤ c.toNat ∧ c.toNat ≤ 122 := by
  rcases (Bool.or_eq_true c.isUpper c.isLower).mp h with h | h
  · obtain ⟨hlow, hhigh⟩ := of_decide_eq_true h
    exact ⟨hlow, Nat.le_trans hhigh (by decide)⟩
  · obtain ⟨hlow, hhigh⟩ := (Bool.and_eq_true (decide (c.val ≥ 'a'.val)) _).mp h
    exact ⟨Nat.le_trans (by decide) (of_decide_eq_true hlow), of_decide_eq_true hhigh⟩

theorem toNat_of_isSchemeChar {c : Char} (h : isSchemeChar c = true) :
    43 ≤ c.toNat ∧ c.toNat ≤ 122 := by
  simp only [isSchemeChar, Text.isDigit, Bool.or_eq_true, Bool.and_eq_true, decide_eq_true_eq,
    beq_iff_eq] at h
  rcases h with (((⟨hlow, hhigh⟩ | halpha) | rfl) | rfl) | rfl
  · exact ⟨Nat.le_trans (by decide) hlow, Nat.le_trans hhigh (by decide)⟩
  · exact (toNat_of_isAlpha halpha).imp_left (Nat.le_trans (by decide))
  all_goals decide

/-- Blanks that are not taken away from an address stand in the way of its scheme. -/
theorem isSchemeChar_of_isBlank {c : Char} (h : Text.isBlank c = true) :
    isSchemeChar c = false := by
  refine Bool.eq_false_iff.mpr fun hscheme => ?_
  have hrange := toNat_of_isSchemeChar hscheme
  simp only [Text.isBlank, Text.within, Text.blankRanges, List.any_cons, List.any_nil,
    Bool.or_eq_true, Bool.and_eq_true, decide_eq_true_eq, Bool.or_false] at h
  omega

/-- A base address that is accepted has its scheme behind blanks at most. -/
theorem baseUrl_of_check (hcheck : config.check = .ok ()) : ∃ blanks scheme more,
    (∀ c ∈ blanks, Text.isBlank c = true) ∧ (scheme = "http" ∨ scheme = "https") ∧
      config.baseUrl.toList = blanks ++ (scheme.toList ++ ':' :: '/' :: '/' :: more) := by
  obtain ⟨scheme, full, hscheme, hfull⟩ :=
    HostConfig.isWebAddress_iff.mp (HostConfig.check_eq_ok.mp hcheck).1
  obtain ⟨more, hmore⟩ := Text.dropEndWhile_isPrefix Text.isBlank
    (config.baseUrl.toList.dropWhile Text.isBlank)
  have hfront : scheme.toList ++ full.toList ++ more =
      config.baseUrl.toList.dropWhile Text.isBlank := by
    rw [← hmore, ← String.toList_append, ← hfull, Text.toList_trim]
    rfl
  have hbase : config.baseUrl.toList = config.baseUrl.toList.takeWhile Text.isBlank ++
      (scheme.toList ++ full.toList ++ more) := by
    rw [hfront, List.takeWhile_append_dropWhile]
  have hblanks : ∀ c ∈ config.baseUrl.toList.takeWhile Text.isBlank, Text.isBlank c = true :=
    fun c hc => List.mem_takeWhile_imp hc
  rcases hscheme with rfl | rfl
  · exact ⟨_, "http", full.toList ++ more, hblanks, .inl rfl, hbase.trans (by simp)⟩
  · exact ⟨_, "https", full.toList ++ more, hblanks, .inr rfl, hbase.trans (by simp)⟩

/-- Either blanks keep the scheme from being read, or it is that of a web address and there is a
host. -/
theorem frontOf_eq (hcheck : config.check = .ok ()) :
    readScheme (frontOf config) = none ∨ ∃ scheme rest n,
      readScheme (frontOf config) = some (scheme, rest) ∧ schemeKind scheme = .web n ∧
        rest.dropWhile (SchemeKind.web n).isSlash ≠ [] := by
  obtain ⟨blanks, scheme, more, hblanks, hscheme, hbase⟩ := baseUrl_of_check hcheck
  let kept := Text.dropEndWhile (· == '/') ('/' :: '/' :: more) ++ "/user-plugins".toList
  have hfront : frontOf config = ((blanks ++ (scheme.toList ++ ':' :: kept)).dropWhile
      isTrimmedFromUrl).filter fun c => !isSkippedInUrl c := by
    rw [frontOf, HostConfig.beforeSlash, String.toList_append, Text.toList_trimEndOf, hbase,
      ← List.append_assoc, Text.dropEndWhile_append_of_last (by decide)]
    simp [kept]
  by_cases hall : ∀ c ∈ blanks, isTrimmedFromUrl c = true
  · right
    have hhost : ∀ n, (kept.filter fun c => !isSkippedInUrl c).dropWhile
        (SchemeKind.web n).isSlash ≠ [] := by
      intro n hnil
      have hmem : 'u' ∈ kept.filter fun c => !isSkippedInUrl c :=
        List.mem_filter.mpr ⟨List.mem_append_right _ (by decide), by decide⟩
      exact absurd (List.dropWhile_eq_nil_iff.mp hnil 'u' hmem) (by simp [SchemeKind.isSlash])
    rw [List.dropWhile_append_of_pos hall] at hfront
    rcases hscheme with rfl | rfl
    · exact ⟨"http", _, 80, readScheme_eq_some_iff.mpr ⟨'h', ['t', 't', 'p'], hfront.trans rfl,
        List.all_eq_true.mp (by decide), by decide, rfl⟩, by decide, hhost 80⟩
    · exact ⟨"https", _, 443, readScheme_eq_some_iff.mpr ⟨'h', ['t', 't', 'p', 's'],
        hfront.trans rfl, List.all_eq_true.mp (by decide), by decide, rfl⟩, by decide, hhost 443⟩
  · left
    have hne : blanks.dropWhile isTrimmedFromUrl ≠ [] := mt List.dropWhile_eq_nil_iff.mp hall
    rw [dropWhile_append_of_ne_nil _ hne] at hfront
    obtain ⟨c, rest, hrest⟩ := List.exists_cons_of_ne_nil hne
    have hstay : isTrimmedFromUrl c = false := by
      have hhead := List.head_dropWhile_not isTrimmedFromUrl hne
      simpa only [hrest, List.head_cons] using hhead
    have hblank : isSchemeChar c = false := isSchemeChar_of_isBlank <|
      hblanks c ((List.dropWhile_sublist _).subset (hrest ▸ List.mem_cons_self))
    rw [hfront, hrest, List.cons_append,
      List.filter_cons_of_pos (by simp [isSkippedInUrl_eq_false hstay]), readScheme,
      List.takeWhile_cons_of_neg (Bool.eq_false_iff.mp hblank)]

theorem readsOn_frontOf (hcheck : config.check = .ok ()) : ReadsOn (frontOf config) := by
  by_cases hfragment : '#' ∈ frontOf config
  · exact readsOn_fragment hfragment
  by_cases hquery : '?' ∈ frontOf config
  · exact readsOn_query hfragment hquery
  rcases frontOf_eq hcheck with hnone | ⟨scheme, rest, n, hs, hk, hhost⟩
  · exact readsOn_unschemed hfragment hquery hnone
  · exact readsOn_path hfragment hquery hs hk hhost

theorem clean_listUrl_append {path : List Char}
    (hend : Text.dropEndWhile isTrimmedFromUrl path = path)
    (hkept : path.filter (fun c => !isSkippedInUrl c) = path) :
    Url.clean (listUrl config ++ String.ofList path).toList = frontOf config ++ '/' :: path := by
  have htext : (listUrl config ++ String.ofList path).toList =
      (Text.trimEndOf '/' config.baseUrl ++ "/user-plugins").toList ++ '/' :: path := by
    simp [listUrl]
  have hskip : isSkippedInUrl '/' = false := by decide
  rw [htext, Url.clean, Text.stripChars, dropWhile_append_stop (by decide),
    Text.dropEndWhile_append_of_last (by decide), hend, List.filter_append, List.filter_cons, hskip,
    hkept, frontOf, HostConfig.beforeSlash]
  rfl

/-- The address of all entries can be read, and those of the entries go on where it ends. -/
structure Reads (config : HostConfig) (root : Url) : Prop where
  list : Url.parse (listUrl config) = .ok root
  entry : ∀ w : Write, PluginName.IsProper w.plugin →
    Url.parse (entryUrl config w) = .ok (root.extend (tailOf w))
  slash : root.query = none → root.fragment = none → ∃ front, root.path.toList = front ++ ['/']

theorem reads_of_check (hcheck : config.check = .ok ()) :
    (∃ e, Url.parse (listUrl config) = .error e ∧ ∀ w : Write, PluginName.IsProper w.plugin →
      Url.parse (entryUrl config w) = .error e) ∨ ∃ root, Reads config root := by
  have hlist : Url.clean (listUrl config).toList = frontOf config ++ '/' :: [] := by
    simpa using @clean_listUrl_append config [] rfl rfl
  have hentry : ∀ w : Write, PluginName.IsProper w.plugin → Url.clean (entryUrl config w).toList =
      frontOf config ++ '/' :: (w.plugin.toList ++ '/' :: (action w).toList) := by
    intro w hname
    have hskip : isSkippedInUrl '/' = false := by decide
    rw [entryUrl_eq, ← String.ofList_toList (s := tailOf w), toList_tailOf]
    refine clean_listUrl_append ?_ ?_
    · rw [Text.dropEndWhile_append_of_last (by decide), (isName_action w).dropEndWhile_eq]
    · rw [List.filter_append, List.filter_cons, hskip, hname.isName.filter_eq,
        (isName_action w).filter_eq]
      rfl
  rcases readsOn_frontOf hcheck with ⟨e, he⟩ | ⟨b, hb, hread⟩
  · exact .inl ⟨e, he _ _ hlist, fun w hname => he _ _ (hentry w hname)⟩
  · refine .inr ⟨b.goOn [], hread _ _ hlist, fun w hname => ?_, b.path_goOn_nil hb⟩
    rw [hread _ _ (hentry w hname), b.goOn_pair hb hname.isName (isName_action w), ← toList_tailOf,
      String.ofList_toList]

theorem mem_listUrl_iff {mark : Char} (hslash : mark ≠ '/')
    (hmark : ¬ "/user-plugins/".toList.contains mark) :
    mark ∈ (listUrl config).toList ↔ mark ∈ config.baseUrl.toList := by
  rw [listUrl, String.toList_append, Text.toList_trimEndOf, List.mem_append,
    mem_dropEndWhile_iff (by simpa using hslash), or_iff_left (by simpa using hmark)]

/-- The address of an entry beside that of all entries. -/
structure Entered (config : HostConfig) (root u : Url) (w : Write) : Prop where
  text : u.text = root.text ++ w.plugin ++ "/" ++ action w
  /-- The name is one segment of the path, and the action another one. -/
  segments : u.segments = root.directories ++ [w.plugin.toList, (action w).toList] ↔
    '?' ∉ config.baseUrl.toList ∧ '#' ∉ config.baseUrl.toList
  wire : u.wire = root.wire ↔ '#' ∈ config.baseUrl.toList

namespace Reads

variable {root : Url}

theorem fragment_iff (h : Reads config root) :
    root.fragment ≠ none ↔ '#' ∈ config.baseUrl.toList := by
  rw [Ne, (Url.parse_marks h.list).1, mem_listUrl_iff (by decide) (by decide), not_not]

theorem entered (h : Reads config root) {w : Write} (hname : PluginName.IsProper w.plugin) :
    Entered config root (root.extend (tailOf w)) w where
  text := by
    rw [Url.text_extend, tailOf]
    simp only [String.append_assoc]
  segments := by
    have hslash : '/' ∈ special := by decide
    rw [← @mem_listUrl_iff config '?' (by decide) (by decide),
      ← @mem_listUrl_iff config '#' (by decide) (by decide), ← (Url.parse_marks h.list).2,
      ← Url.segments_extend_iff (hname.isName.notMem hslash) ((isName_action w).notMem hslash)
        h.slash, ← toList_tailOf, String.ofList_toList]
  wire := by
    have hsame := @Url.wire_extend_iff root (tailOf w) ""
    have hne : tailOf w ≠ "" := by simp [tailOf]
    rw [Url.extend_empty] at hsame
    rw [hsame, h.fragment_iff, or_iff_left hne]

end Reads

end RemoteStore

namespace Host

open RemoteStore

/-- A write is refused, with nothing sent, if its name is not proper. Otherwise it is one request
for the entry. -/
structure Addresses (h : Host) (token : String) (w : Write) : Prop where
  refused : ¬ PluginName.IsProper w.plugin → ∃ e h',
    start (write token w) h = some (.ok (.error (.invalidName w.plugin e)), h') ∧
      h'.requests = h.requests
  sent : PluginName.IsProper w.plugin → ∃ q result h', q.url = entryUrl h.config w ∧
    start (write token w) h = some (.ok result, h') ∧
      (∀ e, result ≠ .error (.invalidName w.plugin e)) ∧
      h'.requests = h.requests ++ h.arrivals q ∧
      ∀ a ∈ h.arrivals q, ∃ u, Url.parse q.url = .ok u ∧ a.url = u.wire

theorem requests_stored (h : Host) (c : StoreCall) :
    (h.recorded (.stored c)).requests = h.requests :=
  (requests_recorded h _).trans (List.append_nil _)

theorem write_start_of_remote {h : Host} (hstore : h.store = .remote) (token : String) (w : Write) :
    start (write token w) h = match writeRequest h.config token w with
      | .error e => some (.ok (.error e), h.recorded (.stored (.write token w)))
      | .ok r =>
        start (ask w.operation Entry.ofWritten? r) (h.recorded (.stored (.write token w))) := by
  have hrecord : start (record (.stored (.write token w))) h =
    some (.ok ⟨⟩, h.recorded (.stored (.write token w))) := rfl
  have hremote : (h.recorded (.stored (.write token w))).store = .remote := hstore
  have hconfig : (h.recorded (.stored (.write token w))).config = h.config := rfl
  simp only [write, start_bind, hrecord, start_get, hremote, hconfig]
  cases writeRequest h.config token w <;> rfl

theorem write_addresses {h : Host} (hstore : h.store = .remote) (token : String) (w : Write) :
    h.Addresses token w where
  refused := by
    intro hname
    obtain ⟨e, he⟩ := @writeRequest_eq_error h.config token w hname
    refine ⟨e, h.recorded (.stored (.write token w)), ?_, requests_stored h _⟩
    rw [write_start_of_remote hstore, he]
  sent := by
    intro hname
    obtain ⟨q, hq, hurl⟩ := @writeRequest_eq_ok h.config token w hname
    obtain ⟨h', e, hrequests⟩ := ask_exchanges w.operation Entry.ofWritten? q
      (h.recorded (.stored (.write token w)))
    rw [requests_stored] at hrequests
    have hstart := write_start_of_remote hstore token w
    rw [hq] at hstart
    refine ⟨q, _, h', hurl, hstart.trans e, fun _ => readResponse_ne_invalidName, hrequests,
      fun a ha => ?_⟩
    obtain ⟨u, hu, rfl⟩ := of_mem_arrivals ha
    exact ⟨u, hu, rfl⟩

/-- The writes of a store behind HTTP with a base address that is accepted. Each is one request for
its own entry, and no two entries, nor an entry and the list of all, have the same address. As they
are read, the addresses go on where that of the list ends; the name is a segment of the path just
when the base address has neither query nor fragment, and with a fragment all of them are requested
at one address. -/
theorem writes_addressed_iff {h : Host} (hcheck : h.config.check = .ok ())
    (hstore : h.store = .remote) :
    (∀ token w, h.Addresses token w) ∧
    (∀ token, (fetchRequest h.config token).url = listUrl h.config) ∧
    (∀ w w', PluginName.IsProper w.plugin → PluginName.IsProper w'.plugin →
      entryUrl h.config w = entryUrl h.config w' → w.plugin = w'.plugin ∧ action w = action w') ∧
    (∀ w, entryUrl h.config w ≠ listUrl h.config) ∧
    ((∃ e, Url.parse (listUrl h.config) = .error e ∧ ∀ w : Write, PluginName.IsProper w.plugin →
        Url.parse (entryUrl h.config w) = .error e) ∨
      ∃ root, Url.parse (listUrl h.config) = .ok root ∧
        (∀ w : Write, PluginName.IsProper w.plugin →
          ∃ u, Url.parse (entryUrl h.config w) = .ok u ∧ Entered h.config root u w) ∧
        ∀ (w w' : Write) (u u' : Url), PluginName.IsProper w.plugin →
          PluginName.IsProper w'.plugin → Url.parse (entryUrl h.config w) = .ok u →
          Url.parse (entryUrl h.config w') = .ok u' →
          (u.wire = u'.wire ↔ '#' ∈ h.config.baseUrl.toList ∨
            (w.plugin = w'.plugin ∧ action w = action w'))) := by
  refine ⟨write_addresses hstore, fun token => ?_, fun w w' hname hname' he => ?_, fun w he => ?_,
    ?_⟩
  · exact (address_eq h.config "").trans (String.append_empty)
  · rw [entryUrl_eq, entryUrl_eq, String.append_right_inj] at he
    exact (tailOf_inj hname).mp he
  · have hempty : tailOf w = "" := by
      rwa [entryUrl_eq, String.append_eq_left_iff] at he
    simp [tailOf] at hempty
  · refine (reads_of_check hcheck).imp id ?_
    rintro ⟨root, hroot⟩
    refine ⟨root, hroot.list, fun w hname => ⟨_, hroot.entry w hname, hroot.entered hname⟩, ?_⟩
    intro w w' u u' hname hname' hu hu'
    cases hu.symm.trans (hroot.entry w hname)
    cases hu'.symm.trans (hroot.entry w' hname')
    rw [Url.wire_extend_iff, hroot.fragment_iff, tailOf_inj hname]

/-- A write for a plugin whose name looks like an action. -/
def enableConfig : Write := .toggle "config" true

/-- It goes to the entry of that plugin. -/
theorem writes_addressed_local :
    answering.config.check = .ok () ∧ answering.store = .remote ∧
      PluginName.IsProper enableConfig.plugin ∧
      ∃ root u, Url.parse (listUrl answering.config) = .ok root ∧
        Url.parse (entryUrl answering.config enableConfig) = .ok u ∧
        u.segments = root.directories ++ ["config".toList, "enable".toList] := by
  have hcheck : answering.config.check = .ok () := by decide +kernel
  have hname : PluginName.IsProper enableConfig.plugin := PluginName.isValid_iff.mp (by decide)
  have hroot : Url.parse (listUrl answering.config) = .ok _ := rfl
  refine ⟨hcheck, rfl, hname, ?_⟩
  obtain ⟨-, -, -, -, ⟨e, he, -⟩ | ⟨root, hlist, hentry, -⟩⟩ := writes_addressed_iff hcheck rfl
  · cases hroot.symm.trans he
  · obtain ⟨u, hu, hentered⟩ := hentry enableConfig hname
    exact ⟨root, u, hlist, hu, hentered.segments.mpr (by decide)⟩

/-- A host whose base address ends in a mark of a fragment. -/
def fragmented : Host :=
  .new { HostConfig.default with baseUrl := "http://[::1]:8000/#" } .ignore .remote
    (.scripted [.answered 200 [] true])

/-- Where requests arrive that a host makes for its store. -/
def arrivedAt {α : Type} (m : HostRun α) : Option (List String) :=
  (start m fragmented).map fun ended => ended.2.requests.map (·.url)

/-- The writes for two plugins, and the list of all entries, are requested at one address. -/
theorem writes_at_one_address :
    fragmented.config.check = .ok () ∧ fragmented.store = .remote ∧
      arrivedAt (write "ada" (.toggle "chat" true)) = some ["http://[::1]:8000/"] ∧
      arrivedAt (write "ada" (.toggle "notes" false)) = some ["http://[::1]:8000/"] ∧
      arrivedAt (fetch "ada") = some ["http://[::1]:8000/"] := by
  refine ⟨?_, rfl, ?_, ?_, ?_⟩ <;> decide +kernel

end Host

end Plugboard
