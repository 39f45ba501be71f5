import Plugboard.Http.Login
import Plugboard.Proofs.Http.Reading

/-!
What it takes for an address to stay below another one.

* `IsName`: a name that stands for itself wherever it is put in an address.
* `Url.Covers`: the text of an address goes on where that of another ends.
* `Begun.enter`: a name and a slash more are known.
* `Begun.covers_iff`: what is read on is covered just when its way comes back, or a query has begun.
* `Begun.covers_unique`: what two names cover has nothing in common.
-/
namespace Plugboard.Http

namespace Url

/-- The directories of an address, the first one empty. -/
def directories (u : Url) : List (List Char) := (splitAt (· == '/') u.path.toList).dropLast

def origin (u : Url) : String := u.scheme ++ ":" ++ (u.authority.map fun a => "//" ++ a.text).getD ""

/-- What is behind the path. -/
def asked (u : Url) : String := (u.query.map fun q => "?" ++ q).getD ""

theorem head_asked (u : Url) : ∀ c ∈ u.asked.toList.head?, c = '?' := by
  rw [asked]
  cases u.query with
  | none => simp
  | some q => simp [eq_comm]

/-- An address is covered by the one whose text it begins with. -/
def Covers (root : Url) (address : String) : Prop := ∃ rest, address = root.withoutUser.text ++ rest

theorem origin_withoutUser {u v : Url} (hs : u.scheme = v.scheme) (ha : u.authority = v.authority) :
    u.withoutUser.origin = v.withoutUser.origin := by
  simp [origin, withoutUser, hs, ha]

theorem text_withoutUser (u : Url) : u.withoutUser.text =
    u.withoutUser.origin ++ u.path ++ u.asked ++ (u.fragment.map fun f => "#" ++ f).getD "" := rfl

theorem text_requested (u : Url) :
    u.withoutUser.requested.text = u.withoutUser.origin ++ u.path ++ u.asked := by
  rw [← String.append_empty (s := u.withoutUser.origin ++ u.path ++ u.asked)]
  rfl

/-- The text of an address, when another one has the same scheme and authority. -/
theorem toList_text (u v : Url) (hs : u.scheme = v.scheme) (ha : u.authority = v.authority) :
    u.withoutUser.text.toList = v.withoutUser.origin.toList ++ (u.path.toList ++ (u.asked.toList ++
      ((u.fragment.map fun f => "#" ++ f).getD "").toList)) := by
  rw [text_withoutUser, origin_withoutUser hs ha]
  simp

/-- What follows scheme and authority decides between addresses that have them in common. -/
theorem covers_requested_iff (root u : Url) (hs : u.scheme = root.scheme)
    (ha : u.authority = root.authority) : root.Covers u.withoutUser.requested.text ↔
      root.path.toList ++ root.asked.toList ++
        ((root.fragment.map fun f => "#" ++ f).getD "").toList <+: u.path.toList ++ u.asked.toList := by
  rw [Covers, text_withoutUser, text_requested, origin_withoutUser hs ha]
  constructor
  · rintro ⟨rest, h⟩
    refine ⟨rest.toList, ?_⟩
    have := congrArg String.toList h
    simpa using this.symm
  · rintro ⟨rest, h⟩
    refine ⟨String.ofList rest, ?_⟩
    rw [← String.toList_inj]
    simpa using h.symm

end Url

/-! ## Names -/

/-- The characters that may not stand everywhere in an address as they are. -/
def special : List Char := badInPath ++ ['\'', '/', '\\']

theorem badInQuery_subset (k : SchemeKind) : badInQuery k ⊆ special ∧ '/' ∉ badInQuery k := by
  have hall : ∀ other : Bool, " \"#<>".toList ++ (if other then [] else ['\'']) ⊆ special ∧
      '/' ∉ " \"#<>".toList ++ (if other then [] else ['\'']) := by decide
  exact hall k.isOther

/-- A name that stands for itself wherever it is put in an address. -/
structure IsName (name : List Char) : Prop where
  kept : ∀ c ∈ name, 0x20 ≤ c.toNat ∧ c.toNat ≤ 0x7E ∧ c ∉ special
  single : isSingleDot name = false
  double : isDoubleDot name = false

namespace IsName

variable {name : List Char}

theorem notMem (h : IsName name) {c : Char} (hc : c ∈ special) : c ∉ name :=
  fun hmem => (h.kept c hmem).2.2 hc

theorem percentEncode_eq (h : IsName name) {bad : List Char} (hbad : bad ⊆ special) :
    percentEncode bad name = name :=
  percentEncode_eq_self fun c hc =>
    have ⟨hlow, hhigh, hspecial⟩ := h.kept c hc
    ⟨hlow, hhigh, fun hmem => hspecial (hbad hmem)⟩

/-- So does a slash behind it, in query and fragment. -/
theorem percentEncode_slash (h : IsName name) {bad : List Char} (hbad : bad ⊆ special)
    (hslash : '/' ∉ bad) : percentEncode bad (name ++ ['/']) = name ++ ['/'] := by
  have hself : percentEncode bad ['/'] = ['/'] :=
    percentEncode_eq_self (List.forall_mem_singleton.mpr ⟨by decide, by decide, hslash⟩)
  rw [percentEncode_append, h.percentEncode_eq hbad, hself]

theorem filter_eq (h : IsName name) : name.filter (fun c => !isSkippedInUrl c) = name := by
  rw [List.filter_eq_self]
  intro c hc
  have hlow := (h.kept c hc).1
  cases hskip : isSkippedInUrl c with
  | false => rfl
  | true =>
    simp only [isSkippedInUrl, Bool.or_eq_true, beq_iff_eq] at hskip
    rcases hskip with (rfl | rfl) | rfl <;> exact absurd hlow (by decide)

theorem splitMark_append (h : IsName name) {mark : Char} (hmark : mark ∈ special)
    (hslash : mark ≠ '/') (cs : List Char) : splitMark mark (name ++ '/' :: cs) =
      (name ++ '/' :: (splitMark mark cs).1, (splitMark mark cs).2) := by
  have hmem : mark ∉ name ++ ['/'] := by simpa using ⟨h.notMem hmark, hslash⟩
  rw [List.append_cons, splitMark_append_of_notMem hmem, ← List.append_cons]

theorem splitAt_eq (h : IsName name) (n : Nat) :
    splitAt (SchemeKind.web n).isSlash name = [name] := by
  refine splitAt_of_forall fun c hc => ?_
  have hslash : c ≠ '/' := fun he => h.notMem (by decide) (he ▸ hc)
  have hback : c ≠ '\\' := fun he => h.notMem (by decide) (he ▸ hc)
  simp [SchemeKind.isSlash, hslash, hback]

theorem pathFrom_append (h : IsName name) (n : Nat) (dirs : List (List Char)) (cs : List Char) :
    pathFrom n dirs (name ++ '/' :: cs) = pathFrom n (dirs ++ [name]) cs := by
  have hclose : closeSegment (.web n) dirs name = dirs ++ [name] := by
    have hself : percentEncode badInPath name = name := h.percentEncode_eq (by decide)
    rw [closeSegment, h.double, h.single]
    simp [writeSegment, hself]
  rw [Http.pathFrom_append (splitAt_append_sep rfl name cs), h.splitAt_eq]
  exact congrArg (pathFrom n · cs) hclose

end IsName

/-! ## Going on behind a name -/

/-- What of an endpoint is a path, a query and a fragment apart. -/
def pathPart (cs : List Char) : List Char := (splitMark '?' (splitMark '#' cs).1).1

theorem pathFrom_nil (n : Nat) (dirs : List (List Char)) :
    pathFrom n dirs [] = joinWith '/' (dirs ++ [[]]) := rfl

theorem pathFrom_nil_of_plain (n : Nat) {dirs : List (List Char)} (hdirs : Plain dirs) :
    pathFrom n dirs [] = joinWith '/' dirs ++ ['/'] := by
  rw [pathFrom_nil, joinWith_append hdirs.ne_nil (List.cons_ne_nil _ _)]
  rfl

section
variable {n : Nat} {dirs : List (List Char)} {name cs : List Char}

theorem directories_pathFrom (hdirs : Plain dirs) :
    (splitAt (· == '/') (pathFrom n dirs cs)).dropLast = (Way.ofPath cs).goFrom dirs := by
  obtain ⟨last, hlast, he, hplain⟩ := pathFrom_eq (n := n) hdirs cs
  have hslash : ∀ part ∈ (Way.ofPath cs).goFrom dirs ++ [last], '/' ∉ part :=
    List.forall_mem_append.mpr ⟨hplain.slash, List.forall_mem_singleton.mpr hlast⟩
  rw [he, splitAt_joinWith (List.concat_ne_nil _ _) hslash, List.dropLast_concat]

/-- A mark decides where a text without it ends. -/
theorem prefix_append_iff {mark : Char} {as bs cs : List Char} (has : mark ∉ as)
    (hcs : ∀ c ∈ cs.head?, c = mark) : as <+: bs ++ cs ↔ as <+: bs := by
  refine ⟨fun h => ?_, fun h => h.trans (List.prefix_append _ _)⟩
  rcases List.prefix_or_prefix_of_prefix h (List.prefix_append bs cs) with hle | ⟨rest, rfl⟩
  · exact hle
  · cases rest with
    | nil =>
      rw [List.append_nil]
    | cons c rest =>
      obtain ⟨more, rfl⟩ := (List.prefix_append_right_inj bs).mp h
      obtain rfl := hcs c rfl
      exact absurd (List.mem_append_right _ List.mem_cons_self) has

/-- A path from some directories on goes below them just when its way comes back to them. -/
theorem pathFrom_prefix_iff (hdirs : Plain dirs) {asked : List Char}
    (hasked : ∀ c ∈ asked.head?, c = '?') :
    pathFrom n dirs [] <+: pathFrom n dirs cs ++ asked ↔
      dirs <+: (Way.ofPath cs).goFrom dirs := by
  have hroot : pathFrom n dirs [] = joinWith '/' dirs ++ ['/'] := pathFrom_nil_of_plain n hdirs
  have hmark : '?' ∉ pathFrom n dirs [] := by
    intro h
    rw [hroot, List.mem_append, List.mem_singleton] at h
    rcases h with h | h
    · rcases mem_joinWith h with h | ⟨dir, hdir, h⟩
      · exact absurd h (by decide)
      · exact hdirs.mark dir hdir h
    · exact absurd h (by decide)
  rw [prefix_append_iff hmark hasked, hroot, append_slash_prefix_iff, directories_pathFrom hdirs,
    splitAt_joinWith hdirs.ne_nil hdirs.slash]

namespace Begun

/-- What is known when a name and a slash have come. -/
def enter : Begun → List Char → Begun
  | .path n scheme a dirs, name => .path n scheme a (dirs ++ [name])
  | .query head asked, name => .query head (asked ++ (name ++ ['/']))
  | .fragment head asked marked, name => .fragment head asked (marked ++ (name ++ ['/']))

theorem goOn_enter (b : Begun) (hname : IsName name) (cs : List Char) :
    b.goOn (name ++ '/' :: cs) = (b.enter name).goOn cs := by
  cases b with
  | path n scheme a dirs =>
    simp only [goOn, enter, hname.splitMark_append (by decide : '#' ∈ special) (by decide),
      hname.splitMark_append (by decide : '?' ∈ special) (by decide), hname.pathFrom_append]
  | query head asked =>
    simp [goOn, enter, hname.splitMark_append (by decide : '#' ∈ special) (by decide)]
  | fragment head asked marked => simp [goOn, enter]

theorem IsPlain.enter {b : Begun} (hb : b.IsPlain) (hname : IsName name) :
    (b.enter name).IsPlain := by
  cases b with
  | path n scheme a dirs =>
    have hself : percentEncode badInPath name = name := hname.percentEncode_eq (by decide)
    have hplain := Plain.concat hb (hname.notMem (by decide : '/' ∈ special))
    rwa [hself] at hplain
  | query head asked => trivial
  | fragment head asked marked => trivial

theorem directories_goOn (hdirs : Plain dirs) (scheme : String) (a : Authority) (cs : List Char) :
    ((path n scheme a dirs).goOn cs).directories = (Way.ofPath (pathPart cs)).goFrom dirs := by
  rw [Url.directories, ← directories_pathFrom (n := n) hdirs, goOn, Head.complete,
    String.toList_ofList, pathPart]

theorem goOn_path_nil (scheme : String) (a : Authority) : (path n scheme a dirs).goOn [] =
    Head.complete ⟨scheme, some a, pathFrom n dirs []⟩ none none := rfl

theorem goOn_query_nil (head : Head) (asked : List Char) :
    (query head asked).goOn [] = head.complete (some asked) none := by
  simp [goOn, splitMark]

/-- What is read on is covered by what is known just when no fragment has begun, and either a query
has, in which no way leads up, or the way comes back to the directories. -/
theorem covers_iff {b : Begun} (hb : b.IsPlain) (cs : List Char) :
    let root := b.goOn []
    root.Covers (b.goOn cs).withoutUser.requested.text ↔
      root.fragment = none ∧ (root.query ≠ none ∨
        (Way.ofPath (pathPart cs)).Returns root.directories) := by
  intro root
  cases b with
  | path n scheme a dirs =>
    let u := (path n scheme a dirs).goOn cs
    have hroot : root = Head.complete ⟨scheme, some a, pathFrom n dirs []⟩ none none := rfl
    have hdirs : root.directories = dirs :=
      (directories_goOn hb scheme a []).trans (List.append_nil dirs)
    have hpath : u.path.toList = pathFrom n dirs (pathPart cs) := String.toList_ofList
    rw [Url.covers_requested_iff root u rfl rfl, hdirs, hpath, Way.returns_iff,
      ← pathFrom_prefix_iff (n := n) hb u.head_asked]
    simp [hroot, Head.complete, Url.asked]
  | query head asked =>
    let u := (query head asked).goOn cs
    have hroot : root = head.complete (some asked) none := goOn_query_nil head asked
    rw [Url.covers_requested_iff root u rfl rfl, hroot]
    refine iff_of_true ?_ ⟨rfl, .inl (Option.some_ne_none _)⟩
    simp [u, goOn, Head.complete, Url.asked, percentEncode_append]
  | fragment head asked marked =>
    refine iff_of_false (fun h => ?_) fun h => Option.some_ne_none _ h.1
    let u := (fragment head asked marked).goOn cs
    obtain ⟨rest, hrest⟩ := (Url.covers_requested_iff root u rfl rfl).mp h
    have hlength := congrArg List.length hrest
    simp [root, u, goOn, Head.complete, Url.asked] at hlength

/-- A name that is entered is what the text of the address ends in. -/
theorem text_enter {b : Begun} (hb : b.IsPlain) : ∃ front, ∀ name, IsName name →
    ((b.enter name).goOn []).withoutUser.text.toList = front ++ (name ++ ['/']) := by
  cases b with
  | path n scheme a dirs =>
    let u := (path n scheme a dirs).goOn []
    refine ⟨u.withoutUser.origin.toList ++ (joinWith '/' dirs ++ ['/']), fun name hname => ?_⟩
    have hpath : pathFrom n (dirs ++ [name]) [] = joinWith '/' dirs ++ ['/'] ++ (name ++ ['/']) := by
      rw [pathFrom_nil, List.append_assoc, joinWith_append hb.ne_nil (by simp)]
      simp [joinWith]
    rw [Url.toList_text ((enter (path n scheme a dirs) name).goOn []) u rfl rfl, enter,
      goOn_path_nil]
    simp [Head.complete, Url.asked, hpath]
  | query head asked =>
    let u := (query head asked).goOn []
    refine ⟨u.withoutUser.origin.toList ++ (head.body.path ++ '?' ::
      percentEncode (badInQuery (schemeKind head.scheme)) asked), fun name hname => ?_⟩
    have hself := hname.percentEncode_slash (badInQuery_subset (schemeKind head.scheme)).1
      (badInQuery_subset _).2
    rw [Url.toList_text ((enter (query head asked) name).goOn []) u rfl rfl, enter, goOn_query_nil]
    simp [Head.complete, Url.asked, percentEncode_append (badInQuery _) asked, hself]
  | fragment head asked marked =>
    let u := (fragment head asked marked).goOn []
    refine ⟨u.withoutUser.origin.toList ++ (u.path.toList ++ (u.asked.toList ++ '#' ::
      percentEncode badInFragment marked)), fun name hname => ?_⟩
    have hself : percentEncode badInFragment (name ++ ['/']) = name ++ ['/'] :=
      hname.percentEncode_slash (by decide) (by decide)
    rw [Url.toList_text ((enter (fragment head asked marked) name).goOn []) u rfl rfl, enter]
    simp [u, goOn, Head.complete, Url.asked, percentEncode_append badInFragment marked, hself]

/-- What two names cover has nothing in common. -/
theorem covers_unique {b : Begun} (hb : b.IsPlain) {other : List Char} (hname : IsName name)
    (hother : IsName other) {address : String} (h : ((b.enter name).goOn []).Covers address)
    (h' : ((b.enter other).goOn []).Covers address) : name = other := by
  obtain ⟨front, htext⟩ := text_enter hb
  obtain ⟨rest, hrest⟩ := h
  obtain ⟨rest', hrest'⟩ := h'
  have hfirst : ∀ {name : List Char} (rest : List Char), IsName name →
      (name ++ '/' :: rest).takeWhile (· != '/') = name := by
    intro name rest hname
    rw [takeWhile_append_stop (by decide), List.takeWhile_eq_self_iff]
    intro c hc
    simpa using fun he : c = '/' => hname.notMem (by decide) (he ▸ hc)
  have hsame := congrArg String.toList (hrest.symm.trans hrest')
  rw [String.toList_append, String.toList_append, htext name hname, htext other hother] at hsame
  simp only [List.append_assoc, List.append_cancel_left_eq, List.singleton_append] at hsame
  rw [← hfirst rest.toList hname, hsame, hfirst rest'.toList hother]

end Begun

end

end Plugboard.Http
