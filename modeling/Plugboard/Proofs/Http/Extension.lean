import Plugboard.Proofs.Http.Below
import Plugboard.Proofs.Text.Blank

/-!
Addresses that go on where another one ends.

* `Url.extend`: the address whose text goes on. Only where no query and no fragment has begun does
  it go on in the path.
* `Url.text_extend`, `Url.wire_extend_iff`: what can be told apart of two of them, in their texts
  and by a server.
* `Url.segments_extend_iff`: two more segments of a path.
* `Begun.goOn_pair`: reading on by two names is extending.
* `Url.parse_marks`: which parts an address has.
-/
namespace Plugboard.Http

namespace Url

/-- The address whose text goes on in the part that begins last. -/
def extend (u : Url) (tail : String) : Url :=
  match u.fragment, u.query with
  | some f, _ => { u with fragment := some (f ++ tail) }
  | none, some q => { u with query := some (q ++ tail) }
  | none, none => { u with path := u.path ++ tail }

/-- The segments of the path, the first one empty. -/
def segments (u : Url) : List (List Char) := splitAt (· == '/') u.path.toList

/-- The text of the address as it is requested from a server. -/
def wire (u : Url) : String := u.withoutUser.requested.text

section
variable (u : Url) (tail : String)

@[simp] theorem extend_empty : u.extend "" = u := by
  obtain ⟨scheme, authority, path, query, fragment⟩ := u
  cases fragment <;> cases query <;> simp [extend]

theorem text_extend : (u.extend tail).text = u.text ++ tail := by
  obtain ⟨scheme, authority, path, query, fragment⟩ := u
  cases fragment <;> cases query <;> simp [extend, text, String.append_assoc]

theorem withoutUser_extend : (u.extend tail).withoutUser = u.withoutUser.extend tail := by
  obtain ⟨scheme, authority, path, query, fragment⟩ := u
  cases fragment <;> cases query <;> rfl

variable {u tail}

theorem requested_extend_of_none (h : u.fragment = none) :
    (u.extend tail).requested = u.requested.extend tail := by
  obtain ⟨scheme, authority, path, query, fragment⟩ := u
  subst h
  cases query <;> rfl

theorem requested_extend_of_some (h : u.fragment ≠ none) :
    (u.extend tail).requested = u.requested := by
  obtain ⟨scheme, authority, path, query, fragment⟩ := u
  cases fragment with
  | none => exact absurd rfl h
  | some f => rfl

theorem wire_extend_of_none (h : u.fragment = none) : (u.extend tail).wire = u.wire ++ tail := by
  have hnone : u.withoutUser.fragment = none := h
  rw [wire, withoutUser_extend, requested_extend_of_none hnone, text_extend, wire]

theorem wire_extend_of_some (h : u.fragment ≠ none) : (u.extend tail).wire = u.wire := by
  have hsome : u.withoutUser.fragment ≠ none := h
  rw [wire, withoutUser_extend, requested_extend_of_some hsome, wire]

/-- A server cannot tell two of them apart just when what is different is in a fragment. -/
theorem wire_extend_iff {tail' : String} :
    (u.extend tail).wire = (u.extend tail').wire ↔ u.fragment ≠ none ∨ tail = tail' := by
  by_cases h : u.fragment = none
  · rw [wire_extend_of_none h, wire_extend_of_none h, String.append_right_inj]
    simp [h]
  · rw [wire_extend_of_some h, wire_extend_of_some h]
    simp [h]

/-- Two names behind the slash at the end of a path are two more segments of it. Anywhere else they
are none. -/
theorem segments_extend_iff {name action : List Char} (hname : '/' ∉ name) (haction : '/' ∉ action)
    (hslash : u.query = none → u.fragment = none → ∃ front, u.path.toList = front ++ ['/']) :
    (u.extend (String.ofList (name ++ '/' :: action))).segments = u.directories ++ [name, action] ↔
      u.query = none ∧ u.fragment = none := by
  have hpart : ∀ part : List Char, '/' ∉ part → splitAt (· == '/') part = [part] := fun part h =>
    splitAt_of_forall fun c hc => by simpa using fun he : c = '/' => h (he ▸ hc)
  have hpair : splitAt (· == '/') (name ++ '/' :: action) = [name, action] := by
    rw [splitAt_append_sep (by decide), hpart name hname, hpart action haction]
    rfl
  -- Without the path going on there is one segment for each directory, and the last one.
  have helse : (u.extend (String.ofList (name ++ '/' :: action))).path = u.path →
      (u.extend (String.ofList (name ++ '/' :: action))).segments ≠
        u.directories ++ [name, action] := by
    intro hpath h
    have hlength := congrArg List.length h
    have hne : 0 < (splitAt (· == '/') u.path.toList).length :=
      List.length_pos_of_ne_nil (splitAt_ne_nil _ _)
    rw [segments, hpath, directories, List.length_append, List.length_dropLast] at hlength
    simp only [List.length_cons, List.length_nil] at hlength
    omega
  obtain ⟨scheme, authority, path, query, fragment⟩ := u
  cases fragment with
  | some f => simpa using helse rfl
  | none =>
    cases query with
    | some q => simpa using helse rfl
    | none =>
      refine iff_of_true ?_ ⟨rfl, rfl⟩
      obtain ⟨front, hfront⟩ := hslash rfl rfl
      have hfront : path.toList = front ++ ['/'] := hfront
      have hdirectories : splitAt (· == '/') path.toList = splitAt (· == '/') front ++ [[]] := by
        rw [hfront, splitAt_append_sep (by decide)]
        rfl
      rw [segments, directories, hdirectories, List.dropLast_concat, extend, String.toList_append,
        hfront, String.toList_ofList, List.append_assoc, List.singleton_append,
        splitAt_append_sep (by decide), hpair]

end

end Url

/-! ## Parts -/

theorem mem_dropWhile_iff {p : Char → Bool} {c : Char} (hc : p c = false) {cs : List Char} :
    c ∈ cs.dropWhile p ↔ c ∈ cs := by
  refine ⟨fun h => (List.dropWhile_sublist p).subset h, fun h => ?_⟩
  rw [← List.takeWhile_append_dropWhile (p := p) (l := cs), List.mem_append] at h
  exact h.resolve_left fun hmem => Bool.false_ne_true (hc.symm.trans (List.mem_takeWhile_imp hmem))

theorem mem_dropEndWhile_iff {p : Char → Bool} {c : Char} (hc : p c = false) {cs : List Char} :
    c ∈ Text.dropEndWhile p cs ↔ c ∈ cs := by
  rw [Text.dropEndWhile, List.mem_reverse, mem_dropWhile_iff hc, List.mem_reverse]

theorem isSkippedInUrl_eq_false {c : Char} (hc : isTrimmedFromUrl c = false) :
    isSkippedInUrl c = false := by
  refine Bool.eq_false_iff.mpr fun h => ?_
  rw [isSkippedInUrl, Bool.or_eq_true, Bool.or_eq_true, beq_iff_eq, beq_iff_eq, beq_iff_eq] at h
  rcases h with (rfl | rfl) | rfl <;> exact absurd hc (by decide)

/-- Reading an address starts with taking away blanks and controls only. -/
theorem Url.mem_clean_iff {c : Char} (hc : isTrimmedFromUrl c = false) {cs : List Char} :
    c ∈ clean cs ↔ c ∈ cs := by
  rw [clean, List.mem_filter, Text.stripChars, mem_dropEndWhile_iff hc, mem_dropWhile_iff hc,
    isSkippedInUrl_eq_false hc]
  simp

theorem splitMark_eq_none_iff {mark : Char} {cs : List Char} :
    (splitMark mark cs).2 = none ↔ mark ∉ cs := by
  constructor
  · intro h hmem
    obtain ⟨before, after, hsplit⟩ := splitMark_append_of_mem hmem
    rw [← List.append_nil cs, hsplit] at h
    cases h
  · intro h
    rw [splitMark_of_notMem h]

/-- An address has a fragment, or a query, just when its mark is there. -/
theorem Url.parse_marks {s : String} {u : Url} (h : parse s = .ok u) :
    (u.fragment = none ↔ '#' ∉ s.toList) ∧
      (u.query = none ∧ u.fragment = none ↔ '?' ∉ s.toList ∧ '#' ∉ s.toList) := by
  obtain ⟨⟨before, fragment⟩, hfragment⟩ : ∃ x, splitMark '#' (clean s.toList) = x := ⟨_, rfl⟩
  obtain ⟨⟨front, query⟩, hquery⟩ : ∃ x, splitMark '?' before = x := ⟨_, rfl⟩
  rw [parse_eq hfragment hquery] at h
  obtain ⟨head, -, rfl⟩ := exists_of_map_eq_ok h
  have hmark : fragment = none ↔ '#' ∉ s.toList := by
    rw [← mem_clean_iff (by decide), ← splitMark_eq_none_iff, hfragment]
  have hasked : query = none ↔ '?' ∉ before := by rw [← splitMark_eq_none_iff, hquery]
  have hparts : (head.complete query fragment).fragment = none ↔ fragment = none := by
    simp [Head.complete]
  have hparts' : (head.complete query fragment).query = none ↔ query = none := by
    simp [Head.complete]
  rw [hparts, hparts', hmark, hasked]
  refine ⟨Iff.rfl, and_congr_left fun hnone => ?_⟩
  rw [← mem_clean_iff (by decide)] at hnone
  rw [splitMark_of_notMem hnone] at hfragment
  rw [← (Prod.mk.inj hfragment).1, mem_clean_iff (by decide)]

/-! ## Reading on -/

namespace IsName

variable {name action : List Char}

/-- No character of a name is taken away from the end of an address. -/
theorem dropEndWhile_eq (h : IsName name) : Text.dropEndWhile isTrimmedFromUrl name = name := by
  rw [Text.dropEndWhile_eq_rdropWhile, List.rdropWhile_eq_self_iff]
  intro hne htrim
  obtain ⟨hlow, -, hspecial⟩ := h.kept _ (List.getLast_mem hne)
  have hblank : name.getLast hne = ' ' := by
    rw [isTrimmedFromUrl, decide_eq_true_eq] at htrim
    exact Char.ext (UInt32.toNat_inj.mp (Nat.le_antisymm htrim hlow))
  exact hspecial (hblank ▸ by decide)

/-- Two names and the slash between them stand for themselves. -/
theorem percentEncode_pair (hname : IsName name) (haction : IsName action) {bad : List Char}
    (hbad : bad ⊆ special) (hslash : '/' ∉ bad) :
    percentEncode bad (name ++ '/' :: action) = name ++ '/' :: action := by
  rw [List.append_cons, percentEncode_append, hname.percentEncode_slash hbad hslash,
    haction.percentEncode_eq hbad]

theorem splitMark_pair (hname : IsName name) (haction : IsName action) {mark : Char}
    (hmark : mark ∈ special) (hslash : mark ≠ '/') :
    splitMark mark (name ++ '/' :: action) = (name ++ '/' :: action, none) := by
  rw [hname.splitMark_append hmark hslash, splitMark_of_notMem (haction.notMem hmark)]

theorem pathFrom_name (h : IsName name) (n : Nat) (dirs : List (List Char)) :
    pathFrom n dirs name = joinWith '/' (dirs ++ [name]) := by
  have hseg : splitAt (SchemeKind.web n).isSlash name = [name] := h.splitAt_eq n
  have hself : percentEncode badInPath name = name := h.percentEncode_eq (by decide)
  rw [pathFrom, hseg]
  simp [endPath, h.single, h.double, writeSegment, hself]

end IsName

/-- What is known of an address goes on in two names as its text does. -/
theorem Begun.goOn_pair {b : Begun} (hb : b.IsPlain) {name action : List Char} (hname : IsName name)
    (haction : IsName action) :
    b.goOn (name ++ '/' :: action) =
      (b.goOn []).extend (String.ofList (name ++ '/' :: action)) := by
  have hsharp := hname.splitMark_pair haction (by decide : '#' ∈ special) (by decide)
  have hasked := hname.splitMark_pair haction (by decide : '?' ∈ special) (by decide)
  cases b with
  | path n scheme a dirs =>
    have hdirs : Plain dirs := hb
    have hpath : pathFrom n dirs (name ++ '/' :: action) =
        pathFrom n dirs [] ++ (name ++ '/' :: action) := by
      rw [hname.pathFrom_append, haction.pathFrom_name, pathFrom_nil, List.append_assoc,
        joinWith_append hdirs.ne_nil (by simp), joinWith_append hdirs.ne_nil (by simp)]
      simp [joinWith]
    rw [goOn_path_nil]
    simp only [goOn, hsharp, hasked, hpath]
    simp [Head.complete, Url.extend]
  | query head asked =>
    have hself := hname.percentEncode_pair haction
      (badInQuery_subset (schemeKind head.scheme)).1 (badInQuery_subset _).2
    rw [goOn_query_nil]
    simp only [goOn, hsharp]
    simp [Head.complete, Url.extend, percentEncode_append (badInQuery _) asked, hself]
  | fragment head asked marked =>
    have hself : percentEncode badInFragment (name ++ '/' :: action) = name ++ '/' :: action :=
      hname.percentEncode_pair haction (by decide) (by decide)
    simp [goOn, Head.complete, Url.extend, percentEncode_append badInFragment marked, hself]

/-- A path that goes on ends in a slash until it does. -/
theorem Begun.path_goOn_nil {b : Begun} (hb : b.IsPlain) (hquery : (b.goOn []).query = none)
    (hfragment : (b.goOn []).fragment = none) :
    ∃ front, (b.goOn []).path.toList = front ++ ['/'] := by
  cases b with
  | path n scheme a dirs =>
    refine ⟨joinWith '/' dirs, ?_⟩
    rw [goOn_path_nil, Head.complete, String.toList_ofList]
    exact pathFrom_nil_of_plain n hb
  | query head asked =>
    rw [goOn_query_nil] at hquery
    cases hquery
  | fragment head asked marked => cases hfragment

end Plugboard.Http
