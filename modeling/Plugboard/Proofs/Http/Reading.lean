import Mathlib.Data.List.TakeWhile
import Plugboard.Proofs.Http.Paths

/-!
Reading an address from a slash on.

* `Head`, `parse_eq`: what stands in front of query and fragment is read by itself.
* `readHead_append_slash`: behind a host and a slash, it is a path that goes on from directories.
* `Begun`: what is known of an address up to a slash. `Begun.goOn` reads on from there.
* `ReadsOn`: nothing else decides about what comes next. `readsOn_fragment`, `readsOn_query`,
  `readsOn_path`: so it is in each part of an address. `readsOn_unschemed`: or there is none.
-/
namespace Plugboard.Http

/-! ## Cuts -/

section
variable {p : Char → Bool} {c : Char}

theorem takeWhile_append_stop (hc : p c = false) (as bs : List Char) :
    (as ++ c :: bs).takeWhile p = as.takeWhile p := by
  induction as with
  | nil => simp [hc]
  | cons a as ih => cases ha : p a <;> simp [ha, ih]

theorem dropWhile_append_stop (hc : p c = false) (as bs : List Char) :
    (as ++ c :: bs).dropWhile p = as.dropWhile p ++ c :: bs := by
  induction as with
  | nil => simp [hc]
  | cons a as ih => cases ha : p a <;> simp [ha, ih]

theorem dropWhile_append_of_ne_nil {as : List Char} (bs : List Char) (h : as.dropWhile p ≠ []) :
    (as ++ bs).dropWhile p = as.dropWhile p ++ bs := by
  rw [List.dropWhile_append, if_neg (by simpa using h)]

end

/-! ## Marks -/

section
variable {mark : Char} {as : List Char}

/-- A text without the mark goes with what is in front of the mark. -/
theorem splitMark_append_of_notMem (h : mark ∉ as) (bs : List Char) :
    splitMark mark (as ++ bs) = (as ++ (splitMark mark bs).1, (splitMark mark bs).2) := by
  have hall : ∀ c ∈ as, (c != mark) = true := by
    intro c hc
    simpa using fun he : c = mark => h (he ▸ hc)
  rw [splitMark, splitMark, List.dropWhile_append_of_pos hall, List.takeWhile_append_of_pos hall]
  cases bs.dropWhile (· != mark) <;> rfl

theorem splitMark_of_notMem (h : mark ∉ as) : splitMark mark as = (as, none) := by
  simpa [splitMark] using splitMark_append_of_notMem h []

/-- What comes behind a text with the mark in it comes behind the mark. -/
theorem splitMark_append_of_mem (h : mark ∈ as) : ∃ before after, ∀ bs,
    splitMark mark (as ++ bs) = (before, some (after ++ bs)) := by
  obtain ⟨before, after, rfl, hbefore⟩ := List.eq_append_cons_of_mem h
  refine ⟨before, after, fun bs => ?_⟩
  rw [List.append_assoc, splitMark_append_of_notMem hbefore]
  simp [splitMark]

end

/-! ## The head of an address -/

/-- An address is read without blanks and controls around it, and without line breaks and tabs. -/
def Url.clean (cs : List Char) : List Char :=
  (Text.stripChars isTrimmedFromUrl cs).filter fun c => !isSkippedInUrl c

/-- What stands in front of query and fragment. -/
structure Head where
  scheme : String
  body : Body

def readHead (cs : List Char) (more : Bool) : Except UrlError Head :=
  match readScheme cs with
  | none => .error .noScheme
  | some (scheme, rest) =>
    (match schemeKind scheme with
      | .web n => readHosted (.web n) (rest.dropWhile (SchemeKind.web n).isSlash) more
      | .file => readFile rest
      | .other => readOther rest more).map (Head.mk scheme)

def Head.complete (head : Head) (query fragment : Option (List Char)) : Url where
  scheme := head.scheme
  authority := head.body.authority
  path := String.ofList head.body.path
  query := query.map fun q => String.ofList (percentEncode (badInQuery (schemeKind head.scheme)) q)
  fragment := fragment.map fun f => String.ofList (percentEncode badInFragment f)

theorem exists_of_map_eq_ok {α β : Type} {read : Except UrlError α} {f : α → β} {b : β}
    (h : read.map f = .ok b) : ∃ a, read = .ok a ∧ f a = b := by
  cases read with
  | error e => cases h
  | ok a => exact ⟨a, rfl, Except.ok.inj h⟩

/-- The parts of a text in front of the fragment, in front of the query, and behind each mark. -/
theorem parse_eq {s : String} {before front : List Char} {query fragment : Option (List Char)}
    (hfragment : splitMark '#' (Url.clean s.toList) = (before, fragment))
    (hquery : splitMark '?' before = (front, query)) :
    Url.parse s = (readHead front (query.isSome || fragment.isSome)).map
      fun head => head.complete query fragment := by
  rw [Url.clean] at hfragment
  rw [Url.parse, hfragment]
  dsimp only
  rw [hquery, readHead]
  dsimp only
  cases readScheme front with
  | none => rfl
  | some found =>
    obtain ⟨scheme, rest⟩ := found
    dsimp only
    cases hk : schemeKind scheme with
    | web n =>
      dsimp only
      cases readHosted (.web n) _ _ with
      | error e => rfl
      | ok body => simp [Except.map, bind, Except.bind, pure, Except.pure, Head.complete, hk]
    | file =>
      dsimp only
      cases readFile rest with
      | error e => rfl
      | ok body => simp [Except.map, bind, Except.bind, pure, Except.pure, Head.complete, hk]
    | other =>
      dsimp only
      cases readOther rest _ with
      | error e => rfl
      | ok body => simp [Except.map, bind, Except.bind, pure, Except.pure, Head.complete, hk]

theorem scheme_of_readHead {cs : List Char} {more : Bool} {head : Head}
    (h : readHead cs more = .ok head) : ∃ rest, readScheme cs = some (head.scheme, rest) := by
  rw [readHead] at h
  cases hs : readScheme cs with
  | none => simp [hs] at h
  | some found =>
    obtain ⟨scheme, rest⟩ := found
    obtain ⟨body, -, rfl⟩ := exists_of_map_eq_ok (by simpa [hs] using h)
    exact ⟨rest, rfl⟩

/-! ## Schemes -/

theorem readScheme_append_slash (as bs : List Char) : readScheme (as ++ '/' :: bs) =
    (readScheme as).map fun found => (found.1, found.2 ++ '/' :: bs) := by
  have hslash : isSchemeChar '/' = false := by decide
  rw [readScheme, readScheme, takeWhile_append_stop hslash, dropWhile_append_stop hslash]
  cases as.takeWhile isSchemeChar with
  | nil => rfl
  | cons c name =>
    cases as.dropWhile isSchemeChar with
    | nil => rfl
    | cons d rest =>
      by_cases hd : d = ':'
      · subst hd
        by_cases hc : c.isAlpha = true <;> simp [hc]
      · simp [hd]

theorem readScheme_eq_some_iff {cs rest : List Char} {scheme : String} :
    readScheme cs = some (scheme, rest) ↔ ∃ c name, cs = (c :: name) ++ ':' :: rest ∧
      (∀ d ∈ c :: name, isSchemeChar d = true) ∧ c.isAlpha = true ∧
        scheme = String.ofList ((c :: name).map Char.toLower) := by
  constructor
  · intro h
    rw [readScheme] at h
    split at h
    next c name rest' hname hrest =>
      split at h
      next hc =>
        obtain ⟨rfl, rfl⟩ : String.ofList ((c :: name).map Char.toLower) = scheme ∧ rest' = rest := by
          simpa only [Option.some.injEq, Prod.mk.injEq, hname] using h
        refine ⟨c, name, ?_, ?_, hc, rfl⟩
        · rw [← hname, ← hrest, List.takeWhile_append_dropWhile]
        · exact fun d hd => (List.mem_takeWhile_imp (hname ▸ hd))
      next => cases h
    next => cases h
  · rintro ⟨c, name, rfl, hall, hc, rfl⟩
    have hcolon : isSchemeChar ':' = false := by decide
    rw [readScheme, takeWhile_append_stop hcolon, dropWhile_append_stop hcolon,
      List.takeWhile_eq_self_iff.mpr hall, List.dropWhile_eq_nil_iff.mpr hall]
    simp [hc]

/-- A scheme is read without looking at what is behind it. -/
theorem readScheme_append {as : List Char} {scheme : String} {rest : List Char}
    (h : readScheme as = some (scheme, rest)) (bs : List Char) :
    readScheme (as ++ bs) = some (scheme, rest ++ bs) := by
  obtain ⟨c, name, rfl, hname⟩ := readScheme_eq_some_iff.mp h
  exact readScheme_eq_some_iff.mpr ⟨c, name, by simp, hname⟩

/-! ## Web addresses -/

section
variable {n : Nat}

/-- Behind a slash segments go on as if nothing had been there. -/
theorem splitAt_afterSlash (as : List Char) : ∃ segs,
    (∀ seg ∈ segs, ∀ c ∈ seg, (SchemeKind.web n).isSlash c = false) ∧
      ∀ cs, splitAt (SchemeKind.web n).isSlash (afterSlash (.web n) (as ++ '/' :: cs)) =
        segs ++ splitAt (SchemeKind.web n).isSlash cs := by
  have hslash : (SchemeKind.web n).isSlash '/' = true := rfl
  cases as with
  | nil => exact ⟨[], List.forall_mem_nil _, fun cs => by simp [afterSlash, hslash]⟩
  | cons c as =>
    refine ⟨splitAt (SchemeKind.web n).isSlash
        (if (SchemeKind.web n).isSlash c then as else c :: as),
      fun seg hseg d hd => (mem_of_mem_splitAt hseg d hd).2, fun cs => ?_⟩
    rw [← splitAt_append_sep hslash, List.cons_append, afterSlash]
    split <;> rfl

theorem readHosted_nil (more : Bool) : ∃ e, readHosted (.web n) [] more = .error e := ⟨_, rfl⟩

/-- Behind a host and a slash, reading an address is reading its path. -/
theorem readHosted_append_slash (as : List Char) :
    (∃ e, ∀ cs more, readHosted (.web n) (as ++ '/' :: cs) more = .error e) ∨
      ∃ a dirs, Plain dirs ∧ ∀ cs more,
        readHosted (.web n) (as ++ '/' :: cs) more = .ok ⟨some a, pathFrom n dirs cs⟩ := by
  have hslash : (!(SchemeKind.web n).isSlash '/') = false := rfl
  have hread : ∀ cs more, readHosted (.web n) (as ++ '/' :: cs) more =
      (readAuthority (.web n) (as.takeWhile fun c => !(SchemeKind.web n).isSlash c) true).map
        fun found => ⟨some found.1, readPath (.web n) (afterSlash (.web n)
          (found.2 ++ as.dropWhile (fun c => !(SchemeKind.web n).isSlash c) ++ '/' :: cs))⟩ := by
    intro cs more
    have hmore : (more || !(as.dropWhile (fun c => !(SchemeKind.web n).isSlash c) ++
        '/' :: cs).isEmpty) = true := by simp
    rw [readHosted, takeWhile_append_stop hslash, dropWhile_append_stop hslash]
    dsimp only
    rw [hmore]
    cases readAuthority (.web n) _ true with
    | error e => rfl
    | ok found => simp [bind, Except.bind, pure, Except.pure, Except.map, SchemeKind.isOther]
  cases ha : readAuthority (.web n) (as.takeWhile fun c => !(SchemeKind.web n).isSlash c) true with
  | error e => exact .inl ⟨e, fun cs more => by rw [hread, ha]; rfl⟩
  | ok found =>
    obtain ⟨segs, hsegs, hsplit⟩ := splitAt_afterSlash
      (found.2 ++ as.dropWhile fun c => !(SchemeKind.web n).isSlash c)
    refine .inr ⟨found.1, segs.foldl (closeSegment (.web n)) [[]],
      plain_root.foldl fun seg hseg hmem => ?_, fun cs more => ?_⟩
    · exact Bool.false_ne_true (hsegs seg hseg '/' hmem).symm
    · rw [hread, ha, ← pathFrom_append (hsplit cs), ← readPath_eq_pathFrom]
      rfl

/-- Reading on from a slash behind the host of a web address. -/
theorem readHead_append_slash {as rest : List Char} {scheme : String}
    (hs : readScheme as = some (scheme, rest)) (hk : schemeKind scheme = .web n)
    (hhost : rest.dropWhile (SchemeKind.web n).isSlash ≠ []) :
    (∃ e, ∀ cs more, readHead (as ++ '/' :: cs) more = .error e) ∨
      ∃ a dirs, Plain dirs ∧ ∀ cs more,
        readHead (as ++ '/' :: cs) more = .ok ⟨scheme, some a, pathFrom n dirs cs⟩ := by
  have hread : ∀ cs more, readHead (as ++ '/' :: cs) more = (readHosted (.web n)
      (rest.dropWhile (SchemeKind.web n).isSlash ++ '/' :: cs) more).map (Head.mk scheme) := by
    intro cs more
    rw [readHead, readScheme_append_slash, hs]
    dsimp only [Option.map_some]
    rw [hk, ← dropWhile_append_of_ne_nil _ hhost]
  rcases readHosted_append_slash (n := n) (rest.dropWhile (SchemeKind.web n).isSlash) with
    ⟨e, he⟩ | ⟨a, dirs, hdirs, hok⟩
  · exact .inl ⟨e, fun cs more => by rw [hread, he]; rfl⟩
  · exact .inr ⟨a, dirs, hdirs, fun cs more => by rw [hread, hok]; rfl⟩

/-- A web address that can be read has more than slashes behind its scheme. -/
theorem host_of_readHead {cs rest : List Char} {scheme : String} {more : Bool} {head : Head}
    (h : readHead cs more = .ok head) (hs : readScheme cs = some (scheme, rest))
    (hk : schemeKind scheme = .web n) : rest.dropWhile (SchemeKind.web n).isSlash ≠ [] := by
  intro hnil
  obtain ⟨e, he⟩ := readHosted_nil (n := n) more
  rw [readHead, hs] at h
  dsimp only at h
  rw [hk] at h
  dsimp only at h
  rw [hnil, he] at h
  cases h

end

/-- Behind a slash, marks do not matter for what is in front of it. -/
theorem parse_append_slash {s : String} {front cs : List Char} (hfragment : '#' ∉ front)
    (hquery : '?' ∉ front) (hclean : Url.clean s.toList = front ++ '/' :: cs) :
    let marked := splitMark '#' cs
    let asked := splitMark '?' marked.1
    Url.parse s = (readHead (front ++ '/' :: asked.1) (asked.2.isSome || marked.2.isSome)).map
      fun head => head.complete asked.2 marked.2 := by
  have hfragment' : '#' ∉ front ++ ['/'] := by simpa using hfragment
  have hquery' : '?' ∉ front ++ ['/'] := by simpa using hquery
  have hmarked : splitMark '#' (Url.clean s.toList) =
      (front ++ '/' :: (splitMark '#' cs).1, (splitMark '#' cs).2) := by
    rw [hclean, List.append_cons, splitMark_append_of_notMem hfragment', ← List.append_cons]
  exact parse_eq hmarked
    (by rw [List.append_cons, splitMark_append_of_notMem hquery', ← List.append_cons])

theorem readScheme_of_parse {s : String} {u : Url} {front cs : List Char}
    (hfragment : '#' ∉ front) (hquery : '?' ∉ front)
    (hclean : Url.clean s.toList = front ++ '/' :: cs) (hu : Url.parse s = .ok u) :
    ∃ rest, readScheme front = some (u.scheme, rest) := by
  rw [parse_append_slash hfragment hquery hclean] at hu
  obtain ⟨head, hread, rfl⟩ := exists_of_map_eq_ok hu
  obtain ⟨rest, hs⟩ := scheme_of_readHead hread
  rw [readScheme_append_slash] at hs
  obtain ⟨⟨scheme, before⟩, hfront, he⟩ := Option.map_eq_some_iff.mp hs
  obtain ⟨rfl, -⟩ : scheme = head.scheme ∧ _ := by simpa using he
  exact ⟨before, hfront⟩

/-! ## Going on -/

/-- What is known of an address up to a slash. What comes next belongs to the path of a web address,
to the query, or to the fragment. -/
inductive Begun
  | path (n : Nat) (scheme : String) (authority : Authority) (dirs : List (List Char))
  | query (head : Head) (asked : List Char)
  | fragment (head : Head) (asked : Option (List Char)) (marked : List Char)

namespace Begun

def goOn : Begun → List Char → Url
  | .path n scheme authority dirs, cs =>
    let marked := splitMark '#' cs
    let asked := splitMark '?' marked.1
    Head.complete ⟨scheme, some authority, pathFrom n dirs asked.1⟩ asked.2 marked.2
  | .query head asked, cs =>
    let marked := splitMark '#' cs
    head.complete (some (asked ++ marked.1)) marked.2
  | .fragment head asked marked, cs => head.complete asked (some (marked ++ cs))

def IsPlain : Begun → Prop
  | .path _ _ _ dirs => Plain dirs
  | _ => True

end Begun

/-- Whatever follows a slash behind some characters, what they are is read in the same way. -/
def ReadsOn (as : List Char) : Prop :=
  (∃ e, ∀ s cs, Url.clean s.toList = as ++ '/' :: cs → Url.parse s = .error e) ∨
    ∃ b : Begun, b.IsPlain ∧
      ∀ s cs, Url.clean s.toList = as ++ '/' :: cs → Url.parse s = .ok (b.goOn cs)

theorem readsOn_of_head {as : List Char} (head : Except UrlError Head) (b : Head → Begun)
    (hb : ∀ head, (b head).IsPlain)
    (h : ∀ s cs, Url.clean s.toList = as ++ '/' :: cs →
      Url.parse s = head.map fun head => (b head).goOn cs) : ReadsOn as := by
  cases head with
  | error e => exact .inl ⟨e, h⟩
  | ok head => exact .inr ⟨b head, hb head, h⟩

theorem readsOn_fragment {as : List Char} (has : '#' ∈ as) : ReadsOn as := by
  obtain ⟨before, after, hmark⟩ := splitMark_append_of_mem has
  obtain ⟨⟨front, query⟩, hasked⟩ : ∃ asked, splitMark '?' before = asked := ⟨_, rfl⟩
  refine readsOn_of_head (readHead front true) (fun head => .fragment head query (after ++ ['/']))
    (fun _ => trivial) fun s cs hs => ?_
  rw [parse_eq ((congrArg _ hs).trans (hmark _)) hasked, Option.isSome_some, Bool.or_true]
  simp [Begun.goOn]

theorem readsOn_query {as : List Char} (hfragment : '#' ∉ as) (has : '?' ∈ as) : ReadsOn as := by
  have hslash : '#' ∉ as ++ ['/'] := by simpa using hfragment
  obtain ⟨before, after, hmark⟩ := splitMark_append_of_mem has
  refine readsOn_of_head (readHead before true) (fun head => .query head (after ++ ['/']))
    (fun _ => trivial) fun s cs hs => ?_
  have hmarked : splitMark '#' (Url.clean s.toList) =
      (as ++ '/' :: (splitMark '#' cs).1, (splitMark '#' cs).2) := by
    rw [hs, List.append_cons, splitMark_append_of_notMem hslash, ← List.append_cons]
  rw [parse_eq hmarked (hmark _), Option.isSome_some, Bool.true_or]
  simp [Begun.goOn]

theorem readsOn_path {n : Nat} {as rest : List Char} {scheme : String} (hfragment : '#' ∉ as)
    (hquery : '?' ∉ as) (hs : readScheme as = some (scheme, rest)) (hk : schemeKind scheme = .web n)
    (hhost : rest.dropWhile (SchemeKind.web n).isSlash ≠ []) : ReadsOn as := by
  rcases readHead_append_slash hs hk hhost with ⟨e, he⟩ | ⟨a, dirs, hdirs, hok⟩
  · refine .inl ⟨e, fun s cs hclean => ?_⟩
    rw [parse_append_slash hfragment hquery hclean, he]
    rfl
  · refine .inr ⟨.path n scheme a dirs, hdirs, fun s cs hclean => ?_⟩
    rw [parse_append_slash hfragment hquery hclean, hok]
    rfl

theorem readsOn_unschemed {as : List Char} (hfragment : '#' ∉ as) (hquery : '?' ∉ as)
    (hs : readScheme as = none) : ReadsOn as := by
  refine .inl ⟨.noScheme, fun s cs hclean => ?_⟩
  rw [parse_append_slash hfragment hquery hclean, readHead, readScheme_append_slash, hs]
  rfl

end Plugboard.Http
