import Mathlib.Data.List.Infix
import Mathlib.Logic.Function.Iterate
import Plugboard.Http.Url

/-!
The directories of a path, and what dot segments do to them.

* `append_slash_prefix_iff`: a text with a slash at its end begins another just when its parts do.
* `Way`: how often the segments of a path go up, and the names that they then go down.
* `foldl_closeSegment`: the directories that one gets to by a way.
* `Way.returns_iff`: when they begin with those that one comes from.
* `pathFrom_eq`: the text of a path of a web address.
-/
namespace Plugboard.Http

/-! ## Parts of a text -/

section
variable {p : Char → Bool} {sep : Char}

theorem splitAt_ne_nil (p : Char → Bool) (cs : List Char) : splitAt p cs ≠ [] := by
  induction cs with
  | nil => exact List.cons_ne_nil _ _
  | cons c cs ih =>
    obtain ⟨part, parts, h⟩ := List.exists_cons_of_ne_nil ih
    rw [splitAt, h]
    dsimp only
    split <;> exact List.cons_ne_nil _ _

theorem splitAt_eq_splitOnP (p : Char → Bool) (cs : List Char) : splitAt p cs = cs.splitOnP p := by
  induction cs with
  | nil => simp [splitAt]
  | cons c cs ih =>
    obtain ⟨part, parts, h⟩ := List.exists_cons_of_ne_nil (splitAt_ne_nil p cs)
    rw [splitAt, List.splitOnP_cons_eq_if_modifyHead, ← ih, h]
    rfl

theorem joinWith_eq_intercalate (sep : Char) (parts : List (List Char)) :
    joinWith sep parts = [sep].intercalate parts := by
  induction parts with
  | nil => rfl
  | cons part parts ih =>
    cases parts with
    | nil => simp [joinWith, List.intercalate]
    | cons next parts =>
      rw [joinWith, ih]
      · simp [List.intercalate]
      · exact List.cons_ne_nil _ _

theorem splitAt_append_sep {c : Char} (hc : p c = true) (as bs : List Char) :
    splitAt p (as ++ c :: bs) = splitAt p as ++ splitAt p bs := by
  simp only [splitAt_eq_splitOnP, List.splitOnP_append_cons as bs hc]

theorem splitAt_of_forall {cs : List Char} (h : ∀ c ∈ cs, p c = false) : splitAt p cs = [cs] := by
  rw [splitAt_eq_splitOnP, List.splitOnP_eq_singleton h]

theorem joinWith_splitAt (sep : Char) (cs : List Char) :
    joinWith sep (splitAt (· == sep) cs) = cs := by
  rw [splitAt_eq_splitOnP, joinWith_eq_intercalate]
  exact List.intercalate_splitOn sep

theorem splitAt_joinWith {parts : List (List Char)} (hne : parts ≠ [])
    (h : ∀ part ∈ parts, sep ∉ part) : splitAt (· == sep) (joinWith sep parts) = parts := by
  rw [splitAt_eq_splitOnP, joinWith_eq_intercalate]
  exact List.splitOn_intercalate sep h hne

theorem joinWith_append {as bs : List (List Char)} (has : as ≠ []) (hbs : bs ≠ []) :
    joinWith sep (as ++ bs) = joinWith sep as ++ sep :: joinWith sep bs := by
  induction as with
  | nil => exact absurd rfl has
  | cons part as ih =>
    cases as with
    | nil =>
      obtain ⟨b, bs, rfl⟩ := List.exists_cons_of_ne_nil hbs
      simp [joinWith]
    | cons a as =>
      have ih := ih (List.cons_ne_nil _ _)
      simp only [List.cons_append] at ih ⊢
      simp [joinWith, ih]

theorem mem_joinWith {c : Char} {parts : List (List Char)} (h : c ∈ joinWith sep parts) :
    c = sep ∨ ∃ part ∈ parts, c ∈ part := by
  induction parts with
  | nil => exact absurd h List.not_mem_nil
  | cons part parts ih =>
    cases parts with
    | nil => exact .inr ⟨part, List.mem_cons_self, h⟩
    | cons next parts =>
      rw [joinWith, List.mem_append, List.mem_cons] at h
      · rcases h with hpart | rfl | hrest
        · exact .inr ⟨part, List.mem_cons_self, hpart⟩
        · exact .inl rfl
        · exact (ih hrest).imp_right fun ⟨p, hp, hc⟩ => ⟨p, List.mem_cons_of_mem _ hp, hc⟩
      · exact List.cons_ne_nil _ _

/-- The parts of a text have no separator in them. -/
theorem mem_of_mem_splitAt {cs part : List Char} (h : part ∈ splitAt p cs) :
    ∀ c ∈ part, c ∈ cs ∧ p c = false := by
  induction cs generalizing part with
  | nil =>
    rw [splitAt, List.mem_singleton] at h
    rw [h]
    exact List.forall_mem_nil _
  | cons d cs ih =>
    obtain ⟨first, parts, hsplit⟩ := List.exists_cons_of_ne_nil (splitAt_ne_nil p cs)
    have hrest : ∀ part ∈ first :: parts, ∀ c ∈ part, c ∈ d :: cs ∧ p c = false :=
      fun part hpart c hc => (ih (hsplit ▸ hpart) c hc).imp_left (List.mem_cons_of_mem d)
    rw [splitAt, hsplit] at h
    dsimp only at h
    cases hd : p d with
    | true =>
      rw [if_pos hd] at h
      rcases List.mem_cons.mp h with rfl | hmem
      · exact List.forall_mem_nil _
      · exact hrest part hmem
    | false =>
      rw [if_neg (Bool.eq_false_iff.mp hd)] at h
      rcases List.mem_cons.mp h with rfl | hmem
      · exact List.forall_mem_cons.mpr ⟨⟨List.mem_cons_self, hd⟩, hrest first List.mem_cons_self⟩
      · exact hrest part (List.mem_cons_of_mem _ hmem)

end

/-- One text with a slash at its end begins another just when the parts of the first begin those of
the second, the last of which no slash closes. -/
theorem append_slash_prefix_iff {as bs : List Char} :
    as ++ ['/'] <+: bs ↔ splitAt (· == '/') as <+: (splitAt (· == '/') bs).dropLast := by
  constructor
  · rintro ⟨rest, rfl⟩
    rw [List.append_assoc, List.singleton_append, splitAt_append_sep rfl,
      List.dropLast_append_of_ne_nil (splitAt_ne_nil _ _)]
    exact List.prefix_append _ _
  · rintro ⟨parts, h⟩
    have hbs : splitAt (· == '/') bs = splitAt (· == '/') as ++
        (parts ++ [(splitAt (· == '/') bs).getLast (splitAt_ne_nil _ _)]) := by
      rw [← List.append_assoc, h, List.dropLast_append_getLast]
    rw [← joinWith_splitAt '/' bs, hbs, joinWith_append (splitAt_ne_nil _ _) (by simp),
      joinWith_splitAt]
    exact ⟨joinWith '/' _, List.append_assoc _ _ _⟩

/-! ## Escapes -/

theorem percentEncode_append (bad as bs : List Char) :
    percentEncode bad (as ++ bs) = percentEncode bad as ++ percentEncode bad bs :=
  List.flatMap_append

/-- What may stand where it is stays. -/
theorem percentEncode_eq_self {bad cs : List Char}
    (h : ∀ c ∈ cs, 0x20 ≤ c.toNat ∧ c.toNat ≤ 0x7E ∧ c ∉ bad) : percentEncode bad cs = cs := by
  induction cs with
  | nil => rfl
  | cons c cs ih =>
    obtain ⟨hlow, hhigh, hbad⟩ := h c List.mem_cons_self
    have hrest := ih fun d hd => h d (List.mem_cons_of_mem _ hd)
    rw [percentEncode] at hrest ⊢
    rw [List.flatMap_cons, hrest, if_neg (by simp [hbad]; omega)]
    rfl

theorem hexUpper_mem (n : Nat) : hexUpper n ∈ "0123456789ABCDEF".toList := by
  have h : ∀ i < 16, (Nat.digitChar i).toUpper ∈ "0123456789ABCDEF".toList := by decide
  exact h (n % 16) (Nat.mod_lt n (by decide))

/-- A character comes out only where it went in and was not bad, those of the escapes apart. -/
theorem not_mem_percentEncode {c : Char} {bad cs : List Char}
    (hescape : c ∉ "%0123456789ABCDEF".toList) (h : c ∈ cs → c ∈ bad) :
    c ∉ percentEncode bad cs := by
  intro hc
  obtain ⟨d, hd, hc⟩ := List.mem_flatMap.mp hc
  split at hc
  · obtain ⟨b, -, hb⟩ := List.mem_flatMap.mp hc
    have hbyte : c = '%' ∨ c = hexUpper (b / 16) ∨ c = hexUpper b := by
      simpa [percentByte] using hb
    rcases hbyte with rfl | rfl | rfl
    · exact hescape (by decide)
    · exact hescape (List.mem_cons_of_mem _ (hexUpper_mem _))
    · exact hescape (List.mem_cons_of_mem _ (hexUpper_mem _))
  next hkept =>
    obtain rfl := List.mem_singleton.mp hc
    exact hkept (by simp [h hd])

/-! ## Ways -/

/-- How often one goes up, and by which names one then goes down. -/
structure Way where
  up : Nat
  down : List (List Char)
  deriving Repr, DecidableEq

namespace Way

def stay : Way := ⟨0, []⟩

/-- The name last gone down by is taken back, unless it looks like a drive. -/
def takeBack (down : List (List Char)) : List (List Char) :=
  if (down.getLast?.map startsWithDrive).getD false then down else down.dropLast

/-- A segment more, with a slash behind it. -/
def step (w : Way) (seg : List Char) : Way :=
  if isDoubleDot seg then
    if w.down = [] then { w with up := w.up + 1 } else { w with down := takeBack w.down }
  else if isSingleDot seg then w
  else { w with down := w.down ++ [percentEncode badInPath seg] }

/-- The way of a path of a web address. No slash closes its last segment, which leads on only if it
is dots. -/
def ofPath (cs : List Char) : Way :=
  let segs := splitAt (SchemeKind.web 80).isSlash cs
  let w := segs.dropLast.foldl step stay
  let last := segs.getLast?.getD []
  if isDoubleDot last then w.step last else w

/-- Where one gets to. There is nothing above the first directory. -/
def goFrom (w : Way) (dirs : List (List Char)) : List (List Char) :=
  leaveSegment^[w.up] dirs ++ w.down

end Way

theorem leaveSegment_ne_nil {dirs : List (List Char)} (h : dirs ≠ []) : leaveSegment dirs ≠ [] := by
  rw [leaveSegment]
  split
  · exact h
  next hlong =>
    simp only [Bool.or_eq_true, decide_eq_true_eq, not_or, Nat.not_lt] at hlong
    exact List.ne_nil_of_length_pos (by rw [List.length_dropLast]; omega)

theorem iterate_leaveSegment_ne_nil {dirs : List (List Char)} (h : dirs ≠ []) (n : Nat) :
    leaveSegment^[n] dirs ≠ [] := by
  induction n with
  | zero => exact h
  | succ n ih =>
    rw [Function.iterate_succ_apply']
    exact leaveSegment_ne_nil ih

theorem leaveSegment_append {dirs down : List (List Char)} (hdirs : dirs ≠ []) (hdown : down ≠ []) :
    leaveSegment (dirs ++ down) = dirs ++ Way.takeBack down := by
  have hlong : ¬ (dirs ++ down).length < 2 := by
    have := List.length_pos_of_ne_nil hdirs
    have := List.length_pos_of_ne_nil hdown
    rw [List.length_append]
    omega
  rw [leaveSegment, Way.takeBack, List.getLast?_append_of_ne_nil _ hdown,
    List.dropLast_append_of_ne_nil hdown]
  simp only [hlong, decide_false, Bool.false_or]
  split <;> rfl

/-- One segment more comes to one step more. -/
theorem closeSegment_goFrom {n : Nat} (w : Way) {dirs : List (List Char)} (hdirs : dirs ≠ [])
    (seg : List Char) : closeSegment (.web n) (w.goFrom dirs) seg = (w.step seg).goFrom dirs := by
  rw [closeSegment, Way.step]
  split
  · split
    next hdown =>
      simp [Way.goFrom, hdown, Function.iterate_succ_apply', -Function.iterate_succ]
    next hdown => exact leaveSegment_append (iterate_leaveSegment_ne_nil hdirs _) hdown
  · split
    · rfl
    · exact List.append_assoc _ _ _

theorem foldl_closeSegment {n : Nat} (segs : List (List Char)) (w : Way) {dirs : List (List Char)}
    (hdirs : dirs ≠ []) :
    segs.foldl (closeSegment (.web n)) (w.goFrom dirs) = (segs.foldl Way.step w).goFrom dirs := by
  induction segs generalizing w with
  | nil => rfl
  | cons seg segs ih =>
    rw [List.foldl_cons, List.foldl_cons, closeSegment_goFrom w hdirs, ih]

/-- A way comes back when it goes down by the directories that it has left, and perhaps further. -/
def Way.Returns (w : Way) (dirs : List (List Char)) : Prop :=
  dirs.drop (leaveSegment^[w.up] dirs).length <+: w.down

instance (w : Way) (dirs : List (List Char)) : Decidable (w.Returns dirs) :=
  inferInstanceAs (Decidable (_ <+: _))

theorem leaveSegment_isPrefix (dirs : List (List Char)) : leaveSegment dirs <+: dirs := by
  rw [leaveSegment]
  split
  · exact List.prefix_rfl
  · exact List.dropLast_prefix dirs

theorem iterate_leaveSegment_isPrefix (dirs : List (List Char)) (n : Nat) :
    leaveSegment^[n] dirs <+: dirs := by
  induction n with
  | zero => exact List.prefix_rfl
  | succ n ih =>
    rw [Function.iterate_succ_apply']
    exact (leaveSegment_isPrefix _).trans ih

theorem Way.returns_iff {w : Way} {dirs : List (List Char)} :
    w.Returns dirs ↔ dirs <+: w.goFrom dirs := by
  obtain ⟨left, hleft⟩ := iterate_leaveSegment_isPrefix dirs w.up
  have hdrop : dirs.drop (leaveSegment^[w.up] dirs).length = left := by
    have := congrArg (List.drop (leaveSegment^[w.up] dirs).length) hleft
    simpa using this.symm
  calc w.Returns dirs
    _ ↔ left <+: w.down := by rw [Returns, hdrop]
    _ ↔ leaveSegment^[w.up] dirs ++ left <+: leaveSegment^[w.up] dirs ++ w.down :=
      (List.prefix_append_right_inj _).symm
    _ ↔ dirs <+: w.goFrom dirs := by rw [hleft, goFrom]

/-- One that never goes up is there anyway. -/
theorem Way.returns_of_up {w : Way} (h : w.up = 0) (dirs : List (List Char)) : w.Returns dirs := by
  rw [Returns, h]
  simp

/-! ## Paths of web addresses -/

/-- There is a directory, and no name of one has a slash or the mark of a query in it. -/
structure Plain (dirs : List (List Char)) : Prop where
  ne_nil : dirs ≠ []
  slash : ∀ dir ∈ dirs, '/' ∉ dir
  mark : ∀ dir ∈ dirs, '?' ∉ dir

theorem plain_root : Plain [[]] := ⟨List.cons_ne_nil _ _, by simp, by simp⟩

section
variable {n : Nat} {dirs : List (List Char)} {seg : List Char}

theorem Plain.leaveSegment (h : Plain dirs) : Plain (leaveSegment dirs) :=
  have hsub := (leaveSegment_isPrefix dirs).subset
  ⟨leaveSegment_ne_nil h.ne_nil, fun d hd => h.slash d (hsub hd), fun d hd => h.mark d (hsub hd)⟩

theorem slash_notMem_percentEncode (h : '/' ∉ seg) : '/' ∉ percentEncode badInPath seg :=
  not_mem_percentEncode (by decide) fun hmem => absurd hmem h

theorem Plain.concat (h : Plain dirs) (hseg : '/' ∉ seg) :
    Plain (dirs ++ [percentEncode badInPath seg]) where
  ne_nil := List.concat_ne_nil _ _
  slash := List.forall_mem_append.mpr
    ⟨h.slash, List.forall_mem_singleton.mpr (slash_notMem_percentEncode hseg)⟩
  mark := List.forall_mem_append.mpr ⟨h.mark, List.forall_mem_singleton.mpr
    (not_mem_percentEncode (by decide) fun _ => by decide)⟩

theorem Plain.closeSegment (h : Plain dirs) (hseg : '/' ∉ seg) :
    Plain (closeSegment (.web n) dirs seg) := by
  rw [Http.closeSegment]
  split
  · exact h.leaveSegment
  · split
    · exact h
    · exact h.concat hseg

theorem Plain.foldl (h : Plain dirs) {segs : List (List Char)} (hsegs : ∀ seg ∈ segs, '/' ∉ seg) :
    Plain (segs.foldl (Http.closeSegment (.web n)) dirs) := by
  induction segs generalizing dirs with
  | nil => exact h
  | cons seg segs ih =>
    obtain ⟨hseg, hrest⟩ := List.forall_mem_cons.mp hsegs
    exact ih (h.closeSegment hseg) hrest

/-- The text of a path that goes on from directories. -/
def pathFrom (n : Nat) (dirs : List (List Char)) (cs : List Char) : List Char :=
  let segs := splitAt (SchemeKind.web n).isSlash cs
  endPath (.web n) (segs.dropLast.foldl (closeSegment (.web n)) dirs) (segs.getLast?.getD [])

theorem readPath_eq_pathFrom (n : Nat) (cs : List Char) :
    readPath (.web n) cs = pathFrom n [[]] cs := by
  rw [readPath, pathFrom]
  rfl

/-- Closed segments in front lead to the directories to go on from. -/
theorem pathFrom_append {cs ds : List Char} {segs : List (List Char)}
    (h : splitAt (SchemeKind.web n).isSlash cs = segs ++ splitAt (SchemeKind.web n).isSlash ds) :
    pathFrom n dirs cs = pathFrom n (segs.foldl (closeSegment (.web n)) dirs) ds := by
  have hne := splitAt_ne_nil (SchemeKind.web n).isSlash ds
  rw [pathFrom, pathFrom, h, List.dropLast_append_of_ne_nil hne,
    List.getLast?_append_of_ne_nil _ hne, List.foldl_append]

/-- The last segment of a path, which no slash closes, leads on only if it is two dots. -/
theorem endPath_goFrom (w : Way) (hdirs : Plain (w.goFrom dirs)) (hne : dirs ≠ [])
    (hseg : '/' ∉ seg) : ∃ last, '/' ∉ last ∧
      let led := if isDoubleDot seg then w.step seg else w
      endPath (.web n) (w.goFrom dirs) seg = joinWith '/' (led.goFrom dirs ++ [last]) ∧
        Plain (led.goFrom dirs) := by
  cases hdouble : isDoubleDot seg with
  | true =>
    have hleft : (w.step seg).goFrom dirs = leaveSegment (w.goFrom dirs) := by
      rw [← closeSegment_goFrom (n := n) w hne, closeSegment, if_pos hdouble]
    refine ⟨[], List.not_mem_nil, ?_, ?_⟩
    · rw [endPath, if_pos hdouble, if_pos rfl, hleft]
    · rw [if_pos rfl, hleft]
      exact hdirs.leaveSegment
  | false =>
    rw [endPath, hdouble]
    simp only [Bool.false_eq_true, if_false]
    split
    · exact ⟨[], List.not_mem_nil, rfl, hdirs⟩
    · exact ⟨percentEncode badInPath seg, slash_notMem_percentEncode hseg, rfl, hdirs⟩

/-- The directories of a path are those that its way leads to; what is behind them has no slash in
it. -/
theorem pathFrom_eq (hdirs : Plain dirs) (cs : List Char) : ∃ last, '/' ∉ last ∧
    pathFrom n dirs cs = joinWith '/' ((Way.ofPath cs).goFrom dirs ++ [last]) ∧
      Plain ((Way.ofPath cs).goFrom dirs) := by
  have hsegs : ∀ seg ∈ splitAt (SchemeKind.web n).isSlash cs, '/' ∉ seg := fun seg hseg hmem =>
    Bool.false_ne_true (mem_of_mem_splitAt hseg '/' hmem).2.symm
  have hlast : '/' ∉ (splitAt (SchemeKind.web n).isSlash cs).getLast?.getD [] := by
    rw [List.getLast?_eq_some_getLast (splitAt_ne_nil _ _)]
    exact hsegs _ (List.getLast_mem _)
  have hstay : Way.stay.goFrom dirs = dirs := List.append_nil dirs
  have hclosed := foldl_closeSegment (n := n)
    (splitAt (SchemeKind.web n).isSlash cs).dropLast Way.stay hdirs.ne_nil
  have hplain := hdirs.foldl (n := n) fun seg hseg => hsegs seg (List.dropLast_subset _ hseg)
  rw [hstay] at hclosed
  rw [hclosed] at hplain
  rw [pathFrom, hclosed]
  exact endPath_goFrom _ hplain hdirs.ne_nil hlast

end

end Plugboard.Http
