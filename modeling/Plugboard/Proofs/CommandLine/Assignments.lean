import Mathlib.Data.List.Forall2
import Mathlib.Data.List.Nodup
import Plugboard.Proofs.CommandLine.Guards
import Plugboard.Proofs.Storage
import Plugboard.Proofs.Text.Blank

/-!
Assignments on the command line are read back as they were printed.

* `Assigns`: an argument gives a key, without the blanks around it, everything behind the first equals
  sign. `LastAssigns`: the last argument for a key does.
* `get?_of_parseAssignments`: a key has the value that the last argument for it gives it.
* `parseAssignments_eq_error_iff`: the first argument that is no assignment is reported.
* `parseAssignments_print`: settings with plain keys come back from their printed entries in any order.
* `parseAssignments_inverts`: all of this together.
-/
namespace Plugboard.CommandLine

/-! ## One argument -/

/-- What is in front of the first equals sign is the key, apart from blanks around it. -/
def Assigns (raw key value : String) : Prop :=
  ∃ front, raw = front ++ "=" ++ value ∧ '=' ∉ front.toList ∧ Text.trim front = key ∧ key ≠ ""

/-- What is said of an argument that is no assignment. -/
def notAssignment (raw : String) : HostError := .other ("Expected KEY=VALUE, got '" ++ raw ++ "'")

theorem toList_equals (front value : String) :
    (front ++ "=" ++ value).toList = front.toList ++ '=' :: value.toList := by
  simp

theorem parseAssignment_eq_ok_iff {raw key value : String} :
    parseAssignment raw = .ok (key, value) ↔ Assigns raw key value := by
  constructor
  · intro h
    obtain ⟨front, rest, hraw, hfront, hblank⟩ := (parseAssignment_ok_iff raw).mp ⟨_, h⟩
    obtain ⟨htake, hdrop⟩ := split_at_equals hfront rest
    simp only [parseAssignment, hraw, htake, hdrop, hblank, Bool.false_eq_true, if_false,
      Except.ok.injEq, Prod.mk.injEq] at h
    obtain ⟨hkey, hvalue⟩ := h
    have htrim : Text.trim (String.ofList front) = key := by
      rw [Text.trim, String.toList_ofList, hkey]
    refine ⟨String.ofList front, ?_, by rwa [String.toList_ofList], htrim, ?_⟩
    · rw [← String.toList_inj, toList_equals, hraw, ← hvalue]
      simp
    · intro hempty
      have hall := Text.trim_eq_empty_iff.mp (htrim.trans hempty)
      rw [Text.allBlank, String.toList_ofList, hblank] at hall
      cases hall
  · rintro ⟨front, rfl, hfront, rfl, hne⟩
    obtain ⟨htake, hdrop⟩ := split_at_equals hfront value.toList
    have hblank : front.toList.all Text.isBlank = false :=
      Bool.eq_false_iff.mpr fun hall => hne (Text.trim_eq_empty_iff.mpr hall)
    simp [parseAssignment, htake, hdrop, hblank, Text.trim]

theorem Assigns.unique {raw key key' value value' : String} (h : Assigns raw key value)
    (h' : Assigns raw key' value') : key = key' ∧ value = value' := by
  have heq := (parseAssignment_eq_ok_iff.mpr h).symm.trans (parseAssignment_eq_ok_iff.mpr h')
  simpa using heq

theorem isAssignment_iff {raw : String} : IsAssignment raw ↔ ∃ key value, Assigns raw key value := by
  rw [← parseAssignment_ok_iff, Prod.exists]
  simp only [parseAssignment_eq_ok_iff]

/-- Reading one argument fails in one way only. -/
theorem parseAssignment_eq_error_iff {raw : String} {e : HostError} :
    parseAssignment raw = .error e ↔ ¬ IsAssignment raw ∧ e = notAssignment raw := by
  rw [← parseAssignment_ok_iff]
  unfold parseAssignment
  dsimp only
  split
  · split <;> simp [notAssignment, eq_comm]
  · simp [notAssignment, eq_comm]

/-! ## All arguments -/

section
variable {α β ε : Type} {f : α → Except ε β} {l : List α}

theorem mapM_eq_ok_iff {bs : List β} :
    l.mapM f = .ok bs ↔ List.Forall₂ (fun a b => f a = .ok b) l bs := by
  induction l generalizing bs with
  | nil => simp [pure, Except.pure, eq_comm]
  | cons a l ih =>
    rw [List.mapM_cons, List.forall₂_cons_left_iff]
    cases f a with
    | error e => simp [bind, Except.bind]
    | ok b =>
      cases hl : l.mapM f with
      | error e => simp [bind, Except.bind, ← ih, hl]
      | ok ds => simp [bind, Except.bind, pure, Except.pure, ← ih, hl, eq_comm]

/-- The first failure is the one that counts. -/
theorem mapM_eq_error_iff {e : ε} : l.mapM f = .error e ↔ ∃ before a after,
    l = before ++ a :: after ∧ (∀ b ∈ before, ∃ x, f b = .ok x) ∧ f a = .error e := by
  induction l with
  | nil => simp [pure, Except.pure]
  | cons c l ih =>
    rw [List.mapM_cons]
    constructor
    · intro h
      cases hc : f c with
      | error e' =>
        rw [hc] at h
        cases h
        exact ⟨[], c, l, rfl, by simp, hc⟩
      | ok x =>
        have hl : l.mapM f = .error e := by
          rw [hc] at h
          cases hl : l.mapM f with
          | error e' => simpa [hl, bind, Except.bind] using h
          | ok bs => simp [hl, bind, Except.bind, pure, Except.pure] at h
        obtain ⟨before, a, after, rfl, hbefore, ha⟩ := ih.mp hl
        exact ⟨c :: before, a, after, rfl, List.forall_mem_cons.mpr ⟨⟨x, hc⟩, hbefore⟩, ha⟩
    · rintro ⟨before, a, after, hsplit, hbefore, ha⟩
      cases before with
      | nil =>
        cases hsplit
        rw [ha]
        rfl
      | cons b before =>
        cases hsplit
        obtain ⟨⟨x, hb⟩, hbefore⟩ := List.forall_mem_cons.mp hbefore
        rw [hb, ih.mpr ⟨before, a, after, rfl, hbefore, ha⟩]
        rfl

end

theorem parseAssignments_eq_ok_iff {raw : List String} {m : Settings} :
    parseAssignments raw = .ok m ↔
      ∃ ps, List.Forall₂ (fun a p => Assigns a p.1 p.2) raw ps ∧ Settings.ofList ps = m := by
  have hiff : ∀ ps, raw.mapM parseAssignment = .ok ps ↔
      List.Forall₂ (fun a p => Assigns a p.1 p.2) raw ps := by
    intro ps
    rw [mapM_eq_ok_iff]
    simp only [← parseAssignment_eq_ok_iff]
  simp only [← hiff, parseAssignments]
  cases raw.mapM parseAssignment <;> simp [Except.map]

theorem parseAssignments_eq_error_iff {raw : List String} {e : HostError} :
    parseAssignments raw = .error e ↔ ∃ before a after, raw = before ++ a :: after ∧
      (∀ b ∈ before, IsAssignment b) ∧ ¬ IsAssignment a ∧ e = notAssignment a := by
  have hiff := mapM_eq_error_iff (f := parseAssignment) (l := raw) (e := e)
  simp only [parseAssignment_ok_iff, parseAssignment_eq_error_iff] at hiff
  rw [← hiff, parseAssignments]
  cases raw.mapM parseAssignment <;> simp [Except.map]

/-! ### The last argument for a key -/

/-- Of the arguments for the key the last one gives it this value. -/
def LastAssigns (raw : List String) (key value : String) : Prop :=
  ∃ before a after, raw = before ++ a :: after ∧ Assigns a key value ∧
    ∀ b ∈ after, ∀ w, ¬ Assigns b key w

theorem lastAssigns_cons {a key value : String} {raw : List String} :
    LastAssigns (a :: raw) key value ↔ LastAssigns raw key value ∨
      Assigns a key value ∧ ∀ b ∈ raw, ∀ w, ¬ Assigns b key w := by
  constructor
  · rintro ⟨before, c, after, hsplit, hc, hafter⟩
    cases before with
    | nil =>
      cases hsplit
      exact .inr ⟨hc, hafter⟩
    | cons b before =>
      cases hsplit
      exact .inl ⟨before, c, after, rfl, hc, hafter⟩
  · rintro (⟨before, c, after, rfl, hc, hafter⟩ | ⟨ha, hraw⟩)
    · exact ⟨a :: before, c, after, rfl, hc, hafter⟩
    · exact ⟨[], a, raw, rfl, ha, hraw⟩

/-- Put one after the other over some settings, the arguments leave a key the value of the last one
for it, and the value it had when there is none. -/
theorem get?_foldl_assigned {raw : List String} {ps : List (String × String)}
    (h : List.Forall₂ (fun a p => Assigns a p.1 p.2) raw ps) (s : Settings) (key value : String) :
    (ps.foldl (fun s p => s.insert p.1 p.2) s).get? key = some value ↔
      LastAssigns raw key value ∨
        s.get? key = some value ∧ ∀ b ∈ raw, ∀ w, ¬ Assigns b key w := by
  induction h generalizing s with
  | nil => simp [LastAssigns]
  | @cons a p raw ps ha _ ih =>
    rw [List.foldl_cons, ih, Settings.get?_insert, lastAssigns_cons, List.forall_mem_cons, or_assoc]
    refine or_congr_right ?_
    by_cases hkey : p.1 = key
    · subst hkey
      have hvalue : p.2 = value ↔ Assigns a p.1 value :=
        ⟨fun he => he ▸ ha, fun h' => (ha.unique h').2⟩
      have hsome : ¬ ∀ w, ¬ Assigns a p.1 w := fun hnone => hnone _ ha
      simp [hvalue, hsome]
    · have hnone : ∀ w, ¬ Assigns a key w := fun w h' => hkey (ha.unique h').1
      simp [hkey, hnone]

theorem get?_of_parseAssignments {raw : List String} {m : Settings}
    (h : parseAssignments raw = .ok m) (key value : String) :
    m.get? key = some value ↔ LastAssigns raw key value := by
  obtain ⟨ps, hps, rfl⟩ := parseAssignments_eq_ok_iff.mp h
  rw [Settings.ofList, get?_foldl_assigned hps, Settings.get?_empty]
  simp

/-! ## Printed settings -/

/-- A key that a printed assignment keeps. -/
structure PlainKey (key : String) : Prop where
  ne_empty : key ≠ ""
  no_equals : '=' ∉ key.toList
  head : ∀ c ∈ key.toList.head?, Text.isBlank c = false
  last : ∀ c ∈ key.toList.getLast?, Text.isBlank c = false

def printAssignment (p : String × String) : String := p.1 ++ "=" ++ p.2

theorem assigns_print {p : String × String} (h : PlainKey p.1) :
    Assigns (printAssignment p) p.1 p.2 := by
  have htrim : Text.trim p.1 = p.1 := by
    rw [Text.trim, Text.trimChars_eq_self h.head h.last, String.ofList_toList]
  exact ⟨p.1, rfl, h.no_equals, htrim, h.ne_empty⟩

theorem lastAssigns_print {l : List (String × String)} (hplain : ∀ p ∈ l, PlainKey p.1)
    (hkeys : (l.map (·.1)).Nodup) {key value : String} :
    LastAssigns (l.map printAssignment) key value ↔ (key, value) ∈ l := by
  constructor
  · rintro ⟨before, a, after, hsplit, ha, -⟩
    have hmem : a ∈ l.map printAssignment := by simp [hsplit]
    obtain ⟨p, hp, rfl⟩ := List.mem_map.mp hmem
    obtain ⟨rfl, rfl⟩ := (assigns_print (hplain p hp)).unique ha
    exact hp
  · intro hmem
    obtain ⟨before, after, rfl⟩ := List.append_of_mem hmem
    refine ⟨before.map printAssignment, _, after.map printAssignment, by simp,
      assigns_print (hplain _ hmem), ?_⟩
    intro b hb w hw
    obtain ⟨q, hq, rfl⟩ := List.mem_map.mp hb
    have hqkey := ((assigns_print (hplain q (by simp [hq]))).unique hw).1
    have hnot : key ∉ after.map (·.1) := by
      rw [List.map_append, List.map_cons, List.nodup_middle, List.nodup_cons] at hkeys
      exact fun hk => hkeys.1 (List.mem_append_right _ hk)
    exact hnot (hqkey ▸ List.mem_map_of_mem hq)

theorem parseAssignments_print {m : Settings} (hplain : ∀ p ∈ m.entries, PlainKey p.1)
    {l : List (String × String)} (hl : l.Perm m.entries) :
    parseAssignments (l.map printAssignment) = .ok m := by
  have hplain' : ∀ p ∈ l, PlainKey p.1 := fun p hp => hplain p (hl.mem_iff.mp hp)
  have hkeys : (l.map (·.1)).Nodup := (hl.map _).nodup_iff.mpr m.nodup_keys
  obtain ⟨m', hm'⟩ := (parseAssignments_ok_iff (l.map printAssignment)).mpr fun a ha => by
    obtain ⟨p, hp, rfl⟩ := List.mem_map.mp ha
    exact isAssignment_iff.mpr ⟨_, _, assigns_print (hplain' p hp)⟩
  rw [hm', Settings.eq_of_get? (s := m') (t := m)]
  intro key
  refine Option.ext fun value => ?_
  rw [get?_of_parseAssignments hm', lastAssigns_print hplain' hkeys, hl.mem_iff,
    Settings.get?_eq_some_iff]

/-- Reading assignments gives back settings that were printed. Any arguments are read exactly if all
of them are assignments, with the last one for a key counting, and otherwise the first one that is
none is reported. -/
theorem parseAssignments_inverts :
    (∀ (m : Settings) (l : List (String × String)), (∀ p ∈ m.entries, PlainKey p.1) →
      l.Perm m.entries → parseAssignments (l.map printAssignment) = .ok m) ∧
    (∀ raw, (∃ m, parseAssignments raw = .ok m) ↔ ∀ a ∈ raw, IsAssignment a) ∧
    (∀ raw m, parseAssignments raw = .ok m → ∀ key value,
      m.get? key = some value ↔ LastAssigns raw key value) ∧
    ∀ raw e, parseAssignments raw = .error e ↔ ∃ before a after, raw = before ++ a :: after ∧
      (∀ b ∈ before, IsAssignment b) ∧ ¬ IsAssignment a ∧ e = notAssignment a :=
  ⟨fun _ _ hplain hl => parseAssignments_print hplain hl, parseAssignments_ok_iff,
    fun _ _ h => get?_of_parseAssignments h, fun _ _ => parseAssignments_eq_error_iff⟩

/-- A value may have equals signs and blanks in it, and of two arguments for a key the later one
counts, however much white space the earlier one has around its key. -/
theorem parseAssignments_inverts_greeting :
    parseAssignments ["url=http://x/?a=b", "greeting= hi "] =
      .ok ⟨[("greeting", " hi "), ("url", "http://x/?a=b")], by decide⟩ ∧
    ∃ m, parseAssignments [" greeting =hi", "greeting="] = .ok m ∧ m.get? "greeting" = some "" := by
  obtain ⟨hprint, hreads, hlast, -⟩ := parseAssignments_inverts
  have hgreeting : PlainKey "greeting" :=
    ⟨by decide, by decide, by rintro _ ⟨⟩; rfl, by rintro _ ⟨⟩; rfl⟩
  have hurl : PlainKey "url" := ⟨by decide, by decide, by rintro _ ⟨⟩; rfl, by rintro _ ⟨⟩; rfl⟩
  have hfirst : Assigns " greeting =hi" "greeting" "hi" :=
    ⟨" greeting ", rfl, by decide, by decide, by decide⟩
  have hsecond : Assigns "greeting=" "greeting" "" := ⟨"greeting", rfl, by decide, by decide, by decide⟩
  obtain ⟨m, hm⟩ := (hreads [" greeting =hi", "greeting="]).mpr (by
    simp only [List.forall_mem_cons, isAssignment_iff]
    exact ⟨⟨_, _, hfirst⟩, ⟨_, _, hsecond⟩, by simp⟩)
  refine ⟨hprint _ [("url", "http://x/?a=b"), ("greeting", " hi ")] ?_ (List.Perm.swap _ _ _),
    m, hm, (hlast _ m hm _ _).mpr ⟨[" greeting =hi"], _, [], rfl, hsecond, by simp⟩⟩
  simp [hgreeting, hurl]

end Plugboard.CommandLine
