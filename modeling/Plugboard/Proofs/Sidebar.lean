import Mathlib.Data.List.Induction
import Plugboard.Proofs.Registry

/-!
The sidebar of a registry, by what was done to it. Its plugins come by ascending order, and those of
the same order by the places of their names.

* `Registry.Change`, `Registry.replay`: what is done to a registry, and the registry after it.
* `Registry.Since`: the place of a name, read off the changes: the one that registered the name
  anew, when no later one has taken it out.
* `Registry.placed`: names stand in the order of their places, by induction on the changes.
* `pairwise_mergeSort_by`: what is sorted by a key stays in its order where the key is the same.
* `Registry.sidebar_listed`: what it comes to for the sidebar.
-/
namespace Plugboard

/-- Sorting by a key keeps the order of what has the same key. -/
theorem pairwise_mergeSort_by {α : Type} (key : α → Int) {R : α → α → Prop} {l : List α}
    (hl : l.Pairwise R) : (l.mergeSort fun a b => decide (key a ≤ key b)).Pairwise fun a b =>
      key a < key b ∨ key a = key b ∧ R a b := by
  let le : α → α → Bool := fun a b => decide (key a ≤ key b)
  have htrans : ∀ a b c, le a b → le b c → le a c := fun a b c hab hbc =>
    decide_eq_true (Int.le_trans (of_decide_eq_true hab) (of_decide_eq_true hbc))
  have htotal : ∀ a b, (le a b || le b a) = true := fun a b =>
    (Bool.or_eq_true _ _).mpr ((Int.le_total (key a) (key b)).imp decide_eq_true decide_eq_true)
  have hsorted := List.pairwise_mergeSort htrans htotal l
  have hsame : ∀ v, (l.mergeSort le).filter (fun a => key a == v) =
      l.filter fun a => key a == v := by
    intro v
    have hlevel : (l.filter fun a => key a == v).Pairwise (le · ·) := by
      refine List.pairwise_of_forall_mem_list fun a ha b hb => ?_
      have hkey : key a = key b := (beq_iff_eq.mp (List.mem_filter.mp ha).2).trans
        (beq_iff_eq.mp (List.mem_filter.mp hb).2).symm
      exact decide_eq_true (Int.le_of_eq hkey)
    have hsub := (List.sublist_mergeSort htrans htotal hlevel List.filter_sublist).filter
      fun a => key a == v
    rw [List.filter_filter, List.filter_congr fun a _ => Bool.and_self (key a == v)] at hsub
    have hlength := ((List.mergeSort_perm l le).filter fun a => key a == v).length_eq
    exact (hsub.eq_of_length hlength.symm).symm
  rw [List.pairwise_iff_forall_sublist]
  intro a b hab
  have hle : key a ≤ key b := of_decide_eq_true (List.pairwise_iff_forall_sublist.mp hsorted hab)
  rcases Int.lt_or_eq_of_le hle with hlt | heq
  · exact .inl hlt
  · have hpair : [a, b].filter (fun x => key x == key a) = [a, b] := by simp [heq]
    have hsub := hab.filter fun x => key x == key a
    rw [hpair, hsame] at hsub
    exact .inr ⟨heq, List.pairwise_iff_forall_sublist.mp (hl.filter _) hsub⟩

variable {Code : Type}

namespace Registry

/-! ## What is done to a registry -/

inductive Change (Code : Type)
  | register (q : Installed Code)
  | unregister (name : String)
  | clear

/-- The name is not registered after this. -/
def Change.removes (name : String) : Change Code → Bool
  | .register _ => false
  | .unregister other => name == other
  | .clear => true

def change (r : Registry Code) : Change Code → Registry Code
  | .register q =>
    match r.register q with
    | .ok (_, r') => r'
    | .error _ => r
  | .unregister name => r.remove name
  | .clear => r.clear

/-- The registry after these changes. -/
def replay (policy : DuplicatePolicy) (changes : List (Change Code)) : Registry Code :=
  changes.foldl change (empty policy)

/-- The change registers the name, and the answer is that the name is new. -/
def Brings (r : Registry Code) (c : Change Code) (name : String) : Prop :=
  ∃ q r', c = .register q ∧ q.name = name ∧ r.register q = .ok (.registered, r')

/-- The place of a name: so many changes came before the one that brought it, and none has removed
it since. A definition that is replaced, and one that is ignored, have no part in it. -/
def Since (policy : DuplicatePolicy) (changes : List (Change Code)) (name : String) (k : Nat) :
    Prop :=
  ∃ past c later, changes = past ++ c :: later ∧ past.length = k ∧
    (replay policy past).Brings c name ∧ ∀ c' ∈ later, c'.removes name = false

/-- A change brings one name, which then comes last, or it only takes names out. -/
theorem change_cases (r : Registry Code) (c : Change Code) :
    (∃ new, (∀ name, r.Brings c name ↔ name = new) ∧ (∀ name, c.removes name = false) ∧
      new ∉ r.order ∧ (r.change c).order = r.order ++ [new]) ∨
    ((∀ name, ¬ r.Brings c name) ∧
      (r.change c).order = r.order.filter fun name => !c.removes name) := by
  cases c with
  | register q =>
    have hall : (r.order.filter fun name => !Change.removes name (.register q)) = r.order :=
      List.filter_eq_self.mpr fun _ _ => rfl
    have hstill : (∀ r', r.register q ≠ .ok (.registered, r')) →
        ∀ name, ¬ r.Brings (.register q) name := by
      rintro hnot name ⟨_, r', ⟨⟩, -, hr⟩
      exact hnot r' hr
    cases hcheck : q.definition.check with
    | error e =>
      have hr : r.register q = .error e := register_eq_error.mpr hcheck
      refine .inr ⟨hstill fun r' h => ?_, ?_⟩
      · cases hr.symm.trans h
      · rw [change, hr, hall]
    | ok =>
      have hr := register_of_check (r := r) hcheck
      by_cases hc : r.contains q.name = true
      · rw [install, dif_pos hc] at hr
        cases hpolicy : r.policy with
        | ignore =>
          rw [hpolicy] at hr
          refine .inr ⟨hstill fun r' h => ?_, ?_⟩
          · cases hr.symm.trans h
          · rw [change, hr, hall]
        | replace =>
          rw [hpolicy] at hr
          refine .inr ⟨hstill fun r' h => ?_, ?_⟩
          · cases hr.symm.trans h
          · rw [change, hr, hall]
      · rw [install, dif_neg hc] at hr
        refine .inl ⟨q.name, fun name => ⟨?_, ?_⟩, fun _ => rfl, ?_, ?_⟩
        · rintro ⟨_, _, ⟨⟩, hname, -⟩
          exact hname.symm
        · rintro rfl
          exact ⟨q, _, rfl, rfl, hr⟩
        · exact mt (r.contains_iff _).mpr hc
        · rw [change, hr]
  | unregister name =>
    refine .inr ⟨?_, List.filter_congr fun other _ => ?_⟩
    · rintro _ ⟨_, _, ⟨⟩, -⟩
    · rw [Change.removes, decide_not]
      rfl
  | clear =>
    refine .inr ⟨?_, (List.filter_eq_nil_iff.mpr fun _ _ => Bool.false_ne_true).symm⟩
    rintro _ ⟨_, _, ⟨⟩, -⟩

variable {policy : DuplicatePolicy} {changes : List (Change Code)} {c : Change Code}
  {name : String} {k l : Nat}

theorem replay_snoc : replay policy (changes ++ [c]) = (replay policy changes).change c :=
  List.foldl_concat ..

theorem Since.lt (hs : Since policy changes name k) : k < changes.length := by
  obtain ⟨past, c, later, rfl, rfl, -⟩ := hs
  rw [List.length_append, List.length_cons]
  omega

/-- One more change. -/
theorem since_snoc : Since policy (changes ++ [c]) name k ↔
    Since policy changes name k ∧ c.removes name = false ∨
      k = changes.length ∧ (replay policy changes).Brings c name := by
  constructor
  · rintro ⟨past, c', later, h, rfl, hb, hl⟩
    rcases later.eq_nil_or_concat' with rfl | ⟨later, c'', rfl⟩
    · obtain ⟨rfl, hlast⟩ := List.append_inj' h rfl
      obtain rfl := List.singleton_injective hlast
      exact .inr ⟨rfl, hb⟩
    · rw [← List.cons_append, ← List.append_assoc] at h
      obtain ⟨rfl, hlast⟩ := List.append_inj' h rfl
      obtain rfl := List.singleton_injective hlast
      obtain ⟨hlater, hc⟩ := List.forall_mem_append.mp hl
      exact .inl ⟨⟨past, c', later, rfl, rfl, hb, hlater⟩, hc c List.mem_cons_self⟩
  · rintro (⟨⟨past, c', later, rfl, rfl, hb, hl⟩, hc⟩ | ⟨rfl, hb⟩)
    · refine ⟨past, c', later ++ [c], ?_, rfl, hb, ?_⟩
      · rw [List.append_assoc, List.cons_append]
      · exact List.forall_mem_append.mpr ⟨hl, List.forall_mem_singleton.mpr hc⟩
    · exact ⟨changes, c, [], rfl, rfl, hb, List.forall_mem_nil _⟩

/-- Each name that is registered has one place, and the names stand in the order of their places. -/
structure Placed (policy : DuplicatePolicy) (changes : List (Change Code)) : Prop where
  mem : ∀ name, name ∈ (replay policy changes).order ↔ ∃ k, Since policy changes name k
  unique : ∀ name k l, Since policy changes name k → Since policy changes name l → k = l
  sorted : (replay policy changes).order.Pairwise fun a b =>
    ∀ k l, Since policy changes a k → Since policy changes b l → k < l

theorem Placed.snoc (hp : Placed policy changes) (c : Change Code) :
    Placed policy (changes ++ [c]) := by
  rcases (replay policy changes).change_cases c with
    ⟨new, hnew, hkeeps, hout, horder⟩ | ⟨hno, horder⟩
  · have hsince : ∀ name k, Since policy (changes ++ [c]) name k ↔
        Since policy changes name k ∨ k = changes.length ∧ name = new := fun name k => by
      rw [since_snoc, hnew, hkeeps name, and_iff_left rfl]
    have hnone : ∀ k, ¬ Since policy changes new k := fun k h => hout ((hp.mem new).mpr ⟨k, h⟩)
    rw [← replay_snoc] at horder
    refine ⟨fun name => ?_, fun name k l hk hl => ?_, ?_⟩
    · simp only [horder, List.mem_append, List.mem_singleton, hp.mem, hsince, exists_or,
        exists_eq_left]
    · rcases (hsince name k).mp hk with hk | ⟨rfl, rfl⟩
      · rcases (hsince name l).mp hl with hl | ⟨-, rfl⟩
        · exact hp.unique name k l hk hl
        · exact absurd hk (hnone k)
      · rcases (hsince name l).mp hl with hl | ⟨rfl, -⟩
        · exact absurd hl (hnone l)
        · rfl
    · have hold : ∀ a ∈ (replay policy changes).order, ∀ k,
          Since policy (changes ++ [c]) a k → Since policy changes a k := by
        intro a ha k hk
        rcases (hsince a k).mp hk with hk | ⟨-, rfl⟩
        · exact hk
        · exact absurd ha hout
      rw [horder, List.pairwise_append]
      refine ⟨hp.sorted.imp_of_mem fun ha hb h k l hk hl =>
        h k l (hold _ ha k hk) (hold _ hb l hl), List.pairwise_singleton .., fun a ha b hb => ?_⟩
      obtain rfl := List.mem_singleton.mp hb
      intro k l hk hl
      rcases (hsince _ l).mp hl with hl | ⟨rfl, -⟩
      · exact absurd hl (hnone l)
      · exact (hold a ha k hk).lt
  · have hsince : ∀ name k, Since policy (changes ++ [c]) name k ↔
        Since policy changes name k ∧ c.removes name = false := fun name k => by
      rw [since_snoc, or_iff_left fun h => hno name h.2]
    rw [← replay_snoc] at horder
    refine ⟨fun name => ?_, fun name k l hk hl => ?_, ?_⟩
    · simp only [horder, List.mem_filter, Bool.not_eq_true', hp.mem, hsince, exists_and_right]
    · exact hp.unique name k l ((hsince name k).mp hk).1 ((hsince name l).mp hl).1
    · rw [horder]
      exact (hp.sorted.filter _).imp fun h k l hk hl =>
        h k l ((hsince _ k).mp hk).1 ((hsince _ l).mp hl).1

theorem placed (policy : DuplicatePolicy) (changes : List (Change Code)) :
    Placed policy changes := by
  induction changes using List.reverseRecOn with
  | nil =>
    have hnone : ∀ name k, ¬ Since policy ([] : List (Change Code)) name k := fun _ _ h =>
      Nat.not_lt_zero _ h.lt
    exact ⟨fun name => ⟨nofun, fun ⟨k, h⟩ => absurd h (hnone name k)⟩,
      fun name k _ h => absurd h (hnone name k), .nil⟩
  | append_singleton changes c ih => exact ih.snoc c

theorem exists_since {p : Installed Code} (h : (replay policy changes).get? p.name = some p) :
    ∃ k, Since policy changes p.name k := by
  refine ((placed policy changes).mem p.name).mp (((replay policy changes).contains_iff _).mp ?_)
  rw [contains, h]
  rfl

/-- The plugins stand in the order of the places of their names. -/
theorem plugins_sorted (policy : DuplicatePolicy) (changes : List (Change Code)) :
    (replay policy changes).plugins.Pairwise fun p q =>
      ∀ k l, Since policy changes p.name k → Since policy changes q.name l → k < l := by
  have hsorted := (placed policy changes).sorted
  rw [← names_plugins, List.pairwise_map] at hsorted
  exact hsorted

/-! ## The sidebar -/

/-- These are the plugins of the sidebar after these changes, as they belong: each that is
registered and shown there, once, by the order that its definition gives, where one that gives none
counts as 99, and then by the place of its name. -/
structure Listed (policy : DuplicatePolicy) (changes : List (Change Code))
    (plugins : List (Installed Code)) : Prop where
  mem : ∀ p, p ∈ plugins ↔
    (replay policy changes).get? p.name = some p ∧ p.definition.sidebar.shown = true
  once : (plugins.map Installed.name).Nodup
  place : ∀ p ∈ plugins, ∃! k, Since policy changes p.name k
  sorted : plugins.Pairwise fun p q =>
    p.definition.sidebar.order.getD 99 < q.definition.sidebar.order.getD 99 ∨
      p.definition.sidebar.order.getD 99 = q.definition.sidebar.order.getD 99 ∧
        ∃ k l, Since policy changes p.name k ∧ Since policy changes q.name l ∧ k < l

theorem sidebar_listed (policy : DuplicatePolicy) (changes : List (Change Code)) :
    Listed policy changes (replay policy changes).sidebar := by
  have hmem : ∀ p, p ∈ (replay policy changes).sidebar ↔
      (replay policy changes).get? p.name = some p ∧ p.definition.sidebar.shown = true := by
    intro p
    rw [sidebar, List.mem_mergeSort, List.mem_filter, mem_plugins_iff]
  have hplace : ∀ p ∈ (replay policy changes).sidebar, ∃ k, Since policy changes p.name k :=
    fun p h => exists_since ((hmem p).mp h).1
  refine ⟨hmem, ?_, fun p h => ?_, ?_⟩
  · have hperm := (List.mergeSort_perm
      ((replay policy changes).plugins.filter fun p => p.definition.sidebar.shown)
      fun p q => decide (p.definition.sidebar.effectiveOrder ≤
        q.definition.sidebar.effectiveOrder)).map Installed.name
    refine hperm.nodup_iff.mpr (List.Nodup.sublist (List.filter_sublist.map _) ?_)
    rw [names_plugins]
    exact (replay policy changes).distinct
  · obtain ⟨k, hk⟩ := hplace p h
    exact ⟨k, hk, fun l hl => (placed policy changes).unique _ l k hl hk⟩
  · refine (pairwise_mergeSort_by (fun p => p.definition.sidebar.order.getD 99)
      ((plugins_sorted policy changes).filter _)).imp_of_mem
      fun {p q} hmemp hmemq h => h.imp_right fun hsame => ?_
    obtain ⟨heq, hlt⟩ := hsame
    obtain ⟨k, hk⟩ := hplace p hmemp
    obtain ⟨l, hl⟩ := hplace q hmemq
    exact ⟨heq, k, l, hk, hl, hlt k l hk hl⟩

end Registry
end Plugboard
