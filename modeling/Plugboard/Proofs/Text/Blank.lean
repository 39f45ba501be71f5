import Mathlib.Data.List.DropRight
import Plugboard.Text.Blank

/-!
What is left of a text when characters are taken away from its ends.

* `dropEndWhile_append_of_ne`, `dropEndWhile_append_of_last`: what stands in front of what is left
  stays.
* `trim_eq_empty_iff`: a text is blank just when nothing is left of it.
-/
namespace Plugboard.Text

section
variable {p : Char → Bool} {cs ds : List Char}

theorem dropEndWhile_eq_rdropWhile (p : Char → Bool) (cs : List Char) :
    dropEndWhile p cs = cs.rdropWhile p := rfl

/-- What stands in front stays when something is left of what follows it. -/
theorem dropEndWhile_append_of_ne (cs : List Char) (h : dropEndWhile p ds ≠ []) :
    dropEndWhile p (cs ++ ds) = cs ++ dropEndWhile p ds := by
  induction ds using List.reverseRecOn with
  | nil => exact absurd rfl h
  | append_singleton ds d ih =>
    rw [dropEndWhile_append_singleton] at h
    rw [← List.append_assoc, dropEndWhile_append_singleton, dropEndWhile_append_singleton]
    split
    next hd =>
      rw [if_pos hd] at h
      exact ih h
    next => rw [List.append_assoc]

/-- So it does when its own last character stays. -/
theorem dropEndWhile_append_of_last {c : Char} (hc : p c = false) (cs ds : List Char) :
    dropEndWhile p (cs ++ c :: ds) = cs ++ c :: dropEndWhile p ds := by
  induction ds using List.reverseRecOn with
  | nil => rw [dropEndWhile_append_singleton, if_neg (Bool.eq_false_iff.mp hc)]; rfl
  | append_singleton ds d ih =>
    rw [← List.cons_append, ← List.append_assoc, dropEndWhile_append_singleton,
      dropEndWhile_append_singleton, ih]
    split
    · rfl
    · simp

theorem dropEndWhile_isPrefix (p : Char → Bool) (cs : List Char) : dropEndWhile p cs <+: cs :=
  List.rdropWhile_prefix p cs

theorem dropWhile_stripChars (p : Char → Bool) (cs : List Char) :
    (stripChars p cs).dropWhile p = stripChars p cs := by
  rw [stripChars]
  cases hfront : dropEndWhile p (cs.dropWhile p) with
  | nil => rfl
  | cons c rest =>
    obtain ⟨more, hmore⟩ := dropEndWhile_isPrefix p (cs.dropWhile p)
    rw [hfront, List.cons_append] at hmore
    have hc : p c = false := by
      have := List.head?_dropWhile_not p cs
      rwa [← hmore] at this
    exact List.dropWhile_cons_of_neg (Bool.eq_false_iff.mp hc)

end

/-- A text is blank just when nothing is left of it without the blanks around it. -/
theorem trim_eq_empty_iff {s : String} : trim s = "" ↔ allBlank s = true := by
  have hempty : trim s = "" ↔ dropEndWhile isBlank (s.toList.dropWhile isBlank) = [] := by
    rw [trim, trimChars, stripChars, ← String.toList_inj, String.toList_ofList]
    rfl
  rw [hempty, dropEndWhile_eq_rdropWhile, List.rdropWhile_eq_nil_iff, allBlank, List.all_eq_true]
  constructor
  · intro h
    rw [← List.dropWhile_eq_nil_iff]
    by_contra hne
    exact Bool.false_ne_true
      ((List.head_dropWhile_not isBlank hne).symm.trans (h _ (List.head_mem hne)))
  · intro h c hc
    exact h c ((List.dropWhile_sublist _).subset hc)

theorem toList_trim (s : String) : (trim s).toList = trimChars s.toList := String.toList_ofList

theorem toList_trimEndOf (c : Char) (s : String) :
    (trimEndOf c s).toList = dropEndWhile (· == c) s.toList := String.toList_ofList

theorem startsWith_iff {p s : String} : startsWith p s = true ↔ ∃ rest, s = p ++ rest := by
  rw [startsWith, List.isPrefixOf_iff_prefix]
  constructor
  · rintro ⟨rest, h⟩
    exact ⟨String.ofList rest, by rw [← String.toList_inj, ← h]; simp⟩
  · rintro ⟨rest, rfl⟩
    exact ⟨rest.toList, by simp⟩

/-- A text that neither begins nor ends with a blank stays as it is. -/
theorem trimChars_eq_self {cs : List Char} (hhead : ∀ c ∈ cs.head?, isBlank c = false)
    (hlast : ∀ c ∈ cs.getLast?, isBlank c = false) : trimChars cs = cs := by
  have hfront : cs.dropWhile isBlank = cs := by
    cases cs with
    | nil => rfl
    | cons c cs => exact List.dropWhile_cons_of_neg (by simp [hhead c rfl])
  rw [trimChars, stripChars, hfront, dropEndWhile_eq_rdropWhile, List.rdropWhile_eq_self_iff]
  intro hne
  simp [hlast _ (List.getLast?_eq_some_getLast hne)]

theorem trimChars_sublist (cs : List Char) : (trimChars cs).Sublist cs :=
  (dropEndWhile_isPrefix isBlank _).sublist.trans (List.dropWhile_sublist _)

end Plugboard.Text
