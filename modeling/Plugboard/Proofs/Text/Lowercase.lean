import Mathlib.Data.List.DropRight
import Plugboard.Text.Lowercase

/-!
Lower case of a part of a text. Only a capital sigma looks at what stands around it, so a part is
lowered as if it stood alone, except for a sigma whose word the part does not have both ends of.

* `lowerWithin`: what a part of a text is lowered to, with what stands around it.
  `lowerFrom_append`: a text is lowered part by part.
* `Settled`: no sigma of the part looks beyond it. `lowerWithin_of_settled`: such a part is lowered as
  if it stood alone.
* `infix_lowerChars_iff`: these are the parts that can be found in lower case wherever they occur.
-/
namespace Plugboard.Text

/-! ## Letters nearby -/

/-- Characters that are passed over on the way to the nearest letter. -/
def passedOver (cs : List Char) : Bool := cs.all (within caseIgnorableRanges)

theorem casedAhead_of_passedOver {cs : List Char} (h : passedOver cs = true) :
    casedAhead cs = false := by
  have hnil : cs.dropWhile (within caseIgnorableRanges) = [] :=
    List.dropWhile_eq_nil_iff.mpr fun c hc => List.all_eq_true.mp h c hc
  rw [casedAhead, hnil]

theorem casedAhead_append (cs ds : List Char) :
    casedAhead (cs ++ ds) = if passedOver cs then casedAhead ds else casedAhead cs := by
  induction cs with
  | nil => rfl
  | cons c cs ih =>
    rw [passedOver] at ih
    simp only [casedAhead, passedOver, List.cons_append, List.dropWhile_cons, List.all_cons] at ih ⊢
    cases within caseIgnorableRanges c with
    | true => simpa using ih
    | false => simp

/-! ## Parts of a text -/

/-- What a character is lowered to, `before` being what stands in front of it, nearest first. -/
def lowerAt (before : List Char) (c : Char) (after : List Char) : List Char :=
  if c == 'Σ' then if casedAhead before && !casedAhead after then ['ς'] else ['σ'] else lowerChar c

/-- What a part of a text is lowered to. -/
def lowerWithin (before : List Char) : List Char → List Char → List Char
  | [], _ => []
  | c :: rest, after => lowerAt before c (rest ++ after) ++ lowerWithin (c :: before) rest after

theorem lowerFrom_cons (before : List Char) (c : Char) (rest : List Char) :
    lowerFrom before (c :: rest) = lowerAt before c rest ++ lowerFrom (c :: before) rest := rfl

theorem lowerFrom_append (before cs ds : List Char) :
    lowerFrom before (cs ++ ds) =
      lowerWithin before cs ds ++ lowerFrom (cs.reverse ++ before) ds := by
  induction cs generalizing before with
  | nil => rfl
  | cons c cs ih => simp [lowerFrom_cons, lowerWithin, ih]

theorem lowerWithin_append (before cs ds after : List Char) :
    lowerWithin before (cs ++ ds) after =
      lowerWithin before cs (ds ++ after) ++ lowerWithin (cs.reverse ++ before) ds after := by
  induction cs generalizing before with
  | nil => rfl
  | cons c cs ih => simp [lowerWithin, ih]

theorem lowerChars_eq_lowerWithin (cs : List Char) : lowerChars cs = lowerWithin [] cs [] := by
  have hsplit := lowerFrom_append [] cs []
  rwa [List.append_nil, lowerFrom, List.append_nil] at hsplit

/-- The three parts of a text. -/
theorem lowerChars_append (front cs back : List Char) :
    lowerChars (front ++ cs ++ back) = lowerWithin [] front (cs ++ back) ++
      lowerWithin front.reverse cs back ++ lowerFrom (cs.reverse ++ front.reverse) back := by
  rw [lowerChars, List.append_assoc, lowerFrom_append, lowerFrom_append]
  simp

theorem length_lowerAt (before before' : List Char) (c : Char) (after after' : List Char) :
    (lowerAt before c after).length = (lowerAt before' c after').length := by
  unfold lowerAt
  split
  · split <;> split <;> rfl
  · rfl

/-- What stands around a part does not change how long it gets. -/
theorem length_lowerWithin (before before' cs after after' : List Char) :
    (lowerWithin before cs after).length = (lowerWithin before' cs after').length := by
  induction cs generalizing before before' with
  | nil => rfl
  | cons c cs ih =>
    rw [lowerWithin, lowerWithin, List.length_append, List.length_append,
      ih (c :: before) (c :: before'), length_lowerAt before before' c _ (cs ++ after')]

/-! ## Parts that are lowered alike everywhere -/

/-- A capital sigma between these characters does not look beyond them, neither in front, where
`before` has its nearest character first, nor behind. -/
structure SettledBetween (before after : List Char) : Prop where
  front : passedOver before = true → casedAhead after = true
  back : passedOver after = true → casedAhead before = false

/-- No capital sigma looks beyond the text. -/
def Settled (cs : List Char) : Prop :=
  ∀ before after, cs = before ++ 'Σ' :: after → SettledBetween before.reverse after

theorem settled_of_not_mem {cs : List Char} (h : 'Σ' ∉ cs) : Settled cs := by
  rintro before after rfl
  exact absurd (by simp) h

theorem lowerAt_append {before after : List Char} {c : Char}
    (h : c = 'Σ' → SettledBetween before after) (more more' : List Char) :
    lowerAt (before ++ more) c (after ++ more') = lowerAt before c after := by
  unfold lowerAt
  split
  next hc =>
    obtain ⟨hfront, hback⟩ := h (beq_iff_eq.mp hc)
    have hone : passedOver before = true → passedOver after = false := by
      intro hb
      by_contra ha
      rw [Bool.not_eq_false] at ha
      exact Bool.false_ne_true ((casedAhead_of_passedOver ha).symm.trans (hfront hb))
    congr 1
    rw [casedAhead_append, casedAhead_append]
    cases hb : passedOver before with
    | true => simp [hone hb, hfront hb, casedAhead_of_passedOver hb]
    | false =>
      cases ha : passedOver after with
      | true => simp [hback ha]
      | false => simp
  next => rfl

theorem lowerWithin_append_of_settled {before cs : List Char}
    (h : ∀ cs₁ cs₂, cs = cs₁ ++ 'Σ' :: cs₂ → SettledBetween (cs₁.reverse ++ before) cs₂)
    (more after : List Char) :
    lowerWithin (before ++ more) cs after = lowerWithin before cs [] := by
  induction cs generalizing before with
  | nil => rfl
  | cons c cs ih =>
    have hhere : c = 'Σ' → SettledBetween before cs := fun hc => h [] cs (hc ▸ rfl)
    have hrest : lowerWithin (c :: before ++ more) cs after = lowerWithin (c :: before) cs [] := by
      refine ih fun cs₁ cs₂ hcs => ?_
      simpa using h (c :: cs₁) cs₂ (by simp [hcs])
    rw [lowerWithin, lowerWithin, lowerAt_append hhere, List.append_nil, ← List.cons_append, hrest]

theorem lowerWithin_of_settled {cs : List Char} (h : Settled cs) (before after : List Char) :
    lowerWithin before cs after = lowerChars cs := by
  rw [lowerChars_eq_lowerWithin]
  have hbetween : ∀ cs₁ cs₂, cs = cs₁ ++ 'Σ' :: cs₂ → SettledBetween (cs₁.reverse ++ []) cs₂ :=
    fun cs₁ cs₂ hcs => by simpa using h cs₁ cs₂ hcs
  exact lowerWithin_append_of_settled hbetween before after

/-! ## Parts that can be found -/

section
variable {k l : List Char} {c : Char}

theorem not_infix_cons (hlen : k.length = l.length) (hne : k ≠ l) (hhead : k.head? ≠ some c)
    (hk : k ≠ []) : ¬ k <:+: c :: l := by
  rw [List.infix_cons_iff]
  rintro (⟨rest, hrest⟩ | hrest)
  · cases k with
    | nil => exact hk rfl
    | cons x k =>
      cases hrest
      exact hhead rfl
  · exact hne (hrest.eq_of_length hlen)

theorem not_infix_concat (hlen : k.length = l.length) (hne : k ≠ l)
    (hlast : k.getLast? ≠ some c) (hk : k ≠ []) : ¬ k <:+: l ++ [c] := by
  rw [← List.reverse_infix, List.reverse_append, List.reverse_singleton, List.singleton_append]
  exact not_infix_cons (by simpa using hlen) (fun he => hne (List.reverse_inj.mp he))
    (by rwa [List.head?_reverse]) (by simpa using hk)

end

/-- A sigma that is lowered differently makes all of the part different. -/
theorem lowerWithin_ne {before cs₁ cs₂ after : List Char}
    (h : lowerAt (cs₁.reverse ++ before) 'Σ' (cs₂ ++ after) ≠ lowerAt cs₁.reverse 'Σ' cs₂) :
    lowerChars (cs₁ ++ 'Σ' :: cs₂) ≠ lowerWithin before (cs₁ ++ 'Σ' :: cs₂) after := by
  intro heq
  rw [lowerChars_eq_lowerWithin, lowerWithin_append, lowerWithin_append] at heq
  have htail := (List.append_inj heq (length_lowerWithin _ _ _ _ _)).2
  rw [lowerWithin, lowerWithin] at htail
  have hhere := (List.append_inj htail (length_lowerAt _ _ _ _ _)).1
  simp only [List.append_nil] at hhere
  exact h hhere.symm

/-- A capital sigma is lowered to a small one of either form. -/
theorem small_mem_lowerChars (cs₁ cs₂ : List Char) :
    'σ' ∈ lowerChars (cs₁ ++ 'Σ' :: cs₂) ∨ 'ς' ∈ lowerChars (cs₁ ++ 'Σ' :: cs₂) := by
  rw [lowerChars, lowerFrom_append, lowerFrom_cons, lowerAt]
  simp only [beq_self_eq_true, if_true]
  split <;> simp

/-- Of two letters one is not where it must not be. -/
theorem exists_letter (o : Option Char) : ∃ c : Char, o ≠ some c ∧ casedAhead [c] = true ∧
    (∀ before after, lowerAt before c after = [c]) := by
  by_cases h : o = some 'a'
  · exact ⟨'b', by simp [h], by decide +kernel, fun _ _ => rfl⟩
  · exact ⟨'a', h, by decide +kernel, fun _ _ => rfl⟩

theorem infix_lowerChars_iff (cs : List Char) :
    (∀ text, cs <:+: text → lowerChars cs <:+: lowerChars text) ↔ Settled cs := by
  constructor
  · rintro h cs₁ cs₂ rfl
    have hne : lowerChars (cs₁ ++ 'Σ' :: cs₂) ≠ [] :=
      (small_mem_lowerChars cs₁ cs₂).elim List.ne_nil_of_mem List.ne_nil_of_mem
    constructor
    · -- A letter in front makes the sigma a final one.
      intro hfront
      by_contra hcased
      obtain ⟨c, hhead, hc, hlower⟩ := exists_letter (lowerChars (cs₁ ++ 'Σ' :: cs₂)).head?
      refine not_infix_cons (l := lowerWithin [c] (cs₁ ++ 'Σ' :: cs₂) []) ?_ (lowerWithin_ne ?_)
        hhead hne ?_
      · rw [lowerChars_eq_lowerWithin, length_lowerWithin]
      · simp [lowerAt, casedAhead_append, hfront, hc, casedAhead_of_passedOver hfront, hcased]
      · have htext := h ([c] ++ (cs₁ ++ 'Σ' :: cs₂) ++ []) (List.infix_append _ _ _)
        rw [lowerChars_append] at htext
        simpa [lowerFrom, lowerWithin, hlower] using htext
    · -- A letter behind keeps the sigma from being a final one.
      intro hback
      by_contra hcased
      obtain ⟨c, hlast, hc, hlower⟩ := exists_letter (lowerChars (cs₁ ++ 'Σ' :: cs₂)).getLast?
      refine not_infix_concat (l := lowerWithin [] (cs₁ ++ 'Σ' :: cs₂) [c]) ?_ (lowerWithin_ne ?_)
        hlast hne ?_
      · rw [lowerChars_eq_lowerWithin, length_lowerWithin]
      · simp [lowerAt, casedAhead_append, hback, hc, casedAhead_of_passedOver hback, hcased]
      · have htext := h ([] ++ (cs₁ ++ 'Σ' :: cs₂) ++ [c]) (List.infix_append _ _ _)
        rw [lowerChars_append, lowerFrom_cons, hlower] at htext
        simpa [lowerFrom, lowerWithin] using htext
  · rintro h text ⟨front, back, rfl⟩
    rw [lowerChars_append, lowerWithin_of_settled h]
    exact List.infix_append _ _ _

end Plugboard.Text
