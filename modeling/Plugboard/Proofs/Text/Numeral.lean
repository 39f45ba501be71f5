import Mathlib.Data.List.TakeWhile
import Plugboard.Text.Numeral

/-!
Which texts are numbers, by a grammar: a sign that may be missing, and then either the name of
something that is no decimal, in letters of any case, or digits with a point and an exponent that may
be missing.

* `Exponent`, `Decimal`, `IsNumeral`: the grammar. `isNumber_iff`: a text is read as a number just
  when the grammar has it.
-/
namespace Plugboard.Text

def IsDigits (cs : List Char) : Prop := ∀ c ∈ cs, '0' ≤ c ∧ c ≤ '9'

def IsSign (cs : List Char) : Prop := cs = [] ∨ cs = ['+'] ∨ cs = ['-']

/-- Nothing, or a mark, a sign and at least one digit. -/
inductive Exponent : List Char → Prop
  | missing : Exponent []
  | marked {mark : Char} {sign ds : List Char} (hm : mark = 'e' ∨ mark = 'E') (hs : IsSign sign)
      (hd : IsDigits ds) (hne : ds ≠ []) : Exponent (mark :: (sign ++ ds))

/-- Digits on at least one side of the point. -/
inductive Decimal : List Char → Prop
  | whole {ds exponent : List Char} (hd : IsDigits ds) (hne : ds ≠ []) (he : Exponent exponent) :
      Decimal (ds ++ exponent)
  | pointed {ds fraction exponent : List Char} (hd : IsDigits ds) (hf : IsDigits fraction)
      (hne : ds ≠ [] ∨ fraction ≠ []) (he : Exponent exponent) :
      Decimal (ds ++ '.' :: (fraction ++ exponent))

/-- An infinity, or what is not a number. -/
def IsNamed (cs : List Char) : Prop :=
  cs.map Char.toLower ∈ ["inf".toList, "infinity".toList, "nan".toList]

def IsNumeral (cs : List Char) : Prop :=
  ∃ sign body, IsSign sign ∧ cs = sign ++ body ∧ (IsNamed body ∨ Decimal body)

theorem isDigit_iff {c : Char} : isDigit c = true ↔ '0' ≤ c ∧ c ≤ '9' := by
  simp [isDigit]

theorem all_isDigit_iff {cs : List Char} : cs.all isDigit = true ↔ IsDigits cs := by
  simp [IsDigits, isDigit_iff]

theorem isSign_singleton {c : Char} : IsSign [c] ↔ (c == '+' || c == '-') = true := by
  simp [IsSign]

theorem not_isSign_of_digit {c : Char} (hc : '0' ≤ c ∧ c ≤ '9') : (c == '+' || c == '-') = false := by
  rw [Bool.or_eq_false_iff, beq_eq_false_iff_ne, beq_eq_false_iff_ne]
  constructor <;> rintro rfl <;> exact absurd hc (by decide)

theorem isExponent_iff {cs : List Char} : isExponent cs = true ↔ Exponent cs := by
  constructor
  · intro h
    match cs with
    | [] => exact .missing
    | [e] => simp [isExponent] at h
    | e :: c :: rest =>
      rw [isExponent, Bool.and_eq_true] at h
      obtain ⟨hmark, hrest⟩ := h
      have hm : e = 'e' ∨ e = 'E' := by simpa using hmark
      split at hrest
      next hsign =>
        rw [Bool.and_eq_true, all_isDigit_iff] at hrest
        have hs : IsSign [c] := isSign_singleton.mpr hsign
        exact .marked hm hs hrest.2 (by simpa using hrest.1)
      next => exact .marked hm (.inl rfl) (all_isDigit_iff.mp hrest) (List.cons_ne_nil c rest)
  · intro h
    cases h with
    | missing => rfl
    | @marked mark sign ds hm hs hd hne =>
      have hmark : (mark == 'e' || mark == 'E') = true := by simpa using hm
      obtain ⟨d, ds, rfl⟩ := List.exists_cons_of_ne_nil hne
      rcases hs with rfl | rfl | rfl
      · have hsign := not_isSign_of_digit (hd d List.mem_cons_self)
        simp only [isExponent, hmark, List.nil_append, hsign]
        exact all_isDigit_iff.mpr hd
      · simpa [isExponent, hmark] using all_isDigit_iff.mpr hd
      · simpa [isExponent, hmark] using all_isDigit_iff.mpr hd

/-- A text that does not begin with a digit. -/
def Undigited (cs : List Char) : Prop := ∀ c ∈ cs.head?, isDigit c = false

theorem Exponent.undigited {cs : List Char} (h : Exponent cs) : Undigited cs := by
  cases h with
  | missing => nofun
  | marked hm hs hd hne => rcases hm with rfl | rfl <;> simp [Undigited] <;> decide

theorem takeWhile_digits {ds rest : List Char} (hd : IsDigits ds) (hr : Undigited rest) :
    (ds ++ rest).takeWhile isDigit = ds ∧ (ds ++ rest).dropWhile isDigit = rest := by
  have hall : ∀ c ∈ ds, isDigit c = true := fun c hc => isDigit_iff.mpr (hd c hc)
  rw [List.takeWhile_append_of_pos hall, List.dropWhile_append_of_pos hall]
  cases rest with
  | nil => simp
  | cons c rest =>
    have hc : isDigit c = false := hr c rfl
    simp [hc]

theorem isDigits_takeWhile (cs : List Char) : IsDigits (cs.takeWhile isDigit) := fun _ hc =>
  isDigit_iff.mp (List.mem_takeWhile_imp hc)

theorem isDecimal_iff {cs : List Char} : isDecimal cs = true ↔ Decimal cs := by
  constructor
  · intro h
    have hcs : cs.takeWhile isDigit ++ cs.dropWhile isDigit = cs := List.takeWhile_append_dropWhile
    have hd := isDigits_takeWhile cs
    unfold isDecimal at h
    dsimp only at h
    split at h
    next rest hrest =>
      have hsplit : rest.takeWhile isDigit ++ rest.dropWhile isDigit = rest :=
        List.takeWhile_append_dropWhile
      rw [Bool.and_eq_true, isExponent_iff] at h
      rw [← hcs, hrest, ← hsplit]
      exact .pointed hd (isDigits_takeWhile rest) (by simpa using h.1) h.2
    next =>
      rw [Bool.and_eq_true, isExponent_iff] at h
      rw [← hcs]
      exact .whole hd (by simpa using h.1) h.2
  · intro h
    cases h with
    | whole hd hne he =>
      obtain ⟨htake, hdrop⟩ := takeWhile_digits hd he.undigited
      unfold isDecimal
      dsimp only
      rw [htake, hdrop]
      split
      next rest => cases he with | marked hm => rcases hm with hm | hm <;> cases hm
      next => simpa [hne] using isExponent_iff.mpr he
    | @pointed ds fraction exponent hd hf hne he =>
      have hpoint : Undigited ('.' :: (fraction ++ exponent)) := by rintro _ ⟨⟩; decide
      obtain ⟨htake, hdrop⟩ := takeWhile_digits hd hpoint
      obtain ⟨htake', hdrop'⟩ := takeWhile_digits hf he.undigited
      unfold isDecimal
      dsimp only
      rw [htake, hdrop]
      change ((!ds.isEmpty || !((fraction ++ exponent).takeWhile isDigit).isEmpty) &&
        isExponent ((fraction ++ exponent).dropWhile isDigit)) = true
      rw [htake', hdrop']
      simpa [hne] using isExponent_iff.mpr he

/-- What is left of a text without its sign. -/
theorem exists_sign (cs : List Char) : ∃ sign, IsSign sign ∧ cs = sign ++ unsigned cs := by
  cases cs with
  | nil => exact ⟨[], .inl rfl, rfl⟩
  | cons c rest =>
    by_cases hc : (c == '+' || c == '-') = true
    · exact ⟨[c], isSign_singleton.mpr hc, by rw [unsigned, if_pos hc]; rfl⟩
    · exact ⟨[], .inl rfl, by rw [unsigned, if_neg hc]; rfl⟩

/-- Neither a name nor a decimal begins with a sign. -/
theorem not_sign_of_body {c : Char} {rest : List Char}
    (hb : IsNamed (c :: rest) ∨ Decimal (c :: rest)) : (c == '+' || c == '-') = false := by
  rcases hb with hb | hb
  · rw [Bool.or_eq_false_iff, beq_eq_false_iff_ne, beq_eq_false_iff_ne]
    constructor <;> rintro rfl <;> simp [IsNamed] at hb
  · generalize hcs : c :: rest = cs at hb
    cases hb with
    | @whole ds exponent hd hne he =>
      obtain ⟨d, ds, rfl⟩ := List.exists_cons_of_ne_nil hne
      cases hcs
      exact not_isSign_of_digit (hd c List.mem_cons_self)
    | @pointed ds fraction exponent hd hf hne he =>
      cases ds with
      | nil =>
        cases hcs
        rfl
      | cons d ds =>
        cases hcs
        exact not_isSign_of_digit (hd c List.mem_cons_self)

theorem unsigned_sign_append {sign body : List Char} (hs : IsSign sign)
    (hb : IsNamed body ∨ Decimal body) : unsigned (sign ++ body) = body := by
  rcases hs with rfl | rfl | rfl
  · cases body with
    | nil => rfl
    | cons c rest =>
      have hc := not_sign_of_body hb
      rw [List.nil_append, unsigned, if_neg (Bool.eq_false_iff.mp hc)]
  · rfl
  · rfl

/-- A text is read as a number just when the grammar has it. -/
theorem isNumber_iff {s : String} : isNumber s = true ↔ IsNumeral s.toList := by
  have hbody : isNumber s = true ↔ IsNamed (unsigned s.toList) ∨ Decimal (unsigned s.toList) := by
    rw [← isDecimal_iff]
    simp [isNumber, IsNamed, or_assoc]
  rw [hbody]
  constructor
  · intro h
    obtain ⟨sign, hs, he⟩ := exists_sign s.toList
    exact ⟨sign, _, hs, he, h⟩
  · rintro ⟨sign, body, hs, he, h⟩
    rwa [he, unsigned_sign_append hs h]

end Plugboard.Text
