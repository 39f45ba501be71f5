import Mathlib.Data.List.TakeWhile
import Plugboard.Json.Reader
import Plugboard.Json.Writer
import Plugboard.Proofs.Text.Numeral

/-!
Strings and numbers are read as they were written, whatever follows them that does not belong to
them.

* `readString_write`: a string ends at its closing quote.
* `Outside`: what a number ends at. `readNumeral_write`: a number ends there.
-/
namespace Plugboard

open Text

namespace Json

/-! ## Strings -/

theorem hexValue_hexDigit (n : Nat) : hexValue (hexDigit n) = some (n % 16) := by
  have hall : ∀ m < 16, hexValue (Nat.digitChar m) = some m := by decide
  exact hall _ (Nat.mod_lt _ (by decide))

theorem hex4_control {n : Nat} (hn : n < 0x20) (rest : List Char) :
    hex4 ('0' :: '0' :: hexDigit (n / 16) :: hexDigit n :: rest) = some (n, rest) := by
  have hzero : hexValue '0' = some 0 := by decide
  have hsum : ((0 * 16 + 0) * 16 + n / 16 % 16) * 16 + n % 16 = n := by omega
  simp only [hex4, hexValue_hexDigit, hzero, Option.bind_eq_bind, Option.bind_some, hsum]

/-- One character is read, whatever stands for it. -/
theorem readUnits_escapeChar (fuel : Nat) (units : List Nat) (c : Char) (rest : List Char) :
    readUnits (fuel + 1) units (escapeChar c ++ rest) = readUnits fuel (c.toNat :: units) rest := by
  by_cases hquote : c = '"'
  · subst hquote
    rfl
  by_cases hback : c = '\\'
  · subst hback
    rfl
  by_cases hline : c = '\n'
  · subst hline
    rfl
  by_cases hreturn : c = '\r'
  · subst hreturn
    rfl
  by_cases htab : c = '\t'
  · subst htab
    rfl
  by_cases hbackspace : c.toNat = 0x8
  · have hescape : escapeChar c = ['\\', 'b'] := by
      simp [escapeChar, hquote, hback, hline, hreturn, htab, hbackspace]
    rw [hescape, hbackspace]
    rfl
  by_cases hfeed : c.toNat = 0xC
  · have hescape : escapeChar c = ['\\', 'f'] := by
      simp [escapeChar, hquote, hback, hline, hreturn, htab, hfeed]
    rw [hescape, hfeed]
    rfl
  by_cases hcontrol : c.toNat < 0x20
  · have hescape : escapeChar c =
        ['\\', 'u', '0', '0', hexDigit (c.toNat / 16), hexDigit c.toNat] := by
      simp [escapeChar, hquote, hback, hline, hreturn, htab, hbackspace, hfeed, hcontrol]
    rw [hescape]
    simp [readUnits, hex4_control hcontrol]
  · have hescape : escapeChar c = [c] := by
      simp [escapeChar, hquote, hback, hline, hreturn, htab, hbackspace, hfeed, hcontrol]
    rw [hescape]
    simp [readUnits, hquote, hback, hcontrol]

theorem readUnits_write {fuel : Nat} {cs : List Char} (h : cs.length < fuel) (units : List Nat)
    (rest : List Char) : readUnits fuel units (cs.flatMap escapeChar ++ '"' :: rest) =
      some (cs.reverse.map Char.toNat ++ units, rest) := by
  induction cs generalizing fuel units with
  | nil =>
    obtain ⟨fuel, rfl⟩ := Nat.exists_eq_succ_of_ne_zero (Nat.ne_of_gt h)
    simp [readUnits]
  | cons c cs ih =>
    obtain ⟨fuel, rfl⟩ := Nat.exists_eq_succ_of_ne_zero (Nat.ne_zero_of_lt h)
    rw [List.flatMap_cons, List.append_assoc, readUnits_escapeChar,
      ih (Nat.lt_of_succ_lt_succ h)]
    simp

theorem not_half (c : Char) : isHighHalf c.toNat = false ∧ isLowHalf c.toNat = false := by
  have hvalid : c.toNat < 0xD800 ∨ 0xDFFF < c.toNat := by
    rcases c.valid with h | h
    · exact .inl h
    · exact .inr h.1
  simp only [isHighHalf, isLowHalf, Bool.and_eq_false_iff, decide_eq_false_iff_not]
  omega

/-- Whole characters are no halves of pairs. -/
theorem joinUnits_toNat (cs done : List Char) :
    joinUnits done (cs.map Char.toNat) = some (cs.reverse ++ done) := by
  induction cs generalizing done with
  | nil => rfl
  | cons c cs ih =>
    obtain ⟨hhigh, hlow⟩ := not_half c
    cases cs with
    | nil => simp [joinUnits, hhigh, hlow]
    | cons d cs =>
      rw [List.map_cons, List.map_cons, joinUnits, hlow, hhigh, Char.ofNat_toNat, ← List.map_cons]
      simpa using ih (c :: done)

theorem length_le_flatMap_escapeChar (cs : List Char) :
    cs.length ≤ (cs.flatMap escapeChar).length := by
  induction cs with
  | nil => exact Nat.le_refl 0
  | cons c cs ih =>
    have hone : 0 < (escapeChar c).length := by
      unfold escapeChar
      split_ifs <;> simp
    rw [List.flatMap_cons, List.length_append, List.length_cons]
    omega

theorem readString_write (s : String) (rest : List Char) :
    readString (s.toList.flatMap escapeChar ++ '"' :: rest) = some (some s, rest) := by
  have hfuel : s.toList.length < (s.toList.flatMap escapeChar ++ '"' :: rest).length + 1 := by
    have := length_le_flatMap_escapeChar s.toList
    rw [List.length_append]
    omega
  rw [readString, readUnits_write hfuel, List.append_nil, Option.map_some, joinUnits_toNat]
  simp

end Json

/-! ## Numbers -/

namespace Json

/-- What follows a number is not taken for a part of it. -/
def Outside (cs : List Char) : Prop :=
  ∀ c ∈ cs.head?, isDigit c = false ∧ c ≠ '.' ∧ c ≠ 'e' ∧ c ≠ 'E'

theorem Outside.undigited {cs : List Char} (h : Outside cs) : Undigited cs := fun c hc => (h c hc).1

theorem isDigits_writeNat (n : Nat) : IsDigits (writeNat n) := by
  intro c hc
  have hdigit : c.isDigit = true := Nat.isDigit_of_mem_toDigits (by decide) (by decide) hc
  rw [Char.isDigit, Bool.and_eq_true, decide_eq_true_eq, decide_eq_true_eq] at hdigit
  exact hdigit

theorem writeNat_ne_nil (n : Nat) : writeNat n ≠ [] := Nat.toDigits_ne_nil

theorem natOfDigits_writeNat (n : Nat) : natOfDigits (writeNat n) = n :=
  Nat.ofDigitChars_toDigits (by decide) (by decide)

/-- No number but zero begins with a zero. -/
theorem head?_writeNat {n : Nat} (hn : 0 < n) : (writeNat n).head? ≠ some '0' := by
  induction n using Nat.strongRecOn with
  | _ n ih =>
    rw [writeNat, Nat.toDigits_eq_if (by decide)]
    by_cases hlt : n < 10
    · have hall : ∀ m < 10, 0 < m → Nat.digitChar m ≠ '0' := by decide
      rw [if_pos hlt, List.head?_cons, Ne, Option.some_inj]
      exact hall n hlt hn
    · have hfront := ih (n / 10) (Nat.div_lt_self hn (by decide))
        (Nat.div_pos (Nat.le_of_not_lt hlt) (by decide))
      obtain ⟨c, rest, hcs⟩ := List.exists_cons_of_ne_nil (writeNat_ne_nil (n / 10))
      rw [writeNat] at hcs
      rw [writeNat, hcs] at hfront
      rw [if_neg hlt, hcs]
      exact hfront

theorem writeNat_leading (n : Nat) :
    (decide ((writeNat n).length > 1) && (writeNat n).head? == some '0') = false := by
  rcases Nat.eq_zero_or_pos n with rfl | hn
  · rfl
  · rw [beq_eq_false_iff_ne.mpr (head?_writeNat hn), Bool.and_false]

def writeFraction (fraction : List (Fin 10)) : List Char :=
  if fraction.isEmpty then [] else '.' :: fraction.map fun d => Nat.digitChar d.val

def writeExponent : Option Int → List Char
  | none => []
  | some (.ofNat e) => 'e' :: writeNat e
  | some (.negSucc e) => 'e' :: '-' :: writeNat (e + 1)

theorem writeNumeral_eq (n : Numeral) : writeNumeral n = (if n.negative then ['-'] else []) ++
    (writeNat n.whole ++ (writeFraction n.fraction ++ writeExponent n.exponent)) := by
  rw [writeNumeral, writeFraction]
  rcases n.exponent with _ | _ | _ <;> simp [writeExponent]

/-- No digit is a sign. -/
theorem head_writeNat (n : Nat) : ∃ c ds, writeNat n = c :: ds ∧ c ≠ '+' ∧ c ≠ '-' := by
  obtain ⟨c, ds, hcs⟩ := List.exists_cons_of_ne_nil (writeNat_ne_nil n)
  have hsign := not_isSign_of_digit (isDigits_writeNat n c (hcs ▸ List.mem_cons_self))
  exact ⟨c, ds, hcs, by simpa using hsign⟩

theorem readExponent_write (exponent : Option Int) {rest : List Char} (hrest : Outside rest) :
    readExponent (writeExponent exponent ++ rest) = some (exponent, rest) := by
  have hdigits : ∀ e, (writeNat e ++ rest).takeWhile isDigit = writeNat e ∧
      (writeNat e ++ rest).dropWhile isDigit = rest := fun e =>
    takeWhile_digits (isDigits_writeNat e) hrest.undigited
  rcases exponent with _ | e | e
  · cases rest with
    | nil => rfl
    | cons c rest =>
      obtain ⟨-, -, hlow, hhigh⟩ := hrest c rfl
      simp [writeExponent, readExponent, hlow, hhigh]
  · obtain ⟨htake, hdrop⟩ := hdigits e
    obtain ⟨c, ds, hcs, hplus, hminus⟩ := head_writeNat e
    have hvalue := natOfDigits_writeNat e
    rw [hcs, List.cons_append] at htake hdrop
    rw [hcs] at hvalue
    simp [writeExponent, readExponent, hcs, hplus, hminus, htake, hdrop, hvalue]
  · obtain ⟨htake, hdrop⟩ := hdigits (e + 1)
    simp [writeExponent, readExponent, htake, hdrop, writeNat_ne_nil, natOfDigits_writeNat,
      Int.negSucc_eq]

theorem digit_digitChar : ∀ d : Fin 10, digit (Nat.digitChar d.val) = d := by decide

theorem isDigit_digitChar : ∀ d : Fin 10, isDigit (Nat.digitChar d.val) = true := by decide

theorem readFraction_write (fraction : List (Fin 10)) {rest : List Char}
    (hrest : Undigited rest) (hpoint : rest.head? ≠ some '.') :
    readFraction (writeFraction fraction ++ rest) = some (fraction, rest) := by
  cases fraction with
  | nil =>
    cases rest with
    | nil => rfl
    | cons c rest =>
      have hc : c ≠ '.' := fun he => hpoint (he ▸ rfl)
      change readFraction (c :: rest) = _
      unfold readFraction
      split
      next heq => exact absurd (List.cons.inj heq).1 hc
      next => rfl
  | cons d fraction =>
    let ds := (d :: fraction).map fun d => Nat.digitChar d.val
    have hdigits : IsDigits ds := by
      intro c hc
      obtain ⟨d', -, rfl⟩ := List.mem_map.mp hc
      exact isDigit_iff.mp (isDigit_digitChar d')
    have hvalues : ds.map digit = d :: fraction := by
      rw [List.map_map]
      exact (List.map_congr_left fun d' _ => digit_digitChar d').trans (List.map_id _)
    obtain ⟨htake, hdrop⟩ := takeWhile_digits hdigits hrest
    change readFraction ('.' :: (ds ++ rest)) = _
    rw [readFraction, htake, hdrop, hvalues]
    rfl

/-- Behind the digits of a number neither a digit nor a second point comes. -/
theorem undigited_writeExponent (exponent : Option Int) {rest : List Char} (hrest : Outside rest) :
    Undigited (writeExponent exponent ++ rest) ∧
      (writeExponent exponent ++ rest).head? ≠ some '.' := by
  have hmark : isDigit 'e' = false := by decide
  rcases exponent with _ | e | e
  · exact ⟨hrest.undigited, fun h => (hrest _ h).2.1 rfl⟩
  · exact ⟨by simpa [writeExponent, Undigited] using hmark, by simp [writeExponent]⟩
  · exact ⟨by simpa [writeExponent, Undigited] using hmark, by simp [writeExponent]⟩

theorem undigited_writeFraction (fraction : List (Fin 10)) {rest : List Char} (hrest : Undigited rest) :
    Undigited (writeFraction fraction ++ rest) := by
  have hpoint : isDigit '.' = false := by decide
  cases fraction with
  | nil => exact hrest
  | cons d fraction => simpa [writeFraction, Undigited] using hpoint

theorem readNumeral_write (n : Numeral) {rest : List Char} (hrest : Outside rest) :
    readNumeral (writeNumeral n ++ rest) = some (n, rest) := by
  obtain ⟨hundigited, hpoint⟩ := undigited_writeExponent n.exponent hrest
  have hfraction := readFraction_write n.fraction hundigited hpoint
  obtain ⟨htake, hdrop⟩ := takeWhile_digits (isDigits_writeNat n.whole)
    (undigited_writeFraction n.fraction hundigited)
  obtain ⟨c, ds, hcs, -, hminus⟩ := head_writeNat n.whole
  have hvalue := natOfDigits_writeNat n.whole
  have hleading := writeNat_leading n.whole
  rw [hcs, List.cons_append] at htake hdrop
  rw [hcs] at hvalue hleading
  rw [writeNumeral_eq]
  obtain ⟨negative, whole, fraction, exponent⟩ := n
  cases negative with
  | true =>
    simp [readNumeral, hcs, htake, hdrop, hfraction, readExponent_write _ hrest, hvalue]
    simpa using hleading
  | false =>
    simp [readNumeral, hcs, hminus, htake, hdrop, hfraction, readExponent_write _ hrest, hvalue]
    simpa using hleading

end Json

end Plugboard
