import Plugboard.Numeral

/-!
Doubles, and the decimals that they are read from and written as. Every double is a multiple of the
least positive one; it has 53 binary digits at most before its zeros. Reading takes as many digits as
64 bits hold, and the power of ten that goes with them, rounds each to a double, and rounds once more
when it multiplies or divides; so what is read is not always the double nearest to the decimal.
Writing takes the fewest digits to which the double is the nearest one.
-/
namespace Plugboard

namespace Double

/-- How often one is halved down to the least positive double. -/
@[irreducible] def halvings : Nat := 1074

/-- The steps up to one. -/
@[irreducible] def one : Nat := Nat.pow 2 halvings

/-- The least number of steps that is too many. -/
@[irreducible] def limit : Nat := Nat.pow 2 1024 * one

/-! ## Rounding -/

/-- The multiple of a gap nearest to a fraction; of two the one with an even factor. -/
@[irreducible] def roundTo (gap n d : Nat) : Nat :=
  let low := n / (d * gap)
  let twice := 2 * (n % (d * gap))
  (if d * gap < twice || (d * gap == twice && low % 2 == 1) then low + 1 else low) * gap

/-- The gap between the doubles that have as many binary digits as this number of steps. -/
def gap (s : Nat) : Nat := Nat.pow 2 (s.log2 - 52)

/-- The number of steps nearest to a fraction that has at most 53 binary digits before its zeros. -/
def nearest (n d : Nat) : Nat := roundTo (gap (n / d)) n d

theorem exists_nearest (n d : Nat) : ∃ k, k ≤ Nat.pow 2 53 ∧ nearest n d = k * gap (n / d) := by
  have hlow : n / (d * gap (n / d)) < Nat.pow 2 53 := by
    rw [← Nat.div_div_eq_div_mul]
    refine Nat.div_lt_of_lt_mul (Nat.lt_of_lt_of_le Nat.lt_log2_self ?_)
    rw [gap, Nat.mul_comm, Nat.pow_eq, Nat.pow_eq, ← Nat.pow_add]
    exact Nat.pow_le_pow_right (by decide) (by omega)
  rw [nearest, roundTo]
  refine ⟨_, ?_, rfl⟩
  split <;> omega

theorem roundTo_of_dvd {gap s : Nat} (hgap : 0 < gap) (h : gap ∣ s) : roundTo gap s 1 = s := by
  rw [roundTo, Nat.one_mul, Nat.mod_eq_zero_of_dvd h, Nat.mul_zero]
  simp [Nat.ne_of_gt hgap, Nat.div_mul_cancel h]

/-- With at most 53 binary digits before its zeros, a number of steps is the nearest one to itself. -/
theorem nearest_of_multiple {k : Nat} (hk : k ≤ Nat.pow 2 53) (j : Nat) :
    nearest (k * Nat.pow 2 j) 1 = k * Nat.pow 2 j := by
  generalize hs : k * Nat.pow 2 j = s
  rw [nearest, gap, Nat.div_one]
  refine roundTo_of_dvd (Nat.pow_pos (by decide)) ?_
  by_cases hlog : s.log2 ≤ j + 52
  · have hgap : Nat.pow 2 (s.log2 - 52) ∣ k * Nat.pow 2 j :=
      Nat.dvd_mul_left_of_dvd (Nat.pow_dvd_pow 2 (Nat.sub_le_iff_le_add.mpr hlog)) k
    rwa [hs] at hgap
  · -- It has more digits than that only if it is a power of two.
    have hle : s ≤ 2 ^ (53 + j) := by
      rw [← hs, Nat.pow_add]
      exact Nat.mul_le_mul_right _ hk
    have hne : s ≠ 0 := fun h => by simp [h] at hlog
    have hge : 2 ^ (53 + j) ≤ s :=
      Nat.le_trans (Nat.pow_le_pow_right (by decide) (by omega)) (Nat.log2_self_le hne)
    rw [Nat.le_antisymm hle hge, Nat.log2_two_pow]
    exact Nat.pow_dvd_pow 2 (by omega)

theorem nearest_nearest (n d : Nat) : nearest (nearest n d) 1 = nearest n d := by
  obtain ⟨k, hk, h⟩ := exists_nearest n d
  rw [h, gap, nearest_of_multiple hk]

end Double

/-- A finite double: its sign, and how many times it is the least positive one. -/
structure Double where
  negative : Bool
  steps : Nat
  exact : Double.nearest steps 1 = steps
  finite : steps < Double.limit
  deriving Repr, DecidableEq

namespace Double

def ofNat (n : Nat) : Nat := nearest (n * one) 1

def product (a b : Nat) : Nat := nearest (a * b) one

def quotient (a b : Nat) : Nat := nearest (a * one) b

/-- The double nearest to a power of ten. -/
def tenTo (k : Nat) : Nat := ofNat (Nat.pow 10 k)

/-! ## Reading -/

/-- The largest power of ten that is a finite double. -/
def maxPower : Nat := 308

/-- Divides by the largest power so many times, unless nothing is left, and by another one then. -/
def lower (last : Nat) : Nat → Nat → Nat
  | f, 0 => quotient f (tenTo last)
  | f, count + 1 => if f = 0 then 0 else lower last (quotient f (tenTo maxPower)) count

/-- The number of steps that digits and a power of ten are read as; too large a one is none. -/
def ofScaled? (digits : Nat) (power : Int) : Option Nat :=
  let f := ofNat digits
  Option.filter (· < limit) <| match power with
    | .ofNat k =>
      if f = 0 then some 0
      else if maxPower < k then none
      else some (product f (tenTo k))
    | .negSucc k => some (lower (k + 1 - maxPower * (k / maxPower)) f (k / maxPower))

theorem nearest_lower (last f count : Nat) (hf : nearest f 1 = f) :
    nearest (lower last f count) 1 = lower last f count := by
  induction count generalizing f with
  | zero => exact nearest_nearest _ _
  | succ count ih =>
    rw [lower]
    split
    · exact nearest_of_multiple (Nat.zero_le _) 0
    · exact ih _ (nearest_nearest _ _)

theorem ofScaled?_double {digits s : Nat} {power : Int} (h : ofScaled? digits power = some s) :
    nearest s 1 = s ∧ s < limit := by
  obtain ⟨h, hlimit⟩ := Option.filter_eq_some_iff.mp h
  refine ⟨?_, of_decide_eq_true hlimit⟩
  cases power with
  | ofNat k =>
    simp only at h
    split at h
    · cases h
      exact nearest_of_multiple (Nat.zero_le _) 0
    · split at h
      · cases h
      · cases h
        exact nearest_nearest _ _
  | negSucc k =>
    cases h
    exact nearest_lower _ _ _ (nearest_nearest _ _)

/-! ## Writing -/

/-- The number of steps nearest to digits and a power of ten. -/
def ofDecimal (digits : Nat) (power : Int) : Nat :=
  nearest (digits * (Nat.pow 10 power.toNat * one)) (Nat.pow 10 (-power).toNat)

/-- The digits nearest to a number of steps, for this power of ten. -/
def near (s : Nat) (power : Int) : Nat :=
  roundTo 1 (s * Nat.pow 10 (-power).toNat) (Nat.pow 10 power.toNat * one)

/-- The next ones, with the number of steps between the two. -/
def far (s : Nat) (power : Int) : Nat :=
  2 * (s * Nat.pow 10 (-power).toNat / (Nat.pow 10 power.toNat * one)) + 1 - near s power

/-- So many decimal places show the first digit of every double. -/
@[irreducible] def places : Nat := 324

/-- How many decimal digits stand before the point; if it is none, as many zeros as there are less
than none follow the point. -/
def magnitude (s : Nat) : Int := (Nat.toDigits 10 (s * Nat.pow 10 places / one)).length - places

/-- So many digits to which the double is the nearest one, if there are such digits. -/
def digits? (s count : Nat) : Option Nat :=
  let power := magnitude s - count
  [near s power, far s power].find? fun digits => ofDecimal digits power = s

/-- The fewest digits to which the double is the nearest one, with the power of ten that goes with
them. Seventeen are always enough. -/
def shortest (s : Nat) : Nat × Int :=
  let fewer := (List.range' 1 16).findSome? fun count =>
    (digits? s count).map (·, magnitude s - count)
  fewer.getD (near s (magnitude s - 17), magnitude s - 17)

/-- These digits with this power of ten as they are written: with a point, and with an exponent if
the number is very large or very small. -/
def pointed (negative : Bool) (digits : List (Fin 10)) (power : Int) : Numeral :=
  let zero := Text.digit '0'
  let point := digits.length + power
  if 0 < point ∧ point ≤ 16 then
    let whole := point.toNat
    ⟨negative, Numeral.withDigits 0 (digits.take whole) * Nat.pow 10 (whole - digits.length),
      if digits.length ≤ whole then [zero] else digits.drop whole, none⟩
  else if -5 < point ∧ point ≤ 0 then
    ⟨negative, 0, List.replicate (-point).toNat zero ++ digits, none⟩
  else ⟨negative, Numeral.withDigits 0 (digits.take 1), digits.drop 1, some (point - 1)⟩

/-- The shortest decimal of a double as it is written, without zeros at the end of its digits. -/
def numeral (d : Double) : Numeral :=
  let zero := Text.digit '0'
  if d.steps = 0 then ⟨d.negative, 0, [zero], none⟩
  else
    let all := Numeral.digitsOf (shortest d.steps).1
    let digits := (all.reverse.dropWhile (· == zero)).reverse
    pointed d.negative digits ((shortest d.steps).2 + (all.length - digits.length : Nat))

end Double

namespace Numeral

/-- The double that a number is read as; too large a one is none. -/
def double? (n : Numeral) : Option Double :=
  (Double.ofScaled? n.shortened.1 n.shortened.2).pmap
    (fun steps h => ⟨n.negative, steps, h.1, h.2⟩) fun _ => Double.ofScaled?_double

/-- What is kept of a number that is read: a whole number of 64 bits as it is, and of any other one
the double, which stands for itself as its shortest decimal. -/
def held? (n : Numeral) : Option Numeral :=
  if n.isWhole then some n else n.double?.map Double.numeral

end Numeral
end Plugboard
