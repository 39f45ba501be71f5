import Mathlib.Data.List.TakeWhile
import Mathlib.Tactic.Ring
import Plugboard.Double

/-!
What doubles are written as, and what is read of it. The shortest decimal of a double stands for no
other double: of all doubles it is the nearest one to it. Reading rounds more than once, so that it may
miss the nearest one; it cannot if the decimal is a short one.

* `Double.Close.nearest_eq`: what differs from a double by less than one part in two to the power of 54
  is rounded to it. `ofDecimal_near`: with seventeen digits no decimal differs by more.
* `Double.ofDecimal_numeral`: a double is the nearest one to the decimal that it is written as.
  `numeral_injective`: so no two of them are written alike.
* `Double.double?_numeral`: it is read back if its digits without the point are at most two to the
  power of 53, and the power of ten that goes with them is between -22 and 22.
-/
namespace Plugboard.Double

/-! ## Rounding -/

section
variable {s n d : Nat}

/-- A multiple of the gap that is less than half a gap away is the nearest one. -/
theorem roundTo_of_near {gap k : Nat} (hup : 2 * n < 2 * (k * (d * gap)) + d * gap)
    (hlow : 2 * (k * (d * gap)) < 2 * n + d * gap) : roundTo gap n d = k * gap := by
  rw [roundTo]
  generalize d * gap = g at *
  have hg : 0 < g := by omega
  rcases Nat.lt_or_ge n (k * g) with hlt | hge
  · -- The multiple lies above, so the one below it is the factor that division gives.
    obtain ⟨j, rfl⟩ : ∃ j, k = j + 1 :=
      Nat.exists_eq_succ_of_ne_zero fun hk => by simp [hk] at hlt
    rw [Nat.succ_mul j g] at hup hlow hlt
    obtain ⟨hq, hr⟩ : n / g = j ∧ n % g = n - g * j :=
      (Nat.div_mod_unique hg).mpr (by rw [Nat.mul_comm g]; omega)
    have hover : g < 2 * (n - g * j) := by
      rw [Nat.mul_comm g]
      omega
    simp [hq, hr, hover]
  · obtain ⟨hq, hr⟩ : n / g = k ∧ n % g = n - g * k :=
      (Nat.div_mod_unique hg).mpr (by rw [Nat.mul_comm g]; omega)
    have hunder : 2 * (n - g * k) < g := by
      rw [Nat.mul_comm g]
      omega
    simp [hq, hr, Nat.not_lt_of_gt hunder, Nat.ne_of_gt hunder]

/-- Only the fraction counts, not how it is written. -/
theorem nearest_mul {c : Nat} (hc : 0 < c) : nearest (n * c) (d * c) = nearest n d := by
  rw [nearest, nearest, Nat.mul_div_mul_right _ _ hc]
  generalize gap (n / d) = g
  have hgap : d * c * g = d * g * c := Nat.mul_right_comm d c g
  rw [roundTo, roundTo, hgap, Nat.mul_div_mul_right _ _ hc, Nat.mul_mod_mul_right,
    ← Nat.mul_assoc 2]
  have hlt : d * g * c < 2 * (n % (d * g)) * c ↔ d * g < 2 * (n % (d * g)) :=
    Nat.mul_lt_mul_right hc
  have heq : d * g * c = 2 * (n % (d * g)) * c ↔ d * g = 2 * (n % (d * g)) :=
    Nat.mul_left_inj (Nat.ne_of_gt hc)
  simp only [Bool.or_eq_true, Bool.and_eq_true, decide_eq_true_eq, beq_iff_eq, hlt, heq]

/-- What is nearest to itself is at most so many times its gap, and no fraction of it. -/
theorem gap_dvd (hs : nearest s 1 = s) : gap s ∣ s ∧ s ≤ Nat.pow 2 53 * gap s := by
  obtain ⟨k, hk, h⟩ := exists_nearest s 1
  rw [hs, Nat.div_one] at h
  exact ⟨⟨k, h.trans (Nat.mul_comm _ _)⟩, h.le.trans (Nat.mul_le_mul_right _ hk)⟩

theorem add_le_of_dvd {g a b : Nat} (ha : g ∣ a) (hb : g ∣ b) (h : a < b) : a + g ≤ b :=
  Nat.le_of_lt_add_of_dvd (Nat.add_lt_add_right h g) (Nat.dvd_add ha (Nat.dvd_refl g)) hb

/-- A fraction differs from the steps of a double by less than one part in two to the power of 54. -/
structure Close (s n d : Nat) : Prop where
  exact : nearest s 1 = s
  pos : 0 < d
  below : Nat.pow 2 54 * n < Nat.pow 2 54 * (s * d) + s * d
  above : Nat.pow 2 54 * (s * d) < Nat.pow 2 54 * n + s * d

/-- The fraction has no more binary digits. -/
theorem Close.log2_le (h : Close s n d) : (n / d).log2 ≤ s.log2 := by
  obtain ⟨hdvd, hle⟩ := gap_dvd h.exact
  rcases Nat.eq_zero_or_pos (n / d) with hq | hq
  · simp [hq]
  have hnext : s + gap s ≤ Nat.pow 2 (s.log2 + 1) :=
    add_le_of_dvd hdvd (Nat.pow_dvd_pow 2 (by omega)) Nat.lt_log2_self
  refine Nat.lt_succ_iff.mp ((Nat.log2_lt hq.ne').mpr ?_)
  rw [Nat.div_lt_iff_lt_mul h.pos]
  change n < Nat.pow 2 (s.log2 + 1) * d
  have hbelow := h.below
  have hnext := Nat.mul_le_mul_right d hnext
  have hle := Nat.mul_le_mul_right d hle
  rw [Nat.add_mul] at hnext
  rw [Nat.mul_assoc] at hle
  generalize s * d = x, gap s * d = g, Nat.pow 2 (s.log2 + 1) * d = y at *
  simp only [Nat.pow_eq] at hbelow hle
  omega

/-- It has fewer of them only below a power of two. -/
theorem Close.eq_pow (h : Close s n d) (hzero : s ≠ 0) (hn : n < 2 ^ s.log2 * d) :
    s = 2 ^ s.log2 := by
  refine Nat.le_antisymm (Nat.not_lt.mp fun hlt => ?_) (Nat.log2_self_le hzero)
  obtain ⟨hdvd, hle⟩ := gap_dvd h.exact
  have habove := h.above
  have hnext : 2 ^ s.log2 + gap s ≤ s :=
    add_le_of_dvd (Nat.pow_dvd_pow 2 (Nat.sub_le _ _)) hdvd hlt
  have hnext := Nat.mul_le_mul_right d hnext
  have hle := Nat.mul_le_mul_right d hle
  rw [Nat.add_mul] at hnext
  rw [Nat.mul_assoc] at hle
  generalize s * d = x, gap s * d = g, 2 ^ s.log2 * d = y at *
  simp only [Nat.pow_eq] at habove hle
  omega

/-- There it has only one less. -/
theorem Close.half_le (h : Close s n d) {l : Nat} (hs : s = 2 ^ (l + 1)) : 2 ^ l ≤ n / d := by
  rw [Nat.le_div_iff_mul_le h.pos]
  have hdouble : s * d = 2 * (2 ^ l * d) := by
    rw [hs, pow_succ', Nat.mul_assoc]
  have habove := h.above
  rw [hdouble] at habove
  generalize 2 ^ l * d = y at *
  simp only [Nat.pow_eq] at habove
  omega

/-- So the gap of the fraction is not too small for the steps. -/
theorem Close.le_gap (h : Close s n d) : s ≤ Nat.pow 2 53 * gap (n / d) := by
  by_contra hgt
  have hgt : 2 ^ (53 + ((n / d).log2 - 52)) < s := by
    rw [Nat.pow_add]
    exact Nat.not_le.mp hgt
  have hzero : s ≠ 0 := Nat.ne_zero_of_lt hgt
  have hbits := (Nat.le_log2 hzero).mpr hgt.le
  have hn : n < 2 ^ s.log2 * d := by
    rw [← Nat.div_lt_iff_lt_mul h.pos]
    exact Nat.lt_log2_self.trans_le (Nat.pow_le_pow_right (by decide) (by omega))
  have hpow := h.eq_pow hzero hn
  obtain ⟨l, hl⟩ : ∃ l, s.log2 = l + 1 := ⟨s.log2 - 1, by omega⟩
  rw [hl] at hpow
  have hhalf := h.half_le hpow
  have hq : n / d ≠ 0 := Nat.ne_zero_of_lt (hhalf.trans_lt' (Nat.two_pow_pos l))
  have hfew := (Nat.le_log2 hq).mpr hhalf
  rw [hpow] at hgt
  have hlt := (Nat.pow_lt_pow_iff_right (by decide)).mp hgt
  omega

theorem Close.nearest_eq (h : Close s n d) : nearest n d = s := by
  have hdvd : gap (n / d) ∣ s :=
    (Nat.pow_dvd_pow 2 (Nat.sub_le_sub_right h.log2_le 52)).trans (gap_dvd h.exact).1
  have hle := h.le_gap
  obtain ⟨-, -, hbelow, habove⟩ := h
  rw [nearest]
  generalize gap (n / d) = g at *
  obtain ⟨k, rfl⟩ := hdvd
  have hle : g * k * d ≤ Nat.pow 2 53 * (g * d) :=
    (Nat.mul_le_mul_right d hle).trans_eq (Nat.mul_assoc _ _ _)
  have hk : k * (d * g) = g * k * d := by ring
  rw [Nat.mul_comm g k]
  refine roundTo_of_near ?_ ?_ <;> rw [hk, Nat.mul_comm d g]
  all_goals
    generalize g * k * d = x, g * d = y at *
    simp only [Nat.pow_eq] at hbelow habove hle
    omega

end

/-! ## The shortest decimal -/

/-- More tens on both sides of the fraction do not change it. -/
theorem ofDecimal_eq (m : Nat) {a b : Nat} {p : Int} (hp : p = a - b) :
    ofDecimal m p = nearest (m * (Nat.pow 10 a * one)) (Nat.pow 10 b) := by
  obtain ⟨c, hc⟩ : ∃ c, a = p.toNat + c ∧ b = (-p).toNat + c :=
    ⟨a - p.toNat, by omega⟩
  rw [ofDecimal, ← nearest_mul (c := Nat.pow 10 c) (Nat.pow_pos (by decide)), hc.1, hc.2]
  simp only [Nat.pow_eq, Nat.pow_add]
  ring_nf

theorem ofDecimal_mul (m j : Nat) (p : Int) :
    ofDecimal (m * Nat.pow 10 j) p = ofDecimal m (p + j) := by
  rw [ofDecimal_eq m (a := p.toNat + j) (b := (-p).toNat) (by omega), ofDecimal]
  simp only [Nat.pow_eq, Nat.pow_add]
  ring_nf

theorem one_pos : 0 < one := by decide +kernel

section
variable {s : Nat} {p : Int}

/-- The nearest digits are at most half a unit away. -/
theorem roundTo_near {n d : Nat} (hd : 0 < d) :
    2 * n ≤ 2 * (roundTo 1 n d * d) + d ∧ 2 * (roundTo 1 n d * d) ≤ 2 * n + d := by
  have hdiv := Nat.div_add_mod' n d
  have hmod := Nat.mod_lt n hd
  rw [roundTo, Nat.mul_one, Nat.mul_one]
  split
  next hup =>
    have hover : d ≤ 2 * (n % d) := by
      simp only [Bool.or_eq_true, Bool.and_eq_true, decide_eq_true_eq, beq_iff_eq] at hup
      exact hup.elim Nat.le_of_lt fun h => h.1.le
    rw [Nat.succ_mul (n / d) d]
    omega
  next hup =>
    have hunder : 2 * (n % d) ≤ d := by
      simp only [Bool.or_eq_true, decide_eq_true_eq, not_or] at hup
      exact Nat.not_lt.mp hup.1
    omega

/-- Seventeen digits tell the double from every other one. -/
theorem ofDecimal_near (hs : nearest s 1 = s)
    (hbig : Nat.pow 10 16 * (Nat.pow 10 p.toNat * one) ≤ s * Nat.pow 10 (-p).toNat) :
    ofDecimal (near s p) p = s := by
  have hd : 0 < Nat.pow 10 p.toNat * one := Nat.mul_pos (Nat.pow_pos (by decide)) one_pos
  obtain ⟨hup, hlow⟩ := roundTo_near (n := s * Nat.pow 10 (-p).toNat) hd
  refine Close.nearest_eq ⟨hs, Nat.pow_pos (by decide), ?_, ?_⟩
  all_goals
    rw [near]
    generalize Nat.pow 10 p.toNat * one = d, s * Nat.pow 10 (-p).toNat = n at *
    generalize roundTo 1 n d * d = x at *
    simp only [Nat.pow_eq] at hbig ⊢
    omega

/-- Of a double that is not zero there are seventeen digits at this power of ten. -/
theorem magnitude_le (h : 0 < s) (hp : p = magnitude s - 17) :
    Nat.pow 10 16 * (Nat.pow 10 p.toNat * one) ≤ s * Nat.pow 10 (-p).toNat := by
  have hone : one ≤ Nat.pow 10 places := by decide +kernel
  obtain ⟨l, hl⟩ : ∃ l, (Nat.toDigits 10 (s * Nat.pow 10 places / one)).length = l + 1 :=
    ⟨_, (Nat.sub_add_cancel Nat.length_toDigits_pos).symm⟩
  have hlead : Nat.pow 10 l ≤ s * Nat.pow 10 places / one := by
    rcases Nat.eq_zero_or_pos l with rfl | hpos
    · exact (Nat.one_le_div_iff one_pos).mpr (hone.trans (Nat.le_mul_of_pos_left _ h))
    · have hmore := (Nat.length_toDigits_le_iff (n := s * Nat.pow 10 places / one)
        (by decide : 1 < 10) hpos).not
      exact Nat.not_lt.mp (hmore.mp (by omega))
  rw [Nat.le_div_iff_mul_le one_pos] at hlead
  have hpowers : 16 + p.toNat + places = l + (-p).toNat := by
    rw [magnitude, hl] at hp
    omega
  have hsplit : Nat.pow 10 16 * Nat.pow 10 p.toNat * Nat.pow 10 places =
      Nat.pow 10 l * Nat.pow 10 (-p).toNat := by
    simp only [Nat.pow_eq]
    rw [← Nat.pow_add, ← Nat.pow_add, ← Nat.pow_add, hpowers]
  have hpos : 0 < Nat.pow 10 places := one_pos.trans_le hone
  generalize Nat.pow 10 places = t, Nat.pow 10 16 = a, Nat.pow 10 p.toNat = b,
    Nat.pow 10 (-p).toNat = c, Nat.pow 10 l = e at *
  refine Nat.le_of_mul_le_mul_right ?_ hpos
  calc a * (b * one) * t = a * b * t * one := by ring
    _ = e * one * c := by rw [hsplit, Nat.mul_right_comm]
    _ ≤ s * t * c := Nat.mul_le_mul_right _ hlead
    _ = s * c * t := Nat.mul_right_comm _ _ _

theorem ofDecimal_of_digits? {count m : Nat} (h : digits? s count = some m) :
    ofDecimal m (magnitude s - count) = s := by
  rw [digits?] at h
  have hm := List.find?_some h
  exact of_decide_eq_true hm

/-- Of all doubles the one that is written is the nearest one to its shortest decimal. -/
theorem ofDecimal_shortest (hs : nearest s 1 = s) (h : 0 < s) :
    ofDecimal (shortest s).1 (shortest s).2 = s := by
  rw [shortest]
  generalize hfewer : List.findSome? _ _ = fewer
  cases fewer with
  | none => exact ofDecimal_near hs (magnitude_le h rfl)
  | some x =>
    obtain ⟨count, -, hcount⟩ := List.exists_of_findSome?_eq_some hfewer
    obtain ⟨m, hm, rfl⟩ := Option.map_eq_some_iff.mp hcount
    exact ofDecimal_of_digits? hm

end

/-! ## The digits as they are written -/

section
open Numeral

theorem withDigits_append (n : Nat) (ds es : List (Fin 10)) :
    withDigits n (ds ++ es) = withDigits (withDigits n ds) es := List.foldl_append

theorem withDigits_zeros (n k : Nat) :
    withDigits n (List.replicate k (Text.digit '0')) = n * Nat.pow 10 k := by
  induction k generalizing n with
  | zero => exact (Nat.mul_one n).symm
  | succ k ih =>
    have hstep : withDigits n (List.replicate (k + 1) (Text.digit '0')) =
        withDigits (10 * n) (List.replicate k (Text.digit '0')) := rfl
    rw [hstep, ih, Nat.mul_comm 10 n, Nat.mul_assoc]
    simp only [Nat.pow_eq, pow_succ']

theorem withDigits_digitsOf (n : Nat) : withDigits 0 (digitsOf n) = n := by
  induction n using Nat.strongRecOn with
  | _ n ih =>
    have hdigit : ∀ k < 10, (Text.digit (Nat.digitChar k)).val = k := by decide
    rw [digitsOf, Nat.toDigits_eq_if (by decide)]
    split
    next hlt => exact (Nat.zero_add _).trans (hdigit n hlt)
    next hge =>
      have hfront := ih (n / 10) (by omega)
      have hlast : ∀ v, withDigits v [Text.digit (Nat.digitChar (n % 10))] = 10 * v + n % 10 :=
        fun v => congrArg (10 * v + ·) (hdigit _ (Nat.mod_lt n (by decide)))
      rw [digitsOf] at hfront
      rw [List.map_append, List.map_singleton, withDigits_append, hfront, hlast]
      exact Nat.div_add_mod n 10

/-- Where the point stands makes no difference. -/
theorem ofDecimal_pointed (negative : Bool) {digits : List (Fin 10)} (hne : digits ≠ []) (p : Int) :
    ofDecimal (pointed negative digits p).scaled.1 (pointed negative digits p).scaled.2 =
      ofDecimal (withDigits 0 digits) p := by
  have hlength := List.length_pos_iff.mpr hne
  have hsplit : ∀ k, withDigits (withDigits 0 (digits.take k)) (digits.drop k) =
      withDigits 0 digits := fun k => by
    rw [← withDigits_append, List.take_append_drop]
  unfold pointed
  dsimp only
  split
  next hwhole =>
    obtain ⟨whole, hpoint⟩ : ∃ whole : Nat, digits.length + p = whole :=
      ⟨_, (Int.toNat_of_nonneg hwhole.1.le).symm⟩
    rw [hpoint, Int.toNat_natCast]
    by_cases hle : digits.length ≤ whole
    · rw [if_pos hle, List.take_of_length_le hle]
      change ofDecimal (withDigits _ (List.replicate 1 (Text.digit '0'))) (0 - (1 : Nat)) = _
      rw [withDigits_zeros, ofDecimal_mul, ofDecimal_mul]
      congr 1
      omega
    · rw [if_neg hle, Nat.sub_eq_zero_of_le (Nat.le_of_not_le hle)]
      change ofDecimal (withDigits (_ * 1) _) (0 - ((digits.drop whole).length : Int)) = _
      rw [Nat.mul_one, hsplit, List.length_drop]
      congr 1
      omega
  next =>
    split
    next hsmall =>
      change ofDecimal (withDigits 0 _) (0 - (List.length _ : Int)) = _
      rw [withDigits_append, withDigits_zeros, Nat.zero_mul, List.length_append,
        List.length_replicate]
      congr 1
      omega
    next =>
      change ofDecimal (withDigits _ _) (digits.length + p - 1 - (List.length _ : Int)) = _
      rw [hsplit, List.length_drop]
      congr 1
      omega

/-- Zeros at the end go with the power of ten. -/
theorem ofDecimal_stripped (all : List (Fin 10)) (p : Int) :
    let digits := (all.reverse.dropWhile (· == Text.digit '0')).reverse
    ofDecimal (withDigits 0 digits) (p + (all.length - digits.length : Nat)) =
      ofDecimal (withDigits 0 all) p := by
  intro digits
  obtain ⟨k, hk⟩ : ∃ k, all = digits ++ List.replicate k (Text.digit '0') := by
    have hzero : ∀ d ∈ all.reverse.takeWhile (· == Text.digit '0'), d = Text.digit '0' :=
      fun d hd => by simpa using List.mem_takeWhile_imp hd
    refine ⟨(all.reverse.takeWhile (· == Text.digit '0')).length, ?_⟩
    have hzeros := List.eq_replicate_of_mem hzero
    rw [← List.reverse_replicate, ← hzeros, ← List.reverse_append, List.takeWhile_append_dropWhile,
      List.reverse_reverse]
  have hlength : all.length - digits.length = k := by
    conv_lhs => rw [hk]
    rw [List.length_append, List.length_replicate, Nat.add_sub_cancel_left]
  rw [hlength]
  conv_rhs => rw [hk]
  rw [withDigits_append, withDigits_zeros, ofDecimal_mul]

theorem ofDecimal_zero (p : Int) : ofDecimal 0 p = 0 := by
  rw [ofDecimal, Nat.zero_mul, nearest, roundTo]
  simp

/-- So the decimal that a double is written as has it for its nearest double. -/
theorem ofDecimal_numeral (d : Double) :
    ofDecimal d.numeral.scaled.1 d.numeral.scaled.2 = d.steps := by
  rw [numeral]
  split
  next hzero =>
    rw [hzero]
    exact ofDecimal_zero _
  next hsome =>
    have hshortest := ofDecimal_shortest d.exact (Nat.pos_of_ne_zero hsome)
    have hstripped := ofDecimal_stripped (digitsOf (shortest d.steps).1) (shortest d.steps).2
    rw [withDigits_digitsOf, hshortest] at hstripped
    refine (ofDecimal_pointed d.negative (fun hnone => ?_) _).trans hstripped
    rw [hnone] at hstripped
    exact hsome (hstripped.symm.trans (ofDecimal_zero _))

theorem negative_pointed (negative : Bool) (digits : List (Fin 10)) (p : Int) :
    (pointed negative digits p).negative = negative := by
  rw [pointed]
  split
  · rfl
  · split <;> rfl

theorem negative_numeral (d : Double) : d.numeral.negative = d.negative := by
  by_cases hzero : d.steps = 0
  · rw [numeral, if_pos hzero]
  · obtain ⟨digits, p, h⟩ : ∃ digits p, d.numeral = pointed d.negative digits p :=
      ⟨_, _, by rw [numeral, if_neg hzero]⟩
    rw [h, negative_pointed]

/-- No two doubles are written as the same decimal. -/
theorem numeral_injective {d e : Double} (h : d.numeral = e.numeral) : d = e := by
  have hsign : d.negative = e.negative := by
    rw [← negative_numeral d, h, negative_numeral]
  have hsteps : d.steps = e.steps := by
    rw [← ofDecimal_numeral d, h, ofDecimal_numeral]
  cases d
  cases e
  cases hsign
  cases hsteps
  rfl

end

/-! ## Reading what is written -/

section
variable {m : Nat} {e : Int}

theorem ofNat_of_le (hm : m ≤ Nat.pow 2 53) : ofNat m = m * one := by
  rw [ofNat, one]
  exact nearest_of_multiple hm _

/-- The first powers of ten are doubles, without rounding. -/
theorem tenTo_of_le {k : Nat} (hk : k ≤ 22) : tenTo k = Nat.pow 10 k * one := by
  have hfives : Nat.pow 5 k ≤ Nat.pow 2 53 :=
    (Nat.pow_le_pow_right (by decide) hk).trans (by decide : Nat.pow 5 22 ≤ Nat.pow 2 53)
  have htens : Nat.pow 10 k * one = Nat.pow 5 k * Nat.pow 2 (k + halvings) := by
    rw [one, Nat.pow_eq, Nat.pow_eq, Nat.pow_eq, Nat.pow_eq, Nat.pow_add, ← Nat.mul_assoc,
      ← Nat.mul_pow]
  rw [tenTo, ofNat, htens]
  exact nearest_of_multiple hfives _

theorem ofScaled?_ofNat (m k : Nat) : ofScaled? m (.ofNat k) = Option.filter (· < limit)
    (if ofNat m = 0 then some 0
      else if maxPower < k then none else some (product (ofNat m) (tenTo k))) := rfl

theorem ofScaled?_negSucc (m k : Nat) : ofScaled? m (.negSucc k) = Option.filter (· < limit)
    (some (lower (k + 1 - maxPower * (k / maxPower)) (ofNat m) (k / maxPower))) := rfl

/-- Without rounding before, a product with a power of ten is rounded to the nearest double. -/
theorem product_tens (m k : Nat) :
    product (m * one) (Nat.pow 10 k * one) = ofDecimal m (.ofNat k) := by
  have hten : Nat.pow 10 0 = 1 := rfl
  rw [product, ofDecimal_eq m (p := .ofNat k) (a := k) (b := 0) (Int.sub_zero _).symm, hten,
    Nat.mul_right_comm]
  exact (congrArg (nearest _) (Nat.one_mul one).symm).trans (nearest_mul one_pos)

theorem quotient_tens (m k : Nat) :
    quotient (m * one) (Nat.pow 10 (k + 1) * one) = ofDecimal m (.negSucc k) := by
  have hten : Nat.pow 10 0 = 1 := rfl
  rw [quotient, nearest_mul one_pos, ofDecimal_eq m (a := 0) (b := k + 1) (by omega), hten,
    Nat.one_mul]

/-- With few digits and a small power of ten, nothing is rounded before the last step. -/
theorem ofScaled?_short (hm : m ≤ Nat.pow 2 53) (he : e.natAbs ≤ 22)
    (hfinite : ofDecimal m e < limit) : ofScaled? m e = some (ofDecimal m e) := by
  have hkeep : ∀ s, s = ofDecimal m e →
      Option.filter (· < limit) (some s) = some (ofDecimal m e) := fun s hs => by
    rw [hs]
    exact Option.filter_eq_some_iff.mpr ⟨rfl, decide_eq_true hfinite⟩
  cases e with
  | ofNat k =>
    have hk : k ≤ 22 := he
    have hfew : ¬ maxPower < k := Nat.not_lt.mpr (hk.trans (by decide))
    rw [ofScaled?_ofNat, ofNat_of_le hm, tenTo_of_le hk, if_neg hfew]
    split
    next h =>
      have hzero : m = 0 := (Nat.mul_eq_zero.mp h).resolve_right one_pos.ne'
      exact hkeep 0 (by rw [hzero, ofDecimal_zero])
    next h => exact hkeep _ (product_tens m k)
  | negSucc k =>
    have hk : k + 1 ≤ 22 := he
    have hdiv : k / maxPower = 0 := Nat.div_eq_of_lt (by rw [maxPower]; omega)
    rw [ofScaled?_negSucc, ofNat_of_le hm, hdiv, Nat.mul_zero, Nat.sub_zero, lower, tenTo_of_le hk]
    exact hkeep _ (quotient_tens m k)

end

section
open Numeral

theorem le_withDigits (n : Nat) (ds : List (Fin 10)) : n ≤ withDigits n ds := by
  induction ds generalizing n with
  | nil => exact Nat.le_refl n
  | cons d ds ih =>
    refine Nat.le_trans ?_ (ih (10 * n + d.val))
    omega

theorem takeDigits_eq {n : Nat} {ds : List (Fin 10)} (h : withDigits n ds ≤ Text.max64) :
    takeDigits n ds = (withDigits n ds, 0) := by
  induction ds generalizing n with
  | nil => rfl
  | cons d ds ih =>
    have hle := (le_withDigits (10 * n + d.val) ds).trans h
    rw [takeDigits, if_pos hle]
    exact ih h

/-- No digit is left out of a number that 64 bits hold without its point. -/
theorem shortened_eq {n : Numeral} (h : n.scaled.1 ≤ Text.max64) : n.shortened = n.scaled := by
  have hwhole : withDigits 0 (digitsOf n.whole) ≤ Text.max64 := by
    rw [withDigits_digitsOf]
    exact (le_withDigits _ _).trans h
  rw [shortened, takeDigits_eq hwhole, withDigits_digitsOf]
  dsimp only
  rw [takeDigits_eq h]
  simp [scaled]

/-- A double whose decimal has few digits and a small power of ten without its point is read back. -/
theorem double?_numeral {d : Double} (hdigits : d.numeral.scaled.1 ≤ Nat.pow 2 53)
    (hpower : d.numeral.scaled.2.natAbs ≤ 22) : d.numeral.double? = some d := by
  have hwritten := ofDecimal_numeral d
  have hread := ofScaled?_short hdigits hpower (hwritten.symm ▸ d.finite)
  rw [hwritten, ← shortened_eq (hdigits.trans (by decide))] at hread
  rw [Numeral.double?, Option.pmap_eq_some_iff]
  refine ⟨d.steps, ⟨d.exact, d.finite⟩, hread, ?_⟩
  simp only [negative_numeral]

end
end Plugboard.Double
