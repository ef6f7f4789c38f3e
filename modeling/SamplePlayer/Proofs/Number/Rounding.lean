import Mathlib
import SamplePlayer.Number.Conversion

/-!
# Rounding

Arithmetic on numbers of a binary format is exact arithmetic followed by rounding: of the numbers
that the format can represent, the result is one that is closest to the exact result. So an exact
result that can be represented is the result, rounding does not change the order, and the relative
error is at most half a unit in the last place.

Rounding shifts the mantissa to the right until it fits, keeping one more bit and whether anything
was lost behind it. The two tell where the number lies between its neighbours.

## Main definitions

* `value?`: the rational number that a floating-point number stands for.
* `Representable`: what the mantissa and the exponents of a format can express.
* `Canonical`: the form in which numbers are kept.
* `Rounds`: being a result of rounding.

## Main results

* `rounds_roundWithAccuracy`, `rounds_normalize`: the two ways of rounding are right.
* `Rounds.eq_of_representable`, `Rounds.le`, `Rounds.ge`: what follows from that.
* `Rounds.relative_of_normal`, `Rounds.abs_sub_le_half_unit`: the error.
* `Rounds.abs_le_two_zpow_of_near`: a sum that stays at a power of two.
* `Rounds.eq_of_near`: what is rounded to a number that is given.
-/

namespace SamplePlayer.Number

open Float.Model Float.Model.UnpackedFloat

/-! ### What floating-point numbers stand for -/

/-- A sign as a factor. -/
def factor : Sign → ℚ
  | .negative => -1
  | .positive => 1

/-- The rational number that a floating-point number stands for, if it does. -/
def value? : UnpackedFloat → Option ℚ
  | .zero _ => some 0
  | .finite s m e _ => some (factor s * (m * 2 ^ e))
  | .infinity _ | .notANumber => none

variable {spec : Format} {s : Sign} {m n : Nat} {e : Int} {x y q : ℚ} {em : ExtendedMantissa}

/-- What the mantissa and the exponents of a format can express, the largest exponents aside. -/
def Representable (spec : Format) (y : ℚ) : Prop :=
  ∃ (n : ℤ) (j : ℤ), |n| ≤ 2 ^ spec.mantissaBits ∧ spec.minExponent ≤ j ∧ y = n * 2 ^ j

/-- The exponent is the least possible, or the mantissa has all its bits. -/
def Canonical (spec : Format) : UnpackedFloat → Prop
  | .finite _ m e _ => m < 2 ^ spec.mantissaBits ∧ spec.minExponent ≤ e ∧
      (e = spec.minExponent ∨ 2 ^ (spec.mantissaBits - 1) ≤ m)
  | .zero _ | .infinity _ | .notANumber => True

/-- The number `q` is a result of rounding `x`. -/
structure Rounds (spec : Format) (x q : ℚ) : Prop where
  representable : Representable spec q
  nearest : ∀ y, Representable spec y → |q - x| ≤ |y - x|
  error : |q - x| ≤ |x| / 2 ^ spec.mantissaBits ∨ |q - x| ≤ 2 ^ (spec.minExponent - 1)

theorem Representable.neg (h : Representable spec y) : Representable spec (-y) := by
  obtain ⟨n, j, bits, exponent, rfl⟩ := h
  exact ⟨-n, j, by rwa [abs_neg], exponent, by push_cast; ring⟩

theorem representable_zero (spec : Format) : Representable spec 0 :=
  ⟨0, spec.minExponent, by simp, le_rfl, by simp⟩

theorem abs_factor (s : Sign) : |factor s| = 1 := by
  cases s <;> simp [factor]

theorem factor_mul_factor (s : Sign) : factor s * factor s = 1 := by
  cases s <;> simp [factor]

theorem cast_apply (s : Sign) (n : Int) : ((s.apply n : Int) : ℚ) = factor s * n := by
  cases s <;> simp [Sign.apply, factor]

theorem Representable.signed (h : Representable spec y) (s : Sign) :
    Representable spec (factor s * y) := by
  cases s
  · simpa [factor] using h.neg
  · simpa [factor] using h

namespace Rounds

theorem of_representable (fits : Representable spec x) : Rounds spec x x :=
  ⟨fits, fun y _ => by simp, .inl (by rw [sub_self, abs_zero]; positivity)⟩

/-- Rounding is symmetric. -/
theorem signed (h : Rounds spec x q) (s : Sign) : Rounds spec (factor s * x) (factor s * q) := by
  have scaled (y : ℚ) : |y - factor s * x| = |factor s * y - x| := by
    have turned : y - factor s * x = factor s * (factor s * y - x) := by
      rw [mul_sub, ← mul_assoc, factor_mul_factor, one_mul]
    rw [turned, abs_mul, abs_factor, one_mul]
  have back : factor s * (factor s * q) = q := by rw [← mul_assoc, factor_mul_factor, one_mul]
  have size : |factor s * x| = |x| := by rw [abs_mul, abs_factor, one_mul]
  refine ⟨h.representable.signed s, fun y fits => ?_, ?_⟩
  · rw [scaled, scaled y, back]
    exact h.nearest _ (fits.signed s)
  · rw [scaled, back, size]
    exact h.error

/-- An exact result that can be represented is the result. -/
theorem eq_of_representable (h : Rounds spec x q) (fits : Representable spec x) : q = x := by
  have none := h.nearest x fits
  rw [sub_self, abs_zero, abs_nonpos_iff, sub_eq_zero] at none
  exact none

/-- A result does not fall below a number that the exact result is not below. -/
theorem ge (h : Rounds spec x q) (fits : Representable spec y) (le : y ≤ x) : y ≤ q := by
  have near := h.nearest y fits
  rw [abs_of_nonpos (sub_nonpos.mpr le)] at near
  linarith [neg_abs_le (q - x)]

theorem le (h : Rounds spec x q) (fits : Representable spec y) (ge : x ≤ y) : q ≤ y := by
  have near := h.nearest y fits
  rw [abs_of_nonneg (sub_nonneg.mpr ge)] at near
  linarith [le_abs_self (q - x)]

/-- The relative error of rounding a number that is not among the smallest. -/
theorem relative_of_normal (h : Rounds spec x q)
    (normal : 2 ^ (spec.minExponent - 1 + spec.mantissaBits) ≤ |x|) :
    |q - x| ≤ |x| / 2 ^ spec.mantissaBits := by
  obtain error | error := h.error
  · exact error
  · rw [zpow_add₀ two_ne_zero, zpow_natCast, ← le_div_iff₀ (by positivity)] at normal
    exact error.trans normal

end Rounds

/-! ### Residual bits -/

/-- The number `x`, in units of the last place, has the mantissa as its integral part, and the
residual bits tell where it lies in the half of the unit that it is in. -/
def Fits (em : ExtendedMantissa) (x : ℚ) : Prop :=
  let low := em.mantissa + (if em.roundBit then 1 / 2 else 0 : ℚ)
  if em.stickyBit then low < x ∧ x < low + 1 / 2 else x = low

theorem Fits.floor (h : Fits em x) : em.mantissa ≤ x ∧ x < em.mantissa + 1 := by
  obtain ⟨m, r, t⟩ := em
  cases r <;> cases t <;> simp [Fits] at h ⊢ <;> constructor <;> linarith

/-- Shifting keeps what the bits tell. -/
theorem Fits.shiftRightOne (h : Fits em x) : Fits em.shiftRightOne (x / 2) := by
  obtain ⟨m, r, t⟩ := em
  -- The mantissa with the bit that it loses is a half of what it was.
  have half : ((m / 2 : Nat) : ℚ) + (if (m % 2 != 0) = true then 1 / 2 else 0) = m / 2 := by
    have parts : ((2 * (m / 2) + m % 2 : Nat) : ℚ) = m := by rw [Nat.div_add_mod]
    push_cast at parts
    obtain even | odd := Nat.mod_two_eq_zero_or_one m
    · simp [even] at parts ⊢
      linarith
    · simp [odd] at parts ⊢
      linarith
  cases r <;> cases t <;> simp [Fits, ExtendedMantissa.shiftRightOne] at h half ⊢ <;>
    rw [half] <;> first | linarith | constructor <;> linarith

theorem shiftRight_succ (em : ExtendedMantissa) (n : Nat) :
    em >>> (n + 1) = (em >>> n).shiftRightOne := rfl

theorem Fits.shiftRight (h : Fits em x) (n : Nat) : Fits (em >>> n) (x / 2 ^ n) := by
  induction n with
  | zero => rwa [pow_zero, div_one]
  | succ n ih =>
    rw [shiftRight_succ, pow_succ, ← div_div]
    exact ih.shiftRightOne

theorem mantissa_shiftRight (em : ExtendedMantissa) (n : Nat) :
    (em >>> n).mantissa = em.mantissa / 2 ^ n := by
  induction n with
  | zero => exact (Nat.div_one _).symm
  | succ n ih =>
    rw [shiftRight_succ, pow_succ, ← Nat.div_div_eq_div_mul, ← ih]
    rfl

/-- The rounded mantissa is at most a half away. -/
theorem Fits.abs_roundedMantissa_sub_le (h : Fits em x) :
    |(em.roundedMantissa : ℚ) - x| ≤ 1 / 2 := by
  obtain ⟨m, r, t⟩ := em
  simp only [ExtendedMantissa.roundedMantissa]
  rw [abs_le]
  cases r <;> cases t <;>
    simp [Fits, ExtendedMantissa.accuracy, Accuracy.roundToNearestEven] at h ⊢
  · constructor <;> linarith
  · constructor <;> linarith
  · -- Half way between two mantissas the even one is taken.
    obtain even | odd := Nat.mod_two_eq_zero_or_one m
    · rw [even]
      constructor <;> norm_num <;> linarith
    · rw [odd]
      constructor <;> norm_num <;> linarith
  · constructor <;> linarith

theorem roundedMantissa_bounds (em : ExtendedMantissa) :
    em.mantissa ≤ em.roundedMantissa ∧ em.roundedMantissa ≤ em.mantissa + 1 := by
  obtain ⟨m, r, t⟩ := em
  cases r <;> cases t <;>
    simp [ExtendedMantissa.roundedMantissa, ExtendedMantissa.accuracy,
      Accuracy.roundToNearestEven]
  omega

/-! ### The nearest number -/

/-- An integer at most a half away is no further away than any other. -/
theorem abs_sub_le_of_half {r : ℤ} (half : |(r : ℚ) - x| ≤ 1 / 2) (n : ℤ) :
    |(r : ℚ) - x| ≤ |(n : ℚ) - x| := by
  by_cases same : n = r
  · rw [same]
  · -- Two integers are at least one apart.
    have apart : (1 : ℚ) ≤ |(n : ℚ) - r| := by
      have steps : (1 : ℤ) ≤ |n - r| := Int.one_le_abs (sub_ne_zero.mpr same)
      exact_mod_cast steps
    have triangle := abs_sub_le (n : ℚ) x r
    rw [abs_sub_comm x] at triangle
    linarith

variable {r : Nat} {n j t : ℤ}

/-- Distances in units of the last place. -/
theorem abs_mul_sub (y x : ℚ) (t : ℤ) : |y * 2 ^ t - x| = |y - x / 2 ^ t| * 2 ^ t := by
  have unit : (0 : ℚ) < 2 ^ t := zpow_pos two_pos t
  rw [← abs_of_pos unit, ← abs_mul, sub_mul, abs_of_pos unit, div_mul_cancel₀ x unit.ne']

theorem abs_mul_sub_le_of_half (half : |(r : ℚ) - x / 2 ^ t| ≤ 1 / 2) (n : ℤ) :
    |(r : ℚ) * 2 ^ t - x| ≤ |(n : ℚ) * 2 ^ t - x| := by
  have nearest := abs_sub_le_of_half (r := r) (by exact_mod_cast half) n
  rw [abs_mul_sub, abs_mul_sub]
  exact mul_le_mul_of_nonneg_right (by exact_mod_cast nearest) (zpow_pos two_pos t).le

/-- A multiple of a coarser unit is one of a finer unit. -/
theorem mul_two_zpow_of_le (coarse : t ≤ j) (n : ℤ) :
    (n : ℚ) * 2 ^ j = ((n * 2 ^ (j - t).toNat : ℤ) : ℚ) * 2 ^ t := by
  have sum : j = ((j - t).toNat : ℤ) + t := by omega
  push_cast
  rw [mul_assoc, ← zpow_natCast, ← zpow_add₀ two_ne_zero, ← sum]

/-- The least number that has all its bits with a unit. -/
theorem two_zpow_mul_two_zpow (spec : Format) (t : ℤ) :
    (((2 ^ (spec.mantissaBits - 1) : Nat) : ℤ) : ℚ) * 2 ^ t = 2 ^ (t + spec.mantissaBits - 1) := by
  have pos : 1 ≤ spec.mantissaBits := Nat.le_add_right ..
  have sum : t + spec.mantissaBits - 1 = ((spec.mantissaBits - 1 : Nat) : ℤ) + t := by omega
  push_cast
  rw [sum, zpow_add₀ two_ne_zero, zpow_natCast]

/-- What has a finer unit is not above it. -/
theorem mul_two_zpow_le_of_lt (bits : |n| ≤ 2 ^ spec.mantissaBits) (fine : j < t) :
    (n : ℚ) * 2 ^ j ≤ 2 ^ (t + spec.mantissaBits - 1) := by
  have size : (n : ℚ) ≤ 2 ^ spec.mantissaBits := by exact_mod_cast (le_abs_self n).trans bits
  calc (n : ℚ) * 2 ^ j ≤ 2 ^ spec.mantissaBits * 2 ^ j :=
        mul_le_mul_of_nonneg_right size (zpow_pos two_pos j).le
    _ = 2 ^ (spec.mantissaBits + j) := by rw [zpow_add₀ two_ne_zero, zpow_natCast]
    _ ≤ 2 ^ (t + spec.mantissaBits - 1) := zpow_le_zpow_right₀ one_le_two (by omega)

/-- Half a unit in the last place is small next to a number that has all its bits. -/
theorem half_unit_le (normal : (2 : ℚ) ^ (t + spec.mantissaBits - 1) ≤ x) :
    1 / 2 * (2 : ℚ) ^ t ≤ |x| / 2 ^ spec.mantissaBits := by
  have pos : 0 ≤ x := (zpow_pos two_pos _).le.trans normal
  have sum : (1 : ℚ) / 2 * 2 ^ t * 2 ^ spec.mantissaBits = 2 ^ (t + spec.mantissaBits - 1) := by
    rw [sub_eq_add_neg, zpow_add₀ two_ne_zero, zpow_add₀ two_ne_zero, zpow_natCast]
    ring
  rw [abs_of_nonneg pos, le_div_iff₀ (by positivity), sum]
  exact normal

/-- An integral multiple of the unit in the last place at most half of it away is nearest. -/
theorem rounds_of_half (half : |(r : ℚ) - x / 2 ^ t| ≤ 1 / 2) (bits : r ≤ 2 ^ spec.mantissaBits)
    (least : spec.minExponent ≤ t)
    (full : t = spec.minExponent ∨ (2 : ℚ) ^ (t + spec.mantissaBits - 1) ≤ x) :
    Rounds spec x (r * 2 ^ t) := by
  refine ⟨⟨r, t, ?_, least, by push_cast; rfl⟩, ?_, ?_⟩
  · rw [Nat.abs_cast]
    exact_mod_cast bits
  · rintro y ⟨n, j, bits', least', rfl⟩
    by_cases coarse : t ≤ j
    · rw [mul_two_zpow_of_le coarse]
      exact abs_mul_sub_le_of_half half _
    · -- The least number that has all its bits lies between this one and `x`.
      have normal := full.resolve_left (by omega)
      have below := mul_two_zpow_le_of_lt bits' (not_le.mp coarse)
      have first := abs_mul_sub_le_of_half half ((2 ^ (spec.mantissaBits - 1) : Nat) : ℤ)
      rw [two_zpow_mul_two_zpow, abs_of_nonpos (sub_nonpos.mpr normal)] at first
      rw [abs_of_nonpos (sub_nonpos.mpr (below.trans normal))]
      linarith
  · have distance : |(r : ℚ) * 2 ^ t - x| ≤ 1 / 2 * 2 ^ t := by
      rw [abs_mul_sub]
      exact mul_le_mul_of_nonneg_right half (zpow_pos two_pos t).le
    obtain rfl | normal := full
    · have halved : (2 : ℚ) ^ (spec.minExponent - 1) = 1 / 2 * 2 ^ spec.minExponent := by
        rw [sub_eq_add_neg, zpow_add₀ two_ne_zero]
        ring
      exact .inr (halved ▸ distance)
    · exact .inl (distance.trans (half_unit_le normal))

/-! ### Rounding by units -/

namespace Rounds

/-- The error is half of a unit at most, if the number is not too long for it. -/
theorem abs_sub_le_half_unit (h : Rounds spec x q) (least : spec.minExponent ≤ t)
    (short : |x| ≤ 2 ^ spec.mantissaBits * 2 ^ t) : |q - x| ≤ 1 / 2 * 2 ^ t := by
  have unit : (0 : ℚ) < 2 ^ t := zpow_pos two_pos t
  have size : |x / 2 ^ t| ≤ 2 ^ spec.mantissaBits := by
    rwa [abs_div, abs_of_pos unit, div_le_iff₀ unit]
  obtain ⟨r, half⟩ : ∃ r : ℤ, |(r : ℚ) - x / 2 ^ t| ≤ 1 / 2 :=
    ⟨_, abs_sub_comm (x / 2 ^ t) _ ▸ abs_sub_round _⟩
  -- The integer next to a number below a power of two is not beyond the power.
  have bits : |r| ≤ 2 ^ spec.mantissaBits := by
    have far : |(r : ℚ)| < 2 ^ spec.mantissaBits + 1 := by
      linarith [abs_sub_abs_le_abs_sub (r : ℚ) (x / 2 ^ t)]
    exact Int.lt_add_one_iff.mp (by exact_mod_cast far)
  calc |q - x| ≤ |(r : ℚ) * 2 ^ t - x| := h.nearest _ ⟨r, t, bits, least, rfl⟩
    _ = |(r : ℚ) - x / 2 ^ t| * 2 ^ t := abs_mul_sub ..
    _ ≤ 1 / 2 * 2 ^ t := mul_le_mul_of_nonneg_right half unit.le

/-- Beyond a power of two there is nothing for a whole unit. So what is less than half of a unit
beyond it is rounded back. -/
theorem le_two_zpow_of_near (h : Rounds spec x q) (least : spec.minExponent ≤ t)
    (near : x < 2 ^ (t + spec.mantissaBits - 1) + 1 / 2 * 2 ^ t) :
    q ≤ 2 ^ (t + spec.mantissaBits - 1) := by
  have fits : Representable spec (2 ^ (t + spec.mantissaBits - 1)) := by
    refine ⟨(2 ^ (spec.mantissaBits - 1) : Nat), t, ?_, least, (two_zpow_mul_two_zpow spec t).symm⟩
    rw [Nat.abs_cast]
    exact_mod_cast Nat.pow_le_pow_right two_pos (Nat.sub_le ..)
  by_contra! beyond
  obtain ⟨n, j, bits, -, rfl⟩ := h.representable
  have coarse : t ≤ j := by
    by_contra! fine
    exact (mul_two_zpow_le_of_lt bits fine).not_gt beyond
  have next : 2 ^ (t + spec.mantissaBits - 1) + 2 ^ t ≤ (n : ℚ) * 2 ^ j := by
    have unit : (0 : ℚ) < 2 ^ t := zpow_pos two_pos t
    rw [mul_two_zpow_of_le coarse, ← two_zpow_mul_two_zpow] at beyond ⊢
    have more := Int.add_one_le_iff.mpr (Int.cast_lt.mp (lt_of_mul_lt_mul_right beyond unit.le))
    calc _ = (((2 ^ (spec.mantissaBits - 1) : Nat) + 1 : ℤ) : ℚ) * 2 ^ t := by push_cast; ring
      _ ≤ _ := mul_le_mul_of_nonneg_right (Int.cast_le.mpr more) unit.le
  have nearest := h.nearest _ fits
  have unit : (0 : ℚ) < 2 ^ t := zpow_pos two_pos t
  obtain below | above := le_total x (2 ^ (t + spec.mantissaBits - 1))
  · exact (h.le fits below).not_gt beyond
  · rw [abs_of_nonpos (sub_nonpos.mpr above)] at nearest
    linarith [le_abs_self ((n : ℚ) * 2 ^ j - x)]

theorem abs_le_two_zpow_of_near (h : Rounds spec x q) (least : spec.minExponent ≤ t)
    (near : |x| < 2 ^ (t + spec.mantissaBits - 1) + 1 / 2 * 2 ^ t) :
    |q| ≤ 2 ^ (t + spec.mantissaBits - 1) := by
  obtain ⟨low, high⟩ := abs_lt.mp near
  have mirrored : Rounds spec (-x) (-q) := by simpa [factor] using h.signed .negative
  exact abs_le'.mpr ⟨h.le_two_zpow_of_near least high,
    mirrored.le_two_zpow_of_near least (by linarith)⟩

/-- Numbers that have all their bits with a unit lie a whole unit apart, so what is less than half
of it away from one is rounded to it. The least of them is left out: below it there are halves. -/
theorem eq_of_near (h : Rounds spec x q) (least : spec.minExponent ≤ t)
    (many : 2 ^ (spec.mantissaBits - 1) < n) (bits : n ≤ 2 ^ spec.mantissaBits)
    (near : |(n : ℚ) * 2 ^ t - x| < 1 / 2 * 2 ^ t) : q = n * 2 ^ t := by
  have unit : (0 : ℚ) < 2 ^ t := zpow_pos two_pos t
  have size : |n| ≤ 2 ^ spec.mantissaBits := by
    rwa [abs_of_pos (lt_trans (by positivity) many)]
  have close : |q - n * 2 ^ t| < 2 ^ t := by
    have nearest := h.nearest _ ⟨n, t, size, least, rfl⟩
    have triangle := abs_sub_le q x (n * 2 ^ t)
    rw [abs_sub_comm x] at triangle
    linarith
  obtain ⟨i, j, bits', -, rfl⟩ := h.representable
  have coarse : t ≤ j := by
    by_contra! fine
    have below := mul_two_zpow_le_of_lt bits' fine
    have next : ((2 ^ (spec.mantissaBits - 1) : Nat) : ℤ) + 1 ≤ n := by exact_mod_cast many
    have above := mul_le_mul_of_nonneg_right (Int.cast_le (R := ℚ).mpr next) unit.le
    rw [Int.cast_add, add_mul, two_zpow_mul_two_zpow, Int.cast_one, one_mul] at above
    linarith [neg_lt_of_abs_lt close]
  rw [mul_two_zpow_of_le coarse] at close ⊢
  rw [← sub_mul, abs_mul, abs_of_pos unit, mul_lt_iff_lt_one_left unit] at close
  -- Integers less than one apart are the same.
  have same : |i * 2 ^ (j - t).toNat - n| < 1 := by exact_mod_cast close
  rw [Int.abs_lt_one_iff, sub_eq_zero] at same
  rw [same]

end Rounds

/-! ### The two ways of rounding -/

theorem shiftToTargetExponent_eq (acc : Accuracy)
    (fine : e ≤ spec.targetExponent (totalExponent m e)) :
    shiftToTargetExponent spec m e acc =
      (ExtendedMantissa.ofMantissaAndAccuracy m acc >>>
          (spec.targetExponent (totalExponent m e) - e).toNat,
        spec.targetExponent (totalExponent m e)) := by
  simp only [shiftToTargetExponent, shiftToExponent, Prod.mk.injEq, true_and]
  omega

theorem mantissa_ofMantissaAndAccuracy (m : Nat) (acc : Accuracy) :
    (ExtendedMantissa.ofMantissaAndAccuracy m acc).mantissa = m := by
  cases acc with
  | exact => rfl
  | inexact o => cases o <;> rfl

/-- After a mantissa was rounded up to one bit more than there is room for it is shifted again,
which changes neither the number nor loses anything. -/
theorem shift_rounded (bits : r ≤ 2 ^ spec.mantissaBits) (least : spec.minExponent ≤ t)
    (full : t = spec.minExponent ∨ 2 ^ (spec.mantissaBits - 1) ≤ r) :
    ∃ m e, (shiftToTargetExponent spec r t .exact).1.mantissa = m ∧
      (shiftToTargetExponent spec r t .exact).2 = e ∧ (m : ℚ) * 2 ^ e = r * 2 ^ t ∧
      m < 2 ^ spec.mantissaBits ∧ spec.minExponent ≤ e ∧
      (e = spec.minExponent ∨ 2 ^ (spec.mantissaBits - 1) ≤ m) := by
  obtain below | rfl := bits.lt_or_eq
  · have room : spec.targetExponent (totalExponent r t) ≤ t := by
      have log : r.log2 < spec.mantissaBits := by
        by_cases zero : r = 0
        · rw [zero]
          exact Nat.lt_of_lt_of_le Nat.one_pos (Nat.le_add_right ..)
        · exact (Nat.log2_lt zero).mpr below
      unfold Format.targetExponent totalExponent
      omega
    have none : (spec.targetExponent (totalExponent r t) - t).toNat = 0 := by omega
    refine ⟨r, t, ?_, ?_, rfl, below, least, full⟩
    · simp only [shiftToTargetExponent, shiftToExponent, none]
      rfl
    · simp only [shiftToTargetExponent, shiftToExponent, none]
      simp
  · have one : spec.targetExponent (totalExponent (2 ^ spec.mantissaBits) t) = t + 1 := by
      simp only [Format.targetExponent, totalExponent, Nat.log2_two_pow]
      omega
    have fine : t ≤ spec.targetExponent (totalExponent (2 ^ spec.mantissaBits) t) := by omega
    have power : 2 ^ spec.mantissaBits = 2 * 2 ^ (spec.mantissaBits - 1) := by
      rw [← pow_succ', Format.mantissaBits]
      congr 1
      omega
    refine ⟨2 ^ (spec.mantissaBits - 1), t + 1, ?_, ?_, ?_, ?_, by omega, .inr le_rfl⟩
    · rw [shiftToTargetExponent_eq _ fine, one, mantissa_shiftRight,
        mantissa_ofMantissaAndAccuracy, power]
      simp
    · rw [shiftToTargetExponent_eq _ fine, one]
    · rw [power, zpow_add₀ two_ne_zero]
      push_cast
      ring
    · rw [power]
      have pos : 0 < 2 ^ (spec.mantissaBits - 1) := by positivity
      omega

/-- Shifting to the target exponent leaves as many bits as there is room for, and all of them unless
the exponent is the least. -/
theorem div_target_bounds (fine : e ≤ spec.targetExponent (totalExponent m e)) :
    let t := spec.targetExponent (totalExponent m e)
    m / 2 ^ (t - e).toNat < 2 ^ spec.mantissaBits ∧
      (t = spec.minExponent ∨ 2 ^ (spec.mantissaBits - 1) ≤ m / 2 ^ (t - e).toNat) := by
  intro t
  have target : t = max (m.log2 + 1 + e - spec.mantissaBits) spec.minExponent := rfl
  have bits : 2 ≤ spec.mantissaBits := by
    have := spec.hm
    unfold Format.mantissaBits
    omega
  constructor
  · rw [Nat.div_lt_iff_lt_mul (by positivity), ← pow_add]
    exact Nat.lt_log2_self.trans_le (Nat.pow_le_pow_right (by norm_num) (by omega))
  · by_cases least : t = spec.minExponent
    · exact .inl least
    · right
      have log : m.log2 = spec.mantissaBits - 1 + (t - e).toNat := by omega
      have pos : m ≠ 0 := by
        rintro rfl
        simp at log
        omega
      rw [Nat.le_div_iff_mul_le (by positivity), ← pow_add, ← log]
      exact Nat.log2_self_le pos

/-- Rounding a number of which the mantissa, the exponent and the accuracy are known. -/
theorem rounds_roundWithAccuracy {acc : Accuracy} (s : Sign)
    (fits : Fits (.ofMantissaAndAccuracy m acc) (x / 2 ^ e))
    (fine : e ≤ spec.targetExponent (totalExponent m e)) :
    Canonical spec (roundWithAccuracy spec s m e acc) ∧
      ∃ q, value? (roundWithAccuracy spec s m e acc) = some q ∧ Rounds spec (factor s * x) q := by
  obtain ⟨room, full⟩ := div_target_bounds fine
  have first := shiftToTargetExponent_eq acc fine
  have least : spec.minExponent ≤ spec.targetExponent (totalExponent m e) := le_max_right ..
  generalize spec.targetExponent (totalExponent m e) = t at *
  -- After the first shift the mantissa has its final length, up to a carry.
  have shifted : Fits (ExtendedMantissa.ofMantissaAndAccuracy m acc >>> (t - e).toNat)
      (x / 2 ^ t) := by
    have sum : t = e + (t - e).toNat := by omega
    have both : x / 2 ^ t = x / 2 ^ e / 2 ^ (t - e).toNat := by
      rw [div_div, ← zpow_natCast, ← zpow_add₀ two_ne_zero, ← sum]
    rw [both]
    exact fits.shiftRight _
  have mantissa := mantissa_shiftRight (.ofMantissaAndAccuracy m acc) (t - e).toNat
  rw [mantissa_ofMantissaAndAccuracy] at mantissa
  generalize ExtendedMantissa.ofMantissaAndAccuracy m acc >>> (t - e).toNat = em at *
  have bounds := roundedMantissa_bounds em
  have bits : em.roundedMantissa ≤ 2 ^ spec.mantissaBits := by omega
  have rounds : Rounds spec x (em.roundedMantissa * 2 ^ t) := by
    refine rounds_of_half shifted.abs_roundedMantissa_sub_le bits least (full.imp_right ?_)
    intro many
    have floor := shifted.floor.1
    rw [le_div_iff₀ (zpow_pos two_pos t)] at floor
    refine le_trans ?_ floor
    rw [← two_zpow_mul_two_zpow]
    refine mul_le_mul_of_nonneg_right ?_ (zpow_pos two_pos t).le
    exact_mod_cast mantissa ▸ many
  obtain ⟨m', e', mantissa', exponent', value, short, least', full'⟩ :=
    shift_rounded bits least (full.imp_right fun many => by omega)
  have result : roundWithAccuracy spec s m e acc =
      if h : m' = 0 then .zero s else .finite s m' e' (Nat.pos_of_ne_zero h) := by
    subst mantissa' exponent'
    simp only [roundWithAccuracy, first]
  rw [← value] at rounds
  rw [result]
  split
  · rename_i zero
    refine ⟨trivial, 0, rfl, ?_⟩
    have rounds := rounds.signed s
    simpa [zero] using rounds
  · exact ⟨⟨short, least', full'⟩, _, rfl, rounds.signed s⟩

/-- Rounding a mantissa with an exponent. -/
theorem rounds_round (spec : Format) (s : Sign) (pos : 0 < m) (e : Int) :
    Canonical spec (round spec s m e) ∧ ∃ q, value? (round spec s m e) = some q ∧
      Rounds spec (factor s * (m * 2 ^ e)) q := by
  let k := (e - spec.targetExponent (totalExponent m e)).toNat
  have log : (m <<< k).log2 = m.log2 + k := by
    have low := Nat.log2_self_le pos.ne'
    have high := Nat.lt_log2_self (n := m)
    rw [Nat.shiftLeft_eq, Nat.log2_eq_iff (by positivity), pow_add, Nat.add_right_comm, pow_add]
    exact ⟨Nat.mul_le_mul_right _ low, Nat.mul_lt_mul_of_pos_right high (by positivity)⟩
  have same : totalExponent (m <<< k) (e - k) = totalExponent m e := by
    unfold totalExponent
    rw [log]
    omega
  refine rounds_roundWithAccuracy (m := m <<< k) (e := e - k) s ?_ ?_
  · have back : (m : ℚ) * 2 ^ e / 2 ^ (e - k : ℤ) = (m <<< k : Nat) := by
      have sum : e = k + (e - k) := by omega
      rw [div_eq_iff (zpow_pos two_pos _).ne', Nat.shiftLeft_eq]
      push_cast
      rw [mul_assoc, ← zpow_natCast, ← zpow_add₀ two_ne_zero, ← sum]
    rw [back]
    simp [Fits, ExtendedMantissa.ofMantissaAndAccuracy]
  · rw [same]
    omega

/-- Rounding an integral mantissa with an exponent. -/
theorem rounds_normalize (spec : Format) (n e : Int) (s : Sign) :
    Canonical spec (UnpackedFloat.normalize spec n e s) ∧
      ∃ q, value? (UnpackedFloat.normalize spec n e s) = some q ∧
      Rounds spec (n * 2 ^ e) q := by
  unfold UnpackedFloat.normalize
  obtain negative | rfl | positive := lt_trichotomy n 0
  · rw [show compare n 0 = .lt from Int.compare_eq_lt.mpr negative]
    have rounds := rounds_round spec .negative (m := (-n).toNat) (by omega) e
    have size : (((-n).toNat : Nat) : ℚ) = -n := by
      exact_mod_cast Int.toNat_of_nonneg (by omega : 0 ≤ -n)
    rw [size] at rounds
    simpa [factor] using rounds
  · refine ⟨trivial, 0, rfl, ?_⟩
    rw [Int.cast_zero, zero_mul]
    exact .of_representable (representable_zero spec)
  · rw [show compare n 0 = .gt from Int.compare_eq_gt.mpr positive]
    have rounds := rounds_round spec .positive (m := n.toNat) (by omega) e
    have size : ((n.toNat : Nat) : ℚ) = n := by
      exact_mod_cast Int.toNat_of_nonneg positive.le
    rw [size] at rounds
    simpa [factor] using rounds

end SamplePlayer.Number
