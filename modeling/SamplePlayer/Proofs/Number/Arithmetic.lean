import SamplePlayer.Proofs.Number.Packing

/-!
# Arithmetic

The operations on numbers in canonical form give the exact result, rounded, in canonical form, and
comparing two numbers is comparing what they stand for.

## Main results

* `rounds_add`, `rounds_sub`, `rounds_mul`, `rounds_div`: the operations round the exact result.
* `compare_eq`: comparing is exact.
* `toInt_eq`: the integral part is exact.
-/

namespace SamplePlayer.Number

open Float.Model Float.Model.UnpackedFloat

variable {spec : Format} {s s' : Sign} {m m' : Nat} {e e' : Int} {x y q : ℚ} {u w : UnpackedFloat}

/-- Numbers in canonical form are those that a format can represent. -/
theorem Canonical.representable (canonical : Canonical spec u) (value : value? u = some x) :
    Representable spec x := by
  cases u with
  | zero =>
    obtain rfl := Option.some.inj value
    exact representable_zero spec
  | infinity | notANumber => cases value
  | finite s m e pos =>
    obtain rfl := Option.some.inj value
    obtain ⟨room, least, -⟩ := canonical
    refine Representable.signed ⟨m, e, ?_, least, by push_cast; rfl⟩ s
    rw [Nat.abs_cast]
    exact_mod_cast room.le

/-- A result that is one of the operands is exact. -/
theorem Canonical.rounds_self (canonical : Canonical spec u) (value : value? u = some x) :
    Canonical spec u ∧ ∃ q, value? u = some q ∧ Rounds spec x q :=
  ⟨canonical, x, value, .of_representable (canonical.representable value)⟩

theorem rounds_zero (spec : Format) (s : Sign) :
    Canonical spec (.zero s) ∧ ∃ q, value? (.zero s) = some q ∧ Rounds spec 0 q :=
  Canonical.rounds_self trivial rfl

/-! ### Signs -/

theorem factor_neg (s : Sign) : factor (-s) = -factor s := by
  cases s
  · exact (neg_neg 1).symm
  · rfl

theorem factor_mul (s s' : Sign) : factor (s * s') = factor s * factor s' := by
  cases s
  · cases s'
    · exact (neg_mul_neg 1 1).trans (one_mul 1) |>.symm
    · exact (mul_one _).symm
  · cases s' <;> exact (one_mul _).symm

theorem factor_div (s s' : Sign) : factor (s / s') = factor s * factor s' :=
  factor_mul s s'

/-- The opposite number stands for the opposite. -/
theorem value?_neg (u : UnpackedFloat) : value? u.neg = (value? u).map (- ·) := by
  cases u with
  | zero => simp [UnpackedFloat.neg, value?]
  | infinity | notANumber => rfl
  | finite s m e pos => simp [UnpackedFloat.neg, value?, factor_neg]

theorem Canonical.neg (canonical : Canonical spec u) : Canonical spec u.neg := by
  cases u <;> exact canonical

/-! ### Sums and differences -/

/-- Mantissas with a common exponent. -/
theorem decreaseExponent_eq (s : Sign) (m : Nat) {e least : Int} (le : least ≤ e) :
    (s.apply (decreaseExponent m e least).1 : ℚ) * 2 ^ least = factor s * (m * 2 ^ e) := by
  have sum : e = ((e - least).toNat : ℤ) + least := by omega
  rw [cast_apply, decreaseExponent, Nat.shiftLeft_eq]
  push_cast
  rw [mul_assoc, mul_assoc, ← zpow_natCast, ← zpow_add₀ two_ne_zero, ← sum]

theorem rounds_add (left : Canonical spec u) (right : Canonical spec w) (first : value? u = some x)
    (second : value? w = some y) : Canonical spec (UnpackedFloat.add spec u w) ∧
      ∃ q, value? (UnpackedFloat.add spec u w) = some q ∧ Rounds spec (x + y) q := by
  cases u with
  | infinity | notANumber => cases first
  | zero s =>
    obtain rfl := Option.some.inj first
    rw [zero_add]
    cases w with
    | infinity | notANumber => cases second
    | zero s' =>
      obtain rfl := Option.some.inj second
      cases s <;> cases s' <;> exact rounds_zero spec _
    | finite => exact right.rounds_self second
  | finite s m e pos =>
    obtain rfl := Option.some.inj first
    cases w with
    | infinity | notANumber => cases second
    | zero s' =>
      obtain rfl := Option.some.inj second
      rw [add_zero]
      exact left.rounds_self first
    | finite s' m' e' pos' =>
      obtain rfl := Option.some.inj second
      -- At the lesser exponent the mantissas are added exactly; only normalizing rounds.
      have rounds := rounds_normalize spec
        (s.apply (decreaseExponent m e (min e e')).1 +
          s'.apply (decreaseExponent m' e' (min e e')).1)
        (min e e') .positive
      rw [Int.cast_add, add_mul, decreaseExponent_eq s m (min_le_left e e'),
        decreaseExponent_eq s' m' (min_le_right e e')] at rounds
      exact rounds

/-- A difference is a sum with the opposite number. -/
theorem sub_eq_add (spec : Format) (u w : UnpackedFloat) :
    UnpackedFloat.sub spec u w = UnpackedFloat.add spec u w.neg := by
  cases u with
  | zero | infinity | notANumber => cases w <;> rfl
  | finite s m e pos =>
    cases w with
    | zero | infinity | notANumber => rfl
    | finite s' m' e' pos' =>
      have opposite (n : Int) : (-s').apply n = -s'.apply n := by
        cases s'
        · exact (neg_neg n).symm
        · rfl
      simp only [UnpackedFloat.sub, UnpackedFloat.add, UnpackedFloat.neg, opposite,
        Int.sub_eq_add_neg]

theorem rounds_sub (left : Canonical spec u) (right : Canonical spec w) (first : value? u = some x)
    (second : value? w = some y) : Canonical spec (UnpackedFloat.sub spec u w) ∧
      ∃ q, value? (UnpackedFloat.sub spec u w) = some q ∧ Rounds spec (x - y) q := by
  have opposite : value? w.neg = some (-y) := by rw [value?_neg, second]; rfl
  rw [sub_eq_add, sub_eq_add_neg]
  exact rounds_add left right.neg first opposite

/-! ### Products and quotients -/

/-- Rounding has bits to drop if the mantissa has all its bits, or the exponent is the least. -/
theorem le_targetExponent (enough : 2 ^ (spec.mantissaBits - 1) ≤ m ∨ e ≤ spec.minExponent) :
    e ≤ spec.targetExponent (totalExponent m e) := by
  obtain many | least := enough
  · have pos : m ≠ 0 := by
      have power : 0 < 2 ^ (spec.mantissaBits - 1) := by positivity
      omega
    have log := (Nat.le_log2 pos).mpr many
    unfold Format.targetExponent totalExponent
    omega
  · exact least.trans (le_max_right ..)

theorem minExponent_nonpos (spec : Format) : spec.minExponent ≤ 0 := by
  have bits := spec.hm
  rw [minExponent_eq]
  omega

theorem fits_exact (m : Nat) : Fits (.ofMantissaAndAccuracy m .exact) m := by
  simp [Fits, ExtendedMantissa.ofMantissaAndAccuracy]

theorem rounds_mul (left : Canonical spec u) (right : Canonical spec w) (first : value? u = some x)
    (second : value? w = some y) : Canonical spec (UnpackedFloat.mul spec u w) ∧
      ∃ q, value? (UnpackedFloat.mul spec u w) = some q ∧ Rounds spec (x * y) q := by
  cases u with
  | infinity | notANumber => cases first
  | zero s =>
    obtain rfl := Option.some.inj first
    rw [zero_mul]
    cases w with
    | infinity | notANumber => cases second
    | zero | finite => exact rounds_zero spec _
  | finite s m e pos =>
    cases w with
    | infinity | notANumber => cases second
    | zero s' =>
      obtain rfl := Option.some.inj second
      rw [mul_zero]
      exact rounds_zero spec _
    | finite s' m' e' pos' =>
      obtain rfl := Option.some.inj first
      obtain rfl := Option.some.inj second
      have product : factor s * (m * 2 ^ e) * (factor s' * (m' * 2 ^ e')) =
          factor (s * s') * ((m * m' : Nat) * 2 ^ (e + e')) := by
        rw [factor_mul, zpow_add₀ two_ne_zero]
        push_cast
        ring
      have scaled : ((m * m' : Nat) : ℚ) * 2 ^ (e + e') / 2 ^ (e + e') = (m * m' : Nat) :=
        mul_div_cancel_right₀ _ (zpow_pos two_pos _).ne'
      rw [product]
      refine rounds_roundWithAccuracy (s * s') ?_ (le_targetExponent ?_)
      · rw [scaled]
        exact fits_exact _
      -- The product has enough bits if one of the factors has.
      obtain ⟨-, -, least | many⟩ := left
      · obtain ⟨-, -, least' | many'⟩ := right
        · have := minExponent_nonpos spec
          exact .inr (by omega)
        · exact .inl (many'.trans (Nat.le_mul_of_pos_left m' pos))
      · exact .inl (many.trans (Nat.le_mul_of_pos_right m pos'))

/-- The remainder tells where a quotient lies. -/
theorem fits_quotient (m : Nat) {k : Nat} (pos : 0 < k) :
    Fits (.ofMantissaAndAccuracy (m / k) (accuracyOfFraction (m % k) k)) (m / k : ℚ) := by
  have parts : (m : ℚ) / k = (m / k : Nat) + (m % k : Nat) / k := by
    rw [div_eq_iff (by positivity), add_mul, div_mul_cancel₀ _ (by positivity)]
    exact_mod_cast (Nat.div_add_mod' m k).symm
  have below : ((m % k : Nat) : ℚ) / k < 1 := by
    rw [div_lt_one (by positivity)]
    exact_mod_cast Nat.mod_lt m pos
  -- The accuracy is told by comparing twice the remainder with the divisor.
  have half : ((m % k : Nat) : ℚ) / k < 1 / 2 ↔ 2 * (m % k) < k := by
    rw [div_lt_div_iff₀ (by positivity) (by norm_num), one_mul, mul_comm]
    exact_mod_cast Iff.rfl
  have half' : ((m % k : Nat) : ℚ) / k = 1 / 2 ↔ 2 * (m % k) = k := by
    rw [div_eq_div_iff (by positivity) (by norm_num), one_mul, mul_comm]
    exact_mod_cast Iff.rfl
  unfold accuracyOfFraction
  split
  · rename_i none
    rw [parts, none]
    simpa using fits_exact (m / k)
  · rename_i some
    have positive : (0 : ℚ) < (m % k : Nat) / k := by
      have := Nat.pos_of_ne_zero some
      positivity
    rw [parts]
    obtain less | same | more := lt_trichotomy (2 * (m % k)) k
    · rw [show compare (2 * (m % k)) k = .lt from Nat.compare_eq_lt.mpr less]
      have := half.mpr less
      simp [Fits, ExtendedMantissa.ofMantissaAndAccuracy]
      constructor <;> linarith
    · rw [show compare (2 * (m % k)) k = .eq from Nat.compare_eq_eq.mpr same]
      have := half'.mpr same
      simp [Fits, ExtendedMantissa.ofMantissaAndAccuracy]
      linarith
    · rw [show compare (2 * (m % k)) k = .gt from Nat.compare_eq_gt.mpr more]
      have : (1 : ℚ) / 2 < (m % k : Nat) / k := by
        by_contra le
        obtain less | same := (not_lt.mp le).lt_or_eq
        · have := half.mp less
          omega
        · have := half'.mp same
          omega
      simp [Fits, ExtendedMantissa.ofMantissaAndAccuracy]
      constructor <;> linarith

/-- The quotient of mantissas that a division begins with has enough bits. -/
theorem divCore_bits {k : Nat} (pos : 0 < m) (pos' : 0 < k)
    {t : Int} (least : ¬ t ≤ spec.minExponent) (shifts : t ≤ e - e')
    (target : t ≤ spec.targetExponent (totalExponent m e - totalExponent k e')) :
    2 ^ (spec.mantissaBits - 1) ≤ (m <<< (e - e' - t).toNat) / k := by
  have room : t ≤ m.log2 + 1 + e - (k.log2 + 1 + e') - spec.mantissaBits := by
    unfold Format.targetExponent totalExponent at target
    omega
  have low := Nat.log2_self_le pos.ne'
  have high := Nat.lt_log2_self (n := k)
  rw [Nat.le_div_iff_mul_le pos', Nat.shiftLeft_eq]
  calc 2 ^ (spec.mantissaBits - 1) * k
      ≤ 2 ^ (spec.mantissaBits - 1) * 2 ^ (k.log2 + 1) := Nat.mul_le_mul_left _ high.le
    _ = 2 ^ (spec.mantissaBits - 1 + (k.log2 + 1)) := (pow_add ..).symm
    _ ≤ 2 ^ (m.log2 + (e - e' - t).toNat) := by
        have bits : 1 ≤ spec.mantissaBits := Nat.le_add_right ..
        exact Nat.pow_le_pow_right (by norm_num) (by omega)
    _ = 2 ^ m.log2 * 2 ^ (e - e' - t).toNat := pow_add ..
    _ ≤ m * 2 ^ (e - e' - t).toNat := Nat.mul_le_mul_right _ low

theorem rounds_div (left : Canonical spec u) (right : Canonical spec w) (first : value? u = some x)
    (second : value? w = some y) (nonzero : y ≠ 0) : Canonical spec (UnpackedFloat.div spec u w) ∧
      ∃ q, value? (UnpackedFloat.div spec u w) = some q ∧ Rounds spec (x / y) q := by
  cases w with
  | infinity | notANumber => cases second
  | zero s' => exact absurd (Option.some.inj second).symm nonzero
  | finite s' m' e' pos' =>
    cases u with
    | infinity | notANumber => cases first
    | zero s =>
      obtain rfl := Option.some.inj first
      rw [zero_div]
      exact rounds_zero spec _
    | finite s m e pos =>
      obtain rfl := Option.some.inj first
      obtain rfl := Option.some.inj second
      have quotient : factor s * (m * 2 ^ e) / (factor s' * (m' * 2 ^ e')) =
          factor (s / s') * (m * 2 ^ e / (m' * 2 ^ e')) := by
        rw [factor_div, mul_div_mul_comm]
        congr 1
        rw [div_eq_iff (by cases s' <;> norm_num [factor]), mul_assoc, factor_mul_factor, mul_one]
      rw [quotient]
      -- The exponent to which the mantissas are divided: fine enough for the result, and for the
      -- dividend to be a whole number.
      let t := min (e - e') (spec.targetExponent (totalExponent m e - totalExponent m' e'))
      refine rounds_roundWithAccuracy (m := m <<< (e - e' - t).toNat / m') (e := t) (s / s') ?_
        (le_targetExponent ?_)
      · have scaled : (m : ℚ) * 2 ^ e / (m' * 2 ^ e') / 2 ^ t =
            (m <<< (e - e' - t).toNat : Nat) / m' := by
          have sum : e = (e - e' - t).toNat + (e' + t) := by omega
          rw [div_div, div_eq_div_iff (by positivity) (by positivity), Nat.shiftLeft_eq]
          push_cast
          rw [← zpow_natCast]
          calc (m : ℚ) * 2 ^ e * m' = m * m' * 2 ^ ((e - e' - t).toNat + (e' + t) : ℤ) := by
                rw [← sum]
                ring
            _ = m * 2 ^ ((e - e' - t).toNat : ℤ) * (m' * 2 ^ e' * 2 ^ t) := by
                rw [zpow_add₀ two_ne_zero, zpow_add₀ two_ne_zero]
                ring
        rw [scaled]
        exact fits_quotient _ pos'
      · by_cases least : t ≤ spec.minExponent
        · exact .inr least
        · exact .inl (divCore_bits pos pos' least (min_le_left ..) (min_le_right ..))

/-! ### Comparisons -/

/-- A larger exponent makes a larger number, as the mantissa has all its bits then. -/
theorem magnitude_lt (room : m < 2 ^ spec.mantissaBits) (least : spec.minExponent ≤ e)
    (full : e' = spec.minExponent ∨ 2 ^ (spec.mantissaBits - 1) ≤ m') (less : e < e') :
    (m : ℚ) * 2 ^ e < m' * 2 ^ e' := by
  have many := full.resolve_left (by omega)
  calc (m : ℚ) * 2 ^ e < 2 ^ spec.mantissaBits * 2 ^ e :=
        mul_lt_mul_of_pos_right (by exact_mod_cast room) (zpow_pos two_pos e)
    _ = 2 ^ (spec.mantissaBits + e) := by rw [zpow_add₀ two_ne_zero, zpow_natCast]
    _ ≤ 2 ^ (e' + spec.mantissaBits - 1) := zpow_le_zpow_right₀ one_le_two (by omega)
    _ = ((2 ^ (spec.mantissaBits - 1) : Nat) : ℤ) * 2 ^ e' := (two_zpow_mul_two_zpow ..).symm
    _ ≤ m' * 2 ^ e' :=
        mul_le_mul_of_nonneg_right (by exact_mod_cast many) (zpow_pos two_pos e').le

/-- Comparing exponents first and then mantissas is comparing numbers. -/
theorem compare_magnitude {pos : 0 < m} {pos' : 0 < m'} (left : Canonical spec (.finite s m e pos))
    (right : Canonical spec (.finite s' m' e' pos')) :
    (compare e e').then (compare m m') = compare ((m : ℚ) * 2 ^ e) (m' * 2 ^ e') := by
  obtain ⟨room, least, full⟩ := left
  obtain ⟨room', least', full'⟩ := right
  obtain less | rfl | more := lt_trichotomy e e'
  · rw [compare_lt_iff_lt.mpr less, compare_lt_iff_lt.mpr (magnitude_lt room least full' less)]
    rfl
  · have unit : (0 : ℚ) < 2 ^ e := zpow_pos two_pos e
    rw [compare_eq_iff_eq.mpr rfl]
    obtain less | rfl | more := lt_trichotomy m m'
    · rw [compare_lt_iff_lt.mpr less, compare_lt_iff_lt.mpr
        (mul_lt_mul_of_pos_right (by exact_mod_cast less) unit)]
      rfl
    · rw [compare_eq_iff_eq.mpr rfl, compare_eq_iff_eq.mpr rfl]
      rfl
    · rw [compare_gt_iff_gt.mpr more, compare_gt_iff_gt.mpr
        (mul_lt_mul_of_pos_right (by exact_mod_cast more) unit)]
      rfl
  · rw [compare_gt_iff_gt.mpr more, compare_gt_iff_gt.mpr (magnitude_lt room' least' full more)]
    rfl

theorem compare_neg (x y : ℚ) : compare (-x) (-y) = (compare x y).swap := by
  obtain less | rfl | more := lt_trichotomy x y
  · rw [compare_lt_iff_lt.mpr less, compare_gt_iff_gt.mpr (neg_lt_neg less)]
    rfl
  · rw [compare_eq_iff_eq.mpr rfl, compare_eq_iff_eq.mpr rfl]
    rfl
  · rw [compare_gt_iff_gt.mpr more, compare_lt_iff_lt.mpr (neg_lt_neg more)]
    rfl

/-- Comparing numbers is comparing what they stand for. -/
theorem compare_eq (left : Canonical spec u) (right : Canonical spec w) (first : value? u = some x)
    (second : value? w = some y) : UnpackedFloat.compare u w = some (compare x y) := by
  have size {m : Nat} (pos : 0 < m) (e : Int) : (0 : ℚ) < m * 2 ^ e := by positivity
  cases u with
  | infinity | notANumber => cases first
  | zero s =>
    obtain rfl := Option.some.inj first
    cases w with
    | infinity | notANumber => cases second
    | zero s' =>
      obtain rfl := Option.some.inj second
      rw [compare_eq_iff_eq.mpr rfl]
      rfl
    | finite s' m' e' pos' =>
      obtain rfl := Option.some.inj second
      have := size pos' e'
      cases s'
      · rw [compare_gt_iff_gt.mpr (by simpa [factor] using this)]
        rfl
      · rw [compare_lt_iff_lt.mpr (by simpa [factor] using this)]
        rfl
  | finite s m e pos =>
    obtain rfl := Option.some.inj first
    have below := size pos e
    cases w with
    | infinity | notANumber => cases second
    | zero s' =>
      obtain rfl := Option.some.inj second
      cases s
      · rw [compare_lt_iff_lt.mpr (by simpa [factor] using below)]
        rfl
      · rw [compare_gt_iff_gt.mpr (by simpa [factor] using below)]
        rfl
    | finite s' m' e' pos' =>
      obtain rfl := Option.some.inj second
      have below' := size pos' e'
      have magnitude := compare_magnitude left right
      cases s <;> cases s' <;> simp only [factor, one_mul, neg_one_mul]
      · -- Of two negative numbers the one with the greater magnitude is less.
        rw [compare_neg, ← magnitude]
        rfl
      · rw [compare_lt_iff_lt.mpr (by linarith)]
        rfl
      · rw [compare_gt_iff_gt.mpr (by linarith)]
        rfl
      · rw [← magnitude]
        rfl

/-! ### Integral parts -/

theorem two_zpow_toNat (e : Int) : (2 : ℚ) ^ e * 2 ^ (0 - e).toNat = 2 ^ (e - 0).toNat := by
  rw [← zpow_natCast, ← zpow_natCast, ← zpow_add₀ two_ne_zero]
  congr 1
  omega

/-- The integral part of a magnitude. -/
theorem roundToInt_eq (s : Sign) (m : Nat) (e : Int) :
    roundToInt s m e = s.apply ⌊(m : ℚ) * 2 ^ e⌋ := by
  have mantissa : roundToInt s m e =
      s.apply ((m <<< (e - 0).toNat) / 2 ^ (0 - (e - (e - 0).toNat)).toNat : Nat) := by
    unfold roundToInt
    simp only [decreaseExponent, shiftToExponent]
    rw [mantissa_shiftRight, mantissa_ofMantissaAndAccuracy]
  have shift : (0 - (e - (e - 0).toNat)).toNat = (0 - e).toNat := by omega
  rw [mantissa, shift, Nat.shiftLeft_eq]
  congr 1
  rw [← Nat.floor_div_eq_div (K := ℚ), ← Int.natCast_floor_eq_floor (by positivity)]
  congr 2
  push_cast
  rw [div_eq_iff (by positivity), mul_assoc, two_zpow_toNat]

theorem toInt_eq (value : value? u = some x) (low high : Int) :
    u.toInt low high = if 0 ≤ x then ⌊x⌋ else -⌊-x⌋ := by
  cases u with
  | infinity | notANumber => cases value
  | zero s =>
    obtain rfl := Option.some.inj value
    simp [UnpackedFloat.toInt]
  | finite s m e pos =>
    obtain rfl := Option.some.inj value
    have size : (0 : ℚ) < m * 2 ^ e := by positivity
    change roundToInt s m e = _
    rw [roundToInt_eq]
    cases s
    · rw [if_neg (by simpa [factor] using size)]
      simp [Sign.apply, factor]
    · rw [if_pos (by simpa [factor] using size.le)]
      simp [Sign.apply, factor]

end SamplePlayer.Number
