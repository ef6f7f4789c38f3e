import SamplePlayer.Proofs.Number.Selection

/-!
# Words that come back from numbers

A 16-bit word becomes a number by a division by full scale, and a number becomes a word by a
multiplication and by cutting off the fraction. Both operations round, and cutting off would turn
the smallest loss into a whole step. There is none: the two errors together are less than half of a
unit in the last place of the word, so the product is rounded to the word itself. Below a power of
two the units are half as long, but there the quotient is rounded by next to nothing.

## Main results

* `Rounds.recovers`: an integer comes back from its quotient by full scale.
* `Single.quantize_dequantize`: a word comes back from its number.
* `Single.le_quantize`: the lowest word is never made.
-/

namespace SamplePlayer.Number

section

variable {m k : Nat} {i : ℤ} {a b : ℚ}

theorem two_zpow_natCast_sub (k j : Nat) : (2 : ℚ) ^ ((k : ℤ) - j) = 2 ^ k / 2 ^ j := by
  rw [zpow_sub₀ two_ne_zero, zpow_natCast, zpow_natCast]

/-- A power of two comes back from full scale: its quotient has few bits before a long row of zeros,
so it is rounded by next to nothing. -/
theorem Rounds.recovers_two_pow (short : k ≤ 14) (quotient : Rounds .binary32 (2 ^ k / 32767) a)
    (product : Rounds .binary32 (a * 32767) b) : b = 2 ^ k := by
  have pos : (0 : ℚ) < 2 ^ k := by positivity
  -- The sum of the first two places of the quotient.
  have fits : Representable .binary32 (2 ^ k / 2 ^ 15 + 2 ^ k / 2 ^ 30) := by
    refine ⟨2 ^ 15 + 1, k - (30 : Nat), by decide, ?_, ?_⟩
    · change (-149 : ℤ) ≤ k - (30 : Nat)
      omega
    · rw [two_zpow_natCast_sub]
      push_cast
      ring
  have error : |a - 2 ^ k / 32767| ≤ 2 ^ k / 2 ^ 30 / 32767 := by
    refine (quotient.nearest _ fits).trans (le_of_eq ?_)
    rw [abs_of_nonpos (by linarith)]
    ring
  have near : |(2 ^ 24 : ℤ) * (2 : ℚ) ^ ((k : ℤ) - (24 : Nat)) - a * 32767| <
      1 / 2 * 2 ^ ((k : ℤ) - (24 : Nat)) := by
    rw [two_zpow_natCast_sub]
    obtain ⟨low, high⟩ := abs_le.mp error
    rw [abs_lt]
    push_cast
    constructor <;> linarith
  have result := product.eq_of_near (by change (-149 : ℤ) ≤ _; omega) (by decide) (by decide) near
  rw [result, two_zpow_natCast_sub]
  push_cast
  ring

/-- Any other number has a unit that is large next to the two errors. -/
theorem Rounds.recovers_of_size (low : 2 ^ k < m) (high : m < 2 ^ (k + 1)) (short : k ≤ 14)
    (quotient : Rounds .binary32 (m / 32767) a) (product : Rounds .binary32 (a * 32767) b) :
    b = m := by
  have pos : (0 : ℚ) < 2 ^ k := by positivity
  have room : 2 ^ (k + 1) ≤ 2 ^ 15 := Nat.pow_le_pow_right two_pos (by omega)
  have size : |(m : ℚ) / 32767| ≤ 2 ^ 24 * 2 ^ ((k : ℤ) - (38 : Nat)) := by
    have bound : 2 ^ 15 * m ≤ 2 * 2 ^ k * 32767 := by
      rw [pow_succ] at high room
      omega
    have bound : 2 ^ 15 * (m : ℚ) ≤ 2 * 2 ^ k * 32767 := by exact_mod_cast bound
    rw [two_zpow_natCast_sub, abs_of_nonneg (by positivity), div_le_iff₀ (by norm_num)]
    linarith
  have error := quotient.abs_sub_le_half_unit (by change (-149 : ℤ) ≤ _; omega) size
  rw [two_zpow_natCast_sub] at error
  have whole : (((m * 2 ^ (23 - k) : Nat) : ℤ) : ℚ) * 2 ^ ((k : ℤ) - (23 : Nat)) = m := by
    have parts : (2 : ℚ) ^ 23 = 2 ^ (23 - k) * 2 ^ k := by rw [← pow_add]; congr 1; omega
    rw [two_zpow_natCast_sub, parts]
    push_cast
    field_simp
  have near : |(((m * 2 ^ (23 - k) : Nat) : ℤ) : ℚ) * 2 ^ ((k : ℤ) - (23 : Nat)) - a * 32767| <
      1 / 2 * 2 ^ ((k : ℤ) - (23 : Nat)) := by
    rw [whole, two_zpow_natCast_sub]
    obtain ⟨low, high⟩ := abs_le.mp error
    rw [abs_lt]
    constructor <;> linarith
  have split : 2 ^ 23 = 2 ^ k * 2 ^ (23 - k) := by rw [← pow_add]; congr 1; omega
  have many : 2 ^ 23 < m * 2 ^ (23 - k) := by
    rw [split]
    exact Nat.mul_lt_mul_of_pos_right low (by positivity)
  have bits : m * 2 ^ (23 - k) ≤ 2 ^ 24 := by
    calc m * 2 ^ (23 - k) ≤ 2 ^ (k + 1) * 2 ^ (23 - k) := Nat.mul_le_mul_right _ high.le
      _ = 2 ^ 24 := by rw [← pow_add]; congr 1; omega
  have result := product.eq_of_near (by change (-149 : ℤ) ≤ _; omega)
    (by exact_mod_cast many) (by exact_mod_cast bits) near
  rw [result, whole]

/-- An integer of up to full scale that is divided by full scale and multiplied by it again is
rounded twice, and comes back. -/
theorem Rounds.recovers (full : |i| ≤ 32767) (quotient : Rounds .binary32 (i / 32767) a)
    (product : Rounds .binary32 (a * 32767) b) : b = i := by
  have positive {m : Nat} {a b : ℚ} (full : m ≤ 32767)
      (quotient : Rounds .binary32 (m / 32767) a) (product : Rounds .binary32 (a * 32767) b) :
      b = m := by
    obtain rfl | pos := Nat.eq_zero_or_pos m
    · have zero := quotient.eq_of_representable (by simpa using representable_zero _)
      rw [zero] at product
      simpa using product.eq_of_representable (by simpa using representable_zero _)
    · have short : m.log2 ≤ 14 := Nat.le_of_lt_succ ((Nat.log2_lt pos.ne').mpr (by omega))
      obtain power | more := (Nat.log2_self_le pos.ne').eq_or_lt
      · rw [← power, Nat.cast_pow, Nat.cast_ofNat] at quotient ⊢
        exact quotient.recovers_two_pow short product
      · exact quotient.recovers_of_size more Nat.lt_log2_self short product
  obtain ⟨m, rfl | rfl⟩ := i.eq_nat_or_neg
  · rw [Nat.abs_cast] at full
    rw [Int.cast_natCast] at quotient ⊢
    exact positive (by omega) quotient product
  · rw [abs_neg, Nat.abs_cast] at full
    -- Rounding does not depend on the sign.
    have quotient : Rounds .binary32 (m / 32767) (-a) := by
      have mirrored := quotient.signed .negative
      rwa [factor, neg_one_mul, neg_one_mul, Int.cast_neg, neg_div, neg_neg, Int.cast_natCast]
        at mirrored
    have product : Rounds .binary32 (-a * 32767) (-b) := by
      have mirrored := product.signed .negative
      rwa [factor, neg_one_mul, neg_one_mul, ← neg_mul] at mirrored
    have result := positive (by omega) quotient product
    push_cast
    linarith

end

namespace Single

open Encoding

variable {x y : Float32} {p : ℚ} {n : Int16}

theorem toRat?_neg_one : toRat? (-1.0) = some (-1) :=
  toRat?_neg toRat?_one (le_large (by norm_num))

theorem isNaN_mul (nan : x.isNaN) (y : Float32) : (x * y).isNaN := by
  have product : Float.Model.UnpackedFloat.mul .binary32 x.toModel.unpack y.toModel.unpack =
      .notANumber := by
    rw [unpack_of_isNaN nan]
    cases y.toModel.unpack <;> rfl
  change (Float.Model.UnpackedFloat.unpack .binary32 (Float.Model.UnpackedFloat.pack .binary32
    (.mul .binary32 x.toModel.unpack y.toModel.unpack))).isNaN = true
  rw [product]
  rfl

theorem le_toInt_saturate16 {i : Int} (least : -32767 ≤ i) : -32767 ≤ (saturate16 i).toInt := by
  rw [saturate16, if_neg (by omega)]
  split
  · decide
  · rw [Int16.toInt_ofInt_of_le (by omega) (by omega)]
    exact least

/-- A word between the two ends of full scale comes back from its number. -/
theorem quantize_dequantize (full : -32767 ≤ n.toInt) : quantize (dequantize n) = n := by
  have most := n.toInt_lt
  have bound : |n.toInt| ≤ 32767 := abs_le.mpr ⟨full, by omega⟩
  have scaled : |(n.toInt : ℚ) / 32767| ≤ 1 := by
    rw [abs_div, abs_of_pos (by norm_num : (0 : ℚ) < 32767), div_le_one (by norm_num)]
    exact_mod_cast bound
  obtain ⟨a, quotient, first⟩ := toRat?_div (toRat?_ofInt16 n) toRat?_fullScale (by norm_num)
    (le_large (scaled.trans (by norm_num)))
  -- The quotient is not out of bounds, so clamping leaves it.
  have one : Representable .binary32 1 := representable_intCast (i := 1) (by norm_num)
  have above : -1 ≤ a := first.ge one.neg (neg_le_of_abs_le scaled)
  have below : a ≤ 1 := first.le one (le_of_abs_le scaled)
  have kept : clamp32 (dequantize n) (-1.0) 1.0 = dequantize n := by
    have low : ¬ dequantize n < -1.0 := by
      rw [dequantize, lt_iff quotient toRat?_neg_one]
      exact not_lt.mpr above
    have high : ¬ 1.0 < dequantize n := by
      rw [dequantize, lt_iff toRat?_one quotient]
      exact not_lt.mpr below
    rw [clamp32, if_neg low, if_neg high]
  have size : |a * 32767| ≤ 2 ^ 100 := by
    rw [abs_mul]
    have unit : |a| ≤ 1 := abs_le.mpr ⟨above, below⟩
    norm_num
    linarith
  obtain ⟨b, product, second⟩ := toRat?_mul quotient toRat?_fullScale (le_large size)
  rw [first.recovers bound second] at product
  rw [quantize, kept]
  exact toInt16_eq product

/-- The lowest word stands for no number that there is. -/
theorem le_quantize (x : Float32) : -32767 ≤ (quantize x).toInt := by
  cases number : x.isNaN with
  | true =>
    have clamped : clamp32 x (-1.0) 1.0 = x := by
      rw [clamp32, if_neg (not_lt_of_isNaN number _), if_neg (not_lt_isNaN number _)]
    rw [quantize, clamped, toInt16, signed16, if_neg (not_lt_of_isNaN (isNaN_mul number _) _)]
    exact le_toInt_saturate16 (by omega)
  | false =>
    obtain ⟨a, clamped, above, below⟩ :=
      toRat?_clamp32 toRat?_neg_one toRat?_one (by norm_num) number
    have size : |a * 32767| ≤ 32767 := by
      rw [abs_mul, abs_of_pos (by norm_num : (0 : ℚ) < 32767)]
      have unit : |a| ≤ 1 := abs_le.mpr ⟨above, below⟩
      linarith
    obtain ⟨b, product, rounds⟩ :=
      toRat?_mul clamped toRat?_fullScale (le_large (size.trans (by norm_num)))
    have full : Representable .binary32 32767 := representable_intCast (i := 32767) (by norm_num)
    have least : -32767 ≤ b := rounds.ge full.neg (neg_le_of_abs_le size)
    have most : b ≤ 32767 := rounds.le full (le_of_abs_le size)
    rw [quantize, toInt16, signed16]
    split
    · rename_i negative
      rw [lt_iff product toRat?_zero] at negative
      have opposite := toRat?_neg product
        (le_large ((abs_le.mpr ⟨least, most⟩).trans (by norm_num)))
      have magnitude : truncated (-(clamp32 x (-1.0) 1.0 * fullScale)) ≤ 32767 := by
        rw [truncated, toNat_toUInt32 opposite (by linarith) (by linarith)]
        exact Nat.floor_le_of_le (by push_cast; linarith)
      exact le_toInt_saturate16 (by omega)
    · exact le_toInt_saturate16 (by omega)

end Single

end SamplePlayer.Number
