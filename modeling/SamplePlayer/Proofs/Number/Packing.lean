import SamplePlayer.Proofs.Number.Rounding

/-!
# Bit patterns

A number in its canonical form can be packed into a bit pattern of the format and unpacked again if
its exponent is not too large, and what is unpacked from a bit pattern is in canonical form. So
nothing is lost when the result of an operation is stored, short of an overflow.

## Main results

* `canonical_unpack`: bit patterns stand for numbers in canonical form.
* `unpack_pack`: packing loses nothing.
-/

namespace SamplePlayer.Number

open Float.Model Float.Model.UnpackedFloat

variable {spec : Format} {s : Sign} {m : Nat} {e : Int} {q : ℚ} {u : UnpackedFloat}

/-! ### Exponents -/

theorem minExponent_eq (spec : Format) :
    spec.minExponent = 1 - spec.exponentBias - spec.mantissaBitsWithoutImplicit := by
  have pos : 1 ≤ 2 ^ (spec.exponentBits - 1) := Nat.one_le_two_pow
  unfold Format.minExponent Format.exponentBias Format.mantissaBits
  push_cast [Nat.cast_sub pos]
  ring

theorem two_pow_exponentBits (spec : Format) :
    2 ^ spec.exponentBits = 2 * (spec.exponentBias + 1) := by
  have pos : 1 ≤ 2 ^ (spec.exponentBits - 1) := Nat.one_le_two_pow
  have bits : spec.exponentBits = spec.exponentBits - 1 + 1 := by
    have := spec.he
    omega
  rw [Format.exponentBias, Nat.sub_add_cancel pos, ← pow_succ', ← bits]

theorem toNat_allOnes_exponent (spec : Format) :
    (-1#(spec.exponentBits)).toNat = 2 ^ spec.exponentBits - 1 := by
  rw [BitVec.neg_one_eq_allOnes, BitVec.toNat_allOnes]

theorem zero_ne_allOnes_exponent (spec : Format) : 0#(spec.exponentBits) ≠ -1#_ := by
  intro same
  have ones := toNat_allOnes_exponent spec
  rw [← same, BitVec.toNat_zero] at ones
  have := two_pow_exponentBits spec
  omega

/-! ### Unpacking -/

theorem toNat_append_implicit {n : Nat} (b : BitVec n) : (1#1 ++ b).toNat = 2 ^ n + b.toNat := by
  rw [BitVec.toNat_append, ← Nat.shiftLeft_add_eq_or_of_lt b.isLt, Nat.shiftLeft_eq]
  simp

theorem mantissaBits_eq (spec : Format) :
    2 ^ spec.mantissaBits = 2 * 2 ^ spec.mantissaBitsWithoutImplicit ∧
      spec.mantissaBits - 1 = spec.mantissaBitsWithoutImplicit := by
  unfold Format.mantissaBits
  exact ⟨by rw [pow_add, pow_one], by omega⟩

/-- What a bit pattern stands for is in canonical form. -/
theorem canonical_unpack (b : BitVec spec.numBits) :
    Canonical spec (UnpackedFloat.unpack spec b) := by
  obtain ⟨power, bits⟩ := mantissaBits_eq spec
  have mantissa := (unpackMantissa b).isLt
  unfold UnpackedFloat.unpack
  dsimp only
  split
  · split <;> trivial
  · split
    · rename_i zero
      split
      · trivial
      · refine ⟨by omega, ?_, .inl ?_⟩
        all_goals
          rw [zero, minExponent_eq]
          simp
          omega
    · rename_i some
      have pos : 0 < (unpackExponent b).toNat := by
        rwa [BitVec.toNat_pos, BitVec.pos_iff_ne_zero]
      rw [Canonical, toNat_append_implicit, bits, minExponent_eq]
      refine ⟨by omega, by omega, .inr (by omega)⟩

/-! ### Packing -/

/-- The exponent that is stored with a number whose mantissa has all its bits. -/
theorem stored_exponent (least : spec.minExponent ≤ e)
    (most : e ≤ spec.exponentBias - spec.mantissaBitsWithoutImplicit) :
    ∃ b : Nat, (e + spec.exponentBias + spec.mantissaBitsWithoutImplicit).toNat = b ∧
      (b : Int) = e + (spec.exponentBias + spec.mantissaBitsWithoutImplicit) ∧ 0 < b ∧
        b + 1 < 2 ^ spec.exponentBits := by
  rw [minExponent_eq] at least
  rw [two_pow_exponentBits]
  exact ⟨_, rfl, by omega, by omega, by omega⟩

/-- Packing a number whose mantissa has all its bits loses nothing. -/
theorem unpack_pack_normal (pos : 0 < m) (room : m < 2 ^ spec.mantissaBits)
    (many : 2 ^ spec.mantissaBitsWithoutImplicit ≤ m) (least : spec.minExponent ≤ e)
    (most : e ≤ spec.exponentBias - spec.mantissaBitsWithoutImplicit) :
    UnpackedFloat.unpack spec (UnpackedFloat.pack spec (.finite s m e pos)) =
      .finite s m e pos := by
  obtain ⟨power, bits⟩ := mantissaBits_eq spec
  obtain ⟨b, stored, exponent, some, fits⟩ := stored_exponent least most
  have log : m.log2 + 1 = spec.mantissaBits := by
    have exact : m.log2 = spec.mantissaBitsWithoutImplicit := by
      rw [Nat.log2_eq_iff pos.ne', pow_succ']
      omega
    rw [exact, Format.mantissaBits, Nat.add_comm]
  have packed : UnpackedFloat.pack spec (.finite s m e pos) =
      packComponents spec s (.ofNat _ b) (.ofNat _ m) := by
    unfold UnpackedFloat.pack
    simp only [stored]
    rw [if_neg (by omega), if_pos log]
  have exponentField : (BitVec.ofNat spec.exponentBits b).toNat = b := by
    rw [BitVec.toNat_ofNat, Nat.mod_eq_of_lt (by omega)]
  have notOnes : BitVec.ofNat spec.exponentBits b ≠ -1#_ := by
    intro same
    have ones := toNat_allOnes_exponent spec
    rw [← same, exponentField] at ones
    omega
  have notZero : BitVec.ofNat spec.exponentBits b ≠ 0#_ := by
    intro same
    rw [same, BitVec.toNat_zero] at exponentField
    omega
  -- The first bit is implied and comes back.
  have mantissaField :
      (1#1 ++ BitVec.ofNat spec.mantissaBitsWithoutImplicit m).toNat = m := by
    rw [toNat_append_implicit, BitVec.toNat_ofNat, Nat.mod_eq_sub_mod many,
      Nat.mod_eq_of_lt (by omega)]
    omega
  rw [packed]
  unfold UnpackedFloat.unpack
  simp only [unpackMantissa_packComponents, unpackExponent_packComponents,
    unpackSign_packComponents, Sign.ofBitVec_toBitVec, notOnes, notZero, if_false, mantissaField,
    exponentField]
  congr 1
  omega

/-- Packing a number below all those whose mantissa has all its bits loses nothing. -/
theorem unpack_pack_subnormal (pos : 0 < m) (few : m < 2 ^ spec.mantissaBitsWithoutImplicit)
    (most : spec.minExponent ≤ spec.exponentBias - spec.mantissaBitsWithoutImplicit) :
    UnpackedFloat.unpack spec (UnpackedFloat.pack spec (.finite s m spec.minExponent pos)) =
      .finite s m spec.minExponent pos := by
  obtain ⟨b, stored, exponent, some, fits⟩ := stored_exponent le_rfl most
  have log : m.log2 + 1 ≠ spec.mantissaBits := by
    have short := (Nat.log2_lt pos.ne').mpr few
    unfold Format.mantissaBits
    omega
  have packed : UnpackedFloat.pack spec (.finite s m spec.minExponent pos) =
      packComponents spec s 0#_ (.ofNat _ m) := by
    unfold UnpackedFloat.pack
    simp only [stored]
    rw [if_neg (by omega), if_neg log]
  have mantissaField : (BitVec.ofNat spec.mantissaBitsWithoutImplicit m).toNat = m := by
    rw [BitVec.toNat_ofNat, Nat.mod_eq_of_lt few]
  have notZero : BitVec.ofNat spec.mantissaBitsWithoutImplicit m ≠ 0#_ := by
    intro same
    rw [same, BitVec.toNat_zero] at mantissaField
    omega
  rw [packed]
  unfold UnpackedFloat.unpack
  simp only [unpackMantissa_packComponents, unpackExponent_packComponents,
    unpackSign_packComponents, Sign.ofBitVec_toBitVec, zero_ne_allOnes_exponent, if_false, if_true,
    notZero, dite_false, mantissaField]
  congr 1
  rw [minExponent_eq]
  simp
  omega

theorem unpack_pack_zero (spec : Format) (s : Sign) :
    UnpackedFloat.unpack spec (UnpackedFloat.pack spec (.zero s)) = .zero s := by
  unfold UnpackedFloat.pack packedZero UnpackedFloat.unpack
  simp [spec.he.ne']

/-- The exponent of a number that does not overflow is not too large. -/
theorem exponent_le {pos : 0 < m} (wide : 1 < spec.exponentBits)
    (canonical : Canonical spec (.finite s m e pos))
    (small : (m : ℚ) * 2 ^ e ≤ 2 ^ (spec.exponentBias : ℤ)) :
    e ≤ spec.exponentBias - spec.mantissaBitsWithoutImplicit := by
  obtain ⟨-, -, least | many⟩ := canonical
  · have bias : 1 ≤ spec.exponentBias := by
      have power := Nat.pow_le_pow_right (n := 2) (by norm_num)
        (show 1 ≤ spec.exponentBits - 1 by omega)
      unfold Format.exponentBias
      omega
    rw [least, minExponent_eq]
    omega
  · rw [(mantissaBits_eq spec).2] at many
    have power : (2 : ℚ) ^ (spec.mantissaBitsWithoutImplicit + e) ≤
        2 ^ (spec.exponentBias : ℤ) := by
      refine le_trans ?_ small
      rw [zpow_add₀ two_ne_zero, zpow_natCast]
      exact mul_le_mul_of_nonneg_right (by exact_mod_cast many) (zpow_pos two_pos e).le
    have exponents := (zpow_le_zpow_iff_right₀ (by norm_num : (1 : ℚ) < 2)).mp power
    omega

/-- Packing a number that does not overflow loses nothing. -/
theorem unpack_pack (wide : 1 < spec.exponentBits) (canonical : Canonical spec u)
    (value : value? u = some q) (small : |q| ≤ 2 ^ (spec.exponentBias : ℤ)) :
    UnpackedFloat.unpack spec (UnpackedFloat.pack spec u) = u := by
  cases u with
  | zero s => exact unpack_pack_zero spec s
  | infinity | notANumber => cases value
  | finite s m e pos =>
    obtain rfl := Option.some.inj value
    rw [abs_mul, abs_factor, one_mul, abs_of_nonneg (by positivity)] at small
    have most := exponent_le wide canonical small
    obtain ⟨room, least, full⟩ := canonical
    by_cases many : 2 ^ spec.mantissaBitsWithoutImplicit ≤ m
    · exact unpack_pack_normal pos room many least most
    · rw [(mantissaBits_eq spec).2] at full
      obtain rfl := full.resolve_right many
      exact unpack_pack_subnormal pos (not_le.mp many) most

end SamplePlayer.Number
