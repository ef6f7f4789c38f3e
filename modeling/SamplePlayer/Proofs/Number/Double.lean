import SamplePlayer.Proofs.Number.Arithmetic

/-!
# Double precision numbers

The operations on double precision numbers, seen as operations on rational numbers: they round the
exact result unless it overflows, integers of up to 53 bits are exact, and so are comparisons and
integral parts.

## Main definitions

* `toRat?`: the rational number that a double precision number stands for, if it does.

## Main results

* `toRat?_add`, `toRat?_sub`, `toRat?_mul`, `toRat?_div`: the operations.
* `lt_iff`: comparisons.
* `toRat?_ofInt`, `toRat?_ofCount`, `toRat?_ofUInt32`: integers.
* `toCount_eq`, `toRat?_floor`, `toRat?_ceil`: integral parts.
-/

namespace SamplePlayer.Number

open Float.Model

/-- The rational number that a double precision number stands for, if it does. -/
def toRat? (x : Float) : Option ℚ := value? x.toModel.unpack

variable {x y : Float} {a b q : ℚ} {n : Nat} {i : Int} {u : UnpackedFloat}

/-- A power of two that is not yet too large. -/
def large : ℚ := 2 ^ 1023

theorem representable_large : Representable .binary64 large :=
  ⟨1, 1023, by norm_num [Format.mantissaBits], by decide, by norm_num [large]⟩

theorem le_large (small : a ≤ 2 ^ 100) : a ≤ large :=
  small.trans (pow_le_pow_right₀ (by norm_num) (by norm_num))

/-- Powers of two can be represented unless they are very small. -/
theorem representable_two_zpow (least : -1074 ≤ i) : Representable .binary64 (2 ^ i) :=
  ⟨1, i, by norm_num [Format.mantissaBits], least, by norm_num⟩

/-- The relative error of rounding a number that is not very small. -/
theorem Rounds.relative (rounds : Rounds .binary64 a q) (big : 1 / 2 ^ 100 ≤ |a|) :
    |q - a| ≤ |a| / 2 ^ 53 := by
  refine rounds.relative_of_normal (le_trans ?_ big)
  rw [one_div, ← zpow_natCast, ← zpow_neg]
  exact zpow_le_zpow_right₀ one_le_two (by decide)

theorem canonical_toModel (x : Float) : Canonical .binary64 x.toModel.unpack :=
  canonical_unpack _

/-- Rounding does not go beyond a power of two. -/
theorem Rounds.abs_le_large (rounds : Rounds .binary64 a q) (small : |a| ≤ large) :
    |q| ≤ large := by
  rw [abs_le] at small ⊢
  exact ⟨rounds.ge representable_large.neg small.1, rounds.le representable_large small.2⟩

/-- A result that does not overflow is stored as it is. -/
theorem toRat?_pack (canonical : Canonical .binary64 u) (value : value? u = some q)
    (small : |q| ≤ large) : toRat? (.ofModel (.pack u)) = some q := by
  have bound : |q| ≤ 2 ^ ((Format.exponentBias .binary64 : Nat) : ℤ) := by
    rw [zpow_natCast]
    exact small
  have stored := unpack_pack (by decide) canonical value bound
  change value? (UnpackedFloat.unpack _ (UnpackedFloat.pack _ u)) = _
  rw [stored, value]

/-- The result of an operation that rounds. -/
theorem toRat?_of_rounds
    (rounds : Canonical .binary64 u ∧ ∃ q, value? u = some q ∧ Rounds .binary64 a q)
    (small : |a| ≤ large) :
    ∃ q, toRat? (.ofModel (.pack u)) = some q ∧ Rounds .binary64 a q := by
  obtain ⟨canonical, q, value, rounds⟩ := rounds
  exact ⟨q, toRat?_pack canonical value (rounds.abs_le_large small), rounds⟩

/-! ### Operations -/

section

variable (first : toRat? x = some a) (second : toRat? y = some b)
include first

theorem toRat?_neg (small : |a| ≤ large) : toRat? (-x) = some (-a) := by
  refine toRat?_pack (canonical_toModel x).neg ?_ (by rwa [abs_neg])
  rw [value?_neg]
  exact congrArg (Option.map _) first

include second

theorem toRat?_add (small : |a + b| ≤ large) :
    ∃ q, toRat? (x + y) = some q ∧ Rounds .binary64 (a + b) q :=
  toRat?_of_rounds (rounds_add (canonical_toModel x) (canonical_toModel y) first second) small

theorem toRat?_sub (small : |a - b| ≤ large) :
    ∃ q, toRat? (x - y) = some q ∧ Rounds .binary64 (a - b) q :=
  toRat?_of_rounds (rounds_sub (canonical_toModel x) (canonical_toModel y) first second) small

theorem toRat?_mul (small : |a * b| ≤ large) :
    ∃ q, toRat? (x * y) = some q ∧ Rounds .binary64 (a * b) q :=
  toRat?_of_rounds (rounds_mul (canonical_toModel x) (canonical_toModel y) first second) small

theorem toRat?_div (nonzero : b ≠ 0) (small : |a / b| ≤ large) :
    ∃ q, toRat? (x / y) = some q ∧ Rounds .binary64 (a / b) q :=
  toRat?_of_rounds (rounds_div (canonical_toModel x) (canonical_toModel y) first second nonzero)
    small

theorem lt_iff : x < y ↔ a < b := by
  have compared := compare_eq (canonical_toModel x) (canonical_toModel y) first second
  have unfolded : x < y ↔ UnpackedFloat.lt x.toModel.unpack y.toModel.unpack = true :=
    decide_eq_true_iff
  rw [unfolded, UnpackedFloat.lt, compared, ← compare_lt_iff_lt]
  simp

end

/-! ### Integers -/

/-- Integers of up to 53 bits can be represented. -/
theorem representable_intCast (small : |i| ≤ 2 ^ 53) : Representable .binary64 i :=
  ⟨i, 0, small, by decide, by simp⟩

theorem abs_intCast_le_large (small : |i| ≤ 2 ^ 53) : |(i : ℚ)| ≤ large := by
  have bound : |(i : ℚ)| ≤ 2 ^ 53 := by exact_mod_cast small
  exact bound.trans (pow_le_pow_right₀ (by norm_num) (by norm_num))

theorem toRat?_ofInt (small : |i| ≤ 2 ^ 53) : toRat? (ofInt i) = some (i : ℚ) := by
  have rounds := rounds_normalize .binary64 i 0 .positive
  rw [zpow_zero, mul_one] at rounds
  obtain ⟨q, value, rounds⟩ := toRat?_of_rounds rounds (abs_intCast_le_large small)
  rw [← rounds.eq_of_representable (representable_intCast small)]
  exact value

theorem toRat?_ofCount (small : n ≤ 2 ^ 53) : toRat? (ofCount n) = some (n : ℚ) := by
  have same : ofCount n = ofInt n := by
    have word : n.toUInt64.toNat = n := by simp; omega
    change Float.ofModel (.pack (.ofInt _ (n.toUInt64.toNat : ℕ))) = _
    rw [word]
    rfl
  rw [same, toRat?_ofInt (by simpa using small)]
  rfl

theorem toRat?_ofUInt32 (n : UInt32) : toRat? n.toFloat = some (n.toNat : ℚ) := by
  have same : n.toFloat = ofInt n.toNat := rfl
  have bound := n.toNat_lt
  rw [same, toRat?_ofInt (by simp; omega)]
  rfl

/-! ### Integral parts -/

theorem toRat?_zero : toRat? 0.0 = some 0 := rfl

theorem toRat?_one : toRat? 1.0 = some 1 := by
  change some (1 * (((2 ^ 52 : Nat) : ℚ) * 2 ^ (-52 : ℤ))) = _
  norm_num

theorem toRat?_countable : toRat? countable = some (2 ^ 53) := by
  change some (1 * (((2 ^ 52 : Nat) : ℚ) * 2 ^ (1 : ℤ))) = _
  norm_num

/-- The integral part of a number as a count. -/
theorem toCount_eq (value : toRat? x = some a) (small : a < 2 ^ 64) : toCount x = ⌊a⌋₊ := by
  have whole := toInt_eq value 0 (UInt64.size - 1)
  change (UInt64.ofNatClamp (UnpackedFloat.toInt 0 (UInt64.size - 1) x.toModel.unpack).toNat).toNat
    = _
  rw [whole]
  split
  · rename_i positive
    have bound : ⌊a⌋₊ < 2 ^ 64 := (Nat.floor_lt positive).mpr (by exact_mod_cast small)
    rw [Int.floor_toNat, UInt64.ofNatClamp_eq_ofNat _ bound, UInt64.toNat_ofNat_of_lt' bound]
  · -- What is negative counts as nothing.
    rename_i negative
    have below : 0 ≤ ⌊-a⌋ := Int.floor_nonneg.mpr (by linarith)
    rw [Int.toNat_of_nonpos (by omega), Nat.floor_of_nonpos (by linarith)]
    rfl

/-- The integral part is within bounds that are integers. -/
theorem abs_floor_le (bound : |a| ≤ i) : |(⌊a⌋ : ℚ)| ≤ i := by
  obtain ⟨low, high⟩ := abs_le.mp bound
  refine abs_le.mpr ⟨?_, (Int.floor_le a).trans high⟩
  exact_mod_cast Int.le_floor.mpr (by exact_mod_cast low : ((-i : ℤ) : ℚ) ≤ a)

/-- Taking the integral part on the mantissa and the exponent is exact. -/
theorem toRat?_toIntegral (value : toRat? x = some a) :
    toRat? (toIntegral floorQuotient x) = some (⌊a⌋ : ℚ) := by
  have canonical := canonical_toModel x
  unfold toRat? at value
  unfold toIntegral
  split
  · rename_i s m e pos found
    rw [found] at value canonical
    obtain rfl := Option.some.inj value
    obtain ⟨room, -, -⟩ := canonical
    split
    · -- With such an exponent the number is an integer already.
      rename_i whole
      have integral : factor s * (m * 2 ^ e) = ((s.apply m * 2 ^ e.toNat : ℤ) : ℚ) := by
        rw [Int.cast_mul, cast_apply]
        push_cast
        rw [mul_assoc, ← zpow_natCast, Int.toNat_of_nonneg whole]
      rw [integral, Int.floor_intCast, ← integral]
      unfold toRat?
      rw [found]
      rfl
    · rename_i fraction
      have quotient : factor s * (m * 2 ^ e) = (s.apply m : ℤ) / ((2 ^ (-e).toNat : Nat) : ℚ) := by
        have exponent : e = -((-e).toNat : ℤ) := by omega
        rw [cast_apply, mul_div_assoc]
        push_cast
        rw [div_eq_mul_inv, ← zpow_natCast, ← zpow_neg, ← exponent]
      have floor : floorQuotient s m (-e).toNat = ⌊factor s * (m * 2 ^ e)⌋ := by
        rw [quotient, Rat.floor_intCast_div_natCast]
        exact Int.fdiv_eq_ediv_of_nonneg _ (Int.natCast_nonneg _)
      have small : |factor s * (m * 2 ^ e)| ≤ ((2 ^ 53 : Int) : ℚ) := by
        have least : (2 : ℚ) ^ e ≤ 1 := zpow_le_one_of_nonpos₀ (by norm_num) (by omega)
        rw [abs_mul, abs_factor, one_mul, abs_of_nonneg (by positivity)]
        calc (m : ℚ) * 2 ^ e ≤ m * 1 := mul_le_mul_of_nonneg_left least (Nat.cast_nonneg m)
          _ ≤ ((2 ^ 53 : Int) : ℚ) := by
              rw [mul_one]
              exact_mod_cast room.le
      rw [floor, toRat?_ofInt (by exact_mod_cast abs_floor_le small)]
  · rename_i other
    cases found : x.toModel.unpack with
    | finite s m e pos => exact absurd found (other s m e pos)
    | infinity | notANumber =>
      rw [found] at value
      cases value
    | zero s =>
      rw [found] at value
      obtain rfl := Option.some.inj value
      unfold toRat?
      rw [found]
      simp [value?]

theorem toRat?_floor (value : toRat? x = some a) : toRat? (floor x) = some (⌊a⌋ : ℚ) := by
  unfold floor
  split
  · rename_i short
    rw [lt_iff toRat?_zero value, lt_iff value toRat?_countable] at short
    have count := toCount_eq value (short.2.trans (by norm_num))
    have bound : ⌊a⌋₊ ≤ 2 ^ 53 := (Nat.floor_lt short.1.le).mpr (by exact_mod_cast short.2) |>.le
    rw [count, toRat?_ofCount bound, ← Int.natCast_floor_eq_floor short.1.le]
    rfl
  · exact toRat?_toIntegral value

theorem toRat?_ceil (value : toRat? x = some a) (small : |a| ≤ large) :
    toRat? (ceil x) = some (⌈a⌉ : ℚ) := by
  obtain ⟨bound, integral⟩ : ∃ bound : Int, large = bound :=
    ⟨2 ^ 1023, by rw [Int.cast_pow, Int.cast_ofNat, large]⟩
  have whole : |(⌊-a⌋ : ℚ)| ≤ large := by
    rw [integral] at small ⊢
    exact abs_floor_le (by rwa [abs_neg])
  rw [ceil, toRat?_neg (toRat?_floor (toRat?_neg value small)) whole, Int.floor_neg]
  simp

end SamplePlayer.Number
