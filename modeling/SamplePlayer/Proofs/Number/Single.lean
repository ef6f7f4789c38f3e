import SamplePlayer.OutputFormat
import SamplePlayer.Proofs.Number.Arithmetic

/-!
# Single precision numbers

The operations on single precision numbers, seen as operations on rational numbers. A 16-bit word is
exact as a number. Brought to a number between -1 and 1 and back to full scale it is rounded twice,
by less than a quarter altogether, so the nearest word is the word itself.

## Main definitions

* `Single.toRat?`: the rational number that a single precision number stands for, if it does.

## Main results

* `Single.toRat?_add`, `Single.toRat?_sub`, `Single.toRat?_mul`, `Single.toRat?_div`: the
  operations.
* `Single.nearest_eq`: a number close to a count is rounded to it.
* `Single.roundToInt16_dequantize`: words survive the way to a number and back.
-/

namespace SamplePlayer.Number

open Float.Model

namespace Single

/-- The rational number that a single precision number stands for, if it does. -/
def toRat? (x : Float32) : Option ℚ := value? x.toModel.unpack

variable {x y : Float32} {a b q : ℚ} {n : Nat} {i : Int} {u : UnpackedFloat}

/-- A power of two that is not yet too large. -/
def large : ℚ := 2 ^ 127

theorem representable_large : Representable .binary32 large :=
  ⟨1, 127, by norm_num [Format.mantissaBits], by decide, by norm_num [large]⟩

theorem le_large (small : a ≤ 2 ^ 100) : a ≤ large :=
  small.trans (pow_le_pow_right₀ (by norm_num) (by norm_num))

theorem canonical_toModel (x : Float32) : Canonical .binary32 x.toModel.unpack :=
  canonical_unpack _

/-- A result that does not overflow is stored as it is. -/
theorem toRat?_pack (canonical : Canonical .binary32 u) (value : value? u = some q)
    (small : |q| ≤ large) : toRat? (.ofModel (.pack u)) = some q := by
  have bound : |q| ≤ 2 ^ ((Format.exponentBias .binary32 : Nat) : ℤ) := by
    rw [zpow_natCast]
    exact small
  have stored := unpack_pack (by decide) canonical value bound
  change value? (UnpackedFloat.unpack _ (UnpackedFloat.pack _ u)) = _
  rw [stored, value]

/-- The result of an operation that rounds. -/
theorem toRat?_of_rounds
    (rounds : Canonical .binary32 u ∧ ∃ q, value? u = some q ∧ Rounds .binary32 a q)
    (small : |a| ≤ large) :
    ∃ q, toRat? (.ofModel (.pack u)) = some q ∧ Rounds .binary32 a q := by
  obtain ⟨canonical, q, value, rounds⟩ := rounds
  rw [abs_le] at small
  have bound : |q| ≤ large :=
    abs_le.mpr ⟨rounds.ge representable_large.neg small.1, rounds.le representable_large small.2⟩
  exact ⟨q, toRat?_pack canonical value bound, rounds⟩

/-! ### Operations -/

section

variable (first : toRat? x = some a) (second : toRat? y = some b)
include first

theorem toRat?_neg (small : |a| ≤ large) : toRat? (-x) = some (-a) := by
  refine toRat?_pack (canonical_toModel x).neg ?_ (by rwa [abs_neg])
  rw [value?_neg]
  exact congrArg (Option.map _) first

include second

theorem toRat?_add (small : |a + b| ≤ large) :
    ∃ q, toRat? (x + y) = some q ∧ Rounds .binary32 (a + b) q :=
  toRat?_of_rounds (rounds_add (canonical_toModel x) (canonical_toModel y) first second) small

theorem toRat?_sub (small : |a - b| ≤ large) :
    ∃ q, toRat? (x - y) = some q ∧ Rounds .binary32 (a - b) q :=
  toRat?_of_rounds (rounds_sub (canonical_toModel x) (canonical_toModel y) first second) small

theorem toRat?_mul (small : |a * b| ≤ large) :
    ∃ q, toRat? (x * y) = some q ∧ Rounds .binary32 (a * b) q :=
  toRat?_of_rounds (rounds_mul (canonical_toModel x) (canonical_toModel y) first second) small

theorem toRat?_div (nonzero : b ≠ 0) (small : |a / b| ≤ large) :
    ∃ q, toRat? (x / y) = some q ∧ Rounds .binary32 (a / b) q :=
  toRat?_of_rounds (rounds_div (canonical_toModel x) (canonical_toModel y) first second nonzero)
    small

theorem lt_iff : x < y ↔ a < b := by
  have compared := compare_eq (canonical_toModel x) (canonical_toModel y) first second
  have unfolded : x < y ↔ UnpackedFloat.lt x.toModel.unpack y.toModel.unpack = true :=
    decide_eq_true_iff
  rw [unfolded, UnpackedFloat.lt, compared, ← compare_lt_iff_lt]
  simp

theorem le_iff : x ≤ y ↔ a ≤ b := by
  have compared := compare_eq (canonical_toModel x) (canonical_toModel y) first second
  have unfolded : x ≤ y ↔ UnpackedFloat.le x.toModel.unpack y.toModel.unpack = true :=
    decide_eq_true_iff
  rw [unfolded, UnpackedFloat.le, compared, ← compare_le_iff_le]
  simp [Ordering.isLE_iff_ne_gt]

theorem beq_iff : (x == y) = true ↔ a = b := by
  have compared := compare_eq (canonical_toModel x) (canonical_toModel y) first second
  have unfolded : (x == y) = UnpackedFloat.beq x.toModel.unpack y.toModel.unpack := rfl
  rw [unfolded, UnpackedFloat.beq, compared, ← compare_eq_iff_eq]
  simp

end

/-! ### Integers -/

theorem toRat?_zero : toRat? 0.0 = some 0 := rfl

theorem toRat?_one : toRat? 1.0 = some 1 := by
  change some (1 * (((2 ^ 23 : Nat) : ℚ) * 2 ^ (-23 : ℤ))) = _
  norm_num

theorem toRat?_half : toRat? 0.5 = some (1 / 2) := by
  change some (1 * (((2 ^ 23 : Nat) : ℚ) * 2 ^ (-24 : ℤ))) = _
  norm_num

theorem toRat?_fullScale : toRat? Encoding.fullScale = some 32767 := by
  change some (1 * (((16776704 : Nat) : ℚ) * 2 ^ (-9 : ℤ))) = _
  norm_num

/-- Integers of up to 24 bits can be represented. -/
theorem representable_intCast (small : |i| ≤ 2 ^ 24) : Representable .binary32 i :=
  ⟨i, 0, small, by decide, by simp⟩

theorem toRat?_ofInt (small : |i| ≤ 2 ^ 24) :
    toRat? (.ofModel (.pack (.ofInt .binary32 i))) = some (i : ℚ) := by
  have bound : |(i : ℚ)| ≤ 2 ^ 24 := by exact_mod_cast small
  have rounds := rounds_normalize .binary32 i 0 .positive
  rw [zpow_zero, mul_one] at rounds
  obtain ⟨q, value, rounds⟩ :=
    toRat?_of_rounds rounds (bound.trans (pow_le_pow_right₀ (by norm_num) (by norm_num)))
  rw [← rounds.eq_of_representable (representable_intCast small)]
  exact value

theorem toRat?_ofUInt32 {n : UInt32} (small : n.toNat ≤ 2 ^ 24) :
    toRat? n.toFloat32 = some (n.toNat : ℚ) := by
  have exact := toRat?_ofInt (i := n.toNat) (by simpa using small)
  exact exact

theorem abs_toInt_le (n : Int16) : |(n.toInt : ℚ)| ≤ 2 ^ 15 := by
  have low := n.le_toInt
  have high := n.toInt_lt
  have bound : |n.toInt| ≤ 2 ^ 15 := abs_le.mpr ⟨by omega, by omega⟩
  exact_mod_cast bound

theorem toRat?_ofInt16 (n : Int16) : toRat? (ofInt16 n) = some (n.toInt : ℚ) := by
  have low := n.le_toInt
  have high := n.toInt_lt
  have word : n.toInt.natAbs.toUInt32.toNat = n.toInt.natAbs := by
    rw [Nat.toUInt32, UInt32.toNat_ofNat_of_lt']
    change _ < 2 ^ 32
    omega
  have magnitude := toRat?_ofUInt32 (n := n.toInt.natAbs.toUInt32) (by omega)
  rw [word] at magnitude
  have absolute : ((n.toInt.natAbs : Nat) : ℚ) = |(n.toInt : ℚ)| := by
    rw [Nat.cast_natAbs, Int.cast_abs]
  rw [absolute] at magnitude
  have zero : n < 0 ↔ (n.toInt : ℚ) < 0 := by
    rw [Int16.lt_iff_toInt_lt]
    exact_mod_cast Iff.rfl
  unfold ofInt16
  simp only [zero]
  split
  · rename_i negative
    have small : |(|(n.toInt : ℚ)|)| ≤ large := by
      rw [abs_abs]
      exact le_large ((abs_toInt_le n).trans (by norm_num))
    rw [toRat?_neg magnitude small, abs_of_neg negative, neg_neg]
  · rename_i positive
    rw [magnitude, abs_of_nonneg (not_lt.mp positive)]

/-- The integer part of a positive number. -/
theorem toNat_toUInt32 (value : toRat? x = some a) (nonneg : 0 ≤ a) (small : a < 2 ^ 32) :
    x.toUInt32.toNat = ⌊a⌋₊ := by
  have whole := toInt_eq value 0 (UInt32.size - 1)
  change (UInt32.ofNatClamp (UnpackedFloat.toInt 0 (UInt32.size - 1) x.toModel.unpack).toNat).toNat
    = _
  rw [whole, if_pos nonneg]
  have bound : ⌊a⌋₊ < 2 ^ 32 := (Nat.floor_lt nonneg).mpr (by exact_mod_cast small)
  rw [Int.floor_toNat, UInt32.ofNatClamp_eq_ofNat _ bound, UInt32.toNat_ofNat_of_lt' bound]

/-- The error of rounding a number of a given size. -/
theorem abs_sub_le_of_rounds (rounds : Rounds .binary32 a q) (least : -126 ≤ i)
    (bound : |a| ≤ 2 ^ i) : |q - a| ≤ 2 ^ (i - 24) := by
  obtain error | error := rounds.error
  · have unit : (2 : ℚ) ^ i / 2 ^ 24 = 2 ^ (i - 24) := by
      rw [zpow_sub₀ two_ne_zero]
      norm_num
    exact error.trans (unit ▸ div_le_div_of_nonneg_right bound (by positivity))
  · exact error.trans (zpow_le_zpow_right₀ one_le_two (by
      change -149 - 1 ≤ i - 24
      omega))

/-- A number that is close to a count is rounded to it. -/
theorem nearest_eq {k : Nat} (value : toRat? x = some a) (nonneg : 0 ≤ a)
    (close : |a - k| ≤ 1 / 4) (small : k ≤ 2 ^ 16) : nearest x = k := by
  obtain ⟨low, high⟩ := abs_le.mp close
  have small : (k : ℚ) ≤ 2 ^ 16 := by exact_mod_cast small
  have whole := toNat_toUInt32 value nonneg (by linarith)
  have below : (⌊a⌋₊ : ℚ) ≤ a := Nat.floor_le nonneg
  have above : a < ⌊a⌋₊ + 1 := Nat.lt_floor_add_one a
  have count : x.toUInt32.toNat ≤ 2 ^ 24 := by
    rw [whole]
    exact_mod_cast (below.trans (by linarith) : (⌊a⌋₊ : ℚ) ≤ 2 ^ 24)
  have integer := toRat?_ofUInt32 count
  rw [whole] at integer
  have moderate : |a - ⌊a⌋₊| ≤ large := by
    refine le_large (abs_le.mpr ⟨by linarith, by linarith⟩)
  obtain ⟨d, difference, rounds⟩ := toRat?_sub value integer moderate
  have quarter : Representable .binary32 (1 / 4) :=
    ⟨1, -2, by norm_num [Format.mantissaBits], by decide, by norm_num⟩
  have half : Representable .binary32 (1 / 2) :=
    ⟨1, -1, by norm_num [Format.mantissaBits], by decide, by norm_num⟩
  simp only [nearest, le_iff toRat?_half difference, whole]
  -- The integer part is the count itself or the one before it.
  by_cases reached : (k : ℚ) ≤ a
  · have floor : ⌊a⌋₊ = k := by
      rw [Nat.floor_eq_iff nonneg]
      exact ⟨reached, by linarith⟩
    rw [floor] at rounds ⊢
    have least := rounds.le quarter (by linarith)
    rw [if_neg (by linarith)]
  · have short : a < k := not_le.mp reached
    have positive : 0 < k := by exact_mod_cast nonneg.trans_lt short
    have floor : ⌊a⌋₊ = k - 1 := by
      rw [Nat.floor_eq_iff nonneg, Nat.cast_sub positive]
      exact ⟨by push_cast; linarith, by push_cast; linarith⟩
    rw [floor, Nat.cast_sub positive] at rounds
    have most := rounds.ge half (by push_cast; linarith)
    rw [if_pos most, floor]
    omega

theorem saturate16_toInt (n : Int16) : saturate16 n.toInt = n := by
  have low := n.le_toInt
  have high := n.toInt_lt
  rw [saturate16, if_neg (by omega), if_neg (by omega), Int16.ofInt_toInt]

/-- A number is brought to the word that it is close to if its magnitude is brought to the count
that it is close to. -/
theorem signed16_eq {magnitude : Float32 → Nat} {x : Float32} {p distance : ℚ}
    (value : toRat? x = some p) (n : Int16) (close : |p - n.toInt| ≤ distance)
    (within : distance < 1) (right : ∀ {y : Float32} {q : ℚ} {k : Nat}, toRat? y = some q → 0 ≤ q →
      |q - k| ≤ distance → k ≤ 2 ^ 16 → magnitude y = k) : signed16 magnitude x = n := by
  have bound := abs_toInt_le n
  have size : n.toInt.natAbs ≤ 2 ^ 16 := by
    have low := n.le_toInt
    have high := n.toInt_lt
    omega
  obtain ⟨low, high⟩ := abs_le.mp close
  unfold signed16
  simp only [lt_iff value toRat?_zero]
  split
  · rename_i negative
    have sign : n.toInt ≤ 0 := by
      have below : (n.toInt : ℚ) < 1 := by linarith
      have integer : n.toInt < 1 := by exact_mod_cast below
      omega
    have opposite : ((n.toInt.natAbs : Nat) : ℚ) = -n.toInt := by
      rw [Nat.cast_natAbs, abs_of_nonpos sign]
      push_cast
      rfl
    have small : |p| ≤ large := by
      obtain ⟨least, most⟩ := abs_le.mp bound
      exact le_large (abs_le.mpr ⟨by linarith, by linarith⟩)
    rw [right (toRat?_neg value small) (by linarith)
      (by rw [opposite]; exact abs_le.mpr ⟨by linarith, by linarith⟩) size]
    have same : -(n.toInt.natAbs : Int) = n.toInt := by omega
    rw [same, saturate16_toInt]
  · rename_i nonneg
    have sign : 0 ≤ n.toInt := by
      have above : (-1 : ℚ) < n.toInt := by linarith
      have integer : -1 < n.toInt := by exact_mod_cast above
      omega
    have same : (n.toInt.natAbs : Int) = n.toInt := by omega
    have count : ((n.toInt.natAbs : Nat) : ℚ) = n.toInt := by
      rw [Nat.cast_natAbs, abs_of_nonneg sign]
    rw [right value (not_lt.mp nonneg) (by rwa [count]) size, same, saturate16_toInt]

/-- A number within a quarter of a word is rounded to that word. -/
theorem roundToInt16_eq {x : Float32} {p : ℚ} (value : toRat? x = some p) (n : Int16)
    (close : |p - n.toInt| ≤ 1 / 4) : roundToInt16 x = n :=
  signed16_eq value n close (by norm_num) nearest_eq

/-- The integer part of a number that is a word is that word. -/
theorem toInt16_eq {x : Float32} {n : Int16} (value : toRat? x = some (n.toInt : ℚ)) :
    toInt16 x = n := by
  refine signed16_eq value n (by simp) one_pos ?_
  intro y q k value nonneg close small
  have exact : q = k := by simpa [sub_eq_zero] using close
  have small : q < 2 ^ 32 := by
    rw [exact]
    exact_mod_cast small.trans_lt (by norm_num)
  rw [truncated, toNat_toUInt32 value nonneg small, exact, Nat.floor_natCast]

/-- A word goes to a number and back unchanged. -/
theorem roundToInt16_dequantize (n : Int16) :
    roundToInt16 (Encoding.dequantize n * Encoding.fullScale) = n := by
  have bound := abs_toInt_le n
  have scaled : |(n.toInt : ℚ) / 32767| ≤ 2 ^ (1 : ℤ) := by
    rw [abs_div, abs_of_pos (by norm_num : (0 : ℚ) < 32767), div_le_iff₀ (by norm_num)]
    exact bound.trans (by norm_num)
  -- The quotient is rounded, and so is its product with full scale.
  obtain ⟨a, quotient, rounds⟩ := toRat?_div (toRat?_ofInt16 n) toRat?_fullScale (by norm_num)
    (le_large (scaled.trans (by norm_num)))
  have first : |a - n.toInt / 32767| ≤ 1 / 2 ^ 23 :=
    (abs_sub_le_of_rounds rounds (by norm_num) scaled).trans (by norm_num)
  have back : |a * 32767 - n.toInt| ≤ 1 / 8 := by
    have factored : a * 32767 - n.toInt = (a - n.toInt / 32767) * 32767 := by ring
    rw [factored, abs_mul, abs_of_pos (by norm_num : (0 : ℚ) < 32767)]
    linarith
  have size : |a * 32767| ≤ 2 ^ (16 : ℤ) := by
    have far := abs_add_le (a * 32767 - n.toInt) n.toInt
    rw [sub_add_cancel] at far
    have least : |a * 32767| ≤ 1 / 8 + 2 ^ 15 := by linarith
    exact least.trans (by norm_num)
  obtain ⟨p, product, rounds'⟩ := toRat?_mul quotient toRat?_fullScale
    (le_large (size.trans (by norm_num)))
  have second : |p - a * 32767| ≤ 1 / 2 ^ 8 :=
    (abs_sub_le_of_rounds rounds' (by norm_num) size).trans (by norm_num)
  refine roundToInt16_eq product n ?_
  calc |p - n.toInt| ≤ |p - a * 32767| + |a * 32767 - n.toInt| := abs_sub_le ..
    _ ≤ 1 / 4 := by linarith

end Single

end SamplePlayer.Number
