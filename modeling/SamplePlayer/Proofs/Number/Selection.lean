import SamplePlayer.Proofs.Number.Double
import SamplePlayer.Proofs.Number.Single

/-!
# Numbers that are brought within bounds

Callers may hand in any bit pattern as a number. A number that is no NaN is either a rational number
or lies beyond all of them, and clamping brings it within its bounds.

## Main results

* `value?_clamp`, `toRat?_clamp`, `Single.toRat?_clamp32`: clamping.
* `toRat?_widen`: single precision numbers in double precision.
* `Single.toRat?_ofUInt32_rounds`: counts in single precision, rounded if they are long.
-/

namespace SamplePlayer.Number

open Float.Model

/-- What is neither a rational number nor NaN lies beyond all rational numbers. -/
theorem infinite_cases {u : UnpackedFloat} (infinite : value? u = none) (number : u.isNaN = false) :
    (∀ {w : UnpackedFloat} {b : ℚ}, value? w = some b → w.lt u = true ∧ u.lt w = false) ∨
      ∀ {w : UnpackedFloat} {b : ℚ}, value? w = some b → u.lt w = true := by
  cases u with
  | finite | zero => simp [value?] at infinite
  | notANumber => simp [UnpackedFloat.isNaN] at number
  | infinity s =>
    cases s with
    | positive =>
      refine .inl fun {w b} value => ?_
      cases w <;> simp [value?] at value <;> exact ⟨rfl, rfl⟩
    | negative =>
      refine .inr fun {w b} value => ?_
      cases w <;> simp [value?] at value <;> rfl

section

variable {spec : Format} {u w lo hi : UnpackedFloat} {a b : ℚ}

theorem lt_iff_of_value (left : Canonical spec u) (right : Canonical spec w)
    (first : value? u = some a) (second : value? w = some b) : u.lt w = true ↔ a < b := by
  rw [UnpackedFloat.lt, compare_eq left right first second, ← compare_lt_iff_lt]
  simp

/-- A number that is no NaN is brought within bounds. -/
theorem value?_clamp (canonical : Canonical spec u) (least : Canonical spec lo)
    (most : Canonical spec hi) (low : value? lo = some a) (high : value? hi = some b) (le : a ≤ b)
    (number : u.isNaN = false) : ∃ q,
      value? (if u.lt lo then lo else if hi.lt u then hi else u) = some q ∧ a ≤ q ∧ q ≤ b := by
  cases value : value? u with
  | some q =>
    simp only [lt_iff_of_value canonical least value low,
      lt_iff_of_value most canonical high value]
    split
    · exact ⟨a, low, le_rfl, le⟩
    · split
      · exact ⟨b, high, le, le_rfl⟩
      · exact ⟨q, value, not_lt.mp ‹_›, not_lt.mp ‹_›⟩
  | none =>
    obtain beyond | below := infinite_cases value number
    · exact ⟨b, by simp [(beyond low).2, (beyond high).1, high], le, le_rfl⟩
    · exact ⟨a, by simp [below low, low], le_rfl, le⟩

end

theorem isNaN_of_value {u : UnpackedFloat} {a : ℚ} (value : value? u = some a) :
    u.isNaN = false := by
  cases u <;> simp_all [value?, UnpackedFloat.isNaN]

section Double

variable {x lo hi : Float} {a b : ℚ}

theorem isNaN_eq_false (value : toRat? x = some a) : x.isNaN = false := isNaN_of_value value

theorem lt_iff_unpack (x y : Float) :
    x < y ↔ UnpackedFloat.lt x.toModel.unpack y.toModel.unpack = true :=
  decide_eq_true_iff

/-- A number that is no NaN is brought within bounds. -/
theorem toRat?_clamp (low : toRat? lo = some a) (high : toRat? hi = some b) (le : a ≤ b)
    (number : x.isNaN = false) : ∃ q, toRat? (clamp x lo hi) = some q ∧ a ≤ q ∧ q ≤ b := by
  have clamped := value?_clamp (canonical_toModel x) (canonical_toModel lo) (canonical_toModel hi)
    low high le number
  unfold clamp
  simp only [lt_iff_unpack]
  split_ifs at clamped ⊢ <;> exact clamped

/-- Nothing is lost on the way to double precision. -/
theorem toRat?_widen {x : Float32} (value : Single.toRat? x = some a) (small : |a| ≤ large) :
    toRat? (widen x) = some a := by
  have canonical := Single.canonical_toModel x
  unfold Single.toRat? at value
  unfold widen
  cases found : x.toModel.unpack with
  | infinity | notANumber =>
    rw [found] at value
    cases value
  | zero s =>
    rw [found] at value
    obtain rfl := Option.some.inj value
    exact toRat?_pack trivial rfl small
  | finite s m e pos =>
    rw [found] at value canonical
    obtain rfl := Option.some.inj value
    obtain ⟨room, least, -⟩ := canonical
    have exact : Representable .binary64 (factor s * (m * 2 ^ e)) := by
      refine Representable.signed ⟨m, e, ?_, ?_, by push_cast; rfl⟩ s
      · have bits : m ≤ 2 ^ Format.binary64.mantissaBits := room.le.trans (by decide)
        rw [Nat.abs_cast]
        exact_mod_cast bits
      · exact le_trans (by decide) least
    obtain ⟨q, stored, rounds⟩ := toRat?_of_rounds (rounds_round .binary64 s pos e) small
    rw [rounds.eq_of_representable exact] at stored
    exact stored

end Double

namespace Single

variable {x lo hi : Float32} {a b : ℚ}

theorem isNaN_eq_false (value : toRat? x = some a) : x.isNaN = false := isNaN_of_value value

theorem lt_iff_unpack (x y : Float32) :
    x < y ↔ UnpackedFloat.lt x.toModel.unpack y.toModel.unpack = true :=
  decide_eq_true_iff

theorem unpack_of_isNaN (nan : x.isNaN) : x.toModel.unpack = .notANumber := by
  change x.toModel.unpack.isNaN = true at nan
  cases found : x.toModel.unpack with
  | notANumber => rfl
  | finite | zero | infinity =>
    rw [found] at nan
    cases nan

/-- NaN is not below anything. -/
theorem not_lt_of_isNaN (nan : x.isNaN) (y : Float32) : ¬ x < y := by
  rw [lt_iff_unpack, unpack_of_isNaN nan]
  cases y.toModel.unpack <;> exact Bool.false_ne_true

/-- Nothing is below NaN. -/
theorem not_lt_isNaN (nan : x.isNaN) (y : Float32) : ¬ y < x := by
  rw [lt_iff_unpack, unpack_of_isNaN nan]
  cases y.toModel.unpack <;> exact Bool.false_ne_true

/-- A number that is no NaN is brought within bounds. -/
theorem toRat?_clamp32 (low : toRat? lo = some a) (high : toRat? hi = some b) (le : a ≤ b)
    (number : x.isNaN = false) : ∃ q, toRat? (clamp32 x lo hi) = some q ∧ a ≤ q ∧ q ≤ b := by
  have clamped := value?_clamp (canonical_toModel x) (canonical_toModel lo) (canonical_toModel hi)
    low high le number
  unfold clamp32
  simp only [lt_iff_unpack]
  split_ifs at clamped ⊢ <;> exact clamped

/-- A count is rounded. -/
theorem toRat?_ofUInt32_rounds (n : UInt32) :
    ∃ q, toRat? n.toFloat32 = some q ∧ Rounds .binary32 n.toNat q := by
  have rounds := rounds_normalize .binary32 n.toNat 0 .positive
  rw [zpow_zero, mul_one] at rounds
  have bound : (n.toNat : ℚ) ≤ 2 ^ 32 := by exact_mod_cast n.toNat_lt.le
  refine toRat?_of_rounds rounds (le_large ?_)
  rw [abs_of_nonneg (by positivity)]
  exact bound.trans (by norm_num)

end Single

end SamplePlayer.Number
