import SamplePlayer.Clip.Voices
import SamplePlayer.Proofs.Number.Selection

/-!
# Ramps of speeds

A speed that rests is between 1/8 and 8. On the way to a new target every step is rounded, perhaps
always to the same side, so over very many steps a speed can get ahead of its ramp and beyond the
target. But it never gets beyond 32. Up to there the rounding is at most half of a step, unless the
steps are so small that a speed of 32 stays where it is.

## Main definitions

* `Single.Bounded`: a number of a limited size.
* `Tame`: steps that lead nowhere beyond 32.
* `Ramp.Steady`: a ramp that leads nowhere beyond 32.

## Main results

* `tame_of_set_out`, `Tame.step`: setting out for a target, and a step on the way.
* `bounded_clampSpeed`: the targets that callers can set.
* `Ramp.Steady.tick`: a ramp stays steady, whatever the target and the number of steps.
-/

namespace SamplePlayer

open Number Float.Model

/-- The number is a rational number, and at most so large. -/
def Number.Single.Bounded (bound : ℚ) (x : Float32) : Prop :=
  ∃ a, Single.toRat? x = some a ∧ |a| ≤ bound

/-! ### Steps -/

/-- From `a` on, `n` steps of about `d` lead nowhere beyond 32: they are too small to get past it,
or they do not get there even if rounding adds half to each of them. -/
def Tame (a d : ℚ) (n : Nat) : Prop := |d| < 1 / 2 ^ 19 ∨ |a + 3 / 2 * (n * d)| ≤ 32

section

variable {a b d k q w : ℚ} {n : Nat}

/-- A step that is off by a half at most is a part of the way to the end, and so are those that are
left after it. -/
theorem abs_le_of_ends {e : ℚ} (small : |a| ≤ 32) (ends : |a + 3 / 2 * ((n + 1 : Nat) * d)| ≤ 32)
    (half : |e| ≤ 1 / 2 * |d|) :
    |a + d + e| ≤ 32 ∧ |a + d + e + 3 / 2 * (n * d)| ≤ 32 := by
  push_cast at ends
  rw [abs_le] at small ends half
  rw [abs_le, abs_le]
  obtain nonneg | neg := le_or_gt 0 d
  · have rest : 0 ≤ n * d := by positivity
    rw [abs_of_nonneg nonneg] at half
    exact ⟨⟨by linarith, by linarith⟩, by linarith, by linarith⟩
  · have rest : n * d ≤ 0 := mul_nonpos_of_nonneg_of_nonpos (by positivity) neg.le
    rw [abs_of_neg neg] at half
    exact ⟨⟨by linarith, by linarith⟩, by linarith, by linarith⟩

namespace Tame

/-- What the next step leads to before it is rounded. -/
theorem near (tame : Tame a d (n + 1)) (small : |a| ≤ 32) :
    |a + d| < 32 + 1 / 2 ^ 19 ∧ (1 / 2 ^ 19 ≤ |d| → |a + d| ≤ 32) := by
  obtain tiny | ends := tame
  · exact ⟨(abs_add_le a d).trans_lt (by linarith), fun big => absurd tiny big.not_gt⟩
  · have inside := (abs_le_of_ends (e := 0) small ends (by simp)).1
    rw [add_zero] at inside
    exact ⟨inside.trans_lt (by norm_num), fun _ => inside⟩

/-- A step leaves the number at 32 or below, and the steps that are left tame. -/
theorem step (tame : Tame a d (n + 1)) (small : |a| ≤ 32) (rounds : Rounds .binary32 (a + d) q) :
    |q| ≤ 32 ∧ Tame q d n := by
  obtain ⟨near, inside⟩ := tame.near small
  obtain tiny | big := lt_or_ge |d| (1 / 2 ^ 19)
  · have back := rounds.abs_le_two_zpow_of_near (t := -18) (by decide)
      (near.trans_le (by norm_num [Format.mantissaBits]))
    exact ⟨back.trans (by norm_num [Format.mantissaBits]), .inl tiny⟩
  · have error := rounds.abs_sub_le_half_unit (t := -19) (by decide)
      ((inside big).trans (by norm_num [Format.mantissaBits]))
    have half : |q - (a + d)| ≤ 1 / 2 * |d| := by
      norm_num at error big ⊢
      linarith
    have both := abs_le_of_ends small (tame.resolve_left big.not_gt) half
    rw [add_sub_cancel] at both
    exact ⟨both.1, .inr both.2⟩

end Tame

/-- A count that is rounded. -/
theorem count_bounds (pos : 0 < n) (count : Rounds .binary32 n k) :
    1 ≤ k ∧ |k - n| ≤ n / 2 ^ 24 := by
  have least : (1 : ℚ) ≤ n := by exact_mod_cast pos
  have one : Representable .binary32 1 := Single.representable_intCast (i := 1) (by norm_num)
  refine ⟨count.ge one least, ?_⟩
  have size : |(n : ℚ)| = n := abs_of_nonneg n.cast_nonneg
  have normal : (2 : ℚ) ^ (-126 : ℤ) ≤ |(n : ℚ)| := by
    rw [size]
    exact le_trans (by norm_num) least
  have error := count.relative_of_normal normal
  rwa [size] at error

theorem abs_way_le (small : |a| ≤ 32) (target : |b| ≤ 8) : |b - a| ≤ 40 :=
  (abs_sub b a).trans (by linarith)

/-- The way to a target that is rounded. -/
theorem way_bounds (small : |a| ≤ 32) (target : |b| ≤ 8) (way : Rounds .binary32 (b - a) w) :
    |w| ≤ 41 ∧ |w - (b - a)| ≤ 1 / 16 := by
  have far := abs_way_le small target
  have error := way.abs_sub_le_half_unit (t := -17) (by decide)
    (far.trans (by norm_num [Format.mantissaBits]))
  norm_num at error
  have triangle := abs_sub_abs_le_abs_sub w (b - a)
  exact ⟨by linarith, by linarith⟩

/-- A part of the way that is rounded, unless it is very small. -/
theorem part_bounds (big : 1 / 2 ^ 19 ≤ |d|) (pos : 0 < k) (part : Rounds .binary32 (w / k) d) :
    |k * d - w| ≤ |w| / 2 ^ 24 := by
  have normal : (2 : ℚ) ^ (-126 : ℤ) ≤ |w / k| := by
    by_contra! minute
    have least := part.abs_le_two_zpow_of_near (t := -149) (by decide)
      (minute.trans (by norm_num [Format.mantissaBits]))
    exact absurd (big.trans least) (by norm_num [Format.mantissaBits])
  have error := part.relative_of_normal normal
  have whole : k * d - w = k * (d - w / k) := by field_simp
  rw [abs_div, abs_of_pos pos] at error
  rw [whole, abs_mul, abs_of_pos pos, ← le_div_iff₀' pos, div_right_comm]
  exact error

/-- The way to a target in as many steps as one likes is tame, although its length, the number of
steps and their quotient are rounded. -/
theorem tame_of_set_out (pos : 0 < n) (small : |a| ≤ 32) (target : |b| ≤ 8)
    (way : Rounds .binary32 (b - a) w) (count : Rounds .binary32 n k)
    (part : Rounds .binary32 (w / k) d) : Tame a d n := by
  obtain tiny | big := lt_or_ge |d| (1 / 2 ^ 19)
  · exact .inl tiny
  obtain ⟨least, counted⟩ := count_bounds pos count
  obtain ⟨short, near⟩ := way_bounds small target way
  have positive : 0 < k := zero_lt_one.trans_le least
  have parted := part_bounds big positive part
  -- In all the steps lead as far as they should, up to a small part of the way.
  have off : |(n - k) * d| ≤ 1 / 16 := by
    have size : k * |d| ≤ 42 := by
      have triangle := abs_sub_abs_le_abs_sub (k * d) w
      rw [abs_mul, abs_of_pos positive] at triangle
      linarith
    have few : |n - k| ≤ 2 * k / 2 ^ 24 := by
      rw [abs_sub_comm]
      linarith [(abs_le.mp counted).1]
    calc |(n - k) * d| = |n - k| * |d| := abs_mul ..
      _ ≤ 2 * k / 2 ^ 24 * |d| := mul_le_mul_of_nonneg_right few (abs_nonneg d)
      _ = 2 / 2 ^ 24 * (k * |d|) := by ring
      _ ≤ 1 / 16 := by linarith
  have arrived : |n * d - (b - a)| ≤ 1 / 4 := by
    have parts : n * d - (b - a) = (n - k) * d + (k * d - w) + (w - (b - a)) := by ring
    rw [parts]
    refine (abs_add_three _ _ _).trans ?_
    linarith
  right
  rw [abs_le] at small target arrived ⊢
  exact ⟨by linarith, by linarith⟩

end

/-! ### Targets -/

theorem bounded_one : Single.Bounded 8 1.0 := ⟨1, Single.toRat?_one, by norm_num⟩

/-- Whatever is asked for, a target of a speed is at most 8. -/
theorem bounded_clampSpeed (x : Float32) : Single.Bounded 8 (Clip.clampSpeed x) := by
  have slowest : Single.toRat? minSpeed = some (1 / 8) := by
    change some (1 * (((2 ^ 23 : Nat) : ℚ) * 2 ^ (-26 : ℤ))) = _
    norm_num
  have fastest : Single.toRat? maxSpeed = some 8 := by
    change some (1 * (((2 ^ 23 : Nat) : ℚ) * 2 ^ (-20 : ℤ))) = _
    norm_num
  unfold Clip.clampSpeed
  cases number : x.isNaN
  · obtain ⟨q, value, slow, fast⟩ :=
      Single.toRat?_clamp32 slowest fastest (by norm_num) number
    exact ⟨q, value, abs_le.mpr ⟨by linarith, fast⟩⟩
  · exact bounded_one

/-! ### Ramps -/

namespace Ramp

variable {r : Ramp} {target : Float32}

/-- The ramp is not beyond 32, and the steps that are left do not lead there. -/
structure Steady (r : Ramp) : Prop where
  seen : Single.Bounded 8 r.seen
  ahead : ∃ a, Single.toRat? r.current = some a ∧ |a| ≤ 32 ∧
    (r.remaining ≠ 0 → ∃ d, Single.toRat? r.step = some d ∧ Tame a d r.remaining.toNat)

theorem Steady.bounded (h : r.Steady) : Single.Bounded 32 r.current := by
  obtain ⟨a, value, small, -⟩ := h.ahead
  exact ⟨a, value, small⟩

theorem steady_settled (bounded : Single.Bounded 8 target) : (settled target).Steady := by
  obtain ⟨a, value, small⟩ := bounded
  exact ⟨⟨a, value, small⟩, a, value, small.trans (by norm_num), fun more => absurd rfl more⟩

theorem toNat_pos {n : UInt32} (more : n ≠ 0) : 0 < n.toNat :=
  Nat.pos_of_ne_zero fun none => more (UInt32.toNat_inj.mp none)

/-- A ramp that sets out anew is steady. -/
theorem Steady.retarget (h : r.Steady) (bounded : Single.Bounded 8 target) (steps : UInt32) :
    (r.retarget target steps).Steady := by
  obtain ⟨a, value, small, -⟩ := h.ahead
  obtain ⟨b, goal, near⟩ := bounded
  refine ⟨⟨b, goal, near⟩, a, value, small, fun more => ?_⟩
  obtain ⟨k, count, counted⟩ := Single.toRat?_ofUInt32_rounds steps
  obtain ⟨least, -⟩ := count_bounds (toNat_pos more) counted
  have far := abs_way_le small near
  obtain ⟨w, way, ways⟩ := Single.toRat?_sub goal value (Single.le_large (far.trans (by norm_num)))
  have part : |w / k| ≤ 41 := by
    rw [abs_div, abs_of_pos (zero_lt_one.trans_le least)]
    exact (div_le_self (abs_nonneg w) least).trans (way_bounds small near ways).1
  obtain ⟨d, step, rounds⟩ := Single.toRat?_div way count (zero_lt_one.trans_le least).ne'
    (Single.le_large (part.trans (by norm_num)))
  exact ⟨d, step, tame_of_set_out (toNat_pos more) small near ways counted rounds⟩

/-- A ramp that takes a step is steady. -/
theorem Steady.advance (h : r.Steady) : r.advance.Steady := by
  obtain ⟨b, goal, near⟩ := h.seen
  obtain ⟨a, value, small, steps⟩ := h.ahead
  unfold Ramp.advance
  split
  · exact h
  · rename_i more
    obtain ⟨d, step, tame⟩ := steps more
    obtain ⟨n, left, rest⟩ : ∃ n, r.remaining.toNat = n + 1 ∧ (r.remaining - 1).toNat = n := by
      have least : 1 ≤ r.remaining := UInt32.le_iff_toNat_le.mpr (toNat_pos more)
      exact ⟨_, (Nat.sub_add_cancel (toNat_pos more)).symm, UInt32.toNat_sub_of_le _ _ least⟩
    rw [left] at tame
    obtain ⟨q, sum, rounds⟩ := Single.toRat?_add value step
      (Single.le_large ((tame.near small).1.le.trans (by norm_num)))
    obtain ⟨small', tame'⟩ := tame.step small rounds
    refine ⟨⟨b, goal, near⟩, ?_⟩
    dsimp only
    split
    · exact ⟨b, goal, near.trans (by norm_num), fun none => absurd ‹_› none⟩
    · exact ⟨q, sum, small', fun _ => ⟨d, step, rest ▸ tame'⟩⟩

/-- A mix step leaves a ramp steady, whatever the target was before. -/
theorem Steady.tick (h : r.Steady) (bounded : Single.Bounded 8 target) (steps : UInt32) :
    (r.tick target steps).Steady := by
  unfold Ramp.tick
  split
  · exact (h.retarget bounded steps).advance
  · exact h.advance

end Ramp

end SamplePlayer
