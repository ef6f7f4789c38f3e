import Mathlib.Order.Interval.Set.UnorderedInterval
import SamplePlayer.Proofs.Ramp

/-!
# How a ramp approaches its target

A ramp adds the same step again and again, and takes its target as it is with the last one. Every
sum is rounded. A number that is stored is never further from the sum than where the step began, so
a step does not go back and goes at most twice as far as it should: until the last step a ramp moves
one way, and it never gets further from its start than twice the way to its target.

But the roundings may all go to the same side, and then a ramp is past its target before the last
step takes it back. From 1 - 12/2^24 to 1 in eight steps, every step should be 3/2 of the distance
of two numbers and is rounded to twice that distance, or to none; the seventh step ends above 1. A
ramp does approach its target from one side if, and only if, the step before the last one is not
past it. This is so if its steps are few for the way they have to go.

## Main definitions

* `Ramp.course`: a ramp from rest, ticked toward one target.
* `Approaches`: values that move one way and stay before the target.
* `Strides`: values that steps of one length lead to.

## Main results

* `Strides.approaches_iff`, `Strides.approaches_of_few`: when a target is approached from one side.
* `Ramp.course_values`: the values of a ramp from its start to its target and after.
-/

namespace SamplePlayer

open Number Float.Model

/-! ### Single steps -/

namespace Number.Rounds

variable {spec : Format} {x d q : ℚ}

theorem error_le (h : Rounds spec x q) :
    |q - x| ≤ |x| / 2 ^ spec.mantissaBits + 2 ^ (spec.minExponent - 1) := by
  have least : (0 : ℚ) < 2 ^ (spec.minExponent - 1) := zpow_pos two_pos _
  obtain error | error := h.error
  · exact error.trans (le_add_of_nonneg_right least.le)
  · exact error.trans (le_add_of_nonneg_left (by positivity))

/-- A step from a stored number goes at most twice as far as it should. -/
theorem step_le (h : Rounds spec (x + d) q) (fits : Representable spec x) : |q - x| ≤ 2 * |d| := by
  have near := h.nearest x fits
  rw [sub_add_cancel_left, abs_neg] at near
  have parts : q - x = q - (x + d) + d := by ring
  rw [parts]
  linarith [abs_add_le (q - (x + d)) d]

theorem neg (h : Rounds spec x q) : Rounds spec (-x) (-q) := by
  simpa [factor] using h.signed .negative

end Number.Rounds

/-! ### Steps of one length -/

/-- The values begin at `a`, move one way and do not go past `b`. -/
def Approaches (q : ℕ → ℚ) (a b : ℚ) : Prop :=
  q 0 = a ∧ ∀ i j, i ≤ j → q i ∈ Set.uIcc a (q j) ∧ q j ∈ Set.uIcc a b

/-- The values begin at `a`, steps of `d` lead from one to the next, and they are `b` from the last
of `n` steps on. -/
structure Strides (q : ℕ → ℚ) (a b d : ℚ) (n : ℕ) : Prop where
  zero : q 0 = a
  representable : ∀ k, Representable .binary32 (q k)
  succ : ∀ k, k + 1 < n → Rounds .binary32 (q k + d) (q (k + 1))
  land : ∀ k, n ≤ k → q k = b

namespace Strides

variable {q : ℕ → ℚ} {a b d : ℚ} {i j k n s : ℕ}

theorem neg (h : Strides q a b d n) : Strides (fun k => -q k) (-a) (-b) (-d) n where
  zero := congrArg _ h.zero
  representable k := (h.representable k).neg
  succ k more := by
    rw [← neg_add]
    exact (h.succ k more).neg
  land k past := congrArg _ (h.land k past)

/-- Before the last step the values do not fall if the steps do not. -/
theorem mono (h : Strides q a b d n) (ahead : 0 ≤ d) (le : i ≤ j) (before : j < n) :
    q i ≤ q j := by
  induction le with
  | refl => exact le_rfl
  | @step j le ih =>
    exact (ih (by omega)).trans
      ((h.succ j before).ge (h.representable j) (le_add_of_nonneg_right ahead))

/-- Before the last step the values move one way. -/
theorem mem_uIcc (h : Strides q a b d n) (le : i ≤ j) (before : j < n) :
    q i ∈ Set.uIcc a (q j) := by
  rw [← h.zero]
  obtain ahead | back := le_total 0 d
  · exact Set.mem_uIcc.mpr (.inl ⟨h.mono ahead i.zero_le (by omega), h.mono ahead le before⟩)
  · have ahead : 0 ≤ -d := by linarith
    have first := h.neg.mono ahead i.zero_le (by omega)
    have second := h.neg.mono ahead le before
    exact Set.mem_uIcc.mpr (.inr ⟨neg_le_neg_iff.mp second, neg_le_neg_iff.mp first⟩)

/-- Before the last step the values go at most twice as far as they should. -/
theorem far (h : Strides q a b d n) (before : k < n) : |q k - a| ≤ 2 * (k * |d|) := by
  induction k with
  | zero => simp [h.zero]
  | succ k ih =>
    have first := ih (by omega)
    have next := (h.succ k before).step_le (h.representable k)
    have parts : q (k + 1) - a = q (k + 1) - q k + (q k - a) := by ring
    rw [parts]
    push_cast
    linarith [abs_add_le (q (k + 1) - q k) (q k - a)]

/-- The target is approached from one side if the last value before it is not past it. -/
theorem approaches_iff (h : Strides q a b d n) (pos : 0 < n) :
    Approaches q a b ↔ q (n - 1) ∈ Set.uIcc a b := by
  constructor
  · intro approaches
    exact (approaches.2 _ _ le_rfl).2
  · intro last
    have inside (k : ℕ) : q k ∈ Set.uIcc a b := by
      obtain before | past := lt_or_ge k n
      · exact Set.uIcc_subset_uIcc_left last (h.mem_uIcc (by omega) (by omega))
      · rw [h.land k past]
        exact Set.right_mem_uIcc
    refine ⟨h.zero, fun i j le => ⟨?_, inside j⟩⟩
    obtain before | past := lt_or_ge j n
    · exact h.mem_uIcc le before
    · rw [h.land j past]
      exact inside i

end Strides

/-! ### Few steps -/

section

variable {a b d k q w : ℚ} {n : ℕ}

/-- All the steps together are as long as the way, up to a small part of it. -/
theorem near_of_set_out (pos : 0 < n) (way : Rounds .binary32 (b - a) w)
    (count : Rounds .binary32 n k) (part : Rounds .binary32 (w / k) d) :
    |n * d - (b - a)| ≤ |b - a| / 2 ^ 22 + n / 2 ^ 148 := by
  obtain ⟨least, counted⟩ := count_bounds pos count
  have positive : 0 < k := zero_lt_one.trans_le least
  have some : (1 : ℚ) ≤ n := by exact_mod_cast pos
  have first := way.error_le
  have second := part.error_le
  norm_num [Format.mantissaBits, Format.minExponent] at first second
  have share : k * (w / k) = w := mul_div_cancel₀ w positive.ne'
  generalize w / k = p at second share
  have long : n ≤ (1 + 1 / 2 ^ 23) * k := by linarith [(abs_le.mp counted).1]
  have whole : n * |p| ≤ (1 + 1 / 2 ^ 23) * |w| := by
    rw [← share, abs_mul, abs_of_pos positive, ← mul_assoc]
    exact mul_le_mul_of_nonneg_right long (abs_nonneg p)
  have size : |w| ≤ |b - a| + |w - (b - a)| := by
    linarith [abs_sub_abs_le_abs_sub w (b - a)]
  have rounded : |n * (d - p)| ≤ n * |p| / 2 ^ 24 + n / 2 ^ 150 := by
    rw [abs_mul, abs_of_pos (by linarith : (0 : ℚ) < n)]
    have scaled := mul_le_mul_of_nonneg_left second (by linarith : (0 : ℚ) ≤ n)
    norm_num at scaled ⊢
    linarith
  have miscounted : |(n - k) * p| ≤ n * |p| / 2 ^ 24 := by
    rw [abs_mul, abs_sub_comm]
    linarith [mul_le_mul_of_nonneg_right counted (abs_nonneg p)]
  have parts : n * d - (b - a) = n * (d - p) + (n - k) * p + (w - (b - a)) := by
    rw [← share]
    ring
  rw [parts]
  refine (abs_add_three _ _ _).trans ?_
  linarith [abs_nonneg (b - a)]

/-- The steps go the way of the target. -/
theorem nonneg_of_set_out (up : a ≤ b) (positive : 0 < k) (way : Rounds .binary32 (b - a) w)
    (part : Rounds .binary32 (w / k) d) : 0 ≤ d := by
  have ahead : 0 ≤ w := way.ge (representable_zero _) (sub_nonneg.mpr up)
  exact part.ge (representable_zero _) (by positivity)

/-- If the steps are few for the way, all but one of them do not come to its end, even if each is
rounded up by half of what separates the numbers below `h`. -/
theorem room_of_few {h : ℚ} (pos : 0 < n) (one : 1 ≤ h) (short : w ≤ 2 * h)
    (few : n * (n - 1) * h ≤ 2 ^ 24 * w) (near : n * d ≤ w + w / 2 ^ 22 + n / 2 ^ 148) :
    (n - 1) * (d + h / 2 ^ 25) ≤ w := by
  have some : (1 : ℚ) ≤ n := by exact_mod_cast pos
  have rest : (0 : ℚ) ≤ n - 1 := by linarith
  have product : (0 : ℚ) ≤ n * (n - 1) := by positivity
  have pairs : (n : ℚ) * (n - 1) ≤ n * (n - 1) * h := le_mul_of_one_le_right product one
  have way : 0 ≤ w := by linarith
  have bounded : (n : ℚ) - 1 ≤ 2 ^ 13 := by
    have square : (n : ℚ) * (n - 1) ≤ 2 ^ 25 := by
      refine le_of_mul_le_mul_right ?_ (zero_lt_one.trans_le one)
      linarith
    by_contra! many
    have above := mul_le_mul many.le many.le (by norm_num) rest
    linarith
  have parts := mul_le_mul_of_nonneg_left near rest
  have small := mul_le_mul_of_nonneg_right bounded way
  refine le_of_mul_le_mul_left ?_ (zero_lt_one.trans_le some)
  linarith

end

namespace Strides

variable {q : ℕ → ℚ} {a b d : ℚ} {k n s : ℕ}

/-- Few steps upward do not go past the target. -/
theorem le_of_few (h : Strides q a b d n) (ahead : 0 ≤ d) (low : -2 ^ s ≤ a) (high : b ≤ 2 ^ s)
    (room : (n - 1) * (d + 2 ^ s / 2 ^ 25) ≤ b - a) (before : k < n) :
    q k ≤ a + k * (d + 2 ^ s / 2 ^ 25) ∧ q k ≤ b := by
  have half : (0 : ℚ) ≤ 2 ^ s / 2 ^ 25 := by positivity
  have inside {k : ℕ} (before : k < n) : k * (d + 2 ^ s / 2 ^ 25) ≤ b - a := by
    have le : (k : ℚ) ≤ n - 1 := by
      have le : ((k + 1 : ℕ) : ℚ) ≤ n := by exact_mod_cast before
      push_cast at le
      linarith
    exact (mul_le_mul_of_nonneg_right le (by linarith)).trans room
  suffices bound : q k ≤ a + k * (d + 2 ^ s / 2 ^ 25) from
    ⟨bound, by linarith [inside before]⟩
  induction k with
  | zero => simp [h.zero]
  | succ k ih =>
    have first := ih (by omega)
    have above := h.mono ahead k.zero_le (by omega : k < n)
    have end_ := inside before
    rw [h.zero] at above
    push_cast at end_ ⊢
    -- The sum does not leave the numbers below the power, so it is off by half a unit of theirs.
    have error := (h.succ k before).abs_sub_le_half_unit (t := (s : ℤ) - 24)
      (by norm_num [Format.minExponent]; omega) (by
        rw [zpow_sub₀ two_ne_zero, zpow_natCast, abs_le]
        norm_num [Format.mantissaBits]
        constructor <;> linarith)
    rw [zpow_sub₀ two_ne_zero, zpow_natCast] at error
    norm_num at error ⊢ first half
    linarith [(abs_le.mp error).2]

/-- A target that few steps lead to is approached from one side. -/
theorem approaches_of_few (h : Strides q a b d n) (pos : 0 < n) (ahead : a ≤ b → 0 ≤ d)
    (back : b ≤ a → d ≤ 0) (start : |a| ≤ 2 ^ s) (target : |b| ≤ 2 ^ s)
    (near : |n * d - (b - a)| ≤ |b - a| / 2 ^ 22 + n / 2 ^ 148)
    (few : n * (n - 1) * 2 ^ s ≤ 2 ^ 24 * |b - a|) : Approaches q a b := by
  rw [h.approaches_iff pos]
  rw [abs_le] at start target
  have one : (1 : ℚ) ≤ 2 ^ s := one_le_pow₀ one_le_two
  have last : n - 1 < n := by omega
  obtain up | down := le_total a b
  · rw [abs_of_nonneg (sub_nonneg.mpr up)] at near few
    have room : ((n : ℚ) - 1) * (d + 2 ^ s / 2 ^ 25) ≤ b - a :=
      room_of_few pos one (by linarith) few (by linarith [(abs_le.mp near).2])
    have first := h.mono (ahead up) (n - 1).zero_le last
    rw [h.zero] at first
    exact Set.mem_uIcc.mpr (.inl
      ⟨first, (h.le_of_few (ahead up) start.1 target.2 room last).2⟩)
  · rw [abs_of_nonpos (sub_nonpos.mpr down)] at near few
    have ahead' : 0 ≤ -d := by linarith [back down]
    have room : ((n : ℚ) - 1) * (-d + 2 ^ s / 2 ^ 25) ≤ -b - -a :=
      room_of_few pos one (by linarith) (by linarith) (by linarith [(abs_le.mp near).1])
    have first := h.neg.mono ahead' (n - 1).zero_le last
    have second := (h.neg.le_of_few ahead' (by linarith) (by linarith) room last).2
    rw [h.zero] at first
    exact Set.mem_uIcc.mpr (.inr ⟨neg_le_neg_iff.mp second, neg_le_neg_iff.mp first⟩)

end Strides

/-! ### Ramps -/

namespace Ramp

variable {r : Ramp} {start target : Float32} {steps : UInt32} {k : ℕ} {a b : ℚ}

@[simp] theorem seen_advance (r : Ramp) : r.advance.seen = r.seen := by
  unfold advance
  split <;> rfl

@[simp] theorem step_advance (r : Ramp) : r.advance.step = r.step := by
  unfold advance
  split <;> rfl

theorem toNat_remaining_advance (r : Ramp) :
    r.advance.remaining.toNat = r.remaining.toNat - 1 := by
  unfold advance
  split
  · rename_i none
    rw [none]
    rfl
  · rename_i more
    exact UInt32.toNat_sub_of_le _ _ (UInt32.le_iff_toNat_le.mpr (toNat_pos more))

theorem current_advance (r : Ramp) : r.advance.current =
    if r.remaining.toNat = 0 then r.current
    else if r.remaining.toNat = 1 then r.seen else r.current + r.step := by
  unfold advance
  by_cases none : r.remaining = 0
  · simp [none]
  · have more : r.remaining.toNat ≠ 0 := (toNat_pos none).ne'
    have one : r.remaining - 1 = 0 ↔ r.remaining.toNat = 1 := by
      have left := toNat_remaining_advance r
      rw [advance, if_neg none] at left
      rw [← UInt32.toNat_inj, left, UInt32.toNat_zero]
      omega
    simp only [none, more, one, if_false]

/-- A ramp that rests on `start` at first and is ticked toward `target` again and again. -/
def course (start target : Float32) (steps : UInt32) (k : ℕ) : Ramp :=
  (fun r => r.tick target steps)^[k] (settled start)

theorem course_succ (start target : Float32) (steps : UInt32) (k : ℕ) :
    course start target steps (k + 1) = (course start target steps k).tick target steps :=
  Function.iterate_succ_apply' ..

/-- On the way to a new target a ramp adds what it set out with, until it lands on the target. -/
theorem course_of_ne (apart : (target != start) = true) (number : (target != target) = false)
    (some : steps ≠ 0) (k : ℕ) :
    let r := course start target steps (k + 1)
    r.seen = target ∧ r.step = (target - start) / steps.toFloat32 ∧
      r.remaining.toNat = steps.toNat - (k + 1) ∧
      r.current = if k + 1 < steps.toNat
        then (course start target steps k).current + (target - start) / steps.toFloat32
        else target := by
  have pos := toNat_pos some
  induction k with
  | zero =>
    have first : course start target steps 1 =
        ((settled start).retarget target steps).advance := congrArg advance (if_pos apart)
    dsimp only
    rw [first, toNat_remaining_advance, current_advance, seen_advance, step_advance]
    refine ⟨rfl, rfl, rfl, ?_⟩
    change (if steps.toNat = 0 then _ else if steps.toNat = 1 then _ else _) = _
    rw [if_neg pos.ne']
    split
    · rw [if_neg (by omega)]
      rfl
    · rw [if_pos (by omega)]
      rfl
  | succ k ih =>
    obtain ⟨seen, step, remaining, current⟩ := ih
    have next : course start target steps (k + 1 + 1) =
        (course start target steps (k + 1)).advance := by
      rw [course_succ, tick, seen, number]
      rfl
    dsimp only
    rw [next, toNat_remaining_advance, current_advance, seen_advance, step_advance, seen, step,
      remaining]
    refine ⟨rfl, rfl, by omega, ?_⟩
    split
    · rw [current, if_neg (by omega), if_neg (by omega)]
    · split
      · rw [if_neg (by omega)]
      · rw [if_pos (by omega)]

/-- A ramp that is on its target stays as it is. -/
theorem course_of_eq (same : (target != start) = false) (steps : UInt32) (k : ℕ) :
    course start target steps k = settled start := by
  induction k with
  | zero => rfl
  | succ k ih =>
    rw [course_succ, ih, tick, settled, same]
    rfl

section

variable (begins : Single.toRat? start = some a) (aims : Single.toRat? target = some b)
  (some : steps ≠ 0)
include begins aims some

/-- From the last step on a ramp is on its target. -/
theorem course_lands (past : steps.toNat ≤ k) : (course start target steps k).remaining = 0 ∧
    ((course start target steps k).current == target) = true := by
  have number : (target == target) = true := (Single.beq_iff aims aims).mpr rfl
  cases apart : target != start
  · rw [course_of_eq apart]
    refine ⟨rfl, (Single.beq_iff begins aims).mpr ?_⟩
    rw [bne, Bool.not_eq_false', Single.beq_iff aims begins] at apart
    exact apart.symm
  · have pos := toNat_pos some
    obtain ⟨k, rfl⟩ : ∃ j, k = j + 1 := ⟨k - 1, by omega⟩
    obtain ⟨-, -, remaining, current⟩ :=
      course_of_ne apart (by rw [bne, number, Bool.not_true]) some k
    rw [current, if_neg (by omega)]
    exact ⟨UInt32.toNat_inj.mp (by rw [remaining, UInt32.toNat_zero]; omega), number⟩

/-- The values of a ramp are those that steps of one length lead to. -/
theorem strides_course (small : |a| ≤ 8) (near : |b| ≤ 8) :
    ∃ (q : ℕ → ℚ) (d : ℚ),
      (∀ k, Single.toRat? (course start target steps k).current = Option.some (q k)) ∧
      Strides q a b d steps.toNat ∧ (a ≤ b → 0 ≤ d) ∧ (b ≤ a → d ≤ 0) ∧
      |steps.toNat * d - (b - a)| ≤ |b - a| / 2 ^ 22 + steps.toNat / 2 ^ 148 := by
  have pos := toNat_pos some
  cases apart : target != start
  · rw [bne, Bool.not_eq_false', Single.beq_iff aims begins] at apart
    subst apart
    have still (k : ℕ) : course start target steps k = settled start :=
      course_of_eq (by rw [bne, (Single.beq_iff aims begins).mpr rfl, Bool.not_true]) steps k
    have fits := (Single.canonical_toModel start).representable begins
    refine ⟨fun _ => b, 0, fun k => by rw [still k]; exact begins, ⟨rfl, fun _ => fits, ?_, ?_⟩,
      fun _ => le_rfl, fun _ => le_rfl, ?_⟩
    · intro k _
      rw [add_zero]
      exact .of_representable fits
    · exact fun _ _ => rfl
    · simp only [mul_zero, sub_self, abs_zero, zero_div, zero_add]
      positivity
  · have number : (target != target) = false := by
      rw [bne, (Single.beq_iff aims aims).mpr rfl, Bool.not_true]
    have steady (k : ℕ) : (course start target steps k).Steady := by
      induction k with
      | zero => exact steady_settled ⟨a, begins, small⟩
      | succ k ih =>
        rw [course_succ]
        exact ih.tick ⟨b, aims, near⟩ steps
    obtain ⟨n, count, counted⟩ := Single.toRat?_ofUInt32_rounds steps
    obtain ⟨least, -⟩ := count_bounds pos counted
    have positive : 0 < n := zero_lt_one.trans_le least
    have bound : |a| ≤ 32 := small.trans (by norm_num)
    obtain ⟨w, way, ways⟩ := Single.toRat?_sub aims begins
      (Single.le_large ((abs_way_le bound near).trans (by norm_num)))
    have length := (way_bounds bound near ways).1
    have part : |w / n| ≤ 41 := by
      rw [abs_div, abs_of_pos positive]
      exact (div_le_self (abs_nonneg w) least).trans length
    obtain ⟨d, step, parts⟩ := Single.toRat?_div way count positive.ne'
      (Single.le_large (part.trans (by norm_num)))
    have stride : |d| ≤ 42 := by
      have off := parts.error_le
      norm_num [Format.mantissaBits, Format.minExponent] at off
      linarith [abs_sub_abs_le_abs_sub d (w / n)]
    have value (k : ℕ) := (steady k).bounded
    choose q value inside using value
    refine ⟨q, d, value, ⟨?_, fun k => ?_, fun k more => ?_, fun k past => ?_⟩, fun up => ?_,
      fun down => ?_, near_of_set_out pos ways counted parts⟩
    · exact Option.some.inj ((value 0).symm.trans begins)
    · exact (Single.canonical_toModel _).representable (value k)
    · obtain ⟨-, -, -, current⟩ := course_of_ne apart number some k
      rw [if_pos more] at current
      have room : |q k + d| ≤ 2 ^ 100 := by
        refine (abs_add_le _ _).trans ((add_le_add (inside k) stride).trans ?_)
        norm_num
      obtain ⟨sum, added, rounds⟩ := Single.toRat?_add (value k) step (Single.le_large room)
      rw [← current, value (k + 1)] at added
      obtain rfl := Option.some.inj added
      exact rounds
    · have lands := (course_lands begins aims some past).2
      exact (Single.beq_iff (value k) aims).mp lands
    · exact nonneg_of_set_out up positive ways parts
    · have way' := ways.neg
      have part' := parts.neg
      rw [neg_sub] at way'
      rw [← neg_div] at part'
      exact neg_nonneg.mp (nonneg_of_set_out down positive way' part')

/-- A ramp that is ticked toward one target, from a value and to a target that are both gains or
both speeds. From the last step on it is on its target and rests. Until then it moves one way, and
it never gets further from its start than twice the way to its target. It moves toward its target
from one side if, and only if, the step before the last one is not past the target; and this is so
if the steps are few for the way. -/
theorem course_values {lo hi : ℚ} (range : lo = 0 ∧ hi = 1 ∨ lo = 1 / 8 ∧ hi = 8)
    (first : a ∈ Set.Icc lo hi) (last : b ∈ Set.Icc lo hi) :
    ∃ q : ℕ → ℚ,
      (∀ k, Single.toRat? (course start target steps k).current = Option.some (q k)) ∧ q 0 = a ∧
      (∀ k, steps.toNat ≤ k → (course start target steps k).remaining = 0 ∧
        ((course start target steps k).current == target) = true) ∧
      (∀ i j, i ≤ j → j < steps.toNat → q i ∈ Set.uIcc a (q j)) ∧
      (∀ k, |q k - a| ≤ 2 * ((1 + 1 / 2 ^ 22) * |b - a| + 1 / 2 ^ 116)) ∧
      (Approaches q a b ↔ q (steps.toNat - 1) ∈ Set.uIcc a b) ∧
      (steps.toNat * (steps.toNat - 1) * hi ≤ 2 ^ 24 * |b - a| →
        Approaches q a b ∧ ∀ k, q k ∈ Set.Icc lo hi) := by
  have pos := toNat_pos some
  obtain ⟨s, power, nonneg, small⟩ : ∃ s : ℕ, hi = 2 ^ s ∧ 0 ≤ lo ∧ hi ≤ 8 := by
    obtain ⟨rfl, rfl⟩ | ⟨rfl, rfl⟩ := range
    · exact ⟨0, by norm_num⟩
    · exact ⟨3, by norm_num⟩
  have size {x : ℚ} (inside : x ∈ Set.Icc lo hi) : |x| ≤ hi := by
    rw [abs_of_nonneg (nonneg.trans inside.1)]
    exact inside.2
  obtain ⟨q, d, value, strides, ahead, back, near⟩ :=
    strides_course begins aims some ((size first).trans small) ((size last).trans small)
  refine ⟨q, value, strides.zero, fun k past => course_lands begins aims some past,
    fun i j le before => strides.mem_uIcc le before, fun k => ?_, strides.approaches_iff pos,
    fun few => ?_⟩
  · obtain before | past := lt_or_ge k steps.toNat
    · have many : (steps.toNat : ℚ) ≤ 2 ^ 32 := by exact_mod_cast steps.toNat_lt.le
      have part : (k : ℚ) * |d| ≤ |steps.toNat * d| := by
        rw [abs_mul, Nat.abs_cast]
        exact mul_le_mul_of_nonneg_right (by exact_mod_cast before.le) (abs_nonneg d)
      have whole := abs_sub_abs_le_abs_sub (steps.toNat * d) (b - a)
      refine (strides.far before).trans ?_
      linarith
    · rw [strides.land k past]
      linarith [abs_nonneg (b - a)]
  · have approaches := strides.approaches_of_few (s := s) pos ahead back (power ▸ size first)
      (power ▸ size last) near (power ▸ few)
    exact ⟨approaches, fun k =>
      Set.uIcc_subset_Icc first last (approaches.2 k k le_rfl).2⟩

end

/-- A gain that goes from silence to full in the usual number of steps does so from below. -/
theorem course_values_fadeIn : ∃ q : ℕ → ℚ,
    (∀ k, Single.toRat? (course 0.0 1.0 1024 k).current = some (q k)) ∧ Approaches q 0 1 := by
  have some : (1024 : UInt32) ≠ 0 := by decide
  obtain ⟨q, value, -, -, -, -, -, few⟩ := course_values Single.toRat?_zero Single.toRat?_one some
    (.inl ⟨rfl, rfl⟩) (by norm_num) (by norm_num)
  refine ⟨q, value, (few ?_).1⟩
  have count : ((1024 : UInt32).toNat : ℚ) = 1024 := by
    exact_mod_cast (rfl : (1024 : UInt32).toNat = 1024)
  rw [count]
  norm_num

/-- A gain that rises may be beyond its target before its last step. -/
theorem not_course_below : ¬ ∀ (start target : Float32) (steps : UInt32), 0.0 ≤ start →
    start ≤ target → target ≤ 1.0 → steps ≠ 0 →
    ∀ k, (course start target steps k).current ≤ target := by
  intro below
  have seventh := below (.ofBits 0x3f7ffff4) 1.0 8 (by decide +kernel) (by decide +kernel)
    (by decide +kernel) (by decide) 7
  revert seventh
  decide +kernel

end Ramp

end SamplePlayer
