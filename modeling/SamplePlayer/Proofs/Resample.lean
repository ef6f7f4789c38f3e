import SamplePlayer.Proofs.Number.Double
import SamplePlayer.Resample

/-!
# How long sound is at another rate

A sound of `n` frames should have `n * target / source` frames at the new rate, rounded up. How many
it has is found out by rounded arithmetic: the ratio of the rates is rounded, and so is its product
with `n`, before the product is rounded up. The rounding errors are too small to matter unless the
exact product is an integer. Then the rounded one may lie just above it, and there is one frame too
many.

The frames that are expected do come out. Each chunk of silence that is fed at the end gives at
least one, as the instant before it lies before its horizon, unless the new rate is less than a
thousandth of the old one.

## Main definitions

* `Plan.exact`: the length in exact arithmetic.
* `Plan.Within`: bounds for the place of an instant.

## Main results

* `Plan.expected_eq`: the expected length against the exact one.
* `Plan.le_produced`: what is expected comes out of the filter.
* `Plan.frameCount_le`, `Plan.frameCount_eq`: the length at the new rate.
-/

namespace SamplePlayer.Resample.Plan

open Number Float.Model

/-- The exact length of a sound of so many frames at the new rate, rounded up. -/
def exact (p : Plan) (frames : Nat) : Nat :=
  (frames * p.target.toNat + p.source.toNat - 1) / p.source.toNat

/-- The rates are positive. -/
structure Positive (p : Plan) : Prop where
  source_pos : 0 < p.source.toNat
  target_pos : 0 < p.target.toNat

/-- The rates are positive, and the new one is not less than about a thousandth of the old one. -/
structure Moderate (p : Plan) : Prop extends p.Positive where
  near : p.source.toNat < 1023 * p.target.toNat

variable {p : Plan} {n : Nat}

/-! ### The ratio of the rates -/

/-- The exact quotient of the rates. -/
def quotient (p : Plan) : ℚ := p.target.toNat / p.source.toNat

theorem quotient_bounds (h : p.Positive) :
    1 / 2 ^ 32 ≤ p.quotient ∧ p.quotient ≤ 2 ^ 32 := by
  have pos : (0 : ℚ) < p.source.toNat := by exact_mod_cast h.source_pos
  have least : (1 : ℚ) ≤ p.source.toNat := by exact_mod_cast h.source_pos
  have least' : (1 : ℚ) ≤ p.target.toNat := by exact_mod_cast h.target_pos
  have most : (p.target.toNat : ℚ) ≤ 2 ^ 32 := by exact_mod_cast p.target.toNat_lt.le
  have most' : (p.source.toNat : ℚ) ≤ 2 ^ 32 := by exact_mod_cast p.source.toNat_lt.le
  rw [quotient, div_le_iff₀ pos, div_le_div_iff₀ (by norm_num) pos]
  constructor <;> linarith

/-- The quotient of moderate rates leaves room for the error of the ratio. -/
theorem Moderate.le_quotient (h : p.Moderate) : (1 + 1 / 2 ^ 50) / 1023 ≤ p.quotient := by
  have pos : (0 : ℚ) < p.source.toNat := by exact_mod_cast h.source_pos
  have near : (p.source.toNat : ℚ) + 1 ≤ 1023 * p.target.toNat := by exact_mod_cast h.near
  have most : (p.source.toNat : ℚ) ≤ 2 ^ 32 := by exact_mod_cast p.source.toNat_lt.le
  rw [quotient, div_le_div_iff₀ (by norm_num) pos]
  linarith

/-- The ratio is the rounded quotient. -/
theorem exists_ratio (h : p.Positive) : ∃ ρ, toRat? p.ratio = some ρ ∧ ρ ≤ 2 ^ 32 ∧
    |ρ - p.quotient| ≤ p.quotient / 2 ^ 53 := by
  obtain ⟨low, high⟩ := quotient_bounds h
  have size : |p.quotient| = p.quotient := abs_of_pos (by linarith)
  have nonzero : (p.source.toNat : ℚ) ≠ 0 := by exact_mod_cast h.source_pos.ne'
  obtain ⟨ρ, value, rounds⟩ := toRat?_div (toRat?_ofUInt32 p.target) (toRat?_ofUInt32 p.source)
    nonzero (le_large (by rw [← quotient, size]; linarith))
  change Rounds .binary64 p.quotient ρ at rounds
  have error := rounds.relative (by rw [size]; linarith)
  rw [size] at error
  have power : Representable .binary64 (2 ^ 32) := representable_two_zpow (i := 32) (by norm_num)
  exact ⟨ρ, value, rounds.le power high, error⟩

/-! ### The expected length -/

/-- The exact length in terms of multiples. -/
theorem exact_spec (h : p.Positive) (n : Nat) :
    n * p.target.toNat ≤ p.exact n * p.source.toNat ∧
      p.exact n * p.source.toNat < n * p.target.toNat + p.source.toNat := by
  have pos := h.source_pos
  have parts := Nat.div_add_mod' (n * p.target.toNat + p.source.toNat - 1) p.source.toNat
  have below := Nat.mod_lt (n * p.target.toNat + p.source.toNat - 1) pos
  unfold exact
  omega

/-- The rounded product is close to the exact one. -/
theorem exists_product (h : p.Positive) (nonempty : 1 ≤ n) (short : n * p.target.toNat ≤ 2 ^ 51) :
    ∃ x, toRat? (ofCount n * p.ratio) = some x ∧
      |x * p.source.toNat - n * p.target.toNat| < 1 := by
  obtain ⟨low, high⟩ := quotient_bounds h
  obtain ⟨ρ, ratio, -, error⟩ := exists_ratio h
  have source : (0 : ℚ) < p.source.toNat := by exact_mod_cast h.source_pos
  have least : (1 : ℚ) ≤ n := by exact_mod_cast nonempty
  have most : n ≤ 2 ^ 53 := by
    have := Nat.le_mul_of_pos_right n h.target_pos
    omega
  have product : n * p.quotient * p.source.toNat = n * p.target.toNat := by
    rw [quotient, mul_assoc, div_mul_cancel₀ _ source.ne']
  have bound : (n : ℚ) * p.target.toNat ≤ 2 ^ 51 := by exact_mod_cast short
  -- The error of the ratio, and of the product with it.
  have first : |n * ρ - n * p.quotient| ≤ n * p.quotient / 2 ^ 53 := by
    rw [← mul_sub, abs_mul, abs_of_nonneg (by linarith), mul_div_assoc]
    exact mul_le_mul_of_nonneg_left error (by linarith)
  have least' : p.quotient ≤ n * p.quotient := le_mul_of_one_le_left (by linarith) least
  have within : n * p.quotient ≤ 2 ^ 51 := by
    have one : (1 : ℚ) ≤ p.source.toNat := by exact_mod_cast h.source_pos
    have grown := le_mul_of_one_le_right (by linarith : 0 ≤ n * p.quotient) one
    linarith
  obtain ⟨low', high'⟩ := abs_le.mp first
  have size : |n * ρ| = n * ρ := abs_of_pos (by linarith)
  obtain ⟨x, value, rounds⟩ := toRat?_mul (toRat?_ofCount most) ratio
    (le_large (by rw [size]; linarith))
  have second := rounds.relative (by rw [size]; linarith)
  rw [size] at second
  refine ⟨x, value, ?_⟩
  have close : |x - n * p.quotient| < n * p.quotient / 2 ^ 51 := by
    have both := abs_sub_le x (n * ρ) (n * p.quotient)
    linarith
  rw [← product, ← sub_mul, abs_mul, abs_of_pos source]
  calc |x - n * p.quotient| * p.source.toNat
      < n * p.quotient / 2 ^ 51 * p.source.toNat := mul_lt_mul_of_pos_right close source
    _ = n * p.target.toNat / 2 ^ 51 := by rw [div_mul_eq_mul_div, product]
    _ ≤ 1 := by rw [div_le_one (by positivity)]; exact bound

/-- The expected length is the product rounded up. -/
theorem expected_eq_ceil {x : ℚ} (value : toRat? (ofCount n * p.ratio) = some x)
    (pos : 0 ≤ x) (small : x ≤ 2 ^ 52) : p.expected n = ⌈x⌉₊ := by
  have ceil := toRat?_ceil value (le_large (by rw [abs_of_nonneg pos]; linarith))
  have bound : ⌈x⌉ ≤ 2 ^ 52 := Int.ceil_le.mpr (by exact_mod_cast small)
  have below : (⌈x⌉ : ℚ) < 2 ^ 64 := by exact_mod_cast bound.trans_lt (by norm_num)
  rw [expected, toCount_eq ceil below, ← Int.floor_toNat, Int.floor_intCast, Int.ceil_toNat]

/-- The frame too many that comes of a product that lies above the exact length. -/
def excess (p : Plan) (frames : Nat) : Nat :=
  if ofCount (p.exact frames) < ofCount frames * p.ratio then 1 else 0

theorem excess_le_one (p : Plan) (frames : Nat) : p.excess frames ≤ 1 := by
  unfold excess
  split <;> omega

/-- The exact length is positive and at most the product. -/
theorem exact_bounds (h : p.Positive) (nonempty : 1 ≤ n) :
    1 ≤ p.exact n ∧ p.exact n ≤ n * p.target.toNat := by
  obtain ⟨le, lt⟩ := exact_spec h n
  have product : 1 ≤ n * p.target.toNat := Nat.mul_pos nonempty h.target_pos
  have pos : 1 ≤ p.exact n := by
    by_contra zero
    rw [show p.exact n = 0 by omega, Nat.zero_mul] at le
    omega
  refine ⟨pos, ?_⟩
  -- One less than the length, times the source rate, is less than the product.
  have less : (p.exact n - 1) * p.source.toNat < n * p.target.toNat := by
    rw [Nat.sub_mul]
    omega
  have grown := Nat.le_mul_of_pos_right (p.exact n - 1) h.source_pos
  omega

/-- The expected length is the exact one, with one more frame if the product lies above it, and
that only happens to products that are integers. -/
theorem expected_eq (h : p.Positive) (nonempty : 1 ≤ n) (short : n * p.target.toNat ≤ 2 ^ 51) :
    p.expected n = p.exact n + p.excess n ∧
      (p.excess n = 1 → p.source.toNat ∣ n * p.target.toNat) := by
  obtain ⟨x, value, near⟩ := exists_product h nonempty short
  obtain ⟨le, lt⟩ := exact_spec h n
  obtain ⟨least, most⟩ := exact_bounds h nonempty
  obtain ⟨low, high⟩ := abs_lt.mp near
  have source : (0 : ℚ) < p.source.toNat := by exact_mod_cast h.source_pos
  have one : (1 : ℚ) ≤ p.source.toNat := by exact_mod_cast h.source_pos
  have multiple : (n * p.target.toNat : ℚ) ≤ p.exact n * p.source.toNat := by exact_mod_cast le
  have multiple' : ((p.exact n - 1 : Nat) : ℚ) * p.source.toNat + 1 ≤ n * p.target.toNat := by
    have steps : (p.exact n - 1) * p.source.toNat + 1 ≤ n * p.target.toNat := by
      rw [Nat.sub_mul]
      omega
    exact_mod_cast steps
  -- The product lies in the two units around the exact length, and `excess` tells in which.
  have compared : ofCount (p.exact n) < ofCount n * p.ratio ↔ (p.exact n : ℚ) < x :=
    lt_iff (toRat?_ofCount (by omega)) value
  have above : ((p.exact n - 1 : Nat) : ℚ) < x :=
    lt_of_mul_lt_mul_right (by linarith) source.le
  have below : x ≤ p.exact n + 1 := by
    refine (lt_of_mul_lt_mul_right (a := (p.source.toNat : ℚ)) ?_ source.le).le
    rw [add_mul, one_mul]
    linarith
  have pos : 0 ≤ x := (Nat.cast_nonneg _).trans above.le
  have bound : (p.exact n : ℚ) ≤ 2 ^ 51 := by exact_mod_cast most.trans short
  rw [expected_eq_ceil value pos (by linarith), excess]
  split
  · rename_i more
    rw [compared] at more
    refine ⟨(Nat.ceil_eq_iff (Nat.succ_ne_zero _)).mpr ⟨by simpa using more, ?_⟩, fun _ => ?_⟩
    · exact_mod_cast below
    · -- The product is no more than the multiple that is the exact length.
      have scaled := mul_lt_mul_of_pos_right more source
      have integral : p.exact n * p.source.toNat < n * p.target.toNat + 1 := by
        have lifted : (p.exact n * p.source.toNat : ℚ) < n * p.target.toNat + 1 := by linarith
        exact_mod_cast lifted
      exact Dvd.intro_left (p.exact n) (by omega)
  · rename_i exact
    rw [compared, not_lt] at exact
    exact ⟨(Nat.ceil_eq_iff (by omega)).mpr ⟨above, exact⟩, nofun⟩

/-! ### Where the instants lie -/

/-- The distance of two instants and the horizon. An instant that lies before the horizon is
followed by one in the part of the chunk that the filter sees. -/
structure Pace (p : Plan) (σ η : ℚ) : Prop where
  stride : toRat? p.stride = some σ
  horizon : toRat? p.horizon = some η
  forward : 0 ≤ σ
  within : η + σ ≤ 767
  early : -256 ≤ η

theorem exists_pace (h : p.Moderate) : ∃ σ η, p.Pace σ η := by
  have low := h.le_quotient
  obtain ⟨ρ, ratio, most, error⟩ := exists_ratio h.toPositive
  obtain ⟨below, above⟩ := abs_le.mp error
  have pos : 0 < ρ := by linarith
  have inverse : 1 / ρ ≤ 1023 := by
    rw [div_le_iff₀ pos]
    linarith
  have size : |1 / ρ| = 1 / ρ := abs_of_pos (by positivity)
  obtain ⟨σ, stride, rounds⟩ := toRat?_div toRat?_one ratio pos.ne'
    (le_large (by rw [size]; linarith))
  have forward : 0 ≤ σ := rounds.ge (representable_zero _) (by positivity)
  have slow : σ ≤ 1023 := by
    refine rounds.le ?_ inverse
    exact_mod_cast representable_intCast (i := 1023) (by norm_num)
  -- The horizon is a whole number, so it is computed exactly.
  have whole : ⌈σ⌉ ≤ 1023 := Int.ceil_le.mpr (by exact_mod_cast slow)
  have whole' : 0 ≤ ⌈σ⌉ := Int.ceil_nonneg forward
  have ceil := toRat?_ceil stride (le_large (by rw [abs_of_nonneg forward]; linarith))
  have last : toRat? (ofInt (chunkFrames - (2 * reach + 1))) = some ((767 : Int) : ℚ) :=
    toRat?_ofInt (by decide)
  have difference : ((767 : Int) : ℚ) - (⌈σ⌉ : ℚ) = ((767 - ⌈σ⌉ : Int) : ℚ) := by push_cast; rfl
  have short : |767 - ⌈σ⌉| ≤ 2 ^ 53 := abs_le.mpr (by constructor <;> omega)
  obtain ⟨η, horizon, rounds'⟩ := toRat?_sub last ceil
    (difference ▸ abs_intCast_le_large short)
  rw [difference] at rounds'
  obtain rfl := rounds'.eq_of_representable (representable_intCast short)
  refine ⟨σ, _, stride, horizon, forward, ?_, ?_⟩
  · push_cast
    have := Int.le_ceil σ
    linarith
  · exact_mod_cast (by omega : -256 ≤ 767 - ⌈σ⌉)

/-- A place that lies, after so many chunks, not too far back and not behind `top`. -/
def Within (top : ℚ) (chunks : Nat) (place : Float) : Prop :=
  ∃ a, toRat? place = some a ∧ -(2048 * chunks) ≤ a ∧ a ≤ top

theorem Within.mono {top top' : ℚ} {k k' : Nat} {place : Float} (h : Within top k place)
    (more : k ≤ k') (wider : top ≤ top') : Within top' k' place := by
  obtain ⟨a, value, low, high⟩ := h
  have : (k : ℚ) ≤ k' := by exact_mod_cast more
  exact ⟨a, value, by linarith, high.trans wider⟩

/-- The bound at the back can be represented. -/
theorem representable_back {k : Nat} (few : k ≤ 2 ^ 53) :
    Representable .binary64 (-(2048 * k)) := by
  refine ⟨-k, 11, ?_, by decide, by push_cast; norm_num; ring⟩
  rw [abs_neg, Nat.abs_cast]
  exact_mod_cast few

theorem abs_le_large_of_back {k : Nat} {a : ℚ} (few : k ≤ 2 ^ 53) (low : -(2048 * k) ≤ a)
    (high : a ≤ 2048) : |a| ≤ large := by
  have bound : (k : ℚ) ≤ 2 ^ 53 := by exact_mod_cast few
  exact le_large (abs_le.mpr (by constructor <;> linarith))

variable {σ η : ℚ} {place : Float} {k count fuel : Nat}

/-- One step on from before the horizon. -/
theorem Pace.step (h : p.Pace σ η) (few : k ≤ 2 ^ 53) (within : Within 767 k place)
    (before : place < p.horizon) : Within 767 k (place + p.stride) := by
  obtain ⟨a, value, low, -⟩ := within
  rw [lt_iff value h.horizon] at before
  have forward := h.forward
  have bound := h.within
  -- The bounds can be represented, so rounding does not lead out of them.
  obtain ⟨b, value', rounds⟩ := toRat?_add value h.stride
    (abs_le_large_of_back few (by linarith) (by linarith))
  refine ⟨b, value', rounds.ge (representable_back few) (by linarith), ?_⟩
  refine rounds.le ?_ (by linarith)
  exact_mod_cast representable_intCast (i := 767) (by norm_num)

/-- Going from instant to instant, the place stays within the chunk, and an instant is counted if
the horizon is ahead. -/
theorem Pace.instants (h : p.Pace σ η) (few : k ≤ 2 ^ 53) (within : Within 767 k place)
    (fuel count : Nat) :
    Within 767 k (p.instants fuel place count).2 ∧ count ≤ (p.instants fuel place count).1 ∧
      (fuel ≠ 0 → place < p.horizon → count < (p.instants fuel place count).1) := by
  induction fuel generalizing place count with
  | zero => exact ⟨within, le_rfl, fun none => absurd rfl none⟩
  | succ fuel ih =>
    rw [Plan.instants]
    split
    · rename_i before
      obtain ⟨within', more, -⟩ := ih (h.step few within before) (count + 1)
      exact ⟨within', by omega, fun _ _ => by omega⟩
    · rename_i behind
      exact ⟨within, le_rfl, fun _ before => absurd before behind⟩

/-- A chunk leaves the place before the horizon of the next one, and gives a frame if it found it
before its own. -/
theorem Pace.chunk (h : p.Pace σ η) (few : k + 1 ≤ 2 ^ 53) (within : Within 767 k place) :
    Within (-257) (k + 1) (p.chunk place).2 ∧ (place < p.horizon → 0 < (p.chunk place).1) := by
  obtain ⟨⟨a, value, low, high⟩, -, gives⟩ := h.instants (by omega) within
    (toCount ((p.horizon - place) * p.ratio) + 2) 0
  refine ⟨?_, gives (by omega)⟩
  have shift : (-(2048 * (k + 1 : Nat)) : ℚ) ≤ a - (chunkFrames : Nat) := by
    unfold chunkFrames
    push_cast
    linarith
  have shift' : a - (chunkFrames : Nat) ≤ -257 := by
    unfold chunkFrames
    push_cast
    linarith
  obtain ⟨b, value', rounds⟩ := toRat?_sub value (toRat?_ofCount (n := chunkFrames) (by decide))
    (abs_le_large_of_back few shift (by linarith))
  refine ⟨b, value', rounds.ge (representable_back few) shift, rounds.le ?_ shift'⟩
  exact_mod_cast representable_intCast (i := -257) (by norm_num)

/-- A place that a chunk left lies before the horizon. -/
theorem Pace.before (h : p.Pace σ η) (within : Within (-257) k place) : place < p.horizon := by
  obtain ⟨a, value, -, high⟩ := within
  rw [lt_iff value h.horizon]
  have early := h.early
  linarith

/-! ### What comes out -/

/-- The place after all chunks of the sound. -/
theorem Pace.chunks (h : p.Pace σ η) {number : Nat} (some : number ≠ 0)
    (few : k + number ≤ 2 ^ 53) (within : Within 767 k place) (count : Nat) :
    Within (-257) (k + number) (p.chunks number place count).2 := by
  induction number generalizing k place count with
  | zero => exact absurd rfl some
  | succ number ih =>
    obtain ⟨after, -⟩ := h.chunk (by omega) within
    rw [Plan.chunks]
    by_cases last : number = 0
    · rw [last]
      exact after
    · rw [show k + (number + 1) = k + 1 + number by omega] at few ⊢
      exact ih last few (after.mono le_rfl (by norm_num)) _

/-- Feeding silence goes on until there are as many frames as are wanted. -/
theorem Pace.le_flush (h : p.Pace σ η) {wanted : Nat} (few : k + fuel ≤ 2 ^ 53)
    (within : Within (-257) k place) (enough : wanted ≤ count + fuel) :
    wanted ≤ p.flush wanted fuel place count := by
  induction fuel generalizing k place count with
  | zero => exact enough
  | succ fuel ih =>
    rw [Plan.flush]
    split
    · assumption
    · -- The place lies before the horizon, so the chunk gives a frame.
      obtain ⟨after, gives⟩ := h.chunk (by omega) (within.mono le_rfl (by norm_num))
      have some := gives (h.before within)
      dsimp only
      rw [if_neg some.ne']
      exact ih (by omega) after (by omega)

/-- The filter does not hold back more than it can see. -/
theorem delay_le (h : p.Positive) : p.delay ≤ 2 ^ 39 := by
  obtain ⟨low, high⟩ := quotient_bounds h
  obtain ⟨ρ, ratio, most, error⟩ := exists_ratio h
  obtain ⟨below, above⟩ := abs_le.mp error
  have pos : 0 < ρ := by linarith
  have window : toRat? (ofCount reach) = some ((128 : Nat) : ℚ) := toRat?_ofCount (by decide)
  have bound : ((128 : Nat) : ℚ) * ρ ≤ 2 ^ 39 := by
    push_cast
    linarith
  have size : |((128 : Nat) : ℚ) * ρ| = (128 : Nat) * ρ := abs_of_pos (by positivity)
  obtain ⟨x, value, rounds⟩ := toRat?_mul window ratio (le_large (by rw [size]; linarith))
  have power : Representable .binary64 (2 ^ 39) := representable_two_zpow (i := 39) (by norm_num)
  have small : x ≤ 2 ^ 39 := rounds.le power bound
  rw [delay, toCount_eq value (by linarith)]
  exact Nat.floor_le_of_le (by exact_mod_cast small)

/-- What is expected comes out of the filter, with what the filter holds back before it. -/
theorem le_produced (h : p.Moderate) (nonempty : 1 ≤ n) (short : n * p.target.toNat ≤ 2 ^ 51) :
    p.expected n + p.delay ≤ p.produced n := by
  obtain ⟨σ, η, pace⟩ := exists_pace h
  have delay := delay_le h.toPositive
  have expected := (expected_eq h.toPositive nonempty short).1
  have exact := exact_bounds h.toPositive nonempty
  have excess := excess_le_one p n
  have few : n ≤ n * p.target.toNat := Nat.le_mul_of_pos_right n h.target_pos
  -- The first instant lies as far before the sound as the filter looks.
  have first : Within 767 1 (-(ofCount reach)) := by
    have window : toRat? (ofCount reach) = some ((128 : Nat) : ℚ) := toRat?_ofCount (by decide)
    exact ⟨_, toRat?_neg window (le_large (by norm_num)), by norm_num, by norm_num⟩
  unfold Plan.produced
  have number : (n + chunkFrames - 1) / chunkFrames ≠ 0 ∧
      (n + chunkFrames - 1) / chunkFrames ≤ n := by
    unfold chunkFrames
    omega
  have after := pace.chunks number.1 (by omega) first 0
  exact pace.le_flush (by omega) after (Nat.le_add_left ..)

/-- No more than what is expected is kept. -/
theorem frameCount_le (h : p.Positive) (nonempty : 1 ≤ n) (short : n * p.target.toNat ≤ 2 ^ 51) :
    p.frameCount n ≤ p.exact n + p.excess n := by
  rw [← (expected_eq h nonempty short).1]
  exact Nat.min_le_left ..

/-- A sound at another rate has its exact length, or one frame more if the product of its length and
the ratio was rounded up from an integer. -/
theorem frameCount_eq (h : p.Moderate) (nonempty : 1 ≤ n) (short : n * p.target.toNat ≤ 2 ^ 51) :
    p.frameCount n = p.exact n + p.excess n := by
  have produced := le_produced h nonempty short
  rw [← (expected_eq h.toPositive nonempty short).1, frameCount]
  omega

end SamplePlayer.Resample.Plan
