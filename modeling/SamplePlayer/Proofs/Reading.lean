import SamplePlayer.Bank
import SamplePlayer.Proofs.Number.Selection

/-!
# Reading a bank

A position that is not beyond the last frame of a bank leads to frames that are there: the integral
part is the number of one, and the frame behind it is the last one at most. A position before the
first frame counts as the first.

A cursor moves by at most 32 at a time. It can move backwards, and then for very long; but far
before the first frame it is too large a number to be changed by so little, so it stays a number.

## Main definitions

* `Bank.Within`: a position that a bank can be read at.
* `Bank.Place`: a position that a cursor gets to.

## Main results

* `Bank.Within.index_lt`, `Bank.successor_lt`: the frames that are read are there.
* `Bank.Within.read?_isSome`: there is a frame at the position.
* `Bank.Place.add`, `Bank.place_clamp`: where a cursor gets to.
-/

namespace SamplePlayer.Bank

open Number Float.Model

variable {bank : Bank} {x : Float} {q : ℚ}

/-- The position is a number, and not beyond the last frame. -/
structure Within (bank : Bank) (x : Float) (q : ℚ) : Prop where
  value : toRat? x = some q
  le_last : q ≤ bank.frameCount - 1

theorem toRat?_lastFrame (few : bank.frameCount ≤ 2 ^ 53) :
    toRat? bank.lastFrame = some ((bank.frameCount : ℚ) - 1) := by
  have pos : 1 ≤ bank.frameCount := bank.frames_pos
  have last := toRat?_ofCount (n := bank.frameCount - 1) (by omega)
  rw [Nat.cast_sub pos, Nat.cast_one] at last
  exact last

/-- Up to the last frame is not beyond it. -/
theorem lastFrame_lt_iff (few : bank.frameCount ≤ 2 ^ 53) (value : toRat? x = some q) :
    bank.lastFrame < x ↔ (bank.frameCount : ℚ) - 1 < q :=
  lt_iff (toRat?_lastFrame few) value

/-- The frame behind one is at most the last one. -/
theorem successor_lt (bank : Bank) (i : Nat) :
    min (i + 1) (bank.frameCount - 1) < bank.frameCount := by
  have pos : 0 < bank.frameCount := bank.frames_pos
  omega

namespace Within

variable (within : bank.Within x q)
include within

/-- The integral part is the number of a frame. -/
theorem index_lt (few : bank.frameCount ≤ 2 ^ 53) : toCount (floor x) < bank.frameCount := by
  have pos : 0 < bank.frameCount := bank.frames_pos
  have last : (bank.frameCount : ℚ) ≤ 2 ^ 53 := by exact_mod_cast few
  have below : (⌊q⌋ : ℚ) ≤ bank.frameCount - 1 := (Int.floor_le q).trans within.le_last
  rw [toCount_eq (toRat?_floor within.value) (by linarith), Nat.floor_lt' pos.ne']
  linarith

/-- There is a frame at the position, between two frames the blend of both. -/
theorem read?_isSome (few : bank.frameCount ≤ 2 ^ 53) : (bank.read? x).isSome := by
  have first := within.index_lt few
  have second := bank.successor_lt (toCount (floor x))
  simp only [read?]
  split
  · rw [frame?, Array.getElem?_eq_getElem first]
    rfl
  · simp only [frame?, frameCount] at first second ⊢
    rw [Array.getElem?_eq_getElem first, Array.getElem?_eq_getElem second]
    rfl

end Within

/-! ### Places of a cursor -/

/-- The bank can be read at the position, which is not too far before the first frame. -/
def Place (bank : Bank) (x : Float) : Prop := ∃ q, bank.Within x q ∧ -2 ^ 60 ≤ q

theorem place_zero (bank : Bank) : bank.Place 0.0 := by
  have first : (1 : ℚ) ≤ bank.frameCount := by exact_mod_cast bank.frames_pos
  exact ⟨0, ⟨toRat?_zero, by linarith⟩, by norm_num⟩

section

variable (few : bank.frameCount ≤ 2 ^ 53)
include few

/-- Wherever a caller wants it, the cursor gets to a place within the bank. -/
theorem place_clamp (x : Float) :
    bank.Place (clamp (if x.isNaN then 0.0 else x) 0.0 bank.lastFrame) := by
  have first : (1 : ℚ) ≤ bank.frameCount := by exact_mod_cast bank.frames_pos
  have number : (if x.isNaN then 0.0 else x).isNaN = false := by
    split
    · exact isNaN_eq_false toRat?_zero
    · exact Bool.eq_false_of_not_eq_true ‹_›
  obtain ⟨q, value, low, high⟩ :=
    toRat?_clamp toRat?_zero (toRat?_lastFrame few) (by linarith) number
  exact ⟨q, ⟨value, high⟩, by linarith⟩

/-- The next position is a place as well, unless it is beyond the last frame. -/
theorem Place.add {y : Float} {a : ℚ} (place : bank.Place x) (step : toRat? y = some a)
    (slow : |a| ≤ 32) (inside : ¬ bank.lastFrame < x + y) : bank.Place (x + y) := by
  obtain ⟨q, ⟨value, le_last⟩, low⟩ := place
  have last : (bank.frameCount : ℚ) ≤ 2 ^ 53 := by exact_mod_cast few
  obtain ⟨back, forth⟩ := abs_le.mp slow
  have near : |q + a| < 2 ^ 60 + 128 := abs_lt.mpr ⟨by linarith, by linarith⟩
  obtain ⟨w, sum, rounds⟩ := toRat?_add value step (le_large (near.le.trans (by norm_num)))
  have stays := rounds.abs_le_two_zpow_of_near (t := 8) (by decide)
    (near.trans_le (by norm_num [Format.mantissaBits]))
  norm_num [Format.mantissaBits] at stays
  rw [lastFrame_lt_iff few sum, not_lt] at inside
  exact ⟨w, ⟨sum, inside⟩, by linarith [(abs_le.mp stays).1]⟩

end

end SamplePlayer.Bank
