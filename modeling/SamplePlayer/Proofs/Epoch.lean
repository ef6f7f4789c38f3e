import Mathlib.Algebra.Ring.Nat
import SamplePlayer.Epoch

/-!
# The arithmetic of epochs

A transition moves an epoch two further and keeps its parity, so an epoch that is at rest is even.
The counter wraps around: a snapshot tells whether transitions have run since it was read only as
long as they are fewer than `2 ^ 31`. Within that bound a write-back is let through if and only if
there was none.

## Main definitions

* `Epoch.after`: the epoch some number of transitions later.

## Main results

* `Epoch.busy_marked`, `Epoch.eq_of_marked_eq`: the mark of a change under way.
* `Epoch.after_eq_self_iff`: a bounded number of transitions leaves the epoch only if it is zero.
* `Epoch.claim?_eq`: when a write-back is let through.
-/

namespace SamplePlayer.Epoch

variable {e f g : Epoch} {m n : Nat}

/-- The epoch `n` transitions later. -/
def after (e : Epoch) (n : Nat) : Epoch := ⟨e.count + 2 * UInt32.ofNat n⟩

@[simp] theorem after_zero : e.after 0 = e := by
  simp [after]

@[simp] theorem leave_eq_after : e.leave = e.after 1 := by
  simp [leave, after]

theorem after_after : (e.after m).after n = e.after (m + n) := by
  simp only [after, UInt32.ofNat_add, UInt32.mul_add, UInt32.add_assoc]

theorem busy_iff : e.busy = true ↔ e.count.toNat % 2 = 1 := by
  simp [busy, ← UInt32.toNat_inj]

theorem toNat_count_after : (e.after n).count.toNat = (e.count.toNat + 2 * n) % 2 ^ 32 := by
  simp only [after, UInt32.toNat_add, UInt32.toNat_mul, UInt32.toNat_ofNat, UInt32.toNat_ofNat']
  omega

/-- The mark adds one to an epoch at rest. -/
theorem toNat_count_marked (rest : e.busy = false) :
    e.marked.count.toNat = e.count.toNat + 1 := by
  have even : e.count.toNat = 2 ^ 1 * (e.count.toNat / 2) := by
    have odd := mt busy_iff.mpr (Bool.eq_false_iff.mp rest)
    omega
  rw [marked, UInt32.toNat_or, even]
  exact (Nat.two_pow_add_eq_or_of_lt (by decide) _).symm

theorem busy_marked (rest : e.busy = false) : e.marked.busy = true := by
  have odd := mt busy_iff.mpr (Bool.eq_false_iff.mp rest)
  rw [busy_iff, toNat_count_marked rest]
  omega

/-- The mark can be told from the epoch that it was put on. -/
theorem eq_of_marked_eq (rest : e.busy = false) (rest' : f.busy = false)
    (same : e.marked = f.marked) : e = f := by
  have counts := congrArg (fun e : Epoch => e.count.toNat) same
  simp only [toNat_count_marked rest, toNat_count_marked rest', Nat.add_right_cancel_iff] at counts
  cases e
  cases f
  exact congrArg Epoch.mk (UInt32.toNat_inj.mp counts)

/-- Transitions do not change the parity of an epoch. -/
@[simp] theorem busy_after : (e.after n).busy = e.busy := by
  rw [Bool.eq_iff_iff, busy_iff, busy_iff, toNat_count_after]
  omega

/-- Fewer than `2 ^ 31` transitions cannot bring an epoch back to where it was. -/
theorem after_eq_self_iff (few : n < 2 ^ 31) : e.after n = e ↔ n = 0 := by
  constructor
  · intro same
    -- Twice `n` is less than the range of the counter, so it cannot wrap around to zero.
    have count := congrArg (fun e : Epoch => e.count.toNat) same
    simp only [toNat_count_after] at count
    have bound := e.count.toNat_lt
    omega
  · rintro rfl
    exact after_zero

/-- A write-back claims a voice at rest exactly if its epoch is the one that was read. -/
theorem claim?_eq (rest : e.busy = false) (now : Epoch) :
    claim? e now = if now = e then some now.marked else none := by
  by_cases same : now = e <;> simp [claim?, rest, same]

/-- A write-back is let through only at rest, at the epoch that was read. -/
theorem claim?_eq_some_iff : claim? e f = some g ↔ e.busy = false ∧ f = e ∧ g = e.marked := by
  cases rest : e.busy
  · rw [claim?_eq rest]
    grind
  · simp [claim?, rest]

/-- A transition is let through only at rest. -/
theorem enter?_eq_some_iff : e.enter? = some f ↔ e.busy = false ∧ f = e.marked := by
  cases rest : e.busy
  · simp [enter?, rest, eq_comm]
  · simp [enter?, rest]

end SamplePlayer.Epoch
