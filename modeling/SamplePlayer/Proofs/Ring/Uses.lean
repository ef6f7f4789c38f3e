import Mathlib.Order.Bounds.Basic
import SamplePlayer.Proofs.Ring

/-!
# What a ring answers

A ring is used in two ways: samples are offered to it, and one is taken from it. Whatever the order
of these uses, the answers are those of a queue that holds one sample less than the ring has cells.
What a queue answers is told from the queue alone: it takes the longest front of the samples that
fits, and gives its oldest sample away.

The places of a ring are found with masks, as its number of cells is a power of two: a place cut to
the mask is the place modulo the number of cells, and so is the distance of two places, although
the difference of the two words may go around.

## Main definitions

* `Ring.Use`, `Ring.Answer`, `Ring.uses`: a ring used again and again.
* `Ring.Serves`, `Ring.ServesAll`: the answers of a queue of limited length.

## Main results

* `Ring.isLeast_roundUp`: the number of cells.
* `Ring.available_eq_masked`: the distance of the places as a machine finds it.
* `Ring.uses_make`: a ring is a queue of limited length.
-/

namespace SamplePlayer.Ring

variable {r : Ring} {n k limit : Nat}

/-! ### The number of cells -/

/-- The number of cells is the least power of two that the requested number does not exceed. -/
theorem isLeast_roundUp (n : Nat) :
    IsLeast {cells | (∃ k, cells = 2 ^ k) ∧ n ≤ cells} (roundUp n) := by
  unfold roundUp
  split
  · rename_i few
    refine ⟨⟨⟨0, rfl⟩, few⟩, ?_⟩
    rintro _ ⟨⟨k, rfl⟩, -⟩
    exact Nat.two_pow_pos k
  · rename_i many
    have ahead : n - 1 ≠ 0 := by omega
    have enough : n - 1 < 2 ^ (Nat.log2 (n - 1) + 1) := Nat.lt_log2_self
    refine ⟨⟨⟨_, rfl⟩, show n ≤ 2 ^ (Nat.log2 (n - 1) + 1) by omega⟩, ?_⟩
    rintro _ ⟨⟨k, rfl⟩, above⟩
    have lower : Nat.log2 (n - 1) < k := (Nat.log2_lt ahead).mpr (by omega)
    exact Nat.pow_le_pow_right Nat.two_pos lower

/-! ### Places cut to a mask -/

/-- The number of samples is the difference of the two places, as words that may go around, cut to
the mask of the cells. -/
theorem available_eq_masked (cells : r.capacity = 2 ^ k) (small : k < 64) :
    ((UInt64.ofNat r.writeAt - UInt64.ofNat r.readAt) &&&
      UInt64.ofNat (r.capacity - 1)).toNat = r.available := by
  have read := r.read_lt
  have write := r.write_lt
  change r.readAt < r.capacity at read
  change r.writeAt < r.capacity at write
  have whole : 2 ^ k ≤ 2 ^ 63 := Nat.pow_le_pow_right Nat.two_pos (by omega)
  have fits : r.capacity < UInt64.size := by
    rw [cells]
    exact whole.trans_lt (by decide)
  have words : (2 : Nat) ^ 64 = 2 ^ k * 2 ^ (64 - k) := by
    rw [← Nat.pow_add]
    congr 1
    omega
  rw [UInt64.toNat_and, UInt64.toNat_sub, UInt64.toNat_ofNat_of_lt' (by omega),
    UInt64.toNat_ofNat_of_lt' (by omega), UInt64.toNat_ofNat_of_lt' (by omega), cells,
    Nat.and_two_pow_sub_one_eq_mod, Nat.mod_mod_of_dvd _ ⟨_, words⟩, available, cells]
  -- Both differences are the same modulo the number of cells.
  have apart : 2 ^ 64 - r.readAt + r.writeAt =
      r.writeAt + 2 ^ k - r.readAt + 2 ^ k * (2 ^ (64 - k) - 1) := by
    rw [Nat.mul_sub, ← words]
    omega
  rw [apart, Nat.add_mul_mod_self_left]

/-! ### Uses and answers -/

/-- A use of a ring: samples are offered to it, or one is taken. -/
inductive Use
  | push (samples : List Sample)
  | pop

/-- What a use answers: how many samples were written, or the sample that was taken. -/
inductive Answer
  | written (count : Nat)
  | taken (sample : Option Sample)
deriving DecidableEq

/-- What one use answers, and the ring after it. -/
def use (r : Ring) : Use → Answer × Ring
  | .push samples => (.written (r.push samples).1, (r.push samples).2)
  | .pop =>
    match r.pop with
    | none => (.taken none, r)
    | some (s, r) => (.taken (some s), r)

/-- What the uses answer one after the other, and the ring after them. -/
def uses (r : Ring) : List Use → List Answer × Ring
  | [] => ([], r)
  | use :: rest =>
    let (answer, r) := r.use use
    let (answers, r) := r.uses rest
    (answer :: answers, r)

/-- What a queue of at most `limit` samples answers to a use, with the queue before and after. -/
inductive Serves (limit : Nat) : List Sample → Use → Answer → List Sample → Prop
  | push {queue samples fitting : List Sample} (front : fitting <+: samples)
      (fits : (queue ++ fitting).length ≤ limit)
      (longest : ∀ other, other <+: samples → (queue ++ other).length ≤ limit →
        other.length ≤ fitting.length) :
      Serves limit queue (.push samples) (.written fitting.length) (queue ++ fitting)
  | pop {oldest : Sample} {queue : List Sample} :
      Serves limit (oldest :: queue) .pop (.taken (some oldest)) queue
  | none : Serves limit [] .pop (.taken none) []

/-- What a queue of at most `limit` samples answers to uses one after the other. -/
inductive ServesAll (limit : Nat) : List Sample → List Use → List Answer → List Sample → Prop
  | nil {queue : List Sample} : ServesAll limit queue [] [] queue
  | cons {queue between last : List Sample} {use : Use} {answer : Answer} {uses : List Use}
      {answers : List Answer} (first : Serves limit queue use answer between)
      (rest : ServesAll limit between uses answers last) :
      ServesAll limit queue (use :: uses) (answer :: answers) last

/-- The samples that are written are the longest front that fits. -/
theorem serves_push (samples : List Sample) : Serves (r.capacity - 1) r.contents (.push samples)
    (.written (r.push samples).1) (r.push samples).2.contents := by
  have room := r.available_add_space
  rw [contents_push]
  refine .push (List.take_prefix ..) ?_ fun other front fits => ?_
  · rw [List.length_append, length_contents, List.length_take]
    omega
  · rw [List.length_append, length_contents] at fits
    rw [List.length_take]
    have within := front.length_le
    omega

/-- One use of a ring is one of its queue, and the number of cells stays. -/
theorem serves_use (r : Ring) (use : Use) :
    Serves (r.capacity - 1) r.contents use (r.use use).1 (r.use use).2.contents ∧
      (r.use use).2.capacity = r.capacity := by
  cases use with
  | push samples => exact ⟨serves_push samples, capacity_push r samples⟩
  | pop =>
    unfold Ring.use
    cases popped : r.pop with
    | none =>
      rw [pop_eq_none_iff.mp popped]
      exact ⟨.none, rfl⟩
    | some taken =>
      obtain ⟨head, kept⟩ := contents_of_pop popped
      rw [head]
      exact ⟨.pop, kept⟩

theorem servesAll_uses (r : Ring) (uses : List Use) :
    ServesAll (r.capacity - 1) r.contents uses (r.uses uses).1 (r.uses uses).2.contents ∧
      (r.uses uses).2.capacity = r.capacity := by
  induction uses generalizing r with
  | nil => exact ⟨.nil, rfl⟩
  | cons use rest ih =>
    obtain ⟨first, kept⟩ := serves_use r use
    obtain ⟨others, kept'⟩ := ih (r.use use).2
    rw [kept] at others kept'
    exact ⟨.cons first others, kept'⟩

/-- However a ring is used, it answers as a queue that holds one sample less than the ring has
cells, and its length and its room are those of that queue. Its places stay inside, no difference
falls below zero, and the masks of words of 64 bits give the same numbers. -/
theorem uses_make (n : Nat) (uses : List Use) :
    IsLeast {cells | (∃ k, cells = 2 ^ k) ∧ n ≤ cells} (roundUp n) ∧
    ∃ answers r, (make n).uses uses = (answers, r) ∧ r.capacity = roundUp n ∧
      ServesAll (roundUp n - 1) [] uses answers r.contents ∧
      r.available = r.contents.length ∧ r.space = roundUp n - 1 - r.contents.length ∧
      r.readAt < roundUp n ∧ r.writeAt < roundUp n ∧
      r.available + 1 ≤ r.capacity ∧ r.readAt ≤ r.writeAt + r.capacity ∧
      (n ≤ 2 ^ 63 → ((UInt64.ofNat r.writeAt - UInt64.ofNat r.readAt) &&&
        UInt64.ofNat (r.capacity - 1)).toNat = r.available) := by
  obtain ⟨answered, kept⟩ := servesAll_uses (make n) uses
  have cells : (make n).capacity = roundUp n := by simp [make, capacity]
  rw [cells, contents_make] at answered
  rw [cells] at kept
  refine ⟨isLeast_roundUp n, _, _, rfl, kept, answered, ?_⟩
  generalize ((make n).uses uses).2 = r at kept
  have room := r.available_add_space
  have read : r.readAt < r.capacity := r.read_lt
  have write : r.writeAt < r.capacity := r.write_lt
  rw [length_contents]
  refine ⟨rfl, by omega, by omega, by omega, by omega, by omega, fun small => ?_⟩
  obtain ⟨⟨⟨k, power⟩, -⟩, least⟩ := isLeast_roundUp n
  have whole : roundUp n ≤ 2 ^ 63 := least ⟨⟨63, rfl⟩, small⟩
  rw [power] at whole
  refine available_eq_masked (kept.trans power) ?_
  exact Nat.lt_succ_of_le ((Nat.pow_le_pow_iff_right Nat.one_lt_two).mp whole)

/-- Seven samples go into eight cells, and the places go around the end. -/
example : ((make 5).uses [.push (List.replicate 9 ⟨1⟩), .pop, .pop, .push [⟨2⟩, ⟨3⟩, ⟨4⟩]]).1 =
    [.written 7, .taken (some ⟨1⟩), .taken (some ⟨1⟩), .written 2] := by
  decide +kernel

end SamplePlayer.Ring
