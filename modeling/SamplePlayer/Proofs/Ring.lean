import Mathlib.Data.List.GetD
import Mathlib.Data.List.Range
import Mathlib.Data.Nat.ModEq
import SamplePlayer.Ring

/-!
# The ring as a queue

A ring stands for the queue of the samples that lie between its two places, oldest first. As one
cell stays free, the two places tell how many they are. Writing appends to the queue as much as
there is room for, and taking removes its head.

## Main definitions

* `Ring.contents`: the samples in the ring, oldest first.

## Main results

* `Ring.contents_push`, `Ring.contents_of_pop`, `Ring.pop_eq_none_iff`: both ends of the queue.
* `Ring.popMany_eq`: taking several samples.
-/

namespace SamplePlayer.Ring

variable {r r' : Ring} {s : Sample} {samples : List Sample} {n k : Nat}

/-! ### Places -/

theorem capacity_pos (r : Ring) : 0 < r.capacity := r.size_pos

theorem readAt_mod (r : Ring) : r.readAt % r.capacity = r.readAt := Nat.mod_eq_of_lt r.read_lt

theorem available_lt (r : Ring) : r.available < r.capacity := Nat.mod_lt _ r.capacity_pos

/-- There is room for what is not in the ring, but for the cell that stays free. -/
theorem available_add_space (r : Ring) : r.available + r.space + 1 = r.capacity := by
  have below := r.available_lt
  unfold space
  omega

/-- The writer is as many cells ahead of the device as there are samples. -/
theorem writeAt_eq (r : Ring) : r.writeAt = (r.readAt + r.available) % r.capacity := by
  have read := r.read_lt
  have write := r.write_lt
  change r.readAt < r.capacity at read
  change r.writeAt < r.capacity at write
  have sum : r.readAt + (r.writeAt + r.capacity - r.readAt) = r.writeAt + r.capacity := by omega
  rw [available, Nat.add_mod_mod, sum, Nat.add_mod_right, Nat.mod_eq_of_lt write]

theorem available_eq (below : k < r.capacity)
    (ahead : r.writeAt = (r.readAt + k) % r.capacity) : r.available = k := by
  have read := r.read_lt
  change r.readAt < r.capacity at read
  rw [available, ahead]
  by_cases around : r.readAt + k < r.capacity
  · have sum : r.readAt + k + r.capacity - r.readAt = k + r.capacity := by omega
    rw [Nat.mod_eq_of_lt around, sum, Nat.add_mod_right, Nat.mod_eq_of_lt below]
  · have once : (r.readAt + k) % r.capacity = r.readAt + k - r.capacity := by
      rw [Nat.mod_eq_sub_mod (by omega), Nat.mod_eq_of_lt (by omega)]
    have sum : r.readAt + k - r.capacity + r.capacity - r.readAt = k := by omega
    rw [once, sum, Nat.mod_eq_of_lt below]

theorem available_eq_zero_iff : r.available = 0 ↔ r.readAt = r.writeAt := by
  constructor
  · intro none
    have ahead := r.writeAt_eq
    rw [none, Nat.add_zero, readAt_mod] at ahead
    exact ahead.symm
  · intro same
    refine available_eq r.capacity_pos ?_
    rw [Nat.add_zero, readAt_mod, same]

/-! ### The queue -/

/-- The sample in the cell `k` places after the one that is read next. -/
def cell (r : Ring) (k : Nat) : Sample := r.cells.getD ((r.readAt + k) % r.capacity) .zero

/-- The samples in the ring, oldest first. -/
def contents (r : Ring) : List Sample := (List.range r.available).map r.cell

@[simp] theorem length_contents (r : Ring) : r.contents.length = r.available := by
  simp [contents]

@[simp] theorem contents_make (n : Nat) : (make n).contents = [] := by
  have none : (make n).available = 0 := available_eq_zero_iff.mpr rfl
  rw [contents, none]
  rfl

theorem contents_eq_nil_iff : r.contents = [] ↔ r.available = 0 := by
  rw [← List.length_eq_zero_iff, length_contents]

/-! ### Writing -/

/-- Two cells less than a whole turn apart are different. -/
theorem mod_ne_mod_of_lt (place : Nat) {size : Nat} (pos : 0 < k) (below : k < size) :
    (place + k) % size ≠ place % size := by
  intro same
  have zero : k ≡ 0 [MOD size] := Nat.ModEq.add_left_cancel' place same
  rw [Nat.ModEq, Nat.mod_eq_of_lt below, Nat.zero_mod] at zero
  omega

/-- Filling puts one sample after the other from the place on and leaves the cells behind them. -/
theorem getD_fill (cells : Array Sample) (place k : Nat) (few : samples.length ≤ cells.size)
    (below : k < cells.size) :
    (fill cells place samples).getD ((place + k) % cells.size) .zero =
      samples.getD k (cells.getD ((place + k) % cells.size) .zero) := by
  induction samples generalizing cells place k with
  | nil => rfl
  | cons s rest ih =>
    have size : (cells.setIfInBounds (place % cells.size) s).size = cells.size := by simp
    rw [List.length_cons] at few
    rw [fill]
    cases k with
    | zero =>
      -- The cell of `s` is the last one that the rest would come to.
      have last : (place + 0) % cells.size = (place + 1 + (cells.size - 1)) % cells.size := by
        have sum : place + 1 + (cells.size - 1) = place + cells.size := by omega
        rw [sum, Nat.add_mod_right, Nat.add_zero]
      have later := ih (cells.setIfInBounds (place % cells.size) s) (place + 1) (cells.size - 1)
        (by omega) (by omega)
      rw [size, ← last] at later
      rw [later, List.getD_eq_default _ _ (by omega)]
      simp [Nat.mod_lt place (show 0 < cells.size by omega)]
    | succ j =>
      have later := ih (cells.setIfInBounds (place % cells.size) s) (place + 1) j (by omega)
        (by omega)
      have sum : place + 1 + j = place + (j + 1) := by omega
      rw [size, sum] at later
      rw [later, List.getD_cons_succ]
      congr 1
      have apart := mod_ne_mod_of_lt place (Nat.succ_pos j) below
      simp [Array.getD_eq_getD_getElem?, apart.symm]

@[simp] theorem capacity_push (r : Ring) (samples : List Sample) :
    (r.push samples).2.capacity = r.capacity := by
  simp [push, capacity, size_fill]

/-- The number that writing returns tells what of the samples is left. -/
theorem take_append_drop_push (r : Ring) (samples : List Sample) :
    samples.take r.space ++ samples.drop (r.push samples).1 = samples :=
  List.prefix_iff_eq_append.mp (List.take_prefix ..)

theorem available_push (r : Ring) (samples : List Sample) :
    (r.push samples).2.available = r.available + (samples.take r.space).length := by
  have room := r.available_add_space
  refine available_eq ?_ ?_
  · rw [capacity_push, List.length_take]
    omega
  · rw [capacity_push]
    change (r.writeAt + (samples.take r.space).length) % r.capacity = _
    rw [writeAt_eq, Nat.mod_add_mod, Nat.add_assoc]
    rfl

theorem getD_cells_push (samples : List Sample) (below : k < r.capacity) :
    (r.push samples).2.cells.getD ((r.writeAt + k) % r.capacity) .zero =
      (samples.take r.space).getD k (r.cells.getD ((r.writeAt + k) % r.capacity) .zero) := by
  have room := r.available_add_space
  have few : (samples.take r.space).length ≤ r.space := List.length_take_le ..
  exact getD_fill _ _ _ (show (samples.take r.space).length ≤ r.capacity by omega) below

/-- Writing appends as many of the samples as there is room for. -/
theorem contents_push (r : Ring) (samples : List Sample) :
    (r.push samples).2.contents = r.contents ++ samples.take r.space := by
  have room := r.available_add_space
  have few : (samples.take r.space).length ≤ r.space := List.length_take_le ..
  rw [contents, available_push, List.range_add, List.map_append, List.map_map]
  congr 1
  · refine List.map_congr_left fun k member => ?_
    -- The old cells lie behind the new ones, seen from where the writer was.
    rw [List.mem_range] at member
    have place : (r.readAt + k) % r.capacity =
        (r.writeAt + (r.capacity - r.available + k)) % r.capacity := by
      have sum : r.readAt + r.available + (r.capacity - r.available + k) =
          r.readAt + k + r.capacity := by omega
      rw [writeAt_eq, Nat.mod_add_mod, sum, Nat.add_mod_right]
    change (r.push samples).2.cells.getD ((r.readAt + k) % (r.push samples).2.capacity) .zero = _
    rw [capacity_push, place, getD_cells_push samples (by omega),
      List.getD_eq_default _ _ (by omega), ← place]
    rfl
  · refine List.ext_getElem (by simp) fun i inside inside' => ?_
    have place : (r.readAt + (r.available + i)) % r.capacity = (r.writeAt + i) % r.capacity := by
      rw [writeAt_eq, Nat.mod_add_mod, Nat.add_assoc]
    rw [List.getElem_map, List.getElem_range]
    change (r.push samples).2.cells.getD
      ((r.readAt + (r.available + i)) % (r.push samples).2.capacity) .zero = _
    rw [capacity_push, place, getD_cells_push samples (by omega), List.getD_eq_getElem _ _ inside']

/-! ### Taking -/

theorem pop_eq_none_iff : r.pop = none ↔ r.contents = [] := by
  rw [contents_eq_nil_iff, available_eq_zero_iff]
  simp [pop]

/-- What is taken is the head of the queue. -/
theorem contents_of_pop (popped : r.pop = some (s, r')) :
    r.contents = s :: r'.contents ∧ r'.capacity = r.capacity := by
  have some : r.readAt ≠ r.writeAt := by
    intro same
    simp [pop, same] at popped
  have pos : 0 < r.available := Nat.pos_of_ne_zero (mt available_eq_zero_iff.mp some)
  have below := r.available_lt
  simp only [pop, some, if_false, Option.some.injEq, Prod.mk.injEq] at popped
  obtain ⟨rfl, rfl⟩ := popped
  refine ⟨?_, rfl⟩
  have left : Ring.available { r with
      readAt := (r.readAt + 1) % r.capacity
      read_lt := Nat.mod_lt _ r.size_pos } = r.available - 1 := by
    refine available_eq (show _ < r.capacity by omega) ?_
    change r.writeAt = ((r.readAt + 1) % r.capacity + (r.available - 1)) % r.capacity
    have sum : r.readAt + 1 + (r.available - 1) = r.readAt + r.available := by omega
    rw [Nat.mod_add_mod, sum, writeAt_eq]
  have count : r.available = r.available - 1 + 1 := by omega
  rw [contents, count, List.range_succ_eq_map, List.map_cons, List.map_map, contents, left]
  congr 1
  · simp [cell, readAt_mod]
  · refine List.map_congr_left fun k _ => ?_
    change r.cells.getD ((r.readAt + (k + 1)) % r.capacity) .zero =
      r.cells.getD (((r.readAt + 1) % r.capacity + k) % r.capacity) .zero
    rw [Nat.mod_add_mod, Nat.add_assoc, Nat.add_comm 1 k]

/-- As much as is asked for is taken off the front, if there is so much. -/
theorem popMany_eq (n : Nat) (r : Ring) : (popMany n r).1 = r.contents.take n ∧
    (popMany n r).2.contents = r.contents.drop n := by
  induction n generalizing r with
  | zero => exact ⟨rfl, rfl⟩
  | succ n ih =>
    rw [popMany]
    split
    · rename_i none
      simp [pop_eq_none_iff.mp none]
    · rename_i s r' popped
      rw [(contents_of_pop popped).1, List.take_succ_cons, List.drop_succ_cons, ← (ih r').1,
        ← (ih r').2]
      exact ⟨rfl, rfl⟩

end SamplePlayer.Ring
