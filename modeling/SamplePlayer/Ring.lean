import SamplePlayer.Sample

/-!
# The ring between a writer and a device

A ring of a power of two of cells holds the samples on their way to a device. The writer's place and
the device's place go around it; they are equal when the ring is empty, so one cell always stays
free.

## Main definitions

* `Ring`, `Ring.make`.
* `Ring.available`, `Ring.space`.
* `Ring.push`, `Ring.pop`.
-/

namespace SamplePlayer

/-- Samples on their way from a writer to a device. -/
structure Ring where
  cells : Array Sample
  /-- Where the device reads next. -/
  readAt : Nat
  /-- Where the writer writes next. -/
  writeAt : Nat
  read_lt : readAt < cells.size
  write_lt : writeAt < cells.size

namespace Ring

/-- The least power of two that is not below `n`. -/
def roundUp (n : Nat) : Nat :=
  if n ≤ 1 then 1 else Nat.pow 2 (Nat.log2 (n - 1) + 1)

theorem roundUp_pos (n : Nat) : 0 < roundUp n := by
  unfold roundUp
  split
  · exact Nat.one_pos
  · exact Nat.two_pow_pos _

/-- An empty ring with at least `capacity` cells. -/
def make (capacity : Nat) : Ring where
  cells := Array.replicate (roundUp capacity) .zero
  readAt := 0
  writeAt := 0
  read_lt := by simpa using roundUp_pos capacity
  write_lt := by simpa using roundUp_pos capacity

variable (r : Ring)

theorem size_pos : 0 < r.cells.size :=
  Nat.lt_of_le_of_lt (Nat.zero_le _) r.read_lt

/-- The number of cells. -/
def capacity : Nat := r.cells.size

/-- The number of samples in the ring. -/
def available : Nat :=
  (r.writeAt + r.capacity - r.readAt) % r.capacity

/-- The number of samples there is room for. -/
def space : Nat :=
  r.capacity - r.available - 1

/-- Puts samples into consecutive cells from `place` on, going around. -/
def fill (cells : Array Sample) (place : Nat) : List Sample → Array Sample
  | [] => cells
  | s :: rest => fill (cells.setIfInBounds (place % cells.size) s) (place + 1) rest

theorem size_fill (cells : Array Sample) (place : Nat) (samples : List Sample) :
    (fill cells place samples).size = cells.size := by
  induction samples generalizing cells place with
  | nil => rfl
  | cons s rest ih => simp [fill, ih]

/-- Writes as many of the samples as there is room for: their number, and the ring. -/
def push (samples : List Sample) : Nat × Ring :=
  let written := samples.take r.space
  (written.length, {
    cells := fill r.cells r.writeAt written
    readAt := r.readAt
    writeAt := (r.writeAt + written.length) % r.capacity
    read_lt := by simpa [size_fill] using r.read_lt
    write_lt := by simpa [size_fill, capacity] using Nat.mod_lt _ r.size_pos })

/-- Takes the oldest sample, if there is one. -/
def pop : Option (Sample × Ring) :=
  if r.readAt = r.writeAt then none
  else some (r.cells.getD r.readAt .zero, {
    r with
    readAt := (r.readAt + 1) % r.capacity
    read_lt := Nat.mod_lt _ r.size_pos })

/-- Takes up to `count` samples, oldest first. -/
def popMany : (count : Nat) → Ring → List Sample × Ring
  | 0, r => ([], r)
  | count + 1, r =>
    match r.pop with
    | none => ([], r)
    | some (s, r) =>
      let (rest, r) := popMany count r
      (s :: rest, r)

end Ring

end SamplePlayer
