import SamplePlayer.Loader

/-!
# The two sides of a recording

A recording is split up group by group, a group having a sample for each channel. What is put on the
sides are the frames of its groups, one behind the other; both sides get as many samples as there
are whole groups, so put together again they give all these frames back. Where a frame comes from
can be told from its number alone: its left sample is the first of its group, its right sample the
second, or the first again if there is no other.

## Main definitions

* `Recording.heard`: the frames of consecutive groups.

## Main results

* `Recording.sides_eq`, `Recording.frames_eq_heard`: the sides and the frames of a recording.
* `Recording.getElem?_frames`: which samples make up a frame.
-/

namespace SamplePlayer

namespace Sides

variable (frames : List Frame) (sides : Sides)

/-- What is put on the sides comes behind what is there. -/
theorem toList_foldl_push :
    (frames.foldl push sides).left.toList = sides.left.toList ++ frames.map Frame.left ∧
      (frames.foldl push sides).right.toList = sides.right.toList ++ frames.map Frame.right := by
  induction frames generalizing sides with
  | nil => simp
  | cons f rest ih =>
    obtain ⟨left, right⟩ := ih (sides.push f)
    rw [List.foldl_cons]
    constructor
    · rw [left]
      simp [push]
    · rw [right]
      simp [push]

/-- Frames that are put on empty sides come back from them. -/
theorem frames_foldl_push : (frames.foldl push {}).frames = frames.toArray := by
  obtain ⟨left, right⟩ := toList_foldl_push frames {}
  rw [Sides.frames, left, right, List.nil_append, List.nil_append, List.zipWith_map,
    List.zipWith_self, List.map_id']

end Sides

namespace Recording

variable {channels count i : Nat} {samples : List Sample} {sides : Sides} {r : Recording}

/-- The frames of so many consecutive groups. -/
def heard (channels count : Nat) (samples : List Sample) : List Frame :=
  (List.range count).map fun i => frameOf channels ((samples.drop (i * channels)).take channels)

theorem heard_succ : heard channels (count + 1) samples =
    frameOf channels (samples.take channels) :: heard channels count (samples.drop channels) := by
  simp [heard, List.range_succ_eq_map, Function.comp_def, Nat.succ_mul, Nat.add_comm]

theorem length_heard : (heard channels count samples).length = count := by
  simp [heard]

/-- To split groups off one by one is to put all their frames on the sides. -/
theorem split_eq :
    split channels count samples sides = (heard channels count samples).foldl Sides.push sides := by
  induction count generalizing samples sides with
  | zero => rfl
  | succ count ih => rw [split, heard_succ, List.foldl_cons, ih]

/-- A frame has the samples of its group: the first one, and the one behind it if there is one. -/
theorem getElem?_group (pos : 1 ≤ channels) (inside : (i + 1) * channels ≤ samples.length) :
    samples[i * channels]? =
        some (frameOf channels ((samples.drop (i * channels)).take channels)).left ∧
      samples[i * channels + min 1 (channels - 1)]? =
        some (frameOf channels ((samples.drop (i * channels)).take channels)).right := by
  have within (j : Nat) (early : j < channels) : samples[i * channels + j]? =
      some (((samples.drop (i * channels)).take channels).getD j .zero) := by
    have bound : i * channels + j < samples.length := by
      rw [Nat.succ_mul] at inside
      omega
    simp [List.getD_eq_getElem?_getD, List.getElem?_take_of_lt early, bound]
  refine ⟨within 0 pos, ?_⟩
  by_cases alone : channels = 1
  · -- There is no second sample, so both sides have the first.
    subst alone
    exact within 0 Nat.one_pos
  · have second : min 1 (channels - 1) = 1 := by omega
    rw [second, frameOf, if_neg alone]
    exact within 1 (by omega)

/-- Both sides of a recording have the frames of its whole groups. -/
theorem sides_eq : r.sides =
    (heard r.channels (r.samples.size / r.channels) r.samples.toList).foldl Sides.push {} :=
  split_eq

theorem size_sides : r.sides.left.size = r.samples.size / r.channels ∧
    r.sides.right.size = r.samples.size / r.channels := by
  obtain ⟨left, right⟩ := Sides.toList_foldl_push
    (heard r.channels (r.samples.size / r.channels) r.samples.toList) {}
  rw [sides_eq]
  constructor
  · rw [← Array.length_toList, left]
    simp [length_heard]
  · rw [← Array.length_toList, right]
    simp [length_heard]

theorem frames_eq_heard : r.frames =
    (heard r.channels (r.samples.size / r.channels) r.samples.toList).toArray := by
  rw [frames, sides_eq, Sides.frames_foldl_push]

theorem size_frames : r.frames.size = r.samples.size / r.channels := by
  rw [frames_eq_heard, List.size_toArray, length_heard]

/-- Frame number `i` has the first and the second sample of group number `i`, or the first twice if
there is only one channel. -/
theorem getElem?_frames (pos : 1 ≤ r.channels) (inside : i < r.samples.size / r.channels) :
    ∃ f, r.frames[i]? = some f ∧ r.samples[i * r.channels]? = some f.left ∧
      r.samples[i * r.channels + min 1 (r.channels - 1)]? = some f.right := by
  have whole : (i + 1) * r.channels ≤ r.samples.toList.length :=
    (Nat.le_div_iff_mul_le pos).mp inside
  obtain ⟨left, right⟩ := getElem?_group pos whole
  rw [Array.getElem?_toList] at left right
  refine ⟨_, ?_, left, right⟩
  rw [frames_eq_heard, List.getElem?_toArray, heard, List.getElem?_map, List.getElem?_range inside,
    Option.map_some]

end Recording

end SamplePlayer
