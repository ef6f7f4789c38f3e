import SamplePlayer.Bytes.LittleEndian

/-!
# Adaptive differential samples

In this coding a sample is told by four bits, as a step up or down from the sample before it. The
size of steps adapts: small steps make it smaller, large ones larger. A block starts with a sample
and a step size of its own.

## Main definitions

* `Adpcm.decodeBlock?`: the samples of a block.
* `Adpcm.framesPerBlock`: their number.
-/

namespace SamplePlayer.Adpcm

/-- The step sizes. -/
def stepSizes : Array Int :=
  #[7, 8, 9, 10, 11, 12, 13, 14, 16, 17, 19, 21, 23, 25, 28, 31, 34, 37, 41, 45, 50, 55, 60, 66,
    73, 80, 88, 97, 107, 118, 130, 143, 157, 173, 190, 209, 230, 253, 279, 307, 337, 371, 408,
    449, 494, 544, 598, 658, 724, 796, 876, 963, 1060, 1166, 1282, 1411, 1552, 1707, 1878, 2066,
    2272, 2499, 2749, 3024, 3327, 3660, 4026, 4428, 4871, 5358, 5894, 6484, 7132, 7845, 8630,
    9493, 10442, 11487, 12635, 13899, 15289, 16818, 18500, 20350, 22385, 24623, 27086, 29794,
    32767]

/-- The number of the largest step size. -/
def lastStep : Nat := 88

/-- How far a code moves the step size. -/
def shift (code : Nat) : Int :=
  match code % 8 with
  | 4 => 2
  | 5 => 4
  | 6 => 6
  | 7 => 8
  | _ => -1

/-- Moves an integer into a range. -/
def bounded (lo hi n : Int) : Int := max lo (min hi n)

/-- A sample and the number of the step size that applies next. -/
structure State where
  sample : Int
  step : Nat

/-- Takes the step that a code of four bits tells. -/
def State.next (s : State) (code : Nat) : State :=
  let size := stepSizes.getD s.step 0
  let difference := (2 * (code % 8 : Nat) + 1) * size / 8
  let sample := if code < 8 then s.sample + difference else s.sample - difference
  ⟨bounded (-32768) 32767 sample, (bounded 0 lastStep (s.step + shift code)).toNat⟩

/-- The codes in bytes, the low half of each byte first. -/
def codes (bytes : List UInt8) : List Nat :=
  bytes.flatMap fun b => [b.toNat % 16, b.toNat / 16]

/-- The samples that a sequence of codes leads to, with those found before in reverse. -/
def follow (s : State) (found : List Int) : List Nat → List Int
  | [] => found.reverse
  | code :: rest =>
    let s := s.next code
    follow s (s.sample :: found) rest

/-- The samples of a block, the one it starts with included. A block that starts with a step size
there is none of cannot be decoded. -/
def decodeBlock? : List UInt8 → Option (List Int)
  | low :: high :: step :: _ :: rest =>
    let first := LittleEndian.signed 16 (LittleEndian.decode [low, high])
    if step.toNat ≤ lastStep then some (follow ⟨first, step.toNat⟩ [first] (codes rest)) else none
  | _ => none

/-- The number of frames in a block of `size` bytes. -/
def framesPerBlock (size channels : Nat) : Nat :=
  (size - 4 * channels) * 8 / (4 * channels) + 1

end SamplePlayer.Adpcm
