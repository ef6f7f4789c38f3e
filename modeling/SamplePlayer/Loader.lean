import SamplePlayer.Bank
import SamplePlayer.Resample
import SamplePlayer.Storage
import SamplePlayer.Wave.Reader

/-!
# Loading banks

A bank is loaded from a sound file as a whole. A file with one channel sounds on both sides, of more
than two channels the first two are kept, and a file at another rate is resampled.

## Main definitions

* `Recording.sides`, `Recording.frames`: the two sides of a recording, whatever channels it has.
* `Bank.load`.
-/

namespace SamplePlayer

/-- Why a bank cannot be loaded. -/
inductive LoadError where
  /-- The file cannot be opened. -/
  | unreadable (path : String) (reason : StorageError)
  /-- The file cannot be decoded. -/
  | undecodable (reason : ReadError)
  /-- There is no way to get from one rate to the other. -/
  | unreachableRate (source target : UInt32)
  /-- What was decoded does not make a bank. -/
  | bank (reason : BankError)
deriving DecidableEq, Repr

/-- The two sides of a stereo sound, each with its samples in order. -/
structure Sides where
  left : Array Sample := #[]
  right : Array Sample := #[]
deriving DecidableEq, Repr

namespace Sides

/-- One frame more on the sides. -/
def push (sides : Sides) (f : Frame) : Sides :=
  ⟨sides.left.push f.left, sides.right.push f.right⟩

/-- The frames that both sides make, as far as both go. -/
def frames (sides : Sides) : Array Frame :=
  (sides.left.toList.zipWith Frame.mk sides.right.toList).toArray

end Sides

namespace Recording

/-- What is heard of a group with a sample for each channel: a single channel on both sides, of more
channels the first two. -/
def frameOf (channels : Nat) (group : List Sample) : Frame :=
  let first := group.getD 0 .zero
  ⟨first, if channels = 1 then first else group.getD 1 .zero⟩

/-- Takes `count` groups off the samples and puts what is heard of them on the sides, behind what is
there. -/
def split (channels : Nat) : (count : Nat) → List Sample → Sides → Sides
  | 0, _, sides => sides
  | count + 1, samples, sides =>
    split channels count (samples.drop channels)
      (sides.push (frameOf channels (samples.take channels)))

/-- The sides of a recording, from all its whole groups. What is left over behind them is
dropped. -/
def sides (r : Recording) : Sides :=
  split r.channels (r.samples.size / r.channels) r.samples.toList {}

/-- The frames of a recording. -/
def frames (r : Recording) : Array Frame := r.sides.frames

end Recording

namespace Bank

/-- Frames brought from one rate to another. -/
def convert (frames : Array Frame) (source target : UInt32) : Except LoadError (Array Frame) :=
  if source = target ∨ frames.isEmpty then .ok frames
  else if target = 0 then .error (.unreachableRate source target)
  else .ok (Resample.run ⟨source, target⟩ frames)

/-- The bank of a recording at a rate. -/
def ofRecording (r : Recording) (rate : UInt32) : Except LoadError Bank := do
  if r.samples.isEmpty then throw (.bank .empty)
  let frames ← convert r.frames r.rate rate
  (ofInterleaved (interleave frames.toList).toArray rate).mapError .bank

/-- The recording in a file. -/
def decodeFile (s : Storage) (path : String) : Except LoadError Recording :=
  match s.read path with
  | .error .isDirectory => .error (.undecodable .truncated)
  | .error e => .error (.unreadable path e)
  | .ok bytes =>
    ((SoundFile.parse bytes.toList).bind SoundFile.decode).mapError .undecodable

/-- Loads a file as a bank at a rate. -/
def load (s : Storage) (path : String) (rate : UInt32) : Except LoadError Bank := do
  ofRecording (← decodeFile s path) rate

end Bank

end SamplePlayer
