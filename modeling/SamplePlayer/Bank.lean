import SamplePlayer.Sample
import SamplePlayer.Text.Record

/-!
# The sample bank

A bank holds the decoded sound that every voice plays: at least one stereo frame, at a sample rate
that is not zero. Positions in a bank are double precision frame numbers; between two frames the
sound is the straight line that joins them.

## Main definitions

* `Bank`, with its constructors `Bank.ofInterleaved`, `Bank.ofMono` and `Bank.ofInt16`.
* `Bank.read?`: the frame at a position.
* `Bank.microsToFrames`, `Bank.framesToMicros`: positions as times.
-/

namespace SamplePlayer

/-- Why samples do not make a bank. -/
inductive BankError where
  /-- There is no frame. -/
  | empty
  /-- Interleaved data of `count` samples leaves a frame without its right sample. -/
  | oddSampleCount (count : Nat)
  /-- The sample rate is zero. -/
  | invalidSampleRate
deriving DecidableEq, Repr

/-- The wording of an error. -/
def BankError.message : BankError → String
  | empty => "sample bank must contain at least one frame"
  | oddSampleCount count => s!"interleaved stereo data has an odd sample count ({count})"
  | invalidSampleRate => "sample rate must be greater than 0"

/-- The decoded sound of a clip. -/
structure Bank where
  frames : Array Frame
  rate : UInt32
  frames_pos : 0 < frames.size
  rate_ne : rate ≠ 0

namespace Bank

/-- Pairs interleaved samples into frames: left samples stand at even places, right samples at odd
ones. -/
def pairUp (samples : Array Sample) : Array Frame :=
  .ofFn fun i : Fin (samples.size / 2) =>
    ⟨samples.getD (2 * i.val) .zero, samples.getD (2 * i.val + 1) .zero⟩

/-- Builds a bank from interleaved stereo samples. -/
def ofInterleaved (samples : Array Sample) (rate : UInt32) : Except BankError Bank :=
  if rate_ne : rate = 0 then .error .invalidSampleRate
  else if samples.size % 2 ≠ 0 then .error (.oddSampleCount samples.size)
  else if frames_pos : 0 < (pairUp samples).size then
    .ok ⟨pairUp samples, rate, frames_pos, rate_ne⟩
  else .error .empty

/-- Builds a bank from mono samples, each sounding on both channels. -/
def ofMono (samples : Array Sample) (rate : UInt32) : Except BankError Bank :=
  ofInterleaved (samples.flatMap fun s => #[s, s]) rate

/-- Builds a bank from interleaved stereo words of 16 bits. -/
def ofInt16 (words : Array Int16) (rate : UInt32) : Except BankError Bank :=
  ofInterleaved (words.map Sample.ofInt16) rate

variable (bank : Bank)

/-- The number of frames. -/
def frameCount : Nat := bank.frames.size

/-- The position of the last frame. -/
def lastFrame : Float := Number.ofCount (bank.frameCount - 1)

/-- The samples, interleaved. -/
def samples : List Sample := interleave bank.frames.toList

/-- The bytes that the samples occupy. -/
def memoryUsage : Nat := 8 * bank.frameCount

/-- The sample rate as a double precision number. -/
def rateValue : Float := bank.rate.toFloat

/-- The position that lies `micros` microseconds after the start. -/
def microsToFrames (micros : UInt64) : Float :=
  micros.toFloat * bank.rateValue / 1000000.0

/-- The time of a position in whole microseconds, a half rounding up. -/
def framesToMicros (position : Float) : UInt64 :=
  (Number.roundHalfAway (position * 1000000.0 / bank.rateValue)).toUInt64

/-- The length of the bank in microseconds. -/
def microsecondLength : UInt64 :=
  bank.framesToMicros (Number.ofCount bank.frameCount)

/-- The frame with a given number. -/
def frame? (i : Nat) : Option Frame := bank.frames[i]?

/-- The frame at a position: the frame itself at a whole number, otherwise the blend of its two
neighbours, the last frame being its own successor. Nothing lies beyond the last frame. -/
def read? (position : Float) : Option Frame :=
  let below := Number.floor position
  let i := Number.toCount below
  if position == below then bank.frame? i
  else do
    let first ← bank.frame? i
    let second ← bank.frame? (min (i + 1) (bank.frameCount - 1))
    return first.blend second (Number.narrow (position - below))

/-- A description for diagnostics. -/
def describe : String :=
  Text.record "SampleBank" [
    ("frame_count", toString bank.frameCount),
    ("sample_rate", toString bank.rate),
    ("memory_kb", toString (bank.memoryUsage / 1024))]

end Bank

end SamplePlayer
