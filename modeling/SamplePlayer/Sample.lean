import SamplePlayer.Number.Conversion

/-!
# Samples and stereo frames

A sample is a single precision number together with its exact bit pattern: audio data passes from
files and buffers to outputs unchanged, whatever the bits mean. Arithmetic on samples that are
numbers is arithmetic on numbers. A sample that is not a number goes through it with its payload,
and an operation without a result gives one fixed pattern.

## Main definitions

* `Sample`: the bit pattern of a single precision number.
* `Frame`: one sample for each of the two channels.
-/

namespace SamplePlayer

/-- A single precision number given by its bit pattern. -/
structure Sample where
  /-- The pattern, in the binary interchange format. -/
  bits : UInt32
deriving DecidableEq, Repr, Inhabited

namespace Sample

/-- The number a sample stands for. -/
def value (s : Sample) : Float32 :=
  .ofBits s.bits

/-- The sample of a number. -/
def ofFloat32 (x : Float32) : Sample :=
  ⟨x.toBits⟩

/-- Silence. -/
def zero : Sample := ⟨0⟩

/-- Whether the pattern stands for no number: all exponent bits set and a payload. -/
def isNaN (s : Sample) : Bool :=
  0x7f800000 < s.bits &&& 0x7fffffff

/-- The pattern with the quiet bit of a payload set. -/
def quiet (s : Sample) : Sample :=
  ⟨s.bits ||| 0x00400000⟩

/-- The result of an operation that has none. -/
def undefined : Sample := ⟨0xffc00000⟩

/-- Applies an operation on numbers. The first operand that is not a number is the result. -/
def combine (operation : Float32 → Float32 → Float32) (s t : Sample) : Sample :=
  if s.isNaN then s.quiet
  else if t.isNaN then t.quiet
  else
    let result := operation s.value t.value
    if result.isNaN then undefined else ofFloat32 result

instance : Add Sample where
  add := combine (· + ·)

instance : HMul Sample Float32 Sample where
  hMul s gain := combine (· * ·) s (ofFloat32 gain)

/-- The sample of a signed 16-bit word, full scale being `[-1, 1)`. -/
def ofInt16 (n : Int16) : Sample :=
  ofFloat32 (Number.ofInt16 n * (1.0 / 32768.0))

end Sample

/-- The two samples that sound at one instant. -/
structure Frame where
  left : Sample
  right : Sample
deriving DecidableEq, Repr, Inhabited

namespace Frame

/-- A silent frame. -/
def silence : Frame := ⟨.zero, .zero⟩

instance : Add Frame where
  add f g := ⟨f.left + g.left, f.right + g.right⟩

/-- The same sample on both channels. -/
def both (s : Sample) : Frame := ⟨s, s⟩

/-- The frame with each channel scaled by its own gain. -/
def scale (f : Frame) (left right : Float32) : Frame :=
  ⟨f.left * left, f.right * right⟩

/-- The point between two frames that leaves `f` with weight `1 - w` and `g` with weight `w`. -/
def blend (f g : Frame) (w : Float32) : Frame :=
  f.scale (1.0 - w) (1.0 - w) + g.scale w w

/-- The samples of a frame in the order of interleaved data. -/
def samples (f : Frame) : List Sample :=
  [f.left, f.right]

end Frame

/-- The samples of consecutive frames, interleaved. -/
def interleave (frames : List Frame) : List Sample :=
  frames.flatMap Frame.samples

end SamplePlayer
