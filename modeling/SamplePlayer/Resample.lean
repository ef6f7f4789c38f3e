import SamplePlayer.Sample

/-!
# Changing the sample rate

Sound at another rate is the sound low-pass filtered and read at other instants. The filter is a
windowed sinc; it looks at the frames closer than `reach` to an instant and takes everything outside
the sound as silence.

The work goes chunk by chunk: a chunk gives all the frames whose instants lie far enough inside it,
and after the sound chunks of silence are fed until the frames the filter delays have come out, or a
chunk gives none. So a very low rate can yield fewer frames than the ratio of the rates calls for.

## Main definitions

* `Resample.produced`: how many frames come out of the filter.
* `Resample.frameCount`: how many of them are kept.
* `Resample.run`: the sound at the new rate.
-/

namespace SamplePlayer.Resample

/-- How many frames the filter looks in either direction. -/
def reach : Nat := 128

/-- The frames in a chunk. -/
def chunkFrames : Nat := 1024

/-- The part of the band that is kept. -/
def cutoff : Float := 0.95

/-- The finest instants that are told apart, as a fraction of a frame. -/
def grain : Float := 1.0 / 128.0

/-- Half a turn. -/
def pi : Float := .ofBits 0x400921fb54442d18

/-- A change from one rate to another. -/
structure Plan where
  source : UInt32
  target : UInt32

namespace Plan

variable (p : Plan)

/-- How many frames come out for one that goes in. -/
def ratio : Float := p.target.toFloat / p.source.toFloat

/-- The distance of two instants. -/
def stride : Float := 1.0 / p.ratio

/-- How many frames the filter holds back. -/
def delay : Nat := Number.toCount (Number.ofCount reach * p.ratio)

/-- How many frames a sound of so many frames should become. -/
def expected (frames : Nat) : Nat :=
  Number.toCount (Number.ceil (Number.ofCount frames * p.ratio))

/-- Where in a chunk the last instant may lie. -/
def horizon : Float :=
  Number.ofInt (chunkFrames - (2 * reach + 1)) - Number.ceil p.stride

/-- Steps from instant to instant up to the horizon: how many there are, and the first one behind
it. -/
def instants : (fuel : Nat) → (place : Float) → (count : Nat) → Nat × Float
  | 0, place, count => (count, place)
  | fuel + 1, place, count =>
    if place < p.horizon then instants fuel (place + p.stride) (count + 1) else (count, place)

/-- How many frames a chunk gives if the instant before its first one lies at `place`, and where the
last one lies as seen from the next chunk. -/
def chunk (place : Float) : Nat × Float :=
  let fuel := Number.toCount ((p.horizon - place) * p.ratio) + 2
  let (count, place) := p.instants fuel place 0
  (count, place - Number.ofCount chunkFrames)

/-- The frames that so many chunks give, and where the last instant lies. -/
def chunks : (number : Nat) → (place : Float) → (count : Nat) → Nat × Float
  | 0, place, count => (count, place)
  | number + 1, place, count =>
    let (more, place) := p.chunk place
    chunks number place (count + more)

/-- Feeds chunks of silence until there are `wanted` frames or a chunk gives none. -/
def flush (wanted : Nat) : (fuel : Nat) → (place : Float) → (count : Nat) → Nat
  | 0, _, count => count
  | fuel + 1, place, count =>
    if wanted ≤ count then count
    else
      let (more, place) := p.chunk place
      if more = 0 then count else flush wanted fuel place (count + more)

/-- How many frames come out for a sound of so many frames. -/
def produced (frames : Nat) : Nat :=
  let number := (frames + chunkFrames - 1) / chunkFrames
  let (count, place) := p.chunks number (-(Number.ofCount reach)) 0
  let wanted := p.expected frames + p.delay
  p.flush wanted wanted place count

/-- How many frames are kept: those the filter did not hold back, as far as they are expected. -/
def frameCount (frames : Nat) : Nat :=
  min (p.expected frames) (p.produced frames - p.delay)

/-- The instant of a frame, in frames of the sound. -/
def instant (k : Nat) : Float :=
  Number.ofCount (k + 1 + p.delay) / p.ratio - 1.0 + grain

/-- The band of the filter. -/
def band : Float :=
  cutoff * (if p.ratio < 1.0 then p.ratio else 1.0)

end Plan

/-- The window of the filter, given the cosine of the angle it is at. -/
def window (cosine : Float) : Float :=
  let twice := 2.0 * cosine * cosine - 1.0
  let thrice := (4.0 * cosine * cosine - 3.0) * cosine
  0.35875 + 0.48829 * cosine + 0.14128 * twice + 0.01168 * thrice

/-- The weight of a frame at the distance `u` from an instant. -/
def weight (band u : Float) : Float :=
  let angle := pi * band * u
  let sinc := if angle == 0.0 then 1.0 else angle.sin / angle
  let shape := window (pi * u / Number.ofCount reach).cos
  band * sinc * shape * shape

/-- The two channels of a sound in double precision. -/
structure Planes where
  left : FloatArray
  right : FloatArray

/-- The channels of frames. -/
def Planes.ofFrames (frames : Array Frame) : Planes :=
  frames.foldl (fun p f =>
    ⟨p.left.push (Number.widen f.left.value), p.right.push (Number.widen f.right.value)⟩)
    ⟨.empty, .empty⟩

/-- Adds up the weighted frames `first`, `first + 1`, … around the instant `t`. -/
def gather (planes : Planes) (band t : Float) :
    (count first : Nat) → (left right : Float) → Float × Float
  | 0, _, left, right => (left, right)
  | count + 1, first, left, right =>
    let w := weight band (Number.ofCount first - t)
    gather planes band t count (first + 1) (left + w * planes.left[first]!)
      (right + w * planes.right[first]!)

/-- The frame at an instant. -/
def frameAt (planes : Planes) (band t : Float) : Frame :=
  let edge := Number.ofCount reach
  let first := Number.toCount (t - edge) + (if t - edge < 0.0 then 0 else 1)
  let behind := min planes.left.size (Number.toCount (Number.ceil (t + edge)))
  let (left, right) := gather planes band t (behind - first) first 0.0 0.0
  ⟨.ofFloat32 (Number.narrow left), .ofFloat32 (Number.narrow right)⟩

/-- A sound at the new rate. -/
def run (p : Plan) (frames : Array Frame) : Array Frame :=
  let planes := Planes.ofFrames frames
  .ofFn fun k : Fin (p.frameCount frames.size) => frameAt planes p.band (p.instant k.val)

end SamplePlayer.Resample
