import SamplePlayer.Number.Conversion

/-!
# Ramps

A gain or a speed does not jump when its target changes: it moves to the target over a number of
mix steps. A ramp is advanced once per step. It notices a new target by comparing with the target it
saw last, starts over from where it is, and lands on the target itself at the final step, so that
rounding never leaves it short or past.

## Main definitions

* `Ramp`, `Ramp.settled`, `Ramp.tick`.
* `Parameter`: a target set by callers together with the ramp that follows it.
* `Pace`: a ramp of a speed together with the distance it covers per step.
* `RampSteps`: the lengths of ramps.
-/

namespace SamplePlayer

/-- A value on its way to a target. -/
structure Ramp where
  /-- The value now. -/
  current : Float32
  /-- The target seen last. -/
  seen : Float32
  /-- What a step adds. -/
  step : Float32
  /-- How many steps are left; none when the value rests. -/
  remaining : UInt32

namespace Ramp

/-- A ramp at rest. -/
def settled (value : Float32) : Ramp := ⟨value, value, 0.0, 0⟩

/-- Sets out for a target from the current value, over `steps` steps. -/
def retarget (r : Ramp) (target : Float32) (steps : UInt32) : Ramp :=
  { r with seen := target, step := (target - r.current) / steps.toFloat32, remaining := steps }

/-- Takes one of the remaining steps; the last one lands on the target. -/
def advance (r : Ramp) : Ramp :=
  if r.remaining = 0 then r
  else
    let remaining := r.remaining - 1
    { r with
      current := if remaining = 0 then r.seen else r.current + r.step
      remaining := remaining }

/-- One mix step toward `target`. A target that differs from the one seen last restarts the ramp,
to be `steps` steps long. -/
def tick (r : Ramp) (target : Float32) (steps : UInt32) : Ramp :=
  (if target != r.seen then r.retarget target steps else r).advance

/-- A step toward `target` changes nothing. -/
def rests (r : Ramp) (target : Float32) : Bool :=
  !(target != r.seen) && r.remaining == 0

theorem tick_of_rests {r : Ramp} {target : Float32} (h : r.rests target = true) (steps : UInt32) :
    r.tick target steps = r := by
  simp only [rests, Bool.and_eq_true, Bool.not_eq_true', beq_iff_eq] at h
  simp [tick, advance, h.1, h.2]

end Ramp

/-- A ramp of a speed, with its value in double precision at hand: as long as the ramp rests it need
not be converted anew. -/
structure Pace where
  ramp : Ramp
  rate : Float
  rate_eq : rate = Number.widen ramp.current

namespace Pace

/-- The pace of a ramp. -/
def ofRamp (r : Ramp) : Pace := ⟨r, Number.widen r.current, rfl⟩

/-- One mix step toward `target`. -/
def tick (p : Pace) (target : Float32) (steps : UInt32) : Pace :=
  if p.ramp.rests target then p else ofRamp (p.ramp.tick target steps)

theorem ramp_tick (p : Pace) (target : Float32) (steps : UInt32) :
    (p.tick target steps).ramp = p.ramp.tick target steps := by
  unfold tick
  split
  · exact (Ramp.tick_of_rests ‹_› steps).symm
  · rfl

end Pace

/-- A quantity that callers set a target for and the mixer moves. -/
structure Parameter where
  target : Float32
  ramp : Ramp

namespace Parameter

/-- A quantity at rest on its target. -/
def settled (value : Float32) : Parameter := ⟨value, .settled value⟩

/-- The value the mixer produces. -/
def current (p : Parameter) : Float32 := p.ramp.current

/-- Takes the target at once, without a ramp. -/
def snap (p : Parameter) : Parameter := settled p.target

end Parameter

/-- How many mix steps, at least one, a change of a gain and a change of a speed take. -/
structure RampSteps where
  volume : UInt32
  speed : UInt32
  volume_ne : volume ≠ 0
  speed_ne : speed ≠ 0
deriving DecidableEq, Repr

namespace RampSteps

/-- A count with zero raised to one. -/
def raise (count : UInt32) : UInt32 := if count = 0 then 1 else count

theorem raise_ne (count : UInt32) : raise count ≠ 0 := by
  unfold raise
  split
  · decide
  · assumption

/-- Step counts below one are raised to one, an immediate change. -/
def ofCounts (volume speed : UInt32) : RampSteps :=
  ⟨raise volume, raise speed, raise_ne volume, raise_ne speed⟩

/-- The lengths used when none are asked for. -/
instance : Inhabited RampSteps := ⟨ofCounts 1024 4096⟩

end RampSteps

end SamplePlayer
