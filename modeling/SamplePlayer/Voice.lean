import SamplePlayer.Decimal.Layout
import SamplePlayer.Epoch
import SamplePlayer.Ramp
import SamplePlayer.Text.Record

/-!
# Voices

A voice is one of the places of a clip at which its sound can play. Callers set the targets of its
gains and speed, and start, stop and move it in transitions; the mixer moves the current values, the
ramps and the cursor.

## Main definitions

* `Voice`, `Voice.reset`.
* `Voice.transition`, `Voice.commit`: the two ways to change a voice.
* `Voice.takeLoop`: the decision at the end of the sound.
-/

namespace SamplePlayer

/-- The slowest rate at which a voice plays. -/
def minSpeed : Float32 := 0.125

/-- The fastest rate at which a voice plays. -/
def maxSpeed : Float32 := 8.0

/-- The loop count of a voice that never ends. -/
def loopForever : Int32 := -1

/-- The state of a voice. -/
structure Voice where
  /-- It was obtained and not released since. -/
  active : Bool := false
  /-- It takes part in the mix. -/
  playing : Bool := false
  /-- The position that is read next. -/
  cursor : Float := 0.0
  speed : Parameter := .settled 1.0
  left : Parameter := .settled 0.0
  right : Parameter := .settled 0.0
  /-- How many times it will still start over at the end, or `loopForever`. -/
  loops : Int32 := 0
  /-- It goes back to the free voices when it ends by itself. -/
  recycle : Bool := false
  epoch : Epoch := .first
deriving Inhabited

namespace Voice

variable (v : Voice)

/-- The voice silent, at normal speed, at the start and stopped. Whether it is active, and its
epoch, do not change. -/
def reset : Voice := { active := v.active, epoch := v.epoch }

/-- Runs a change that a caller asked for. Every pass that began before becomes stale. -/
def transition {α : Type} (change : Voice → Voice × α) : Voice × α :=
  let (changed, result) := change { v with epoch := v.epoch.marked }
  ({ changed with epoch := v.epoch.leave }, result)

/-- Writes back a pass that began at the epoch `snapshot`; nothing happens if it is stale. -/
def commit {α : Type} (snapshot : Epoch) (writeBack : Voice → Voice × α) : Option (Voice × α) :=
  (Epoch.claim? snapshot v.epoch).map fun claimed =>
    let (written, result) := writeBack { v with epoch := claimed }
    ({ written with epoch := snapshot.yield }, result)

/-- Sets the loop count; all negative counts mean `loopForever`. -/
def setLoops (count : Int32) : Voice :=
  { v with loops := if count < loopForever then loopForever else count }

/-- At the end of the sound: whether the voice starts over, and the voice with one loop less to
go. -/
def takeLoop : Bool × Voice :=
  if 0 < v.loops then (true, { v with loops := v.loops - 1 })
  else (v.loops = loopForever, v)

/-- The values the mixer produces jump to their targets. -/
def snap : Voice :=
  { v with left := v.left.snap, right := v.right.snap, speed := v.speed.snap }

/-- A description for diagnostics. -/
def describe : String :=
  let number := Decimal.Layout.annotated.write32
  Text.record "Voice" [
    ("active", toString v.active),
    ("playing", toString v.playing),
    ("cursor", Decimal.Layout.annotated.write v.cursor),
    ("speed", number v.speed.current),
    ("volume", s!"({number v.left.current}, {number v.right.current})"),
    ("loop_count", toString v.loops)]

end Voice

end SamplePlayer
