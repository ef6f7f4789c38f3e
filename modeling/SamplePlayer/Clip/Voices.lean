import SamplePlayer.Clip.Basic
import SamplePlayer.Pan

/-!
# Calls on the voices of a clip

Callers obtain, start, stop, move and release voices and set their parameters. Every call first
checks the number of the voice and then that it is obtained. What a call changes is heard of by
the listeners before it returns.

## Main definitions

* `Call`: a call, with the clip it changes.
* `Clip.obtain`, `Clip.release`, `Clip.play`.
* `Clip.start`, `Clip.stop`, `Clip.seek`.
* `Clip.setVolume`, `Clip.setSpeed` and the other parameters.
-/

namespace SamplePlayer

/-- A call on a clip. The clip keeps what a call did before it failed. -/
abbrev Call := ExceptT CallError (StateM Clip)

/-- Runs a call. -/
def Call.on {α : Type} (call : Call α) (c : Clip) : Except CallError α × Clip :=
  call.run.run c

namespace Clip

/-- Hands out the events queued so far. -/
def deliver : Call Unit :=
  modify fun c => { c with listeners := c.listeners.deliver }

/-- The voice with a number, which has to be obtained. -/
def voice (id : VoiceId) : Call Voice := do
  (← get).pool.getActive id

/-- Runs a transition on a voice. The events it raises are queued before the next change can
happen. -/
def transition {α : Type} (id : VoiceId) (change : Voice → Voice × List Event × α) : Call α := do
  let c ← get
  let v ← c.pool.get id
  let (v, events, result) := v.transition change
  set { c with pool := c.pool.set id v, listeners := c.listeners.postAll events }
  return result

/-- Changes a voice that is obtained, without a transition. -/
def adjust (id : VoiceId) (change : Voice → Voice) : Call Unit := do
  let v ← voice id
  modify fun c => { c with pool := c.pool.set id (change v) }

/-! ## Allocation -/

/-- Takes a free voice, if there is one. -/
def obtain : Call (Option VoiceId) := do
  let c ← get
  match c.pool.obtain with
  | none => return none
  | some (id, pool) =>
    set { c with pool, listeners := c.listeners.emit (.voice .obtain id 0.0) }
    return some id

/-- Stops a voice and hands it back. -/
def release (id : VoiceId) : Call Unit := do
  let c ← get
  let _ ← c.pool.get id
  let (ended, pool) := c.pool.release id
  let events := ended.toList.map (Event.voice .release id)
  set { c with pool, listeners := (c.listeners.postAll events).deliver }
  if ended.isNone then throw (.inactive id)

/-! ## Parameters -/

/-- A gain as it is set: between 0 and 1, and 0 for NaN. -/
def clampGain (x : Float32) : Float32 :=
  if x.isNaN then 0.0 else Number.clamp32 x 0.0 1.0

/-- A speed as it is set: between the slowest and the fastest, and 1 for NaN. -/
def clampSpeed (x : Float32) : Float32 :=
  if x.isNaN then 1.0 else Number.clamp32 x minSpeed maxSpeed

/-- Sets the gains that a voice moves to. -/
def setVolume (id : VoiceId) (left right : Float32) : Call Unit :=
  adjust id fun v => { v with
    left := { v.left with target := clampGain left }
    right := { v.right with target := clampGain right } }

/-- Sets the gains from a volume and a place in the stereo field. -/
def setPan (id : VoiceId) (volume pan : Float32) (law : PanLaw) : Call Unit :=
  let (left, right) := law.gains volume pan
  setVolume id left right

/-- Sets the speed that a voice moves to. -/
def setSpeed (id : VoiceId) (speed : Float32) : Call Unit :=
  adjust id fun v => { v with speed := { v.speed with target := clampSpeed speed } }

/-- Sets how many times a voice will still start over at the end. -/
def setLoops (id : VoiceId) (count : Int32) : Call Unit :=
  adjust id (·.setLoops count)

/-- Sets whether a voice goes back to the free ones when it ends by itself. -/
def setRecycle (id : VoiceId) (recycle : Bool) : Call Unit :=
  adjust id fun v => { v with recycle }

/-! ## Transport -/

/-- Starts a voice that stands still. Its gains and speed apply at once. -/
def start (id : VoiceId) : Call Unit := do
  let _ ← voice id
  let result : Except CallError Unit ← transition id fun v =>
    if !v.active then (v, [], .error (.inactive id))
    else if v.playing then (v, [], .error (.alreadyPlaying id))
    else ({ v.snap with playing := true }, [.voice .start id v.cursor], .ok ())
  result
  deliver

/-- Stops a voice where it is; one that stands still is left alone. -/
def stop (id : VoiceId) : Call Unit := do
  let _ ← voice id
  transition id fun v =>
    ({ v with playing := false }, if v.playing then [.voice .stop id v.cursor] else [], ())
  deliver

/-- Moves a voice that stands still to a position, clamped into the bank; NaN is the start. -/
def seek (id : VoiceId) (position : Float) : Call Unit := do
  let _ ← voice id
  let bank := (← get).bank
  let position := Number.clamp (if position.isNaN then 0.0 else position) 0.0 bank.lastFrame
  let result : Except CallError Unit ← transition id fun v =>
    if v.playing then (v, [], .error (.seekWhilePlaying id))
    else ({ v with cursor := position }, [], .ok ())
  result

/-- Moves a voice to a time. -/
def seekMicros (id : VoiceId) (micros : UInt64) : Call Unit := do
  seek id ((← get).bank.microsToFrames micros)

/-- Moves a voice to a fraction of the clip, 0 being the first and 1 the last frame. -/
def seekFraction (id : VoiceId) (fraction : Float) : Call Unit := do
  let fraction := if fraction.isNaN then 0.0 else Number.clamp fraction 0.0 1.0
  seek id (fraction * (← get).bank.lastFrame)

/-- Takes a free voice, if there is one, sets it up and starts it. It goes back to the free ones
when it ends. -/
def play (left right speed : Float32) (loops : Int32) : Call (Option VoiceId) := do
  match ← obtain with
  | none => return none
  | some id =>
    setRecycle id true
    setVolume id left right
    setSpeed id speed
    setLoops id loops
    start id
    return some id

/-! ## Listeners -/

variable (c : Clip)

/-- Registers a listener. -/
def addListener (box : Mailbox) : ListenerId × Clip :=
  let (id, listeners) := c.listeners.add box
  (id, { c with listeners })

/-- Takes a listener off the register; the answer is whether it was there. -/
def removeListener (id : ListenerId) : Bool × Clip :=
  let (found, listeners) := c.listeners.remove id
  (found, { c with listeners })

/-! ## What a voice is doing -/

/-- The gains that the mixer produces. -/
def volume (id : VoiceId) : Except CallError (Float32 × Float32) :=
  (c.pool.getActive id).map fun v => (v.left.current, v.right.current)

/-- The speed that the mixer produces. -/
def speed (id : VoiceId) : Except CallError Float32 :=
  (c.pool.getActive id).map (·.speed.current)

/-- How many times a voice will still start over. -/
def loops (id : VoiceId) : Except CallError Int32 :=
  (c.pool.getActive id).map (·.loops)

/-- Whether a voice goes back to the free ones when it ends by itself. -/
def recycle (id : VoiceId) : Except CallError Bool :=
  (c.pool.getActive id).map (·.recycle)

/-- The position of a voice. -/
def position (id : VoiceId) : Except CallError Float :=
  (c.pool.getActive id).map (·.cursor)

/-- Whether a voice takes part in the mix. -/
def isPlaying (id : VoiceId) : Except CallError Bool :=
  (c.pool.getActive id).map (·.playing)

/-- Whether a voice is obtained. Only its number can be wrong. -/
def isActive (id : VoiceId) : Except CallError Bool :=
  (c.pool.get id).map (·.active)

end Clip

end SamplePlayer
