import SamplePlayer.Playback
import SamplePlayer.Settings.Engine

/-!
# Playing a sound once

A session plays one voice of a clip to an output, from the opening of the output until the voice is
released. It is given the bound on the buffers that this can take: a voice steps through its sound
at no less than the lowest speed, and one that loops for ever ends only with an output that fails,
which a file does as soon as the first full buffer of it cannot be written out.

## Main definitions

* `VoiceOrder`: what to play, and how.
* `Session.prepare`: the voice, ready to start.
* `Session.await`: waiting for the end.
* `Session.play`: the whole session.
-/

namespace SamplePlayer

/-- How the voice of a session sounds. -/
structure VoiceOrder where
  volume : Float32 := 1.0
  pan : Float32 := 0.0
  law : PanLaw := .centerLinear
  speed : Float32 := 1.0
  loops : Int32 := 0
  /-- Where to start, in microseconds. -/
  start : Option UInt64 := none

/-- Why a session fails. -/
inductive SessionError where
  | call (reason : CallError)
  /-- No voice is free. -/
  | noFreeVoice
  /-- The output failed before the voice came to its end. -/
  | stopped
  /-- The output never came back from being opened. -/
  | crashed
deriving DecidableEq, Repr

namespace Session

/-- A voice that is ready to start, in a clip that tells the listener of the session. -/
def prepare (order : VoiceOrder) : Call (Option VoiceId) := do
  match ← Clip.obtain with
  | none => return none
  | some id =>
    Clip.setRecycle id true
    Clip.setPan id order.volume order.pan order.law
    Clip.setSpeed id order.speed
    Clip.setLoops id order.loops
    match order.start with
    | some micros => Clip.seekMicros id micros
    | none => pure ()
    return some id

/-- Whether an event is the release of a voice. -/
def isRelease (id : VoiceId) : Event → Bool
  | .voice .release released _ => released == id
  | _ => false

/-- The frames that a voice can take for one frame of its sound. -/
def framesPerStep : Nat := 8

/-- A bound on the buffers until the voice of an order is released or its output has failed. -/
def bound (order : VoiceOrder) (c : Clip) : Nat :=
  let frames := c.bufferFrames
  if order.loops < 0 then FileHandle.capacity / (frames * c.format.bytesPerFrame) + 4
  else (order.loops.toInt.toNat + 1) * (framesPerStep * (c.bank.frameCount + 1)) / frames + 4

/-- Takes what the listener of the session has heard. -/
def hear (listener : ListenerId) (p : Playback Output Storage) :
    List Event × Playback Output Storage :=
  let (events, listeners) := p.clip.listeners.collect listener
  (events.getD [], { p with clip := { p.clip with listeners } })

/-- Waits until the voice is released or the worker is gone. There is no answer if neither
happens. -/
def await (listener : ListenerId) (id : VoiceId) :
    (fuel : Nat) → Playback Output Storage →
      Option (Except SessionError Unit × Playback Output Storage)
  | 0, _ => none
  | fuel + 1, p =>
    let (events, p) := hear listener p
    if events.any (isRelease id) then some (.ok (), p)
    else if !p.isOpen then some (.error .stopped, p)
    else await listener id fuel (p.pump Output.interface).2

/-- Plays a voice of a clip to an output. There is no answer if that never ends. -/
def play (c : Clip) (order : VoiceOrder) (output : Output) (s : Storage) :
    Option (Except SessionError Unit × Storage) :=
  let (listener, c) := c.addListener {}
  match (prepare order).on c with
  | (.error e, _) => some (.error (.call e), s)
  | (.ok none, _) => some (.error .noFreeVoice, s)
  | (.ok (some id), c) =>
    let p : Playback Output Storage := { clip := c, surroundings := s }
    match p.opening Output.interface output with
    | (.failed e, p) => some (.error (.call e), p.surroundings)
    | (.crashed, p) => some (.error .crashed, p.surroundings)
    | (.done, p) =>
      match (Clip.start id).on p.clip with
      | (.error e, _) => some (.error (.call e), (p.close Output.interface).2.surroundings)
      | (.ok (), c) => do
        let (result, p) ← await listener id (bound order c) { p with clip := c }
        return (result, (p.close Output.interface).2.surroundings)

end Session

end SamplePlayer
