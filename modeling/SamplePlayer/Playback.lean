import SamplePlayer.Clip.Voices
import SamplePlayer.Output.Basic
import SamplePlayer.Text.Quoted

/-!
# Playing a clip to an output

While a clip is open, a worker mixes one buffer after the other, hands out the events of each, and
writes it to the output. Writing is what paces it: it always holds one buffer that is mixed and
encoded and waits to be accepted. When it is told to stop, that buffer still goes out. Then the
output is drained and closed. A write that fails ends the worker at once; the output is closed
without being drained, and the clip has to be closed or opened anew.

## Main definitions

* `Worker`, `WorkerState`, `Playback`.
* `Playback.opening`, `Playback.close`: the two ends of a session.
* `Playback.pump`: one write of the worker.
-/

namespace SamplePlayer

/-- What can be said of the worker of a clip. -/
inductive WorkerState where
  /-- There is none. -/
  | stopped
  /-- It mixes and writes. -/
  | running
  /-- Its output failed. -/
  | faulted
deriving DecidableEq, Repr

/-- The word for a state. -/
def WorkerState.text : WorkerState → String
  | stopped => "stopped"
  | running => "running"
  | faulted => "faulted"

/-- The name of a state in a description. -/
def WorkerState.label : WorkerState → String
  | stopped => "Stopped"
  | running => "Running"
  | faulted => "Faulted"

/-- A worker. -/
inductive Worker where
  /-- It is in the write of this buffer. -/
  | writing (buffer : List UInt8)
  /-- It ended after a write that failed. -/
  | faulted
  /-- It is gone without a trace; nobody has noticed. -/
  | lost

/-- What can be said of a worker. -/
def Worker.state : Worker → WorkerState
  | writing _ => .running
  | faulted => .faulted
  | lost => .running

/-- A clip and what plays it: outputs of the kind `σ` in surroundings of the kind `ω`. -/
structure Playback (σ ω : Type) where
  clip : Clip
  /-- The worker, from an opening to the next close. -/
  worker : Option Worker := none
  /-- The output that was opened last. -/
  output : Option σ := none
  surroundings : ω

/-- What comes of an attempt to open a clip. -/
inductive OpeningAnswer where
  | done
  | failed (e : CallError)
  | crashed

namespace Playback

variable {σ ω : Type} (io : OutputInterface σ ω) (p : Playback σ ω)

/-- What can be said of the worker. -/
def state : WorkerState := (p.worker.map Worker.state).getD .stopped

/-- Whether a worker plays the clip. -/
def isOpen : Bool := p.state = .running

/-- Changes the clip. -/
def withClip (change : Clip → Clip) : Playback σ ω := { p with clip := change p.clip }

/-- Hands out the events queued so far. -/
def deliver : Playback σ ω :=
  p.withClip fun c => { c with listeners := c.listeners.deliver }

/-- Queues an event and hands out the queue. -/
def emit (e : Event) : Playback σ ω :=
  p.withClip fun c => { c with listeners := c.listeners.emit e }

/-- Mixes the next buffer, hands out its events, and waits with it in a write. -/
def mixNext : Playback σ ω :=
  let (samples, events, c) := p.clip.mix (p.clip.bufferFrames * OutputFormat.channels)
  { p with
    clip := { c with listeners := (c.listeners.postAll events).deliver }
    worker := some (.writing (c.format.encode samples)) }

/-- Gives up an output that was offered. -/
def giveUp (output : σ) : Playback σ ω :=
  { p with surroundings := (io.abandon output p.surroundings).2 }

/-- Opens the clip on an output. What is left of a worker that failed is cleared away first. An
output that is not played to is given up. -/
def opening (output : σ) : OpeningAnswer × Playback σ ω :=
  if p.state = .running then (.failed .alreadyOpen, p.giveUp io output)
  else
    let p := { p with worker := none }
    match io.opening p.clip.format p.clip.bufferFrames output p.surroundings with
    | (.done, output, surroundings) =>
      let p := { p with output := some output, surroundings, worker := some (.writing []) }
      (.done, (p.emit .opened).mixNext)
    | (.failed e, output, surroundings) =>
      (.failed (.outputUnavailable e), { p with surroundings }.giveUp io output)
    | (.crashed, output, surroundings) => (.crashed, { p with surroundings }.giveUp io output)

/-- Runs an operation on the output. -/
def onOutput (operation : σ → ω → Reply × σ × ω) : Reply × Playback σ ω :=
  match p.output with
  | none => (.failed .closed, p)
  | some output =>
    let (answer, output, surroundings) := operation output p.surroundings
    (answer, { p with output := some output, surroundings })

/-- Gives up the output. -/
def abandonOutput : Playback σ ω :=
  (p.onOutput fun output surroundings => (.done, io.abandon output surroundings)).2

/-- The end of a worker: it lets go of the output and hands out the events that are left. -/
def finishWorker : Playback σ ω :=
  (p.onOutput io.close).2.deliver

/-- Lets the write of a buffer go through. The result is whether the buffer was accepted. After a
write that fails the worker is at its end. -/
def writeBuffer (buffer : List UInt8) : Bool × Playback σ ω :=
  match p.onOutput (io.write buffer) with
  | (.done, p) => (true, p)
  | (.failed _, p) => (false, { p.finishWorker io with worker := some .faulted })
  | (.crashed, p) => (false, { p.abandonOutput io with worker := some .lost })

/-- Lets one write of the worker go through; it then waits with the next buffer. The result is the
buffer that was accepted. -/
def pump : Option (List UInt8) × Playback σ ω :=
  match p.worker with
  | some (.writing buffer) =>
    match p.writeBuffer io buffer with
    | (true, p) => (some buffer, p.mixNext)
    | (false, p) => (none, p)
  | _ => (none, p)

/-- Lets up to `n` writes go through. -/
def pumpMany : (n : Nat) → Playback σ ω → List (List UInt8) × Playback σ ω
  | 0, p => ([], p)
  | n + 1, p =>
    match p.pump io with
    | (none, p) => ([], p)
    | (some buffer, p) =>
      let (rest, p) := pumpMany n p
      (buffer :: rest, p)

/-- Ends the session. The buffer that waits still goes out; the result is that buffer. -/
def close : Option (List UInt8) × Playback σ ω :=
  match p.worker with
  | none => (none, p)
  | some (.writing buffer) =>
    match p.writeBuffer io buffer with
    | (true, p) =>
      let (_, p) := p.onOutput io.drain
      (some buffer, { p.finishWorker io with worker := none }.emit .closed)
    | (false, p) => (none, { p with worker := none }.emit .closed)
  | some _ => (none, { p with worker := none }.emit .closed)

/-- A description for diagnostics. -/
def describe : String :=
  let c := p.clip
  Text.record "SoundClip" [
    ("name", Text.quote c.name),
    ("bank", c.bank.describe),
    ("polyphony", toString c.polyphony),
    ("active_voices", toString c.pool.activeCount),
    ("format", c.format.describe),
    ("buffer_frames", toString c.bufferFrames),
    ("worker", p.state.label)]

end Playback

end SamplePlayer
