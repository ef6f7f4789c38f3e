import SamplePlayer.Listeners
import SamplePlayer.Mixer

/-!
# Clips

A clip is a bank with a fixed number of voices that play it, the listeners that hear of what
happens, and the settings for playing to an output.

## Main definitions

* `Clip`, `Clip.make`, and the settings `Clip.withFormat`, `Clip.withBufferFrames`,
  `Clip.withRampSteps`.
* `Clip.mix`: one buffer of all voices.
* `Clip.mixDuring`: the same, with a call that comes in meanwhile.
-/

namespace SamplePlayer

/-- A bank and the voices that play it. -/
structure Clip where
  name : String
  mixer : Mixer
  pool : Pool
  listeners : Listeners
  format : OutputFormat
  /-- How many frames are mixed at a time for an output. -/
  bufferFrames : Nat

namespace Clip

/-- The number of frames mixed at a time if nothing else is asked for. -/
def defaultBufferFrames : Nat := 256

/-- A clip with `polyphony` free voices, for output as 16-bit words at the rate of the bank. -/
def make (name : String) (bank : Bank) (polyphony : Nat) : Except CallError Clip := do
  let pool ← Pool.make polyphony
  let format ← (OutputFormat.make bank.rate .int 16).mapError fun e =>
    CallError.outputUnavailable (.unsupported e)
  return {
    name, pool, format
    mixer := ⟨bank, default⟩
    listeners := {}
    bufferFrames := defaultBufferFrames }

variable (c : Clip)

/-- Sets the format that outputs are opened with from now on. -/
def withFormat (format : OutputFormat) : Clip := { c with format }

/-- Sets the number of frames mixed at a time, at least one. -/
def withBufferFrames (frames : Nat) : Clip := { c with bufferFrames := max frames 1 }

/-- Sets the lengths of ramps. -/
def withRampSteps (steps : RampSteps) : Clip := { c with mixer := { c.mixer with steps } }

/-- The sound of the clip. -/
def bank : Bank := c.mixer.bank

/-- The number of voices. -/
def polyphony : Nat := c.pool.polyphony

/-- A short description: the name, the length and the number of voices. -/
def text : String :=
  s!"{c.name} ({c.bank.frameCount} frames, {c.polyphony} voices)"

/-- Mixes one buffer of `count` samples. The events are left to the caller. -/
def mix (count : Nat) : List Sample × List Event × Clip :=
  let (samples, events, pool) := c.mixer.mix count c.pool
  (samples, events, { c with pool })

/-- Mixes one buffer of `count` samples while a call comes in. Unless another juncture is given, the
call comes in before the mixer looks at the first voice. -/
def mixDuring {α : Type} (count : Nat) (call : Clip → α × Clip)
    (j : Mixer.Juncture := .before 0) : α × List Sample × List Event × Clip :=
  let held := c.mixer.hold c.pool (count / 2) j
  let (answer, c) := call { c with pool := held.sofar.pool }
  let done := c.mixer.resume (held.withPool c.pool)
  (answer, Mixer.spread done.buffer count, done.events, { c with pool := done.pool })

end Clip

end SamplePlayer
