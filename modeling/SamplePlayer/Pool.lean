import SamplePlayer.CallError
import SamplePlayer.Voice

/-!
# The pool of voices

A clip has a fixed number of voices. The free ones wait in a queue: a voice is obtained from its
front and released to its end, so a voice rests as long as possible before it is used again.

## Main definitions

* `Pool`, `Pool.make`.
* `Pool.obtain`, `Pool.release`, `Pool.retired`, `Pool.giveBack`.
* `Pool.get`, `Pool.getActive`: voices by number.
-/

namespace SamplePlayer

/-- The voices of a clip. -/
structure Pool where
  voices : Array Voice
  /-- The numbers of the free voices, the next one to be obtained first. -/
  free : List VoiceId
deriving Inhabited

namespace Pool

/-- A pool of free voices. -/
def make (polyphony : Nat) : Except CallError Pool :=
  if polyphony = 0 then .error .noVoices
  else .ok ⟨Array.replicate polyphony {}, List.range polyphony⟩

variable (pool : Pool)

/-- The number of voices. -/
def polyphony : Nat := pool.voices.size

/-- The number of voices that are obtained. -/
def activeCount : Nat := pool.voices.countP Voice.active

/-- The number of voices that can be obtained. -/
def available : Nat := pool.free.length

/-- The voice with a number. -/
def get (id : VoiceId) : Except CallError Voice :=
  match pool.voices[id]? with
  | some v => .ok v
  | none => .error (.outOfRange id)

/-- The voice with a number, which has to be obtained. -/
def getActive (id : VoiceId) : Except CallError Voice := do
  let v ← pool.get id
  if v.active then .ok v else .error (.inactive id)

/-- Replaces a voice. -/
def set (id : VoiceId) (v : Voice) : Pool :=
  { pool with voices := pool.voices.setIfInBounds id v }

/-- The queue of free voices has no place left; it has one for every voice. -/
def full : Bool := pool.polyphony ≤ pool.available

/-- Puts a number at the end of the free ones. If there is no place it is lost. -/
def giveBack (id : VoiceId) : Pool :=
  if pool.full then pool else { pool with free := pool.free ++ [id] }

/-- Takes a free voice, resets and activates it. -/
def obtain : Option (VoiceId × Pool) :=
  match pool.free with
  | [] => none
  | id :: rest =>
    let prepare (v : Voice) : Voice × Unit := ({ v.reset with active := true }, ())
    some (id,
      { voices := pool.voices.modify id fun v => (v.transition prepare).1, free := rest })

/-- Within a change of a voice: takes the voice out of use. The result is the position it ended at
if it was in use. -/
def retired (v : Voice) : Voice × Option Float :=
  if v.active then ({ v with active := false, playing := false }, some v.cursor)
  else (v, none)

/-- Stops a voice and puts it at the end of the free ones. The result is the position it ended at,
or nothing if there is no such voice or it was not in use. -/
def release (id : VoiceId) : Option Float × Pool :=
  match pool.voices[id]? with
  | none => (none, pool)
  | some v =>
    let (v, ended) := v.transition retired
    let pool := pool.set id v
    (ended, if ended.isSome then pool.giveBack id else pool)

end Pool

end SamplePlayer
