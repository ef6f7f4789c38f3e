import SamplePlayer.Bank
import SamplePlayer.Pool

/-!
# Mixing

The mixer goes over the voices that are active and playing, in the order of their numbers, and adds
what each of them contributes to a buffer of silence. The pass over one voice works on copies of its
cursor and its ramps, reads the targets anew at every frame, and writes everything back at the end,
together with the events it raised. If a transition overtook the pass, nothing is written back.

## Main definitions

* `Pass`, `Pass.startAt`, `Pass.next`, `Pass.run`: the pass over one voice.
* `Pass.writeBack`, `Pool.finish`: its end.
* `Mixer.mix`: one buffer of the sum of all voices.
* `Mixer.hold`, `Mixer.resume`: a mix that is held up, and what it goes on to.
-/

namespace SamplePlayer

/-- A pass over one voice, under way. -/
structure Pass where
  /-- The epoch of the voice at the start. -/
  snapshot : Epoch
  cursor : Float
  left : Ramp
  right : Ramp
  speed : Pace
  /-- How often the voice started over. -/
  loops : Nat := 0
  /-- The voice came to its end. -/
  finished : Bool := false

/-- The mixer of a clip: what it plays and how fast parameters follow their targets. -/
structure Mixer where
  bank : Bank
  steps : RampSteps

namespace Pass

/-- A pass that begins with the voice as it is, the epoch having been read to be `snapshot`. -/
def startAt (snapshot : Epoch) (v : Voice) : Pass where
  snapshot
  cursor := v.cursor
  left := v.left.ramp
  right := v.right.ramp
  speed := .ofRamp v.speed.ramp

/-- A pass that begins now. -/
def start (v : Voice) : Pass := startAt v.epoch v

/-- Takes the next frame: what the voice contributes to it, and the pass and the voice after it. A
cursor that moves past the last frame uses up a loop of the voice or ends the pass. -/
def next (m : Mixer) (p : Pass) (v : Voice) : Frame × Pass × Voice :=
  let left := p.left.tick v.left.target m.steps.volume
  let right := p.right.tick v.right.target m.steps.volume
  let speed := p.speed.tick v.speed.target m.steps.speed
  let frame := ((m.bank.read? p.cursor).getD .silence).scale left.current right.current
  let cursor := p.cursor + speed.rate
  let p := { p with left, right, speed, cursor }
  if m.bank.lastFrame < cursor then
    match v.takeLoop with
    | (true, v) => (frame, { p with cursor := 0.0, loops := p.loops + 1 }, v)
    | (false, v) => (frame, { p with finished := true }, v)
  else (frame, p, v)

/-- Takes up to `count` frames, fewer if the voice ends, and puts them behind those in `strip`. -/
def run (m : Mixer) : (count : Nat) → (strip : Array Frame) → Pass → Voice →
    Array Frame × Pass × Voice
  | 0, strip, p, v => (strip, p, v)
  | count + 1, strip, p, v =>
    if p.finished then (strip, p, v)
    else
      let (frame, p, v) := p.next m v
      run m count (strip.push frame) p v

/-- What the end of a pass brings about besides the new state of the voice. -/
structure Outcome where
  /-- The events, in order. -/
  events : List Event
  /-- The voice went back to the free ones. -/
  freed : Bool

/-- Writes a pass back to its voice. A voice that ended stands at the start again, so a restart
plays from the top. -/
def writeBack (m : Mixer) (id : VoiceId) (p : Pass) (v : Voice) : Voice × Outcome :=
  let v := { v with
    left := { v.left with ramp := p.left }
    right := { v.right with ramp := p.right }
    speed := { v.speed with ramp := p.speed.ramp } }
  let loops := List.replicate p.loops (Event.voice .loop id 0.0)
  if p.finished then
    let stops := if v.playing then [Event.voice .stop id m.bank.lastFrame] else []
    let v := { v with cursor := 0.0, playing := false }
    let (v, ended) := if v.recycle then Pool.retired v else (v, none)
    let releases := ended.toList.map (Event.voice .release id)
    (v, ⟨loops ++ stops ++ releases, ended.isSome⟩)
  else ({ v with cursor := p.cursor }, ⟨loops, false⟩)

end Pass

/-- Ends the pass over a voice: writes it back unless it is stale, and puts the voice at the end of
the free ones if it goes out of use. The events are those the write-back raised. -/
def Pool.finish (m : Mixer) (id : VoiceId) (p : Pass) (pool : Pool) : List Event × Pool :=
  match pool.voices[id]? with
  | none => ([], pool)
  | some v =>
    match v.commit p.snapshot (p.writeBack m id) with
    | none => ([], pool)
    | some (v, outcome) =>
      let pool := pool.set id v
      (outcome.events, if outcome.freed then pool.giveBack id else pool)

namespace Mixer

/-- Adds what a voice contributes to the frames of a buffer, from the first one on. -/
def overlay (buffer strip : Array Frame) : Array Frame :=
  buffer.mapIdx fun i frame =>
    match strip[i]? with
    | some contribution => frame + contribution
    | none => frame

/-- The mix so far. -/
structure Progress where
  pool : Pool
  buffer : Array Frame
  /-- The events raised so far, in order. -/
  events : List Event

/-- Takes the frames that are missing in the strip of a pass over the voice `id`, which is `v`, and
ends the pass. -/
def endPass (m : Mixer) (sofar : Progress) (id : VoiceId) (p : Pass) (strip : Array Frame)
    (v : Voice) : Progress :=
  let (strip, p, v) := p.run m (sofar.buffer.size - strip.size) strip v
  let (events, pool) := (sofar.pool.set id v).finish m id p
  ⟨pool, overlay sofar.buffer strip, sofar.events ++ events⟩

/-- Mixes one voice into the buffer by a pass whose epoch was read to be `snapshot`. -/
def passOver (m : Mixer) (snapshot : Epoch) (sofar : Progress) (id : VoiceId) (v : Voice) :
    Progress :=
  m.endPass sofar id (.startAt snapshot v) #[] v

/-- Mixes one voice into the buffer if it is active and playing. -/
def mixVoice (m : Mixer) (sofar : Progress) (id : VoiceId) : Progress :=
  match sofar.pool.voices[id]? with
  | none => sofar
  | some v => if v.active && v.playing then m.passOver v.epoch sofar id v else sofar

/-- Mixes the voices with the given numbers, in order, over a buffer of `frames` silent frames. -/
def mixVoices (m : Mixer) (pool : Pool) (frames : Nat) (ids : List VoiceId) : Progress :=
  ids.foldl m.mixVoice ⟨pool, Array.replicate frames .silence, []⟩

/-- A buffer of `count` samples as it is written: whole frames, and silence for a sample that is
left over. -/
def spread (buffer : Array Frame) (count : Nat) : List Sample :=
  interleave buffer.toList ++ List.replicate (count % 2) .zero

/-- One pass of the mix over a buffer of `count` interleaved samples: the samples, the events in the
order of the voices, and the voices afterwards. -/
def mix (m : Mixer) (count : Nat) (pool : Pool) : List Sample × List Event × Pool :=
  let done := m.mixVoices pool (count / 2) (List.range pool.polyphony)
  (spread done.buffer count, done.events, done.pool)

/-! ### Mixes that are held up -/

/-- When something comes in while a buffer is mixed. -/
inductive Juncture where
  /-- Before the mixer looks at the voice with a number. -/
  | before (id : VoiceId)
  /-- After so many frames of the pass over the voice with a number. A voice that does not play has
  no pass, and the mix is held up before it. -/
  | amid (id : VoiceId) (taken : Nat)

/-- A mix that is held up. -/
structure Held where
  sofar : Progress
  /-- The voice that the mixer is at, the pass over it and the frames that the pass took. -/
  passing : Option (VoiceId × Pass × Array Frame)
  /-- The voices still to come. -/
  waiting : List VoiceId

/-- The mix with the pool as it has become meanwhile. -/
def Held.withPool (pool : Pool) (h : Held) : Held := { h with sofar := { h.sofar with pool } }

/-- Goes on to the pass over the next voice, if it plays, and takes the first frames of it. -/
def Held.enter (m : Mixer) (taken : Nat) (h : Held) : Held :=
  match h.waiting with
  | [] => h
  | id :: rest =>
    match h.sofar.pool.voices[id]? with
    | none => h
    | some v =>
      if v.active && v.playing then
        let (strip, p, v) := (Pass.start v).run m (min taken h.sofar.buffer.size) #[] v
        { h.withPool (h.sofar.pool.set id v) with passing := some (id, p, strip), waiting := rest }
      else h

/-- Mixes a buffer of `frames` frames up to a juncture. -/
def hold (m : Mixer) (pool : Pool) (frames : Nat) (j : Juncture) : Held :=
  let ids := List.range pool.polyphony
  let before (id : VoiceId) : Held := ⟨m.mixVoices pool frames (ids.take id), none, ids.drop id⟩
  match j with
  | .before id => before id
  | .amid id taken => (before id).enter m taken

/-- Goes on with a mix that was held up. The pass under way goes on with the voice as it is now. -/
def resume (m : Mixer) (h : Held) : Progress :=
  let sofar :=
    match h.passing with
    | none => h.sofar
    | some (id, p, strip) =>
      match h.sofar.pool.voices[id]? with
      | none => h.sofar
      | some v => m.endPass h.sofar id p strip v
  h.waiting.foldl m.mixVoice sofar

end Mixer

end SamplePlayer
