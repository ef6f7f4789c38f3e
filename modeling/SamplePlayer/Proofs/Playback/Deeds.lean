import SamplePlayer.Playback
import SamplePlayer.Proofs.Clip.Requests

/-!
# All that can be done to a clip

A clip is opened and closed, calls are made on its voices, buffers are mixed from it, by its worker
or by anybody else, and it is asked what its voices are doing. All of these are deeds; every deed
has an answer, and deeds are done one after the other.

## Main definitions

* `Request.call`: a request as the call that it is.
* `Query`, `Query.answer`: what can be asked without changing anything.
* `Deed`, `Answer`, `Deed.perform`: everything that can be done, and what comes of it.
* `Playback.perform`: deeds in order.
-/

namespace SamplePlayer

/-! ### Requests as calls -/

namespace Request

/-- The call. The answer is the number of the voice, if the call is for one. -/
def call : Request → Call (Option VoiceId)
  | obtain => Clip.obtain
  | play left right speed loops => Clip.play left right speed loops
  | release id => quietly (Clip.release id)
  | start id => quietly (Clip.start id)
  | stop id => quietly (Clip.stop id)
  | seek id position => quietly (Clip.seek id position)
  | seekMicros id micros => quietly (Clip.seekMicros id micros)
  | seekFraction id fraction => quietly (Clip.seekFraction id fraction)
  | setVolume id left right => quietly (Clip.setVolume id left right)
  | setPan id volume pan law => quietly (Clip.setPan id volume pan law)
  | setSpeed id speed => quietly (Clip.setSpeed id speed)
  | setLoops id count => quietly (Clip.setLoops id count)
  | setRecycle id recycle => quietly (Clip.setRecycle id recycle)
where
  /-- A call that does not tell the number of a voice. -/
  quietly (x : Call Unit) : Call (Option VoiceId) := do
    x
    return none

theorem on_quietly (x : Call Unit) (c : Clip) :
    (call.quietly x).on c = ((x.on c).1.map fun _ => none, (x.on c).2) := by
  rw [call.quietly, Call.on_bind]
  rcases x.on c with ⟨answer, d⟩
  cases answer <;> rfl

end Request

/-! ### Questions -/

/-- A question about a clip. -/
inductive Query where
  | volume (id : VoiceId)
  | speed (id : VoiceId)
  | loops (id : VoiceId)
  | recycle (id : VoiceId)
  | position (id : VoiceId)
  | isPlaying (id : VoiceId)
  | isActive (id : VoiceId)
  | activeCount
  | state
  | description

namespace Query

/-- What the answer to a question is. -/
def Value : Query → Type
  | volume _ => Except CallError (Float32 × Float32)
  | speed _ => Except CallError Float32
  | loops _ => Except CallError Int32
  | position _ => Except CallError Float
  | recycle _ | isPlaying _ | isActive _ => Except CallError Bool
  | activeCount => Nat
  | state => WorkerState
  | description => String

/-- The answer to a question. -/
def answer {σ ω : Type} (p : Playback σ ω) : (q : Query) → q.Value
  | volume id => p.clip.volume id
  | speed id => p.clip.speed id
  | loops id => p.clip.loops id
  | recycle id => p.clip.recycle id
  | position id => p.clip.position id
  | isPlaying id => p.clip.isPlaying id
  | isActive id => p.clip.isActive id
  | activeCount => p.clip.pool.activeCount
  | state => p.state
  | description => p.describe

end Query

/-! ### Deeds -/

/-- Something that can be done to a clip that plays to outputs of the kind `σ`. -/
inductive Deed (σ : Type) where
  | opening (output : σ)
  | close
  /-- The worker gets on: the write that it is in comes back, one way or the other. -/
  | pump
  | request (r : Request)
  /-- Somebody mixes a buffer of so many samples. -/
  | mix (count : Nat)
  /-- The same, while a request comes in at a juncture. -/
  | mixDuring (count : Nat) (r : Request) (j : Mixer.Juncture)
  | addListener (box : Mailbox)
  | removeListener (id : ListenerId)
  | query (q : Query)

/-- What is answered to a deed. -/
inductive Answer where
  | opening (answer : OpeningAnswer)
  /-- The buffer that the output accepted, if it did. -/
  | accepted (buffer : Option (List UInt8))
  | request (answer : Except CallError (Option VoiceId))
  /-- The samples that were mixed and the events that were raised meanwhile. -/
  | mixed (samples : List Sample) (events : List Event)
  | mixedDuring (answer : Except CallError (Option VoiceId)) (samples : List Sample)
    (events : List Event)
  | listener (id : ListenerId)
  | removed (found : Bool)
  | query (q : Query) (value : q.Value)

variable {σ ω : Type}

/-- Does something. -/
def Deed.perform (io : OutputInterface σ ω) (p : Playback σ ω) : Deed σ → Answer × Playback σ ω
  | opening output =>
    let (answer, p) := p.opening io output
    (.opening answer, p)
  | close =>
    let (buffer, p) := p.close io
    (.accepted buffer, p)
  | pump =>
    let (buffer, p) := p.pump io
    (.accepted buffer, p)
  | request r =>
    let (answer, clip) := r.call.on p.clip
    (.request answer, { p with clip })
  | mix count =>
    let (samples, events, clip) := p.clip.mix count
    (.mixed samples events, { p with clip })
  | mixDuring count r j =>
    let (answer, samples, events, clip) := p.clip.mixDuring count r.call.on j
    (.mixedDuring answer samples events, { p with clip })
  | addListener box =>
    let (id, clip) := p.clip.addListener box
    (.listener id, { p with clip })
  | removeListener id =>
    let (found, clip) := p.clip.removeListener id
    (.removed found, { p with clip })
  | query q => (.query q (q.answer p), p)

namespace Playback

/-- Does one thing after the other. -/
def perform (io : OutputInterface σ ω) (p : Playback σ ω) :
    List (Deed σ) → List Answer × Playback σ ω
  | [] => ([], p)
  | deed :: rest =>
    let (answer, p) := deed.perform io p
    let (answers, p) := perform io p rest
    (answer :: answers, p)

variable {io : OutputInterface σ ω} {p : Playback σ ω}

theorem perform_append (xs ys : List (Deed σ)) : p.perform io (xs ++ ys) =
    ((p.perform io xs).1 ++ ((p.perform io xs).2.perform io ys).1,
      ((p.perform io xs).2.perform io ys).2) := by
  induction xs generalizing p with
  | nil => rfl
  | cons deed rest ih => simp only [List.cons_append, perform, ih]

end Playback

end SamplePlayer
