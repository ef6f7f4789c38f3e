import SamplePlayer.Proofs.Clip.Requests
import SamplePlayer.Proofs.Share

/-!
# Calls that a playing voice refuses

A voice that plays can be neither started nor moved. The call is refused, but only inside the
transition that would have made the change, and the transition counts all the same. So if a pass
over the voice is under way, it finds at its end that it was overtaken. Nothing of it is written
back and its events are lost, though the call did nothing.

On the way the calls are not noticed: the pass takes the frames it would have taken, as neither of
the two looks at what the other changes.

## Main definitions

* `Untimely`: the calls that a playing voice refuses.
* `Underway`, `Underway.run`: a pass under way, and what happens meanwhile.

## Main results

* `Underway.run_eq`: frames and refused calls, in any order, taken together.
* `Underway.refused_calls`: the calls leave no trace but the epoch, and the pass is lost.
-/

namespace SamplePlayer

namespace Clip

@[simp] theorem pool_changed (c : Clip) (pool : Pool) (events : List Event) :
    (c.changed pool events).pool = pool := rfl

@[simp] theorem mixer_changed (c : Clip) (pool : Pool) (events : List Event) :
    (c.changed pool events).mixer = c.mixer := rfl

end Clip

/-! ### The calls -/

/-- A call on a voice that comes at the wrong time while the voice plays. -/
inductive Untimely where
  | start
  | seek (position : Float)
  | seekMicros (micros : UInt64)
  | seekFraction (fraction : Float)

namespace Untimely

/-- The call. -/
def call (id : VoiceId) : Untimely → Call Unit
  | start => Clip.start id
  | seek position => Clip.seek id position
  | seekMicros micros => Clip.seekMicros id micros
  | seekFraction fraction => Clip.seekFraction id fraction

/-- Why it is refused. -/
def refusal (id : VoiceId) : Untimely → CallError
  | start => .alreadyPlaying id
  | _ => .seekWhilePlaying id

/-- A refused call changes nothing, but it was a transition. -/
theorem on_call {c : Clip} {id : VoiceId} {v : Voice} (voice : c.pool.voices[id]? = some v)
    (active : v.active) (playing : v.playing) (u : Untimely) :
    (u.call id).on c = (.error (u.refusal id), c.changed (c.pool.set id (v.turned v)) []) := by
  cases u with
  | start => exact Clip.on_start_of_playing voice active playing
  | seek position => exact Clip.on_seek_of_playing voice active playing position
  | seekMicros micros =>
    rw [call, Clip.on_seekMicros]
    exact Clip.on_seek_of_playing voice active playing _
  | seekFraction fraction =>
    rw [call, Clip.on_seekFraction]
    exact Clip.on_seek_of_playing voice active playing _

end Untimely

/-! ### A pass under way -/

/-- What may happen next while a pass is under way: it takes a frame, or a call comes in. -/
inductive Moment where
  | frame
  | call (u : Untimely)

namespace Moment

/-- The calls among what happens. -/
def calls : List Moment → List Untimely
  | [] => []
  | frame :: rest => calls rest
  | call u :: rest => u :: calls rest

/-- How many frames are taken. -/
def frames : List Moment → Nat
  | [] => 0
  | frame :: rest => frames rest + 1
  | call _ :: rest => frames rest

theorem frames_replicate (n : Nat) : frames (.replicate n frame) = n := by
  induction n with
  | zero => rfl
  | succ n ih => rw [List.replicate_succ, frames, ih]

theorem calls_replicate (n : Nat) : calls (.replicate n frame) = [] := by
  induction n with
  | zero => rfl
  | succ n ih => rw [List.replicate_succ, calls, ih]

end Moment

/-- A clip, a pass over one of its voices that is under way, and the calls that were answered
meanwhile. -/
structure Underway where
  clip : Clip
  pass : Pass
  strip : Array Frame := #[]
  answers : List (Except CallError Unit) := []

namespace Underway

/-- A pass that begins now. -/
def begun (c : Clip) (v : Voice) : Underway := { clip := c, pass := .start v }

/-- The next thing happens. -/
def next (id : VoiceId) (s : Underway) : Moment → Underway
  | .frame =>
    let (strip, pass, v) := s.pass.run s.clip.mixer 1 s.strip (s.clip.pool.voices[id]?.getD {})
    { s with clip := { s.clip with pool := s.clip.pool.set id v }, pass, strip }
  | .call u =>
    let (answer, clip) := (u.call id).on s.clip
    { s with clip, answers := s.answers ++ [answer] }

/-- One thing happens after the other. -/
def run (id : VoiceId) (s : Underway) (moments : List Moment) : Underway :=
  moments.foldl (next id) s

/-- The end of the pass: its events, and the pool after it. -/
def finish (id : VoiceId) (s : Underway) : List Event × Pool :=
  s.clip.pool.finish s.clip.mixer id s.pass

variable {c : Clip} {id : VoiceId} {v : Voice} {s : Underway}

theorem next_frame (voice : s.clip.pool.voices[id]? = some v) :
    s.next id .frame = { s with
      clip := s.clip.changed (s.clip.pool.set id (s.pass.run s.clip.mixer 1 s.strip v).2.2) []
      pass := (s.pass.run s.clip.mixer 1 s.strip v).2.1
      strip := (s.pass.run s.clip.mixer 1 s.strip v).1 } := by
  simp [next, voice, Clip.changed, Listeners.postAll]

theorem next_call (voice : s.clip.pool.voices[id]? = some v) (active : v.active)
    (playing : v.playing) (u : Untimely) :
    s.next id (.call u) = { s with
      clip := s.clip.changed (s.clip.pool.set id (v.turned v)) []
      answers := s.answers ++ [.error (u.refusal id)] } := by
  simp only [next, Untimely.on_call voice active playing]

/-- Frames are taken as if there were no calls, and the calls move the epoch only. -/
theorem run_eq (voice : s.clip.pool.voices[id]? = some v) (active : v.active)
    (playing : v.playing) (moments : List Moment) :
    s.run id moments =
      let after := s.pass.run s.clip.mixer (Moment.frames moments) s.strip v
      { clip := s.clip.changed (s.clip.pool.set id
          { after.2.2 with epoch := v.epoch.after (Moment.calls moments).length }) []
        pass := after.2.1
        strip := after.1
        answers := s.answers ++
          (Moment.calls moments).map fun u => .error (u.refusal id) } := by
  induction moments generalizing s v with
  | nil => simp [run, Moment.frames, Moment.calls, Pool.set_of_voice voice]
  | cons moment rest ih =>
    -- Whatever happens, the voice stays in its place and plays on.
    have here (w : Voice) : (s.clip.pool.set id w).voices[id]? = some w := by
      simp [Pool.getElem?_set, voice]
    change (s.next id moment).run id rest = _
    cases moment with
    | frame =>
      obtain ⟨active', playing', epoch⟩ := Pass.run_flags s.clip.mixer 1 s.strip s.pass v
      rw [next_frame voice, ih (here _) (active'.trans active) (playing'.trans playing), epoch]
      simp only [Clip.changed_changed, Clip.pool_changed, Clip.mixer_changed, Pool.set_set,
        List.append_nil, Moment.frames, Moment.calls]
      rw [Nat.add_comm (Moment.frames rest), Pass.run_add]
    | call u =>
      rw [next_call voice active playing, ih (v := v.turned v) (here _) active playing]
      simp only [Clip.changed_changed, Clip.pool_changed, Clip.mixer_changed, Pool.set_set,
        List.append_nil, Moment.frames, Moment.calls, Voice.turned, Pass.run_epoch,
        Epoch.after_after, List.map_cons, List.length_cons, List.append_assoc,
        List.singleton_append]
      rw [Nat.add_comm 1]

/-- Frames alone leave the epoch where it was. -/
theorem run_undisturbed (voice : s.clip.pool.voices[id]? = some v) (active : v.active)
    (playing : v.playing) (n : Nat) :
    s.run id (.replicate n .frame) = { s with
      clip := s.clip.changed (s.clip.pool.set id (s.pass.run s.clip.mixer n s.strip v).2.2) []
      pass := (s.pass.run s.clip.mixer n s.strip v).2.1
      strip := (s.pass.run s.clip.mixer n s.strip v).1 } := by
  obtain ⟨-, -, epoch⟩ := Pass.run_flags s.clip.mixer n s.strip s.pass v
  rw [run_eq voice active playing, Moment.frames_replicate, Moment.calls_replicate]
  dsimp only [List.length_nil]
  rw [Epoch.after_zero, ← epoch, List.map_nil, List.append_nil]

/-- Take a pass over a voice that plays, and calls that come in meanwhile and are refused. The pass
takes the frames it would have taken, and of the clip only the epoch of the voice differs. But at
its end the pass is written back only if there was no call. If there was one, the pass raises no
event and the voice stays where it was. -/
theorem refused_calls (voice : c.pool.voices[id]? = some v) (active : v.active)
    (playing : v.playing) (moments : List Moment)
    (few : (Moment.calls moments).length < 2 ^ 31) :
    let calls := Moment.calls moments
    let n := Moment.frames moments
    let alone := (begun c v).run id (.replicate n .frame)
    let s := (begun c v).run id moments
    let done := c.mixer.passOver v.epoch ⟨c.pool, .replicate n .silence, []⟩ id v
    s.answers = (calls.map fun u => .error (u.refusal id)) ∧
    s.strip = alone.strip ∧ s.pass = alone.pass ∧
    (∃ w, alone.clip.pool.voices[id]? = some w ∧ s.clip = alone.clip.changed
      (alone.clip.pool.set id { w with epoch := v.epoch.after calls.length }) []) ∧
    alone.finish id = (done.events, done.pool) ∧
    s.finish id = if calls = [] then alone.finish id else ([], s.clip.pool) := by
  intro calls n alone s done
  have met : alone = _ := run_undisturbed (s := begun c v) voice active playing n
  have run : s = _ := run_eq (s := begun c v) voice active playing moments
  have here (w : Voice) : (c.pool.set id w).voices[id]? = some w := by
    simp [Pool.getElem?_set, voice]
  rw [run, met]
  refine ⟨rfl, rfl, rfl, ⟨_, here _, ?_⟩, ?_, ?_⟩
  · simp only [Clip.changed_changed, Clip.pool_changed, Pool.set_set, List.append_nil]
    rfl
  · simp only [finish, done, Mixer.passOver_of_run rfl, Array.size_replicate]
    rfl
  · obtain ⟨-, -, epoch⟩ := Pass.run_flags c.mixer n #[] (.start v) v
    split
    · rename_i none
      have zero : v.epoch.after (Moment.calls moments).length = v.epoch := by
        rw [show Moment.calls moments = [] from none, List.length_nil, Epoch.after_zero]
      rw [zero, ← epoch]
      rfl
    · rename_i some
      -- The pass finds another epoch than the one it began with.
      refine Pool.finish_of_stale (here _) ?_
      rw [Pass.snapshot_run]
      intro same
      exact some (List.eq_nil_of_length_eq_zero ((Epoch.after_eq_self_iff few).mp same))

/-- A voice that plays the last frame for the last time. -/
def ending : Voice := { active := true, playing := true }

/-- A clip of one frame with the voice `ending` alone. -/
def click : Clip where
  name := "click"
  mixer := Mixer.tick
  pool := ⟨#[ending], []⟩
  listeners := {}
  format := default
  bufferFrames := 1

/-- The voice `ending` is started again before its pass is over. So it does not end. -/
theorem refused_calls_click :
    ((begun click ending).run 0 [.call .start, .frame]).answers = [.error (.alreadyPlaying 0)] ∧
      (((begun click ending).run 0 [.call .start, .frame]).finish 0).1 = [] ∧
      (((begun click ending).run 0 [.frame]).finish 0).1 = [.voice .stop 0 0.0] := by
  have voice : click.pool.voices[0]? = some ending := rfl
  obtain ⟨answers, -, -, -, alone, dropped⟩ :=
    refused_calls voice rfl rfl [.call .start, .frame] (by decide)
  refine ⟨answers, ?_, ?_⟩
  · rw [dropped]
    rfl
  · exact (congrArg Prod.fst alone).trans rfl

/-- So a refused call does disturb a pass. -/
theorem not_refused_calls_harmless : ¬ ∀ (c : Clip) (id : VoiceId) (v : Voice),
    c.pool.voices[id]? = some v → v.active → v.playing → v.epoch.busy = false →
      ∀ moments : List Moment, (Moment.calls moments).length < 2 ^ 31 →
        (((begun c v).run id moments).finish id).1 =
          (((begun c v).run id (.replicate (Moment.frames moments) .frame)).finish id).1 := by
  intro harmless
  have same := harmless click 0 ending rfl rfl rfl (by decide) [.call .start, .frame] (by decide)
  have numbers := congrArg List.length same
  revert numbers
  decide

end Underway

end SamplePlayer
