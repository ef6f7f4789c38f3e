import SamplePlayer.Proofs.Clip.Outcomes
import SamplePlayer.Proofs.Lifecycle

/-!
# Playing at once

A request to play takes a free voice, sets it up and starts it, in six calls each of which could be
refused on its own. Here none is: in a sound pool the request either finds every voice in use and
leaves the clip as it is, or takes a voice all the way. Nothing of what the voice did before shows
then, whatever was asked for.

## Main definitions

* `Voice.sounding`: a voice that has just been set up and started.
* `Clip.Launched`: the clip after a voice was taken all the way.

## Main results

* `Clip.launched_of_free`: the request succeeds when there is a free voice.
* `Clip.Launched.record`: what a listener hears of it.
* `Desk.Run.all_or_nothing`: after any run a request to play happens as a whole or not at all.
-/

namespace SamplePlayer

/-- Negative loop counts other than `loopForever` are raised to it. -/
theorem max_loopForever (count : Int32) :
    (if count < loopForever then loopForever else count) = max count loopForever := by
  have larger : max count loopForever = if count ≤ loopForever then loopForever else count := rfl
  rw [larger]
  simp only [Int32.lt_iff_toInt_lt, Int32.le_iff_toInt_le, ← Int32.toInt_inj]
  split_ifs <;> omega

/-! ### The voice -/

/-- A voice at the start of its sound that plays with these gains, this speed and this many loops,
none of them on its way to anything else. -/
def Voice.sounding (left right speed : Float32) (loops : Int32) (epoch : Epoch) : Voice where
  active := true
  playing := true
  cursor := 0.0
  left := .settled (if left.isNaN then 0.0 else Number.clamp32 left 0.0 1.0)
  right := .settled (if right.isNaN then 0.0 else Number.clamp32 right 0.0 1.0)
  speed := .settled (if speed.isNaN then 1.0 else Number.clamp32 speed minSpeed maxSpeed)
  loops := max loops loopForever
  recycle := true
  epoch := epoch

/-- Only the epoch of a voice tells afterwards that there was something before. -/
theorem Voice.launched_eq (v : Voice) (left right speed : Float32) (loops : Int32) :
    v.launched left right speed loops = sounding left right speed loops (v.epoch.after 2) := by
  have counted := max_loopForever loops
  have turned : (v.epoch.after 1).after 1 = v.epoch.after 2 := Epoch.after_after ..
  rw [sounding, ← counted, ← turned]
  rfl

/-! ### The clip -/

namespace Clip

variable {c d : Clip} {id : VoiceId} {left right speed : Float32} {loops : Int32}

/-- The free voice `id` of the clip `c` was taken, and plays in the clip `d` as it was asked to.
Nothing else changed, and the listeners have heard of the two transitions. -/
structure Launched (c : Clip) (id : VoiceId) (left right speed : Float32) (loops : Int32)
    (d : Clip) : Prop where
  taken : ∃ v, c.pool.voices[id]? = some v ∧ v.active = false ∧
    d.pool.voices[id]? = some (.sounding left right speed loops (v.epoch.after 2))
  others : ∀ j, j ≠ id → d.pool.voices[j]? = c.pool.voices[j]?
  available : d.pool.available + 1 = c.pool.available
  changed : d = { c with
    pool := d.pool
    listeners :=
      (c.listeners.postAll [.voice .obtain id 0.0, .voice .start id 0.0]).deliver }

/-- A listener that hears everything has heard of the voice being obtained and started, and of
nothing else. -/
theorem Launched.record (h : c.Launched id left right speed loops d) {w : ListenerId}
    (recording : c.listeners.Recording w) : d.listeners.Recording w ∧
      d.listeners.record w =
        c.listeners.record w ++ [.voice .obtain id 0.0, .voice .start id 0.0] := by
  have posted := recording.postAll [.voice .obtain id 0.0, .voice .start id 0.0]
  rw [h.changed]
  exact ⟨posted.deliver,
    (Listeners.record_deliver posted).trans (Listeners.record_postAll _)⟩

/-- When the queue is not empty its first voice is taken all the way. -/
theorem launched_of_free (sound : c.pool.Sound) {rest : List VoiceId}
    (next : c.pool.free = id :: rest) (left right speed : Float32) (loops : Int32) :
    ((play left right speed loops).on c).1 = .ok (some id) ∧
      c.Launched id left right speed loops ((play left right speed loops).on c).2 := by
  obtain ⟨v, voice, idle⟩ := (sound.mem_free_iff id).mp (next ▸ List.mem_cons_self)
  rw [on_play next voice, v.launched_eq]
  refine ⟨rfl, ⟨v, voice, idle, ?_⟩, fun j other => ?_, ?_, rfl⟩
  · change (c.pool.set id _).voices[id]? = _
    simp [Pool.getElem?_set, voice]
  · change (c.pool.set id _).voices[j]? = _
    simp [Pool.getElem?_set, Ne.symm other]
  · change rest.length + 1 = c.pool.free.length
    rw [next, List.length_cons]

/-- In a sound pool the queue is empty exactly when every voice is active. -/
theorem free_eq_nil_iff_active (sound : c.pool.Sound) :
    c.pool.free = [] ↔ ∀ v ∈ c.pool.voices, v.active := by
  rw [List.eq_nil_iff_forall_not_mem]
  constructor
  · intro empty v member
    obtain ⟨id, voice⟩ := Array.mem_iff_getElem?.mp member
    by_contra idle
    exact empty id ((sound.mem_free_iff_of_voice voice).mpr (by simpa using idle))
  · intro active id free
    obtain ⟨v, voice, idle⟩ := (sound.mem_free_iff id).mp free
    simp [active v (Array.mem_of_getElem? voice)] at idle

end Clip

/-! ### Runs -/

namespace Desk

variable {c : Clip} {d : Desk} {n : Nat} {buffer : Array Frame}

/-- After any run of requests and mixing from a clip that has just been made, and whoever listens to
it, a request to play is never refused with an error. It finds no voice exactly when every voice is
active, and then it changes nothing and tells of nothing. Otherwise it takes a voice that was not
active, which then plays from the start as it was asked to, leaves all other voices as they are, and
tells of that voice being obtained and started. -/
theorem Run.all_or_nothing (made : Pool.make n = .ok c.pool) (run : Run (resting c buffer) d)
    (listeners : Listeners) (left right speed : Float32) (loops : Int32) :
    let before : Clip := { d.clip with listeners }
    let played := (Clip.play left right speed loops).on before
    (played.1 = .ok none ↔ ∀ v ∈ before.pool.voices, v.active) ∧
      (played = (.ok none, before) ∨
        ∃ id, played.1 = .ok (some id) ∧ before.Launched id left right speed loops played.2) := by
  intro before played
  have fresh := (Pool.sound_of_make made).1
  have sound : before.pool.Sound := ((sound_resting fresh buffer).run run).pool
  rw [← Clip.free_eq_nil_iff_active sound]
  cases next : before.pool.free with
  | nil =>
    have refused : played = (.ok none, before) := Clip.on_play_of_nil next left right speed loops
    simp [refused]
  | cons id rest =>
    obtain ⟨answered, launched⟩ := Clip.launched_of_free sound next left right speed loops
    have answered : played.1 = .ok (some id) := answered
    exact ⟨by simp [answered], .inr ⟨id, answered, launched⟩⟩

/-- Asked to play too loud on the left, with no number on the right, too fast and with a negative
number of loops, the voice of the clip `blip` plays. When it is in use there is none left to
play. -/
theorem all_or_nothing_blip :
    (∃ id, blip.Launched id 2.0 (0.0 / 0.0) 10.0 (-7)
      ((Clip.play 2.0 (0.0 / 0.0) 10.0 (-7)).on blip).2) ∧
    (Clip.play 1.0 1.0 1.0 0).on blipStopped = (.ok none, blipStopped) := by
  have made : Pool.make 1 = .ok blip.pool := rfl
  obtain ⟨buffer, stopped⟩ := run_blip
  constructor
  · obtain ⟨exhausted, full | ⟨id, -, launched⟩⟩ := Run.all_or_nothing made
      (.refl : Run (resting blip #[]) _) blip.listeners 2.0 (0.0 / 0.0) 10.0 (-7)
    · have busy := exhausted.mp (congrArg Prod.fst full)
      exact absurd (busy {} (Array.mem_of_getElem? (i := 0) rfl)) (by decide)
    · exact ⟨id, launched⟩
  · obtain ⟨exhausted, full | ⟨id, answered, -⟩⟩ :=
      stopped.all_or_nothing made blipStopped.listeners 1.0 1.0 1.0 0
    · exact full
    · have busy : ∀ v ∈ blipStopped.pool.voices, v.active := by decide
      rw [exhausted.mpr busy] at answered
      cases answered

end Desk

end SamplePlayer
