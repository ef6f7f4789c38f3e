import SamplePlayer.Proofs.Desk.Buffers

/-!
# The life of a voice

From a clip whose voices are all free, any run of requests and mixing keeps the queue of free voices
in agreement with the voices, and what a listener hears of a voice is exactly what became of it.

## Main results

* `Desk.Run.trace`: the events about a voice are a path of its conditions that ends at its flags.
* `Desk.Run.accounting`: the queue of free voices holds what is not in use, and nothing gets lost.
-/

namespace SamplePlayer

namespace Desk

variable {c : Clip} {d : Desk} {n : Nat} {w : ListenerId} {buffer : Array Frame}

/-- Take a clip that has just been made and a listener that hears everything from the beginning.
After any run of requests and mixing, the events about a voice, those the listener heard and those
still in the queue, lead from the free condition to the one that the flags of the voice tell. -/
theorem Run.trace (made : Pool.make n = .ok c.pool) (recording : c.listeners.Recording w)
    (silent : c.listeners.record w = []) (run : Run (resting c buffer) d) (id : VoiceId) :
    ∃ q, Condition.free.run? (Event.occurrences id (d.clip.listeners.record w)) = some q ∧
      ∀ v, d.clip.pool.voices[id]? = some v → (v.active, v.playing) = q.flags := by
  obtain ⟨sound, -⟩ := Pool.sound_of_make made
  have start := sound_resting sound buffer
  obtain ⟨events, reports⟩ := run.reports start
  -- The record holds the events of the run and nothing else.
  have all : d.clip.listeners.record w = events := by
    rw [(reports.heard w recording).2]
    change c.listeners.record w ++ events = events
    rw [silent, List.nil_append]
  have path := reports.changes.run?_condition sound id
  rw [Pool.condition_of_make made id] at path
  refine ⟨d.clip.pool.condition id, by rw [all, path], fun v voice => ?_⟩
  rw [Pool.condition_of_voice voice]
  exact ((start.run run).pool.settled voice).flags_condition.symm

/-- A clip of one voice that plays a sound of one frame, with a listener. -/
def blip : Clip where
  name := "blip"
  mixer := Mixer.tick
  pool := ⟨#[{}], [0]⟩
  listeners := ((default : Listeners).add {}).2
  format := default
  bufferFrames := 2

/-- The clip `blip` after a call that plays it and the mix of two frames that another call
overtakes after the first of them, one that stops the voice. -/
def blipStopped : Clip :=
  let done := ((Request.play 1.0 1.0 1.0 3).after blip).mixDuring 4
    (fun c => ((), (Request.stop 0).after c)) (.amid 0 1)
  done.2.2.2.changed done.2.2.2.pool done.2.2.1

theorem run_blip : ∃ buffer, Run (resting blip #[]) (resting blipStopped buffer) := by
  obtain ⟨sound, -⟩ := Pool.sound_of_make (show Pool.make 1 = .ok blip.pool from rfl)
  have played : Run (resting blip #[]) (resting ((Request.play 1.0 1.0 1.0 3).after blip) #[]) :=
    .single (.request _ _)
  obtain ⟨buffer, -, stopped⟩ :=
    run_mixDuring ((sound_resting sound #[]).run played).pool #[] 4 (.stop 0) (j := .amid 0 1) rfl
  exact ⟨buffer, played.trans stopped⟩

/-- The clip `blip` after a call that plays it. -/
def blipPlaying : Clip := (Request.play 1.0 1.0 1.0 3).after blip

/-- The voice of `blipPlaying`. -/
def blipVoice : Voice := blipPlaying.pool.voices[0]?.getD {}

/-- The mixer is about to take the first of `frames` frames of `blipPlaying`. -/
def blipPassing (frames : Nat) : Desk :=
  { mixing blipPlaying ⟨blipPlaying.pool, Array.replicate frames .silence, []⟩ [] with
    stage := .passing 0 (.start blipVoice) #[] }

theorem run_blipPassing (frames : Nat) : Run (resting blip #[]) (blipPassing frames) :=
  (Relation.ReflTransGen.single (Step.request (resting blip #[]) (.play 1.0 1.0 1.0 3))).trans
    ((run_begin blipPlaying #[] frames).trans (run_enter (v := blipVoice) rfl rfl rfl []))

theorem trace_blip :
    Event.occurrences 0 (blipStopped.listeners.record 0) = [.obtain, .start, .stop] ∧
    ∃ q, Condition.free.run? (Event.occurrences 0 (blipStopped.listeners.record 0)) = some q ∧
      ∀ v, blipStopped.pool.voices[0]? = some v → (v.active, v.playing) = q.flags := by
  obtain ⟨buffer, run⟩ := run_blip
  have recording : blip.listeners.Recording 0 := ⟨by decide, _, rfl, rfl, rfl, rfl⟩
  exact ⟨by decide +kernel, run.trace (n := 1) (w := 0) rfl recording rfl 0⟩

/-- After any run of requests and mixing from a clip that has just been made, the queue of free
voices holds every voice that is not active, once, and nothing else. The free and the active voices
add up to the polyphony, so a voice can be obtained unless all of them are active. The queue has a
place for every voice that goes out of use, by a release or at the end of a pass. -/
theorem Run.accounting (made : Pool.make n = .ok c.pool) (run : Run (resting c buffer) d) :
    let pool := d.clip.pool
    pool.free.Nodup ∧
      (∀ id, id ∈ pool.free ↔ ∃ v, pool.voices[id]? = some v ∧ v.active = false) ∧
      pool.available + pool.activeCount = n ∧
      ((Clip.obtain.on d.clip).1 = .ok none ↔ pool.activeCount = n) ∧
      ∀ id v, pool.voices[id]? = some v → v.active → pool.full = false ∧
        (pool.release id).2.free = pool.free ++ [id] ∧
        ∀ p : Pass, v.epoch = p.snapshot → (p.writeBack d.clip.mixer id v).2.freed →
          (pool.finish d.clip.mixer id p).2.free = pool.free ++ [id] := by
  intro pool
  obtain ⟨sound₀, size⟩ := Pool.sound_of_make made
  have start := sound_resting sound₀ buffer
  have sound : pool.Sound := (start.run run).pool
  have polyphony : pool.polyphony = n := by
    obtain ⟨events, reports⟩ := run.reports start
    exact reports.changes.polyphony_eq.trans size
  refine ⟨sound.free_nodup, sound.mem_free_iff, ?_, ?_, fun id v voice active => ⟨?_, ?_, ?_⟩⟩
  · rw [sound.available_add_activeCount, polyphony]
  · rw [← polyphony, ← sound.free_eq_nil_iff]
    exact Clip.obtain_eq_none_iff sound
  · exact sound.full_eq_false voice active
  -- Both ways out of use put the number behind the others.
  · rw [Pool.release_of_active voice active]
    exact sound.free_giveBack_set voice active _
  · intro p current freed
    rw [Pool.finish_of_current voice (sound.settled voice).at_rest current, if_pos freed]
    exact sound.free_giveBack_set voice active _

theorem accounting_blip : ∃ d, Run (resting blip #[]) d ∧ d.clip.pool.activeCount = 1 ∧
    (Clip.obtain.on d.clip).1 = .ok none := by
  have run : Run (resting blip #[]) _ := .single (.request _ .obtain)
  obtain ⟨-, -, -, exhausted, -⟩ := run.accounting (n := 1) rfl
  have busy : (Request.obtain.after blip).pool.activeCount = 1 := by decide
  exact ⟨_, run, busy, exhausted.mpr busy⟩

end Desk

end SamplePlayer
