import SamplePlayer.Proofs.Lifecycle
import SamplePlayer.Proofs.Mixing

/-!
# Every voice for itself

A buffer is the sum of what the voices contribute to it, frame by frame, in the order of their
numbers. What a voice contributes, what events it raises and what becomes of it can be told from the
voice, the sound and the lengths of ramps: the mix of a clip with any other voices around it is the
same for this voice.

## Main definitions

* `Voice.contribution?`: what a voice adds to one frame, told from the voice alone.
* `Frame.sum`: frames added up.

## Main results

* `Voice.getElem?_share`: the share of a voice is made of its contributions.
* `Mixer.samples_mix`: a buffer is the sum of the contributions.
* `Desk.Run.independence`: no voice hears of another.
-/

namespace SamplePlayer

/-- Frames added up from silence, the first one first. -/
def Frame.sum (frames : List Frame) : Frame := frames.foldl (· + ·) .silence

namespace Pass

/-- The frame that a pass takes next: the sound at its cursor, scaled by the gains that the ramps
reach with this step. -/
def sound (m : Mixer) (p : Pass) (v : Voice) : Frame :=
  ((m.bank.read? p.cursor).getD .silence).scale
    (p.left.tick v.left.target m.steps.volume).current
    (p.right.tick v.right.target m.steps.volume).current

theorem next_frame (m : Mixer) (p : Pass) (v : Voice) : (p.next m v).1 = p.sound m v := by
  simp only [next, sound]
  split
  · cases v.takeLoop with
    | mk again w => cases again <;> rfl
  · rfl

end Pass

namespace Voice

/-- What a voice adds to frame `i` of a buffer: the sound where it stands after `i` frames, if it
plays and has not come to its end by then. -/
def contribution? (m : Mixer) (i : Nat) (v : Voice) : Option Frame :=
  let (_, p, w) := (Pass.start v).run m i #[] v
  if (v.active && v.playing) && !p.finished then some (p.sound m w) else none

variable {m : Mixer} {id : VoiceId} {v : Voice}

theorem contribution?_of_still (still : (v.active && v.playing) = false) (i : Nat) :
    v.contribution? m i = none := by
  simp [contribution?, still]

/-- The share of a voice is made of its contributions. -/
theorem getElem?_share (m : Mixer) (id : VoiceId) (v : Voice) {n i : Nat} (inside : i < n) :
    (v.share m id n).strip[i]? = v.contribution? m i := by
  cases playing : v.active && v.playing
  · rw [share_of_still playing, contribution?_of_still playing]
    rfl
  obtain ⟨k, rfl⟩ : ∃ k, n = i + (k + 1) := ⟨n - i - 1, by omega⟩
  obtain ⟨strip, p, w, ran⟩ : ∃ strip p w, (Pass.start v).run m i #[] v = (strip, p, w) :=
    ⟨_, _, _, rfl⟩
  have size := Pass.size_run m i #[] (.start v) v
  rw [ran, show (#[] : Array Frame).size = 0 from rfl, Nat.zero_add] at size
  rw [share_of_playing playing rfl]
  simp only [contribution?, ran, playing, Bool.true_and]
  rw [Pass.run_add, ran]
  dsimp only
  -- The first `i` frames are taken, unless the sound ended on the way.
  cases finished : p.finished
  · have full : strip.size = i := by simpa [finished] using size.2
    rw [Pass.run_succ finished, Pass.run_strip, Pass.next_frame]
    rw [← full, Array.getElem?_append_left (by simp), Array.getElem?_push_size]
    rfl
  · rw [Pass.run_of_finished finished]
    simpa using size.1

end Voice

namespace Mixer

variable {m : Mixer} {pool : Pool} {id : VoiceId}

/-- A layer adds its frame, if it has one there. -/
theorem getElem?_overlay (buffer strip : Array Frame) (i : Nat) :
    (overlay buffer strip)[i]? = buffer[i]?.map fun sum => (strip[i]?.map (sum + ·)).getD sum := by
  simp only [overlay, Array.getElem?_mapIdx]
  cases strip[i]? <;> rfl

/-- The layers of a buffer, at one frame of it. -/
theorem getElem?_layers (strips : VoiceId → Array Frame) (ids : List VoiceId)
    (buffer : Array Frame) (i : Nat) : (layers strips ids buffer)[i]? =
      buffer[i]?.map fun start =>
        (ids.filterMap fun id => (strips id)[i]?).foldl (· + ·) start := by
  induction ids generalizing buffer with
  | nil => simp [layers]
  | cons id ids ih =>
    change (layers strips ids (overlay buffer (strips id)))[i]? = _
    rw [ih, getElem?_overlay, Option.map_map]
    cases here : (strips id)[i]? <;> simp [here, Function.comp_def]

/-- Whatever is asked of all voices by their numbers is asked of them in order. -/
theorem filterMap_range {β : Type} (pool : Pool) (f : Voice → Option β) :
    ((List.range pool.polyphony).filterMap fun id => pool.voices[id]?.bind f) =
      pool.voices.toList.filterMap f := by
  calc
    _ = ((List.range pool.polyphony).map (pool.voices[·]?)).filterMap (·.bind f) := by
      rw [List.filterMap_map]
      rfl
    _ = pool.voices.toList.filterMap f := by
      rw [Pool.map_getElem?_range, List.filterMap_map]
      rfl

/-- A sample that is left over at the end of a buffer is silent and changes nothing else. -/
theorem mix_odd (m : Mixer) (count : Nat) (pool : Pool) :
    (m.mix count pool).1 = (m.mix (2 * (count / 2)) pool).1 ++ List.replicate (count % 2) .zero ∧
      (m.mix count pool).2 = (m.mix (2 * (count / 2)) pool).2 := by
  simp [mix, spread]

/-- A buffer is the sum of what the voices contribute to its frames, in the order of their
numbers. -/
theorem samples_mix (m : Mixer) (sound : pool.Sound) (count : Nat) :
    (m.mix count pool).1 = interleave ((List.range (count / 2)).map fun i =>
      .sum (pool.voices.toList.filterMap (Voice.contribution? m i))) ++
        List.replicate (count % 2) .zero := by
  obtain ⟨samples, -⟩ := m.mix_spec sound (count / 2)
  rw [(m.mix_odd count pool).1, samples]
  congr 2
  refine List.ext_getElem? fun i => ?_
  rw [Array.getElem?_toList, getElem?_layers, Array.getElem?_replicate, List.getElem?_map]
  by_cases inside : i < count / 2
  · rw [if_pos inside, List.getElem?_range inside]
    -- Voice by voice, the layer has at this frame what the voice contributes to it.
    have parts : ∀ id, (pool.share m (count / 2) id).strip[i]? =
        pool.voices[id]?.bind (Voice.contribution? m i) := by
      intro id
      cases voice : pool.voices[id]? with
      | none =>
        rw [Pool.share_of_none voice]
        rfl
      | some v =>
        rw [Pool.share_of_voice voice]
        exact v.getElem?_share m id inside
    simp only [parts, filterMap_range]
    rfl
  · rw [if_neg inside, List.getElem?_eq_none (by simpa using inside)]
    rfl

/-- What a mix makes of a voice, and the events about it. -/
theorem mix_voice (m : Mixer) (sound : pool.Sound) (count : Nat) (id : VoiceId) :
    (m.mix count pool).2.2.voices[id]? =
        pool.voices[id]?.map (fun v => (v.share m id (count / 2)).voice) ∧
      Event.only id (m.mix count pool).2.1 =
        (pool.voices[id]?.map fun v => (v.share m id (count / 2)).events).getD [] := by
  obtain ⟨-, events, -, voices⟩ := m.mix_spec sound (count / 2)
  have own : ∀ j, ∀ e ∈ (pool.share m (count / 2) j).events, e.voice? = some j :=
    fun j => Voice.voice?_share m j _ _
  rw [(m.mix_odd count pool).2, voices, events, Event.only_flatMap List.nodup_range own]
  cases voice : pool.voices[id]? with
  | none =>
    rw [Pool.share_of_none voice]
    exact ⟨rfl, ite_self _⟩
  | some v =>
    have inside : id ∈ List.range pool.polyphony :=
      List.mem_range.mpr (Array.getElem?_eq_some_iff.mp voice).1
    rw [Pool.share_of_voice voice, if_pos inside]
    exact ⟨rfl, rfl⟩

end Mixer

namespace Desk

variable {c : Clip} {d : Desk} {n : Nat} {old : Array Frame}

/-- However a clip got where it is, with calls and mixing, and however long its ramps are from now
on: each frame of a buffer is the sum, from silence, of what the voices contribute to it, in the
order of their numbers, and a sample that makes no frame is silent. Whatever the other voices of a
clip are, the mix makes the same of a voice and raises the same events about it. A voice that does
not play stays as it is, and there are no events about it. -/
theorem Run.independence (made : Pool.make n = .ok c.pool) (run : Run (resting c old) d)
    (steps : RampSteps) (count : Nat) :
    let clip := d.clip.withRampSteps steps
    let done := clip.mix count
    done.1 = interleave ((List.range (count / 2)).map fun i =>
      .sum (clip.pool.voices.toList.filterMap (Voice.contribution? clip.mixer i))) ++
        List.replicate (count % 2) .zero ∧
    ∀ id v, clip.pool.voices[id]? = some v →
      (∀ other : Clip, other.pool.Sound → other.mixer = clip.mixer →
        other.pool.voices[id]? = some v →
          (other.mix count).2.2.pool.voices[id]? = done.2.2.pool.voices[id]? ∧
            Event.only id (other.mix count).2.1 = Event.only id done.2.1) ∧
      (¬ (v.active ∧ v.playing) →
        done.2.2.pool.voices[id]? = some v ∧ Event.only id done.2.1 = [] ∧
          ∀ i, v.contribution? clip.mixer i = none) := by
  intro clip done
  have sound : clip.pool.Sound := ((sound_resting (Pool.sound_of_make made).1 old).run run).pool
  refine ⟨clip.mixer.samples_mix sound count, fun id v voice => ⟨?_, fun still => ?_⟩⟩
  · intro other sound' mixer voice'
    obtain ⟨after, events⟩ := clip.mixer.mix_voice sound count id
    obtain ⟨after', events'⟩ := other.mixer.mix_voice sound' count id
    rw [voice] at after events
    rw [voice', mixer] at after' events'
    simp only [done, Clip.mix, mixer, after, after', events, events', and_self]
  · have still : (v.active && v.playing) = false := by simpa using still
    obtain ⟨after, events⟩ := clip.mixer.mix_voice sound count id
    rw [voice, Option.map_some, Voice.share_of_still still] at after events
    exact ⟨after, events, Voice.contribution?_of_still still⟩

/-- The clip `blip` while its voice plays. -/
def solo : Clip := (Request.play 1.0 1.0 1.0 3).after blip

/-- The same with a second voice, which plays as well, but another way. -/
def duet : Clip := (Request.play 0.5 0.5 2.0 0).after
  ((Request.play 1.0 1.0 1.0 3).after { blip with pool := ⟨#[{}, {}], [0, 1]⟩ })

theorem independence_duet :
    ((duet.withRampSteps default).mix 5).2.2.pool.voices[0]? =
        ((solo.withRampSteps default).mix 5).2.2.pool.voices[0]? ∧
      Event.only 0 ((duet.withRampSteps default).mix 5).2.1 =
        Event.only 0 ((solo.withRampSteps default).mix 5).2.1 ∧
      Event.occurrences 0 ((duet.withRampSteps default).mix 5).2.1 = [.loop, .loop] ∧
      Event.occurrences 1 ((duet.withRampSteps default).mix 5).2.1 = [.stop, .release] := by
  have run : Run (resting blip #[]) (resting solo #[]) := .single (.request _ _)
  have started : Run (resting { blip with pool := ⟨#[{}, {}], [0, 1]⟩ } #[]) (resting duet #[]) :=
    .tail (.single (.request _ (.play 1.0 1.0 1.0 3))) (.request _ (.play 0.5 0.5 2.0 0))
  have made : Pool.make 2 = .ok ⟨#[{}, {}], [0, 1]⟩ := rfl
  have sound : duet.pool.Sound :=
    ((sound_resting (Pool.sound_of_make made).1 #[]).run started).pool
  obtain ⟨-, each⟩ := run.independence (n := 1) rfl default 5
  obtain ⟨v, voice⟩ : ∃ v, solo.pool.voices[0]? = some v :=
    Option.isSome_iff_exists.mp (by decide)
  have same : duet.pool.voices[0]? = some v := voice
  obtain ⟨after, events⟩ := (each 0 v voice).1 (duet.withRampSteps default) sound rfl same
  simp only [resting] at after events
  exact ⟨after, events, by decide, by decide⟩

end Desk

end SamplePlayer
