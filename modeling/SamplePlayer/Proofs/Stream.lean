import SamplePlayer.Playback
import SamplePlayer.Proofs.Lifecycle
import SamplePlayer.Proofs.Mixing

/-!
# The stream that an output gets

While nobody calls, the worker of a clip writes one long mix to its output, cut into buffers. Where
it is cut depends on the length of the buffers and on the output; what is written does not.

## Main definitions

* `Playback.session`: the buffers that an output accepts from an opening to the close.

## Main results

* `Playback.oneMix_session`: they are a single mix, cut into buffers.
* `Desk.Run.buffering`: the length of buffers does not change the sound.
-/

namespace SamplePlayer

namespace Mixer

variable {m : Mixer} {pool : Pool} {a b : Nat}

theorem size_layers (strips : VoiceId → Array Frame) (ids : List VoiceId) (buffer : Array Frame) :
    (layers strips ids buffer).size = buffer.size := by
  induction ids generalizing buffer with
  | nil => rfl
  | cons id ids ih => exact (ih _).trans (size_overlay ..)

theorem samples_mix_zero (m : Mixer) (sound : pool.Sound) : (m.mix (2 * 0) pool).1 = [] := by
  obtain ⟨samples, -⟩ := m.mix_spec sound 0
  have empty := size_layers (fun id => (pool.share m 0 id).strip) (List.range pool.polyphony)
    (Array.replicate 0 .silence)
  rw [Array.size_replicate] at empty
  rw [samples, Array.eq_empty_of_size_eq_zero empty]
  rfl

/-- A longer mix goes on where a shorter one ends. -/
theorem samples_mix_prefix (m : Mixer) (sound : pool.Sound) (le : a ≤ b) :
    (m.mix (2 * a) pool).1 <+: (m.mix (2 * b) pool).1 := by
  obtain ⟨n, rfl⟩ := Nat.exists_eq_add_of_le le
  obtain ⟨samples, -⟩ := m.mix_add sound a n
  rw [samples]
  exact List.prefix_append ..

end Mixer

theorem OutputFormat.encode_append (format : OutputFormat) (xs ys : List Sample) :
    format.encode (xs ++ ys) = format.encode xs ++ format.encode ys :=
  List.flatMap_append

theorem OutputFormat.encode_prefix (format : OutputFormat) {xs ys : List Sample}
    (first : xs <+: ys) : format.encode xs <+: format.encode ys := by
  obtain ⟨rest, rfl⟩ := first
  rw [encode_append]
  exact List.prefix_append ..

namespace Playback

variable {σ ω : Type} {io : OutputInterface σ ω} {p : Playback σ ω}

/-- The buffers that an output accepts from the opening of a clip, over a number of writes, to the
close. -/
def session (io : OutputInterface σ ω) (p : Playback σ ω) (output : σ) (writes : Nat) :
    List (List UInt8) :=
  match p.opening io output with
  | (.done, p) => (p.pumpMany io writes).1 ++ ((p.pumpMany io writes).2.close io).1.toList
  | _ => []

@[simp] theorem clip_onOutput (operation : σ → ω → Reply × σ × ω) :
    (p.onOutput operation).2.clip = p.clip := by
  unfold onOutput
  split <;> rfl

/-- A write goes through and leaves the clip alone, or it was the last one. -/
theorem writeBuffer_cases (io : OutputInterface σ ω) (p : Playback σ ω) (buffer : List UInt8) :
    (∃ q, p.writeBuffer io buffer = (true, q) ∧ q.clip = p.clip) ∨
      ∃ q, p.writeBuffer io buffer = (false, q) ∧ (q.close io).1 = none := by
  have same : (p.onOutput (io.write buffer)).2.clip = p.clip := clip_onOutput _
  unfold writeBuffer
  split
  · rename_i q wrote
    rw [wrote] at same
    exact .inl ⟨q, rfl, same⟩
  · exact .inr ⟨_, rfl, rfl⟩
  · exact .inr ⟨_, rfl, rfl⟩

variable {buffer : List UInt8}

/-- The worker goes on to the next buffer, or the session is over. -/
theorem pump_cases (io : OutputInterface σ ω) (waiting : p.worker = some (.writing buffer)) :
    (∃ q : Playback σ ω, p.pump io = (some buffer, q.mixNext) ∧ q.clip = p.clip) ∨
      ∃ q : Playback σ ω, p.pump io = (none, q) ∧ (q.close io).1 = none := by
  obtain ⟨q, wrote, clip⟩ | ⟨q, wrote, ended⟩ := p.writeBuffer_cases io buffer
  · exact .inl ⟨q, by simp [pump, waiting, wrote], clip⟩
  · exact .inr ⟨q, by simp [pump, waiting, wrote], ended⟩

/-- At a close the buffer that waits goes out, unless the output fails. -/
theorem close_cases (io : OutputInterface σ ω) (waiting : p.worker = some (.writing buffer)) :
    (p.close io).1 = some buffer ∨ (p.close io).1 = none := by
  obtain ⟨q, wrote, -⟩ | ⟨q, wrote, -⟩ := p.writeBuffer_cases io buffer
  · exact .inl (by simp [close, waiting, wrote])
  · exact .inr (by simp [close, waiting, wrote])

/-- The worker waits with the buffer that was mixed last. -/
theorem worker_mixNext (p : Playback σ ω) : p.mixNext.worker = some (.writing
    (p.clip.format.encode (p.clip.mixer.mix (2 * p.clip.bufferFrames) p.clip.pool).1)) := by
  rw [Nat.mul_comm]
  rfl

theorem pool_mixNext (p : Playback σ ω) : p.mixNext.clip.pool =
    (p.clip.mixer.mix (2 * p.clip.bufferFrames) p.clip.pool).2.2 := by
  rw [Nat.mul_comm]
  rfl

/-- Buffers of a clip that make up one long mix. -/
def OneMix (c : Clip) (buffers : List (List UInt8)) : Prop :=
  buffers.flatten = c.format.encode
    (c.mixer.mix (2 * (buffers.length * c.bufferFrames)) c.pool).1

theorem oneMix_nil {c : Clip} (sound : c.pool.Sound) : OneMix c [] := by
  rw [OneMix, List.length_nil, Nat.zero_mul, c.mixer.samples_mix_zero sound]
  rfl

theorem oneMix_singleton (c : Clip) :
    OneMix c [c.format.encode (c.mixer.mix (2 * c.bufferFrames) c.pool).1] := by
  simp [OneMix]

/-- A buffer goes before those that are mixed from the clip that it leaves. -/
theorem OneMix.cons {c d : Clip} {buffers : List (List UInt8)} (h : OneMix d buffers)
    (sound : c.pool.Sound) (pool : d.pool = (c.mixer.mix (2 * c.bufferFrames) c.pool).2.2)
    (mixer : d.mixer = c.mixer) (format : d.format = c.format)
    (frames : d.bufferFrames = c.bufferFrames) :
    OneMix c (c.format.encode (c.mixer.mix (2 * c.bufferFrames) c.pool).1 :: buffers) := by
  rw [OneMix, pool, mixer, format, frames] at h
  have longer : (buffers.length + 1) * c.bufferFrames =
      c.bufferFrames + buffers.length * c.bufferFrames := by
    rw [Nat.succ_mul, Nat.add_comm]
  obtain ⟨samples, -⟩ := c.mixer.mix_add sound c.bufferFrames (buffers.length * c.bufferFrames)
  rw [OneMix, List.flatten_cons, List.length_cons, longer, samples, OutputFormat.encode_append, h]

/-- What the output accepts once a buffer is mixed is one long mix. -/
theorem oneMix_pumpMany (io : OutputInterface σ ω) (writes : Nat) (sound : p.clip.pool.Sound) :
    OneMix p.clip ((p.mixNext.pumpMany io writes).1 ++
      ((p.mixNext.pumpMany io writes).2.close io).1.toList) := by
  induction writes generalizing p with
  | zero =>
    -- Without another write it is the close that sends the buffer, or loses it.
    obtain closed | closed := close_cases io p.worker_mixNext
    · simpa [pumpMany, closed] using oneMix_singleton p.clip
    · simpa [pumpMany, closed] using oneMix_nil sound
  | succ writes ih =>
    obtain ⟨q, pumped, clip⟩ | ⟨q, pumped, ended⟩ := pump_cases io p.worker_mixNext
    · -- The later buffers are mixed from the clip that this one left.
      have pool : q.clip.pool = (p.clip.mixer.mix (2 * p.clip.bufferFrames) p.clip.pool).2.2 := by
        rw [clip, pool_mixNext]
      obtain ⟨-, -, sound', -⟩ := p.clip.mixer.mix_spec sound p.clip.bufferFrames
      have rest := (ih (pool ▸ sound')).cons sound pool (clip ▸ rfl) (clip ▸ rfl) (clip ▸ rfl)
      simpa [pumpMany, pumped] using rest
    · simpa [pumpMany, pumped, ended] using oneMix_nil sound

/-- A session writes one long mix. -/
theorem oneMix_session (io : OutputInterface σ ω) (p : Playback σ ω) (sound : p.clip.pool.Sound)
    (output : σ) (writes : Nat) : OneMix p.clip (p.session io output writes) := by
  unfold session opening
  split
  · rename_i q opened
    split at opened
    · cases opened
    · simp only at opened
      split at opened
      · rename_i output surroundings taken
        obtain rfl := (Prod.mk.inj opened).2
        exact oneMix_pumpMany io writes sound
      · cases opened
      · cases opened
  · exact oneMix_nil sound

/-- Two sessions of the same clip write the same bytes, up to the point where one of them ends,
however long their buffers are. -/
theorem session_prefix {σ' ω' : Type} {c : Clip} (sound : c.pool.Sound) (frames frames' : Nat)
    (io : OutputInterface σ ω) (io' : OutputInterface σ' ω') (output : σ) (output' : σ')
    (s : ω) (s' : ω') (writes writes' : Nat) :
    let buffers := session io { clip := c.withBufferFrames frames, surroundings := s } output writes
    let buffers' :=
      session io' { clip := c.withBufferFrames frames', surroundings := s' } output' writes'
    buffers.flatten <+: buffers'.flatten ∨ buffers'.flatten <+: buffers.flatten := by
  intro buffers buffers'
  have mix : OneMix (c.withBufferFrames frames) buffers := oneMix_session io _ sound output writes
  have mix' : OneMix (c.withBufferFrames frames') buffers' :=
    oneMix_session io' _ sound output' writes'
  have longer {a b : Nat} (le : a ≤ b) : c.format.encode (c.mixer.mix (2 * a) c.pool).1 <+:
      c.format.encode (c.mixer.mix (2 * b) c.pool).1 :=
    c.format.encode_prefix (c.mixer.samples_mix_prefix sound le)
  rw [mix, mix']
  -- Both are the beginning of one endless mix.
  obtain le | le := Nat.le_total (buffers.length * (c.withBufferFrames frames).bufferFrames)
    (buffers'.length * (c.withBufferFrames frames').bufferFrames)
  · exact .inl (longer le)
  · exact .inr (longer le)

end Playback

namespace Desk

/-- However a clip got where it is, with calls and mixing, and however long its ramps are from now
on: mixing `a` and then `b` frames is mixing `a + b` frames. The samples are the same, bit for bit,
every voice ends up in the same state and raises the same events, and the same voices are free. So,
as long as nobody calls, outputs get the same bytes from buffers of any length, up to the end of the
shorter session. -/
theorem Run.buffering {c : Clip} {d : Desk} {n : Nat} {old : Array Frame}
    (made : Pool.make n = .ok c.pool) (run : Run (resting c old) d) (steps : RampSteps)
    (a b : Nat) :
    let clip := d.clip.withRampSteps steps
    let first := clip.mix (2 * a)
    let second := first.2.2.mix (2 * b)
    let whole := clip.mix (2 * (a + b))
    (whole.1 = first.1 ++ second.1 ∧ whole.2.2.pool.voices = second.2.2.pool.voices ∧
      whole.2.2.pool.free.Perm second.2.2.pool.free ∧
      ∀ id, Event.only id whole.2.1 = Event.only id (first.2.1 ++ second.2.1)) ∧
    ∀ {σ ω σ' ω' : Type} (io : OutputInterface σ ω) (io' : OutputInterface σ' ω') (output : σ)
      (output' : σ') (s : ω) (s' : ω') (frames frames' writes writes' : Nat),
      let buffers := Playback.session io
        { clip := clip.withBufferFrames frames, surroundings := s } output writes
      let buffers' := Playback.session io'
        { clip := clip.withBufferFrames frames', surroundings := s' } output' writes'
      buffers.flatten <+: buffers'.flatten ∨ buffers'.flatten <+: buffers.flatten := by
  intro clip first second whole
  have sound : clip.pool.Sound := ((sound_resting (Pool.sound_of_make made).1 old).run run).pool
  refine ⟨clip.mixer.mix_add sound a b, ?_⟩
  intro σ ω σ' ω' io io' output output' s s' frames frames' writes writes'
  exact Playback.session_prefix sound frames frames' io io' output output' s s' writes writes'

theorem buffering_blip :
    let clip := ((Request.play 1.0 1.0 1.0 3).after blip).withRampSteps default
    (clip.mix 6).1 = (clip.mix 2).1 ++ ((clip.mix 2).2.2.mix 4).1 ∧
      Event.occurrences 0 (clip.mix 6).2.1 = [.loop, .loop, .loop] := by
  have run : Run (resting blip #[]) _ := .single (.request _ (.play 1.0 1.0 1.0 3))
  obtain ⟨⟨samples, -⟩, -⟩ := run.buffering (n := 1) rfl default 1 2
  exact ⟨samples, by decide⟩

end Desk

end SamplePlayer
