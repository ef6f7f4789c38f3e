import SamplePlayer.Proofs.Desk

/-!
# Whole buffers as runs

Mixing a buffer is a run of single steps: the mixer goes over all voices, takes all frames of the
passes and writes them back. It may be held up between two voices or amid a pass, and goes on from
there with whatever became of the clip meanwhile.

## Main definitions

* `Desk.mixing`, `Desk.amid`, `Desk.holding`: a mix between two voices, amid a pass, and held up.

## Main results

* `Desk.run_pass`: the rest of a pass, with its end.
* `Desk.run_mix`: mixing a buffer with nothing else going on.
* `Desk.run_hold`, `Desk.run_resume`: a mix up to a juncture, and from there to its end.
* `Desk.run_mixDuring`: mixing a buffer while a request comes in.
-/

namespace SamplePlayer

namespace Mixer

/-- The numbers are those of voices, and the strip of the pass under way has a place in the
buffer. -/
structure Held.Fits (h : Held) : Prop where
  waiting : ∀ id ∈ h.waiting, id < h.sofar.pool.polyphony
  passing : ∀ {id p strip}, h.passing = some (id, p, strip) →
    id < h.sofar.pool.polyphony ∧ strip.size ≤ h.sofar.buffer.size

variable {m : Mixer} {h : Held}

theorem Held.Fits.enter (fits : h.Fits) (m : Mixer) (taken : Nat) : (h.enter m taken).Fits := by
  obtain same | ⟨id, rest, v, strip, p, w, waiting, -, -, -, ran, entered⟩ :=
    h.enter_cases m taken
  · rwa [same]
  · have polyphony : (h.sofar.pool.set id w).polyphony = h.sofar.pool.polyphony :=
      Pool.polyphony_set w
    have short := (Pass.size_run m (min taken h.sofar.buffer.size) #[] (.start v) v).1
    rw [ran, show (#[] : Array Frame).size = 0 from rfl, Nat.zero_add] at short
    rw [entered]
    refine ⟨fun j later => ?_, ?_⟩
    · exact polyphony ▸ fits.waiting j (waiting ▸ List.mem_cons_of_mem id later)
    · rintro _ _ _ ⟨⟩
      exact ⟨polyphony ▸ fits.waiting id (waiting ▸ List.mem_cons_self),
        short.trans (Nat.min_le_right ..)⟩

theorem fits_hold (m : Mixer) (pool : Pool) (frames : Nat) (j : Juncture) :
    (m.hold pool frames j).Fits := by
  have before (k : Nat) : Held.Fits ⟨m.mixVoices pool frames ((List.range pool.polyphony).take k),
      none, (List.range pool.polyphony).drop k⟩ := by
    refine ⟨fun id member => ?_, nofun⟩
    rw [mixVoices, polyphony_foldl_mixVoice]
    exact List.mem_range.mp (List.mem_of_mem_drop member)
  cases j with
  | before id => exact before id
  | amid id taken => exact (before id).enter m taken

/-- Changes of the pool leave the voices in their places. -/
theorem Held.Fits.withPool (fits : h.Fits) {pool : Pool}
    (same : pool.polyphony = h.sofar.pool.polyphony) : (h.withPool pool).Fits where
  waiting id member := same ▸ fits.waiting id member
  passing found := same ▸ fits.passing found

end Mixer

namespace Desk

variable {c : Clip}

/-- The mix of a clip after some of its voices, with nothing else going on. -/
def mixing (c : Clip) (sofar : Mixer.Progress) (waiting : List VoiceId) : Desk :=
  ⟨c.changed sofar.pool sofar.events, sofar.buffer, waiting, .between, 0⟩

/-- The desk amid a pass that made `v` of its voice so far. -/
def amid (d : Desk) (id : VoiceId) (strip : Array Frame) (p : Pass) (v : Voice) : Desk :=
  { d with
    clip := { d.clip with pool := d.clip.pool.set id v }
    stage := .passing id p strip }

/-- Requests while nobody mixes. -/
theorem run_requests (c : Clip) (old : Array Frame) (requests : List Request) :
    Run (resting c old) (resting (requests.foldl (fun c r => r.after c) c) old) := by
  induction requests generalizing c with
  | nil => exact .refl
  | cons r requests ih => exact .head (.request _ r) (ih (r.after c))

/-- The frames of a pass one after the other. -/
theorem run_frames {d : Desk} {id : VoiceId} {u : Voice}
    (voice : d.clip.pool.voices[id]? = some u) {n : Nat} (strip : Array Frame) {p : Pass}
    {v : Voice} (fit : strip.size + n ≤ d.buffer.size) :
    Run (d.amid id strip p v) (d.amid id (p.run d.clip.mixer n strip v).1
      (p.run d.clip.mixer n strip v).2.1 (p.run d.clip.mixer n strip v).2.2) := by
  induction n generalizing p strip v with
  | zero => exact .refl
  | succ n ih =>
    cases finished : p.finished
    · -- The voice in the pool is the one that the frames so far made of it.
      rw [Pass.run_succ finished]
      have here : (d.amid id strip p v).clip.pool.voices[id]? = some v := by
        simp [amid, Pool.getElem?_set, voice]
      have step := Step.frame (d := d.amid id strip p v) rfl here
        (show strip.size < d.buffer.size by omega) finished
      have next : (d.amid id strip p v).framed id p strip v =
          d.amid id (strip.push (p.next d.clip.mixer v).1) (p.next d.clip.mixer v).2.1
            (p.next d.clip.mixer v).2.2 := by simp [framed, amid]
      rw [next] at step
      exact .head step (ih _ (by rw [Array.size_push]; omega))
    · rw [Pass.run_of_finished finished]
      exact .refl

/-- The mixer looks at a voice and finds it playing. -/
theorem run_enter {c : Clip} {sofar : Mixer.Progress} {id : VoiceId} {v : Voice}
    (voice : sofar.pool.voices[id]? = some v) (active : v.active) (playing : v.playing)
    (rest : List VoiceId) : Run (mixing c sofar (id :: rest))
      { mixing c sofar rest with stage := .passing id (.start v) #[] } := by
  refine .head (.sight rfl rfl voice) (.head (.notice rfl voice) ?_)
  rw [if_pos active]
  refine .single ?_
  have step := Step.enter
    (d := { mixing c sofar rest with stage := .noticed id v.epoch }) rfl voice
  rwa [if_pos playing] at step

/-- The rest of a pass up to the write-back, with no request on the way. -/
theorem run_pass {d : Desk} {id : VoiceId} {p p' : Pass} {v w : Voice}
    {strip strip' : Array Frame} (passing : d.stage = .passing id p strip)
    (voice : d.clip.pool.voices[id]? = some v) (few : d.turns < 2 ^ 31)
    (fit : strip.size ≤ d.buffer.size)
    (ran : p.run d.clip.mixer (d.buffer.size - strip.size) strip v = (strip', p', w)) :
    Run d { d with
      clip := d.clip.changed ((d.clip.pool.set id w).finish d.clip.mixer id p').2
        ((d.clip.pool.set id w).finish d.clip.mixer id p').1
      buffer := Mixer.overlay d.buffer strip'
      stage := .between
      turns := 0 } := by
  have entered : d.amid id strip p v = d := by
    rw [amid, Pool.set_of_voice voice, ← passing]
  have all : strip.size + (d.buffer.size - strip.size) = d.buffer.size := Nat.add_sub_of_le fit
  have frames := run_frames voice strip (p := p) (v := v) all.le
  have full := (Pass.size_run d.clip.mixer (d.buffer.size - strip.size) strip p v).2
  rw [ran] at frames full
  rw [entered] at frames
  rw [all] at full
  exact .tail frames (.commit (d := d.amid id strip' p' w) rfl full few)

/-- The same amid the mix of a clip. -/
theorem run_endPass {c : Clip} {sofar : Mixer.Progress} {id : VoiceId} {v : Voice}
    (voice : sofar.pool.voices[id]? = some v) {p : Pass} {strip : Array Frame}
    (fit : strip.size ≤ sofar.buffer.size) {turns : Nat} (few : turns < 2 ^ 31)
    (rest : List VoiceId) :
    Run { mixing c sofar rest with stage := .passing id p strip, turns }
      (mixing c (c.mixer.endPass sofar id p strip v) rest) := by
  obtain ⟨strip', p', w, ran⟩ : ∃ strip' p' w,
      p.run c.mixer (sofar.buffer.size - strip.size) strip v = (strip', p', w) := ⟨_, _, _, rfl⟩
  rw [Mixer.endPass_of_run ran, mixing, mixing, ← Clip.changed_changed c sofar.pool]
  exact run_pass rfl voice few fit ran

/-- The pass over one voice. -/
theorem run_mixVoice {c : Clip} {sofar : Mixer.Progress} {id : VoiceId}
    (inside : id < sofar.pool.polyphony) (rest : List VoiceId) :
    Run (mixing c sofar (id :: rest)) (mixing c (c.mixer.mixVoice sofar id) rest) := by
  obtain ⟨v, voice⟩ : ∃ v, sofar.pool.voices[id]? = some v :=
    ⟨_, Array.getElem?_eq_getElem inside⟩
  cases plays : v.active && v.playing
  · -- The mixer looks at the flags one after the other and leaves at the first that is not set.
    have skipped : c.mixer.mixVoice sofar id = sofar := by simp [Mixer.mixVoice, voice, plays]
    rw [skipped]
    refine .head (.sight rfl rfl voice) (.head (.notice rfl voice) ?_)
    cases active : v.active
    · exact .refl
    · have still : v.playing = false := by simpa [active] using plays
      refine .single ?_
      have step := Step.enter
        (d := { mixing c sofar rest with stage := .noticed id v.epoch }) rfl voice
      rwa [if_neg (by simp [still])] at step
  · obtain ⟨active, playing⟩ := Bool.and_eq_true_iff.mp plays
    rw [Mixer.mixVoice_of_voice voice, if_pos plays]
    exact (run_enter voice active playing rest).trans
      (run_endPass voice (Nat.zero_le _) (Nat.two_pow_pos 31) rest)

/-- The passes over some voices, in order. -/
theorem run_mixVoices (sofar : Mixer.Progress) (ids rest : List VoiceId)
    (inside : ∀ id ∈ ids, id < sofar.pool.polyphony) :
    Run (mixing c sofar (ids ++ rest)) (mixing c (ids.foldl c.mixer.mixVoice sofar) rest) := by
  induction ids generalizing sofar with
  | nil => exact .refl
  | cons id ids ih =>
    refine (run_mixVoice (inside id List.mem_cons_self) (ids ++ rest)).trans
      (ih _ fun j later => ?_)
    rw [Mixer.polyphony_mixVoice]
    exact inside j (List.mem_cons_of_mem id later)

/-- The mixer begins with a silent buffer. -/
theorem run_begin (c : Clip) (old : Array Frame) (frames : Nat) : Run (resting c old)
    (mixing c ⟨c.pool, Array.replicate frames .silence, []⟩ (List.range c.polyphony)) := by
  refine .single ?_
  simpa [mixing, resting] using Step.begin (d := resting c old) frames rfl rfl

/-- Mixing a buffer while nothing else goes on is a run. -/
theorem run_mix (c : Clip) (old : Array Frame) (count : Nat) : ∃ buffer,
    (c.mix count).1 = Mixer.spread buffer count ∧
      Run (resting c old)
        (resting (c.changed (c.mix count).2.2.pool (c.mix count).2.1) buffer) := by
  have all := run_mixVoices (c := c) ⟨c.pool, Array.replicate (count / 2) .silence, []⟩
    (List.range c.polyphony) [] fun id member => List.mem_range.mp member
  rw [List.append_nil] at all
  exact ⟨_, rfl, (run_begin c old (count / 2)).trans all⟩

/-! ### Mixes that are held up -/

/-- The mix of a clip, held up. -/
def holding (c : Clip) (h : Mixer.Held) : Desk :=
  { mixing c h.sofar h.waiting with
    stage := h.passing.elim .between fun (id, p, strip) => .passing id p strip }

/-- The first frames of the pass over the next voice, if it plays. -/
theorem run_held_enter {h : Mixer.Held} (idle : h.passing = none) (taken : Nat) :
    Run (holding c h) (holding c (h.enter c.mixer taken)) := by
  obtain same | ⟨id, rest, v, strip, p, w, waiting, voice, active, playing, ran, entered⟩ :=
    h.enter_cases c.mixer taken
  · rw [same]
    exact .refl
  · obtain ⟨sofar, passing, ids⟩ := h
    obtain rfl : passing = none := idle
    obtain rfl : ids = id :: rest := waiting
    let d : Desk := { mixing c sofar rest with stage := .passing id (.start v) #[] }
    have here : d.clip.pool.voices[id]? = some v := voice
    have begun : d.amid id #[] (.start v) v = d := by rw [amid, Pool.set_of_voice here]
    have frames := run_frames here #[] (n := min taken sofar.buffer.size)
      (p := .start v) (v := v) ((Nat.zero_add _).trans_le (Nat.min_le_right ..))
    change (Pass.start v).run d.clip.mixer (min taken sofar.buffer.size) #[] v = _ at ran
    rw [begun, ran] at frames
    rw [entered]
    exact (run_enter voice active playing rest).trans frames

/-- A mix up to a juncture is a run. -/
theorem run_hold (c : Clip) (old : Array Frame) (frames : Nat) (j : Mixer.Juncture) :
    Run (resting c old) (holding c (c.mixer.hold c.pool frames j)) := by
  have inside (k : Nat) : ∀ id ∈ (List.range c.polyphony).take k, id < c.polyphony :=
    fun id member => List.mem_range.mp (List.mem_of_mem_take member)
  -- The voices are split where the mix is held up.
  have split (k : Nat) : Run (resting c old) (holding c ⟨c.mixer.mixVoices c.pool frames
      ((List.range c.polyphony).take k), none, (List.range c.polyphony).drop k⟩) := by
    have begun := run_begin c old frames
    rw [← List.take_append_drop k (List.range c.polyphony)] at begun
    exact begun.trans (run_mixVoices _ _ _ (inside k))
  cases j with
  | before id => exact split id
  | amid id taken => exact (split id).trans (run_held_enter rfl taken)

/-- A mix that was held up goes on to its end in a run. -/
theorem run_resume {h : Mixer.Held} (fits : h.Fits) {turns : Nat} (few : turns < 2 ^ 31)
    (idle : h.passing = none → turns = 0) :
    Run { holding c h with turns } (mixing c (c.mixer.resume h) []) := by
  obtain ⟨sofar, passing, waiting⟩ := h
  have others (sofar' : Mixer.Progress) (same : sofar'.pool.polyphony = sofar.pool.polyphony) :
      Run (mixing c sofar' waiting) (mixing c (waiting.foldl c.mixer.mixVoice sofar') []) := by
    have all := run_mixVoices (c := c) sofar' waiting [] fun id member =>
      same ▸ fits.waiting id member
    rwa [List.append_nil] at all
  cases passing with
  | none =>
    obtain rfl : turns = 0 := idle rfl
    exact others sofar rfl
  | some passing =>
    obtain ⟨id, p, strip⟩ := passing
    obtain ⟨inside, fit⟩ := fits.passing rfl
    obtain ⟨v, voice⟩ : ∃ v, sofar.pool.voices[id]? = some v :=
      ⟨_, Array.getElem?_eq_getElem inside⟩
    simp only [Mixer.resume, voice]
    exact (run_endPass voice fit few waiting).trans (others _ (Mixer.polyphony_endPass ..))

/-- A request comes in while a mix is held up that raised no event so far. -/
theorem requested_holding {h : Mixer.Held} (quiet : h.sofar.events = []) (r : Request) :
    let met : Clip := { c with pool := h.sofar.pool }
    (holding c h).requested r = { holding (r.after met) (h.withPool (r.after met).pool) with
      turns := h.passing.elim 0 fun (id, _) => r.turns met id } := by
  obtain ⟨⟨pool, buffer, events⟩, passing, waiting⟩ := h
  obtain rfl : events = [] := quiet
  have met : c.changed pool [] = { c with pool } := by simp [Clip.changed, Listeners.postAll]
  cases passing <;>
    simp [requested, holding, mixing, Stage.subject?, Mixer.Held.withPool, met, Clip.changed_nil]

/-- Mixing a buffer while a request comes in is a run, if no pass before the juncture raised an
event: the events of a run are queued as they are raised, those of a mix at its end. -/
theorem run_mixDuring (sound : c.pool.Sound) (old : Array Frame) (count : Nat) (r : Request)
    {j : Mixer.Juncture} (quiet : (c.mixer.hold c.pool (count / 2) j).sofar.events = []) :
    let done := c.mixDuring count (fun c => ((), r.after c)) j
    ∃ buffer, done.2.1 = Mixer.spread buffer count ∧ Run (resting c old)
      (resting (done.2.2.2.changed done.2.2.2.pool done.2.2.1) buffer) := by
  have held := run_hold c old (count / 2) j
  have fits := c.mixer.fits_hold c.pool (count / 2) j
  have sound' := ((sound_resting sound old).run held).pool
  simp only [Clip.mixDuring]
  generalize c.mixer.hold c.pool (count / 2) j = h at quiet held fits sound' ⊢
  let met : Clip := { c with pool := h.sofar.pool }
  obtain ⟨events, evolves⟩ := r.evolves (c := met) sound'
  -- The request counts for the pass under way, if there is one.
  have few : (h.passing.elim 0 fun (id, _) => r.turns met id) < 2 ^ 31 := by
    cases h.passing with
    | none => exact Nat.two_pow_pos 31
    | some passing => exact (r.turns_le_two met passing.1).trans_lt (by decide)
  have rest := run_resume (c := r.after met) (fits.withPool evolves.changes.polyphony_eq) few
    fun none => by
      have idle : h.passing = Option.none := none
      rw [idle]
      rfl
  refine ⟨_, rfl, (held.tail (.request _ r)).trans ?_⟩
  rw [requested_holding quiet]
  exact rest

end Desk

end SamplePlayer
