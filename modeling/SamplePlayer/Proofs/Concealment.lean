import SamplePlayer.Proofs.Alike
import SamplePlayer.Proofs.Lifecycle

/-!
# What voices that are not in use hold

A voice that is handed back keeps everything its owner made of it; only the next one who obtains it
clears it. Nobody can see what is kept: of two clips that agree but for the voices that are not in
use, the one cannot be told from the other, by what calls answer, by what is mixed, by the events,
or by what an output is given. So a voice that is used again sounds like one that was never used.

Two such clips stay alike whatever is done to them. The epochs of a voice in use may come to differ,
by a lead that the one clip had when the voice was obtained. A pass compares an epoch only with one
of the same voice that it read before, so the lead makes no difference.

## Main definitions

* `Mixer.Progress.Alike`, `Mixer.Held.Alike`, `Playback.Alike`: what cannot be told apart.
* `Clip.SameInUse`: clips that agree but for the voices that are not in use.
* `Clip.renewed`: a clip whose free voices were never used.

## Main results

* `Deed.alike_perform`: nothing that is done tells alike playbacks apart.
* `Playback.concealment`: what voices hold that are not in use is never seen.
-/

namespace SamplePlayer

/-! ### Passes -/

/-- The same frames some transitions later. -/
theorem Pass.run_later {m : Mixer} {n : Nat} {strip strip' : Array Frame} {p p' : Pass}
    {v w : Voice} (ran : p.run m n strip v = (strip', p', w)) (k : Nat) :
    (p.since (p.snapshot.after k)).run m n strip (v.later k) =
      (strip', p'.since (p'.snapshot.after k), w.later k) := by
  have snapshot := snapshot_run m n strip p v
  have flags := run_flags m n strip p v
  rw [ran] at snapshot flags
  rw [run_since, Voice.later, run_epoch, ran, snapshot, Voice.later, flags.2.2]

/-- The same write-back some transitions later. -/
theorem Voice.commit_later (m : Mixer) (id : VoiceId) (p : Pass) (e : Epoch) (k : Nat)
    (v : Voice) : (v.later k).commit (e.after k) (p.writeBack m id) =
      (v.commit e (p.writeBack m id)).map fun done => (done.1.later k, done.2) := by
  have written := p.writeBack_epoch m id v (v.epoch.after k)
  simp only [commit_writeBack, Epoch.busy_after, later, written, ne_eq, Epoch.after_inj]
  split <;> rfl

namespace Pool.Alike

variable {seen : VoiceId → Prop} {lead : VoiceId → Nat} {id : VoiceId} {p q : Pool} {v : Voice}

/-- The end of a pass over a voice that is the same in both pools. -/
theorem finish (h : Alike seen lead p q) (voice : p.voices[id]? = some v)
    (voice' : q.voices[id]? = some (v.later (lead id))) (m : Mixer) (pass : Pass) :
    (q.finish m id (pass.since (pass.snapshot.after (lead id)))).1 = (p.finish m id pass).1 ∧
      Alike seen lead (p.finish m id pass).2
        (q.finish m id (pass.since (pass.snapshot.after (lead id)))).2 := by
  have same : (pass.since (pass.snapshot.after (lead id))).writeBack m id = pass.writeBack m id :=
    rfl
  simp only [Pool.finish, voice, voice', Pass.snapshot_since, same, Voice.commit_later]
  cases v.commit pass.snapshot (pass.writeBack m id) with
  | none => exact ⟨rfl, h⟩
  | some done =>
    have pools := h.set (Voice.alike_later (seen id) (lead id) done.1)
    refine ⟨rfl, ?_⟩
    simp only [Option.map_some]
    split
    · exact pools.giveBack id
    · exact pools

end Pool.Alike

/-! ### Mixing -/

namespace Mixer

/-- Two mixes that cannot be told apart so far. -/
structure Progress.Alike (seen : VoiceId → Prop) (lead : VoiceId → Nat) (s t : Progress) :
    Prop where
  pool : s.pool.Alike seen lead t.pool
  buffer_eq : t.buffer = s.buffer
  events_eq : t.events = s.events

variable {seen : VoiceId → Prop} {lead : VoiceId → Nat} {p q : Pool} {s t : Progress}

/-- What is left of a pass over a voice that is the same in both mixes. -/
theorem Progress.Alike.endPass {id : VoiceId} {v : Voice} (h : s.Alike seen lead t)
    (voice : s.pool.voices[id]? = some v)
    (voice' : t.pool.voices[id]? = some (v.later (lead id))) (m : Mixer) (pass : Pass)
    (strip : Array Frame) :
    (m.endPass s id pass strip v).Alike seen lead
      (m.endPass t id (pass.since (pass.snapshot.after (lead id))) strip (v.later (lead id))) := by
  obtain ⟨strip', pass', w, ran⟩ : ∃ strip' pass' w,
      pass.run m (s.buffer.size - strip.size) strip v = (strip', pass', w) := ⟨_, _, _, rfl⟩
  have later := Pass.run_later ran (lead id)
  rw [← h.buffer_eq] at later
  have amid := h.pool.set (Voice.alike_later (seen id) (lead id) w)
  have here : (s.pool.set id w).voices[id]? = some w := by simp [Pool.getElem?_set, voice]
  have here' : (t.pool.set id (w.later (lead id))).voices[id]? = some (w.later (lead id)) := by
    simp [Pool.getElem?_set, voice']
  obtain ⟨events, pools⟩ := amid.finish here here' m pass'
  rw [endPass_of_run ran, endPass_of_run later]
  exact ⟨pools, by rw [h.buffer_eq], by rw [h.events_eq, events]⟩

theorem Progress.Alike.mixVoice (h : s.Alike seen lead t) (m : Mixer) (id : VoiceId) :
    (m.mixVoice s id).Alike seen lead (m.mixVoice t id) := by
  cases voice : s.pool.voices[id]? with
  | none =>
    simp only [Mixer.mixVoice, voice, h.pool.missing voice]
    exact h
  | some v =>
    obtain ⟨w, voice', alike⟩ := h.pool.voice voice
    rw [mixVoice_of_voice voice, mixVoice_of_voice voice', alike.active_eq]
    cases active : v.active
    · exact h
    · obtain rfl := alike.eq_later (.inr active)
      rw [Voice.playing_later]
      cases v.playing
      · exact h
      · exact h.endPass voice voice' m (.start v) #[]

theorem Progress.Alike.mixVoices (h : s.Alike seen lead t) (m : Mixer) (ids : List VoiceId) :
    (ids.foldl m.mixVoice s).Alike seen lead (ids.foldl m.mixVoice t) :=
  List.foldl_rel h fun id _ _ _ alike => alike.mixVoice m id

/-- One pass of the mix. -/
theorem alike_mix (h : p.Alike seen lead q) (m : Mixer) (count : Nat) :
    (m.mix count q).1 = (m.mix count p).1 ∧ (m.mix count q).2.1 = (m.mix count p).2.1 ∧
      (m.mix count p).2.2.Alike seen lead (m.mix count q).2.2 := by
  have begun : Progress.Alike seen lead ⟨p, Array.replicate (count / 2) .silence, []⟩
      ⟨q, Array.replicate (count / 2) .silence, []⟩ := ⟨h, rfl, rfl⟩
  have done := begun.mixVoices m (List.range p.polyphony)
  have polyphony : q.polyphony = p.polyphony := h.polyphony_eq
  simp only [mix, Mixer.mixVoices, polyphony]
  exact ⟨congrArg (spread · count) done.buffer_eq, done.events_eq, done.pool⟩

/-- Two mixes that are held up and cannot be told apart. The voice that the mixer is at was seen. -/
structure Held.Alike (seen : VoiceId → Prop) (lead : VoiceId → Nat) (h k : Held) : Prop where
  sofar : h.sofar.Alike (fun id => seen id ∨ h.passing.map Prod.fst = some id) lead k.sofar
  passing_eq : k.passing = h.passing.map fun (id, p, strip) =>
    (id, p.since (p.snapshot.after (lead id)), strip)
  waiting_eq : k.waiting = h.waiting

variable {h k : Held}

/-- A mix that is held up between two voices. -/
theorem Progress.Alike.held (alike : s.Alike seen lead t) (waiting : List VoiceId) :
    Held.Alike seen lead ⟨s, none, waiting⟩ ⟨t, none, waiting⟩ :=
  ⟨⟨alike.pool.mono (by simp), alike.buffer_eq, alike.events_eq⟩, rfl, rfl⟩

/-- The first frames of the pass over the next voice. -/
theorem Progress.Alike.enter (alike : s.Alike seen lead t) (waiting : List VoiceId) (m : Mixer)
    (taken : Nat) : Held.Alike seen lead (Held.enter m taken ⟨s, none, waiting⟩)
      (Held.enter m taken ⟨t, none, waiting⟩) := by
  unfold Held.enter
  cases waiting with
  | nil => exact alike.held []
  | cons id rest =>
    cases voice : s.pool.voices[id]? with
    | none =>
      simp only [voice, alike.pool.missing voice]
      exact alike.held _
    | some v =>
      obtain ⟨w, voice', voices⟩ := alike.pool.voice voice
      simp only [voice, voice', voices.active_eq]
      cases active : v.active
      · exact alike.held _
      · obtain rfl := voices.eq_later (.inr active)
        rw [Voice.playing_later]
        cases v.playing
        · exact alike.held _
        · obtain ⟨strip, pass, w, ran⟩ : ∃ strip pass w, (Pass.start v).run m
              (min taken s.buffer.size) #[] v = (strip, pass, w) := ⟨_, _, _, rfl⟩
          have later : (Pass.start (v.later (lead id))).run m (min taken s.buffer.size) #[]
              (v.later (lead id)) = _ := Pass.run_later ran (lead id)
          have pools := (alike.pool.looked voice active).set (Voice.alike_later _ (lead id) w)
          simp only [Bool.and_self, if_true, alike.buffer_eq, ran, later]
          refine ⟨⟨pools.mono ?_, alike.buffer_eq, alike.events_eq⟩, rfl, rfl⟩
          rintro j (before | here)
          · exact .inl before
          · exact .inr (Option.some.inj here).symm

theorem alike_hold (alike : p.Alike seen lead q) (m : Mixer) (frames : Nat) (j : Juncture) :
    (m.hold p frames j).Alike seen lead (m.hold q frames j) := by
  have begun : Progress.Alike seen lead ⟨p, Array.replicate frames .silence, []⟩
      ⟨q, Array.replicate frames .silence, []⟩ := ⟨alike, rfl, rfl⟩
  have polyphony : q.polyphony = p.polyphony := alike.polyphony_eq
  simp only [hold, polyphony]
  cases j with
  | before id => exact (begun.mixVoices m _).held _
  | amid id taken => exact (begun.mixVoices m _).enter _ m taken

/-- Mixes that are held up go on alike, whatever has become of their pools meanwhile. -/
theorem Held.Alike.resume (alike : h.Alike seen lead k)
    (pools : p.Alike (fun id => seen id ∨ h.passing.map Prod.fst = some id) lead q) (m : Mixer) :
    (m.resume (h.withPool p)).Alike seen lead (m.resume (k.withPool q)) := by
  obtain ⟨s, passing, waiting⟩ := h
  obtain ⟨t, passing', waiting'⟩ := k
  obtain ⟨⟨-, buffer, events⟩, passing_eq, waiting_eq⟩ := alike
  obtain rfl : passing' = _ := passing_eq
  obtain rfl : waiting' = waiting := waiting_eq
  have sofar : Progress.Alike seen lead ⟨p, s.buffer, s.events⟩ ⟨q, t.buffer, t.events⟩ :=
    ⟨pools.mono fun _ => .inl, buffer, events⟩
  cases passing with
  | none => exact sofar.mixVoices m waiting'
  | some passing =>
    obtain ⟨id, pass, strip⟩ := passing
    cases voice : p.voices[id]? with
    | none =>
      simp only [resume, Held.withPool, Option.map_some, voice, pools.missing voice]
      exact sofar.mixVoices m waiting'
    | some v =>
      have voice' := pools.voice_of_active voice (.inl (.inr rfl))
      simp only [resume, Held.withPool, Option.map_some, voice, voice']
      exact (sofar.endPass voice voice' m pass strip).mixVoices m waiting'

end Mixer

namespace Clip

variable {α : Type} {seen : VoiceId → Prop} {lead : VoiceId → Nat} {c d : Clip}

theorem Alike.mix (h : c.Alike seen lead d) (count : Nat) :
    (d.mix count).1 = (c.mix count).1 ∧ (d.mix count).2.1 = (c.mix count).2.1 ∧
      Alike seen lead (c.mix count).2.2 (d.mix count).2.2 := by
  obtain ⟨pool, rfl, pools⟩ := h.exists_pool
  obtain ⟨samples, events, after⟩ := Mixer.alike_mix pools c.mixer count
  exact ⟨samples, events, rfl, after⟩

/-- A mix that a discreet call breaks into. -/
theorem Alike.mixDuring (h : c.Alike seen lead d) {x : Call α} (discreet : x.Discreet)
    (count : Nat) (j : Mixer.Juncture) :
    let done := c.mixDuring count x.on j
    let done' := d.mixDuring count x.on j
    done'.1 = done.1 ∧ done'.2.1 = done.2.1 ∧ done'.2.2.1 = done.2.2.1 ∧
      Alike seen lead done.2.2.2 done'.2.2.2 := by
  obtain ⟨pool, rfl, pools⟩ := h.exists_pool
  have held := Mixer.alike_hold pools c.mixer (count / 2) j
  -- The call may put the voice that the mixer is at out of use, but the pass has seen it.
  obtain ⟨same, after⟩ := discreet (h.withPool held.sofar.pool)
  obtain ⟨pool', eq_pool, pools'⟩ := after.exists_pool
  have last (m : Mixer) := held.resume pools' m
  simp only [Clip.mixDuring, eq_pool]
  exact ⟨same, congrArg (Mixer.spread · count) (last _).buffer_eq, (last _).events_eq, rfl,
    (last _).pool⟩

end Clip

/-! ### Playing -/

namespace Playback

variable {σ ω : Type} {io : OutputInterface σ ω} {lead : VoiceId → Nat} {p q : Playback σ ω}

/-- Two playbacks that cannot be told apart: they are the same, but for their clips, and those are
alike. -/
inductive Alike (lead : VoiceId → Nat) : Playback σ ω → Playback σ ω → Prop
  | mk {c d : Clip} {worker : Option Worker} {output : Option σ} {surroundings : ω}
      (clips : c.Alike (fun _ => False) lead d) :
      Alike lead ⟨c, worker, output, surroundings⟩ ⟨d, worker, output, surroundings⟩

namespace Alike

theorem clip (h : Alike lead p q) : p.clip.Alike (fun _ => False) lead q.clip := by
  obtain ⟨clips⟩ := h
  exact clips

theorem state_eq (h : Alike lead p q) : q.state = p.state := by
  obtain ⟨clips⟩ := h
  rfl

theorem worker_eq (h : Alike lead p q) : q.worker = p.worker := by
  obtain ⟨clips⟩ := h
  rfl

theorem output_eq (h : Alike lead p q) : q.output = p.output := by
  obtain ⟨clips⟩ := h
  rfl

theorem surroundings_eq (h : Alike lead p q) : q.surroundings = p.surroundings := by
  obtain ⟨clips⟩ := h
  rfl

theorem withWorker (h : Alike lead p q) (worker : Option Worker) :
    Alike lead { p with worker } { q with worker } := by
  obtain ⟨clips⟩ := h
  exact ⟨clips⟩

theorem withListeners (h : Alike lead p q) (f : Listeners → Listeners) :
    Alike lead (p.withClip fun c => { c with listeners := f c.listeners })
      (q.withClip fun c => { c with listeners := f c.listeners }) := by
  obtain ⟨clips⟩ := h
  exact ⟨clips.withListeners f⟩

theorem mixNext (h : Alike lead p q) : Alike lead p.mixNext q.mixNext := by
  obtain @⟨c, d, worker, output, surroundings, clips⟩ := h
  obtain ⟨pool, rfl, -⟩ := clips.exists_pool
  obtain ⟨samples, events, after⟩ := clips.mix (c.bufferFrames * OutputFormat.channels)
  simp only [Playback.mixNext, samples, events]
  exact ⟨after.withListeners fun l => (l.postAll _).deliver⟩

theorem onOutput (h : Alike lead p q) (operation : σ → ω → Reply × σ × ω) :
    (q.onOutput operation).1 = (p.onOutput operation).1 ∧
      Alike lead (p.onOutput operation).2 (q.onOutput operation).2 := by
  obtain @⟨c, d, worker, output, surroundings, clips⟩ := h
  cases output with
  | none => exact ⟨rfl, ⟨clips⟩⟩
  | some output => exact ⟨rfl, ⟨clips⟩⟩

theorem finishWorker (h : Alike lead p q) :
    Alike lead (p.finishWorker io) (q.finishWorker io) :=
  (h.onOutput io.close).2.withListeners Listeners.deliver

theorem writeBuffer (h : Alike lead p q) (io : OutputInterface σ ω) (buffer : List UInt8) :
    (q.writeBuffer io buffer).1 = (p.writeBuffer io buffer).1 ∧
      Alike lead (p.writeBuffer io buffer).2 (q.writeBuffer io buffer).2 := by
  obtain ⟨same, after⟩ := h.onOutput (io.write buffer)
  unfold Playback.writeBuffer
  rcases wrote : p.onOutput (io.write buffer) with ⟨answer, p'⟩
  rcases wrote' : q.onOutput (io.write buffer) with ⟨answer', q'⟩
  rw [wrote, wrote'] at same after
  obtain rfl : answer' = answer := same
  cases answer' with
  | done => exact ⟨rfl, after⟩
  | failed e => exact ⟨rfl, after.finishWorker.withWorker _⟩
  | crashed => exact ⟨rfl, (after.onOutput _).2.withWorker _⟩

theorem pump (h : Alike lead p q) :
    (q.pump io).1 = (p.pump io).1 ∧ Alike lead (p.pump io).2 (q.pump io).2 := by
  unfold Playback.pump
  rw [h.worker_eq]
  rcases p.worker with _ | buffer | _ | _
  case some.writing =>
    obtain ⟨same, after⟩ := h.writeBuffer io buffer
    rcases wrote : p.writeBuffer io buffer with ⟨accepted, p'⟩
    rcases wrote' : q.writeBuffer io buffer with ⟨accepted', q'⟩
    rw [wrote, wrote'] at same after
    obtain rfl : accepted' = accepted := same
    simp only [wrote, wrote']
    cases accepted' with
    | true => exact ⟨rfl, after.mixNext⟩
    | false => exact ⟨rfl, after⟩
  all_goals exact ⟨rfl, h⟩

/-- The end of a session. -/
theorem closed (h : Alike lead p q) :
    Alike lead ({ p with worker := none }.emit .closed) ({ q with worker := none }.emit .closed) :=
  (h.withWorker none).withListeners fun l => l.emit .closed

theorem close (h : Alike lead p q) :
    (q.close io).1 = (p.close io).1 ∧ Alike lead (p.close io).2 (q.close io).2 := by
  unfold Playback.close
  rw [h.worker_eq]
  rcases p.worker with _ | buffer | _ | _
  case none => exact ⟨rfl, h⟩
  case some.writing =>
    obtain ⟨same, after⟩ := h.writeBuffer io buffer
    rcases wrote : p.writeBuffer io buffer with ⟨accepted, p'⟩
    rcases wrote' : q.writeBuffer io buffer with ⟨accepted', q'⟩
    rw [wrote, wrote'] at same after
    obtain rfl : accepted' = accepted := same
    simp only [wrote, wrote']
    cases accepted' with
    | true => exact ⟨rfl, (after.onOutput io.drain).2.finishWorker.closed⟩
    | false => exact ⟨rfl, after.closed⟩
  all_goals exact ⟨rfl, h.closed⟩

theorem giveUp (h : Alike lead p q) (output : σ) :
    Alike lead (p.giveUp io output) (q.giveUp io output) := by
  obtain ⟨clips⟩ := h
  exact ⟨clips⟩

theorem opening (h : Alike lead p q) (output : σ) :
    (q.opening io output).1 = (p.opening io output).1 ∧
      Alike lead (p.opening io output).2 (q.opening io output).2 := by
  unfold Playback.opening
  rw [h.state_eq]
  split
  · exact ⟨rfl, h.giveUp output⟩
  · obtain @⟨c, d, worker, previous, surroundings, clips⟩ := h
    obtain ⟨pool, rfl, -⟩ := clips.exists_pool
    rcases opened : io.opening c.format c.bufferFrames output surroundings with
      ⟨answer, output', surroundings'⟩
    simp only [opened]
    cases answer with
    | done =>
      have ready : Alike lead ⟨c, some (.writing []), some output', surroundings'⟩
          ⟨{ c with pool }, some (.writing []), some output', surroundings'⟩ := ⟨clips⟩
      exact ⟨rfl, (ready.withListeners fun l => l.emit .opened).mixNext⟩
    | failed | crashed => exact ⟨rfl, ⟨clips⟩⟩

theorem describe_eq (h : Alike lead p q) : q.describe = p.describe := by
  have count := h.clip.pool.activeCount_eq
  have polyphony := h.clip.polyphony_eq
  obtain @⟨c, d, worker, output, surroundings, clips⟩ := h
  obtain ⟨pool, rfl, -⟩ := clips.exists_pool
  simp only [describe, polyphony, count]
  rfl

/-- No question tells alike playbacks apart. -/
theorem answer_eq (h : Alike lead p q) (question : Query) :
    question.answer q = question.answer p := by
  cases question with
  | description => exact h.describe_eq
  | state => exact h.state_eq
  | activeCount => exact h.clip.pool.activeCount_eq
  | isActive id => exact h.clip.pool.get_active_eq id
  | volume id | speed id | loops id | recycle id | position id | isPlaying id =>
    simp only [Query.answer, Clip.volume, Clip.speed, Clip.loops, Clip.recycle, Clip.position,
      Clip.isPlaying, h.clip.pool.getActive_eq id]
    cases p.clip.pool.getActive id <;> rfl

end Alike

end Playback

/-! ### Everything that can be done -/

section

variable {σ ω : Type} {lead : VoiceId → Nat} {p q : Playback σ ω}

/-- Nothing that is done tells alike playbacks apart. -/
theorem Deed.alike_perform (io : OutputInterface σ ω) (deed : Deed σ) (h : p.Alike lead q) :
    (deed.perform io q).1 = (deed.perform io p).1 ∧
      (deed.perform io p).2.Alike lead (deed.perform io q).2 := by
  cases deed with
  | opening output => exact (h.opening output).imp_left (congrArg Answer.opening)
  | close => exact h.close.imp_left (congrArg Answer.accepted)
  | pump => exact h.pump.imp_left (congrArg Answer.accepted)
  | request r =>
    obtain ⟨clips⟩ := h
    obtain ⟨same, after⟩ := r.discreet_call clips
    exact ⟨congrArg Answer.request same, ⟨after⟩⟩
  | mix count =>
    obtain ⟨clips⟩ := h
    obtain ⟨samples, events, after⟩ := clips.mix count
    exact ⟨congrArg₂ Answer.mixed samples events, ⟨after⟩⟩
  | mixDuring count r j =>
    obtain ⟨clips⟩ := h
    obtain ⟨same, samples, events, after⟩ := clips.mixDuring r.discreet_call count j
    simp only [perform, same, samples, events, true_and]
    exact ⟨after⟩
  | addListener box =>
    obtain ⟨clips⟩ := h
    obtain ⟨pool, rfl, -⟩ := clips.exists_pool
    exact ⟨rfl, ⟨clips.withListeners fun l => (l.add box).2⟩⟩
  | removeListener id =>
    obtain ⟨clips⟩ := h
    obtain ⟨pool, rfl, -⟩ := clips.exists_pool
    exact ⟨rfl, ⟨clips.withListeners fun l => (l.remove id).2⟩⟩
  | query question => exact ⟨congrArg (Answer.query question) (h.answer_eq question), h⟩

/-- Nor do many things one after the other. -/
theorem Playback.Alike.perform (io : OutputInterface σ ω) (h : p.Alike lead q)
    (deeds : List (Deed σ)) :
    (q.perform io deeds).1 = (p.perform io deeds).1 ∧
      (p.perform io deeds).2.Alike lead (q.perform io deeds).2 := by
  induction deeds generalizing p q with
  | nil => exact ⟨rfl, h⟩
  | cons deed rest ih =>
    obtain ⟨same, after⟩ := deed.alike_perform io h
    obtain ⟨others, last⟩ := ih after
    simp only [Playback.perform, same, others, true_and]
    exact last

end

/-- Both voices are in use, and then they are the same, or neither is. Their epochs may have counted
any number of transitions, but a change is under way in both or in neither. -/
structure Voice.SameInUse (v w : Voice) : Prop where
  active_eq : w.active = v.active
  eq_of_active : v.active → w = v
  busy_eq : w.epoch.busy = v.epoch.busy

/-- Two clips that agree on everything but what the voices hold that are not in use. -/
structure Clip.SameInUse (c d : Clip) : Prop where
  eq_pool : d = { c with pool := d.pool }
  free_eq : d.pool.free = c.pool.free
  polyphony_eq : d.polyphony = c.polyphony
  voice : ∀ {id : VoiceId} {v : Voice}, c.pool.voices[id]? = some v →
    ∃ w, d.pool.voices[id]? = some w ∧ v.SameInUse w

theorem Voice.SameInUse.alike {v w : Voice} (h : v.SameInUse w) : ∃ k, Alike False k v w := by
  cases active : v.active
  · obtain ⟨k, epoch⟩ := Epoch.exists_after h.busy_eq
    exact ⟨k, epoch, h.active_eq, by simp [active]⟩
  · obtain rfl := h.eq_of_active active
    exact ⟨0, Epoch.after_zero.symm, rfl, fun _ => by simp [later]⟩

/-- Such clips cannot be told apart. -/
theorem Clip.SameInUse.alike {c d : Clip} (h : c.SameInUse d) :
    ∃ lead, c.Alike (fun _ => False) lead d := by
  have ahead (id : VoiceId) : ∃ k, ∀ v, c.pool.voices[id]? = some v →
      ∃ w, d.pool.voices[id]? = some w ∧ Voice.Alike False k v w := by
    cases voice : c.pool.voices[id]? with
    | none => exact ⟨0, fun v found => nomatch found⟩
    | some v =>
      obtain ⟨w, voice', same⟩ := h.voice voice
      obtain ⟨k, alike⟩ := same.alike
      exact ⟨k, fun v' found => Option.some.inj found ▸ ⟨w, voice', alike⟩⟩
  choose lead ahead using ahead
  exact ⟨lead, h.eq_pool, h.free_eq, h.polyphony_eq, fun {id v} voice => ahead id v voice⟩

/-- What the voices hold that are not in use is never seen. Take two clips that agree but for those
voices, played the same way. Whatever is done to both, the answers are the same, with every sample
mixed, every event raised and every error among them; and the listeners, the worker, the output and
its surroundings are left the same. -/
theorem Playback.concealment {σ ω : Type} (io : OutputInterface σ ω) (p : Playback σ ω) {d : Clip}
    (same : p.clip.SameInUse d) (deeds : List (Deed σ)) :
    let done := p.perform io deeds
    let done' := { p with clip := d }.perform io deeds
    done'.1 = done.1 ∧ done'.2.clip.listeners = done.2.clip.listeners ∧
      done'.2.worker = done.2.worker ∧ done'.2.output = done.2.output ∧
      done'.2.surroundings = done.2.surroundings := by
  obtain ⟨lead, clips⟩ := same.alike
  have start : p.Alike lead { p with clip := d } := ⟨clips⟩
  obtain ⟨answers, after⟩ := start.perform io deeds
  exact ⟨answers, after.clip.listeners_eq, after.worker_eq, after.output_eq, after.surroundings_eq⟩

namespace Clip

/-- The clip as it would be if the voices that are not in use had never been. -/
def renewed (c : Clip) : Clip := { c with
  pool := { c.pool with voices := c.pool.voices.map fun v => if v.active then v else {} } }

/-- While no change is under way, a voice that was used before is no different from a new one. -/
theorem sameInUse_renewed {c : Clip}
    (rest : ∀ {id : VoiceId} {v : Voice}, c.pool.voices[id]? = some v → v.epoch.busy = false) :
    c.SameInUse c.renewed where
  eq_pool := rfl
  free_eq := rfl
  polyphony_eq := by simp [renewed, polyphony, Pool.polyphony]
  voice {id v} voice := by
    refine ⟨if v.active then v else {}, by simp [renewed, voice], ?_⟩
    cases active : v.active
    · exact ⟨active.symm, by simp [active], (rest voice).symm⟩
    · exact ⟨rfl, fun _ => rfl, rfl⟩

/-- The clip `blip` whose voice still holds what an owner made of it long ago. -/
def secondHand : Clip := { Desk.blip with
  pool := ⟨#[{ playing := true, cursor := 0.5, left := .settled 1.0, loops := 3, epoch := ⟨6⟩ }],
    [0]⟩ }

end Clip

theorem Playback.concealment_secondHand :
    let p : Playback Output Storage := { clip := Clip.secondHand, surroundings := {} }
    let deeds : List (Deed Output) := [.mix 4, .request .obtain, .request (.start 0),
      .query (.loops 0), .opening (.memory { name := "", destination := .recording #[] }), .pump,
      .mixDuring 4 (.stop 0) (.amid 0 1), .close]
    p.clip.pool.voices.toList.map Voice.loops = [3] ∧
      p.clip.renewed.pool.voices.toList.map Voice.loops = [0] ∧
      ({ p with clip := p.clip.renewed }.perform Output.interface deeds).1 =
        (p.perform Output.interface deeds).1 := by
  intro p deeds
  have rest {id : VoiceId} {v : Voice} (voice : Clip.secondHand.pool.voices[id]? = some v) :
      v.epoch.busy = false := by
    have member := List.mem_singleton.mp (Array.mem_toList_iff.mpr (Array.mem_of_getElem? voice))
    rw [member]
    rfl
  have new : p.clip.renewed.pool.voices.toList.map Voice.loops = [0] := by
    simp [p, Clip.renewed, Clip.secondHand]
  exact ⟨rfl, new, (p.concealment Output.interface (Clip.sameInUse_renewed rest) deeds).1⟩

end SamplePlayer
