import Mathlib.Logic.Relation
import SamplePlayer.Proofs.Clip.Requests
import SamplePlayer.Proofs.Pass
import SamplePlayer.Proofs.Trace

/-!
# A clip with a mix under way

The mixer goes from voice to voice while callers go on making requests. It reads the epoch of a
voice, then looks whether the voice is active and then whether it plays, takes one frame after the
other, and at last tries to write the pass back. Between any two of these steps any request can come
in, and the queue can be handed out. A run is any sequence of such steps.

What the mixer saw of a voice holds as long as no transition came in since it read the epoch. So if
it writes back, the voice is still active and playing. The epoch tells this as long as there are
fewer than `2 ^ 31` transitions of the voice within one pass over it.

## Main definitions

* `Stage`, `Desk`: where the mixer is, and a clip with it.
* `Desk.requested`, `Desk.framed`, `Desk.committed`: what a request, a frame and the end of a pass
  make of a desk.
* `Desk.Step`, `Desk.Run`: single steps, and any number of them.
* `Desk.Sound`: the invariant of runs.

## Main results

* `Desk.Sound.step`, `Desk.Sound.run`: steps and runs keep a desk sound.
* `Desk.Step.reports`, `Desk.Run.reports`: steps and runs are made of changes.
-/

namespace SamplePlayer

/-- Where the mixer is. -/
inductive Stage where
  /-- It is not at a voice. -/
  | between
  /-- It has read the epoch of a voice. -/
  | sighted (id : VoiceId) (snapshot : Epoch)
  /-- It has found the voice active. -/
  | noticed (id : VoiceId) (snapshot : Epoch)
  /-- It has found the voice playing, and its pass has put some frames into a strip. -/
  | passing (id : VoiceId) (p : Pass) (strip : Array Frame)

namespace Stage

/-- The voice that the mixer is at and the epoch that it read. -/
def subject? : Stage → Option (VoiceId × Epoch)
  | between => none
  | sighted id snapshot | noticed id snapshot => some (id, snapshot)
  | passing id p _ => some (id, p.snapshot)

/-- The voice is as the mixer found it. -/
def Fits (v : Voice) : Stage → Prop
  | between | sighted .. => True
  | noticed .. => v.active
  | passing .. => v.active ∧ v.playing

theorem Fits.congr {stage : Stage} {v w : Voice} (h : stage.Fits v) (active : w.active = v.active)
    (playing : w.playing = v.playing) : stage.Fits w := by
  cases stage <;> simp_all [Fits]

end Stage

/-- A clip with the mix of a buffer under way. -/
structure Desk where
  clip : Clip
  buffer : Array Frame
  /-- The voices that the mixer has not come to yet. -/
  waiting : List VoiceId
  stage : Stage
  /-- How many transitions the voice at hand ran since its epoch was read. -/
  turns : Nat

namespace Desk

/-- A clip that nobody mixes, with the buffer that was mixed last. -/
def resting (c : Clip) (buffer : Array Frame) : Desk := ⟨c, buffer, [], .between, 0⟩

/-- The desk after a request. -/
def requested (d : Desk) (r : Request) : Desk := { d with
  clip := r.after d.clip
  turns := d.turns + d.stage.subject?.elim 0 fun (id, _) => r.turns d.clip id }

/-- The desk after the next frame of the pass `p` over the voice `id`, which is `v`. -/
def framed (d : Desk) (id : VoiceId) (p : Pass) (strip : Array Frame) (v : Voice) : Desk := { d with
  clip := { d.clip with pool := d.clip.pool.set id (p.next d.clip.mixer v).2.2 }
  stage := .passing id (p.next d.clip.mixer v).2.1 (strip.push (p.next d.clip.mixer v).1) }

/-- The desk after the pass over the voice `id` came to its end. -/
def committed (d : Desk) (id : VoiceId) (p : Pass) (strip : Array Frame) : Desk := { d with
  clip := d.clip.changed (d.clip.pool.finish d.clip.mixer id p).2
    (d.clip.pool.finish d.clip.mixer id p).1
  buffer := Mixer.overlay d.buffer strip
  stage := .between
  turns := 0 }

/-- A single step, of a caller or of the mixer. -/
inductive Step : Desk → Desk → Prop
  -- Steps of callers, which are possible at any time.
  | request (d : Desk) (r : Request) : Step d (d.requested r)
  | deliver (d : Desk) : Step d { d with clip := d.clip.delivered }
  -- Steps of the mixer, each at its own stage.
  | begin {d : Desk} (frames : Nat) (between : d.stage = .between) (last : d.waiting = []) :
    Step d { d with
      buffer := Array.replicate frames .silence
      waiting := List.range d.clip.polyphony }
  | sight {d : Desk} {id : VoiceId} {rest : List VoiceId} {v : Voice}
      (between : d.stage = .between) (next : d.waiting = id :: rest)
      (voice : d.clip.pool.voices[id]? = some v) :
    Step d { d with waiting := rest, stage := .sighted id v.epoch, turns := 0 }
  | notice {d : Desk} {id : VoiceId} {snapshot : Epoch} {v : Voice}
      (sighted : d.stage = .sighted id snapshot) (voice : d.clip.pool.voices[id]? = some v) :
    Step d { d with stage := if v.active then .noticed id snapshot else .between }
  | enter {d : Desk} {id : VoiceId} {snapshot : Epoch} {v : Voice}
      (noticed : d.stage = .noticed id snapshot) (voice : d.clip.pool.voices[id]? = some v) :
    Step d { d with
      stage := if v.playing then .passing id (.startAt snapshot v) #[] else .between }
  | frame {d : Desk} {id : VoiceId} {p : Pass} {strip : Array Frame} {v : Voice}
      (passing : d.stage = .passing id p strip) (voice : d.clip.pool.voices[id]? = some v)
      (more : strip.size < d.buffer.size) (unfinished : p.finished = false) :
    Step d (d.framed id p strip v)
  | commit {d : Desk} {id : VoiceId} {p : Pass} {strip : Array Frame}
      (passing : d.stage = .passing id p strip)
      (full : strip.size = d.buffer.size ∨ p.finished = true) (few : d.turns < 2 ^ 31) :
    Step d (d.committed id p strip)

/-- Any number of steps. -/
def Run : Desk → Desk → Prop := Relation.ReflTransGen Step

/-- The pool is sound, and the voice that the mixer is at is as it was found unless a transition ran
since. -/
structure Sound (d : Desk) : Prop where
  pool : d.clip.pool.Sound
  subject : ∀ id snapshot, d.stage.subject? = some (id, snapshot) →
    ∃ v, d.clip.pool.voices[id]? = some v ∧ v.epoch = snapshot.after d.turns ∧
      (d.turns = 0 → d.stage.Fits v)

variable {c : Clip} {d d' : Desk}

theorem sound_resting (sound : c.pool.Sound) (buffer : Array Frame) : (resting c buffer).Sound :=
  ⟨sound, nofun⟩

/-! ### Steps -/

/-- A step is made of changes. -/
theorem Step.reports (h : d.Sound) (s : Step d d') : ∃ events, d.clip.Reports events d'.clip := by
  cases s with
  | request r =>
    obtain ⟨events, evolves⟩ := r.evolves h.pool
    exact ⟨events, evolves.toReports⟩
  | deliver => exact ⟨[], (Clip.Reports.refl _).delivered⟩
  | begin | sight | notice | enter => exact ⟨[], .refl _⟩
  | @frame id p strip v passing voice more unfinished =>
    obtain ⟨-, same⟩ | ⟨-, -, taken⟩ := Pass.next_voice d.clip.mixer p v
    · refine ⟨[], ?_⟩
      change d.clip.Reports [] { d.clip with pool := d.clip.pool.set id _ }
      rw [same, Pool.set_of_voice voice]
      exact .refl _
    · refine ⟨[], ?_⟩
      change d.clip.Reports [] { d.clip with pool := d.clip.pool.set id _ }
      rw [taken]
      exact .of_silent voice .takeLoop
  | @commit id p strip passing full few =>
    obtain ⟨v, voice, epoch, fits⟩ := h.subject id p.snapshot (by rw [passing]; rfl)
    have rest : p.snapshot.busy = false := by
      rw [← Epoch.busy_after, ← epoch]
      exact (h.pool.settled voice).at_rest
    -- Without a transition in between the voice is as the mixer found it, and is written back.
    by_cases none : d.turns = 0
    · have found : v.active ∧ v.playing := by
        have seen := fits none
        rwa [passing] at seen
      have current : v.epoch = p.snapshot := by rw [epoch, none, Epoch.after_zero]
      exact ⟨_, .of_change voice (.of_finish voice found.1 found.2 (current ▸ rest) current)⟩
    · have stale : v.epoch ≠ p.snapshot := by
        rw [epoch, ne_eq, Epoch.after_eq_self_iff few]
        exact none
      refine ⟨[], ?_⟩
      change d.clip.Reports [] (d.clip.changed _ _)
      rw [Pool.finish_of_stale voice stale, Clip.changed_nil]
      exact .refl d.clip

/-- The transitions of a request add to those since the epoch was read. -/
theorem turns_requested {id : VoiceId} {snapshot : Epoch}
    (subject : d.stage.subject? = some (id, snapshot)) (r : Request) :
    (d.requested r).turns = d.turns + r.turns d.clip id := by
  rw [requested, subject]
  rfl

/-- A request keeps what the mixer knows of the voice it is at. -/
theorem Sound.request (h : d.Sound) (r : Request) : (d.requested r).Sound := by
  obtain ⟨events, evolves⟩ := r.evolves h.pool
  refine ⟨h.pool.changes evolves.changes, fun id snapshot subject => ?_⟩
  change d.stage.subject? = some (id, snapshot) at subject
  obtain ⟨v, voice, epoch, fits⟩ := h.subject id snapshot subject
  obtain ⟨w, voice', epoch', flags⟩ := evolves.tracks voice
  refine ⟨w, voice', ?_, ?_⟩
  · rw [epoch', epoch, Epoch.after_after, turns_requested subject]
  · intro none
    rw [turns_requested subject, Nat.add_eq_zero_iff] at none
    exact (fits none.1).congr (flags none.2).1 (flags none.2).2

/-- The mixer may look closer at the voice it is at, or leave it. -/
theorem Sound.look (h : d.Sound) (stage : Stage)
    (closer : ∀ id snapshot, stage.subject? = some (id, snapshot) →
      d.stage.subject? = some (id, snapshot) ∧
        ∀ v, d.clip.pool.voices[id]? = some v → d.stage.Fits v → stage.Fits v) :
    Sound { d with stage } := by
  refine ⟨h.pool, fun id snapshot subject => ?_⟩
  obtain ⟨before, fits⟩ := closer id snapshot subject
  obtain ⟨v, voice, epoch, seen⟩ := h.subject id snapshot before
  exact ⟨v, voice, epoch, fun none => fits v voice (seen none)⟩

/-- A step keeps a desk sound. -/
theorem Sound.step (h : d.Sound) (s : Step d d') : d'.Sound := by
  obtain ⟨events, reports⟩ := s.reports h
  have pool := h.pool.changes reports.changes
  cases s with
  | request r => exact h.request r
  | deliver => exact ⟨pool, h.subject⟩
  | begin => exact ⟨pool, h.subject⟩
  | sight between next voice =>
    refine ⟨pool, fun id snapshot subject => ?_⟩
    cases subject
    exact ⟨_, voice, Epoch.after_zero.symm, fun _ => trivial⟩
  | @notice id snapshot v sighted voice =>
    refine h.look _ fun j e subject => ?_
    split at subject
    · cases subject
      rw [if_pos ‹_›, sighted]
      refine ⟨rfl, fun u found _ => ?_⟩
      obtain rfl : u = v := Option.some.inj (found.symm.trans voice)
      assumption
    · cases subject
  | @enter id snapshot v noticed voice =>
    refine h.look _ fun j e subject => ?_
    split at subject
    · cases subject
      rw [if_pos ‹_›, noticed]
      refine ⟨rfl, fun u found active => ?_⟩
      obtain rfl : u = v := Option.some.inj (found.symm.trans voice)
      exact ⟨active, ‹_›⟩
    · cases subject
  | @frame id p strip v passing voice more unfinished =>
    -- A frame may take a loop, but leaves the epoch and the flags.
    refine ⟨pool, fun j e subject => ?_⟩
    cases subject
    obtain ⟨u, found, epoch, fits⟩ := h.subject id p.snapshot (by rw [passing]; rfl)
    obtain rfl : u = v := Option.some.inj (found.symm.trans voice)
    obtain ⟨active, playing, same⟩ := p.next_flags d.clip.mixer u
    refine ⟨(p.next d.clip.mixer u).2.2, ?_, ?_, fun none => ?_⟩
    · change (d.clip.pool.set id _).voices[id]? = _
      simp [Pool.getElem?_set, voice]
    · rw [same, epoch, Pass.snapshot_next]
      rfl
    · have seen := fits none
      rw [passing] at seen
      exact seen.congr active playing
  | commit passing full few => exact ⟨pool, nofun⟩

/-! ### Runs -/

/-- A run keeps a desk sound. -/
theorem Sound.run (h : d.Sound) (r : Run d d') : d'.Sound := by
  induction r with
  | refl => exact h
  | tail _ last ih => exact ih.step last

/-- A run is made of changes. -/
theorem Run.reports (h : d.Sound) (r : Run d d') : ∃ events, d.clip.Reports events d'.clip := by
  induction r with
  | refl => exact ⟨[], .refl _⟩
  | tail before last ih =>
    obtain ⟨events, first⟩ := ih
    obtain ⟨events', second⟩ := last.reports (h.run before)
    exact ⟨_, first.trans second⟩

end Desk

end SamplePlayer
