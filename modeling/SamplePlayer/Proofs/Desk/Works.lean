import SamplePlayer.Proofs.Desk.Moves

/-!
# What the mixer does at one voice

Seen from one voice, a step of the mixer is one of a few things. Most steps leave the voice and the
pass over it alone. Otherwise a pass over the voice begins, takes a frame, is dropped, or is written
back with its events. So what a pass does to one voice can be told without the other voices, the
order in which the mixer comes to them, or the queue of events.

## Main definitions

* `Desk.pass?`: the pass over a voice that is under way.
* `Desk.Current`: the voice has still the epoch that the mixer read.
* `Desk.heard`, `Desk.Tells`: what is told of a voice.
* `Desk.Works`: what a step of the mixer is for a voice.

## Main results

* `Desk.Does.works`: nothing else is done by the mixer at a voice.
* `Desk.Does.current`: no step of the mixer makes a pass stale.
-/

namespace SamplePlayer

/-- The pass over the voice `id`, with the frames it took. -/
def Stage.pass? (id : VoiceId) : Stage → Option (Pass × Array Frame)
  | passing j p strip => if j = id then some (p, strip) else none
  | _ => none

namespace Desk

variable {d e : Desk} {id j : VoiceId} {p : Pass} {strip : Array Frame}

/-- The voice `id`. -/
def voice? (d : Desk) (id : VoiceId) : Option Voice := d.clip.pool.voices[id]?

/-- The pass over the voice `id` that is under way. -/
def pass? (d : Desk) (id : VoiceId) : Option (Pass × Array Frame) := d.stage.pass? id

/-- If the mixer is at the voice `id`, the voice has still the epoch that the mixer read. -/
def Current (d : Desk) (id : VoiceId) : Prop :=
  ∀ snapshot v, d.stage.subject? = some (id, snapshot) → d.voice? id = some v → v.epoch = snapshot

/-- What the listener `w` heard and will hear about the voice `id`. -/
def heard (d : Desk) (w : ListenerId) (id : VoiceId) : List Occurrence :=
  Event.occurrences id (d.clip.listeners.record w)

/-- Every listener that hears everything is told this of the voice `id`. -/
def Tells (id : VoiceId) (d e : Desk) (told : List Occurrence) : Prop :=
  ∀ w, d.clip.listeners.Recording w →
    e.clip.listeners.Recording w ∧ e.heard w id = d.heard w id ++ told

/-- What a step of the mixer is for the voice `id`, and what it tells of it. -/
inductive Works (id : VoiceId) (d e : Desk) : List Occurrence → Prop
  | aside (voice : e.voice? id = d.voice? id) (pass : e.pass? id = d.pass? id) : Works id d e []
  | enter {snapshot : Epoch} {v : Voice} (voice : d.voice? id = some v)
      (after : e.voice? id = some v) (none : d.pass? id = none)
      (pass : e.pass? id = some (.startAt snapshot v, #[])) : Works id d e []
  | frame {p : Pass} {strip : Array Frame} {v : Voice} (before : d.pass? id = some (p, strip))
      (voice : d.voice? id = some v) (unfinished : p.finished = false)
      (after : e.voice? id = some (p.next d.clip.mixer v).2.2)
      (pass : e.pass? id =
        some ((p.next d.clip.mixer v).2.1, strip.push (p.next d.clip.mixer v).1)) :
    Works id d e []
  | drop {p : Pass} {strip : Array Frame} (before : d.pass? id = some (p, strip))
      (stale : ∀ v, d.voice? id = some v → v.epoch = p.snapshot → v.epoch.busy)
      (after : e.voice? id = d.voice? id) (none : e.pass? id = none) : Works id d e []
  | writeBack {p : Pass} {strip : Array Frame} {v : Voice}
      (before : d.pass? id = some (p, strip)) (voice : d.voice? id = some v)
      (after : e.voice? id = some (p.writeBack d.clip.mixer id v).1) (none : e.pass? id = none) :
    Works id d e (Event.occurrences id (p.writeBack d.clip.mixer id v).2.events)

/-! ### Passes and voices -/

theorem pass?_of_passing (passing : d.stage = .passing j p strip) (id : VoiceId) :
    d.pass? id = if j = id then some (p, strip) else none := by
  rw [pass?, passing, Stage.pass?]

theorem passing_of_pass? (pass : d.pass? id = some (p, strip)) :
    d.stage = .passing id p strip := by
  unfold pass? Stage.pass? at pass
  split at pass
  · split at pass
    · cases pass
      subst id
      assumption
    · cases pass
  · cases pass

theorem voice?_of_set {v w : Voice} (voice : d.voice? j = some v)
    (set : e.clip.pool.voices = (d.clip.pool.set j w).voices) (id : VoiceId) :
    e.voice? id = if j = id then some w else d.voice? id := by
  unfold voice? at *
  rw [set, Pool.getElem?_set]
  split
  · subst id
    rw [voice]
    rfl
  · rfl

/-- Nothing is told if there is nothing new to hear. -/
theorem tells_nil (same : e.clip.listeners = d.clip.listeners) : Tells id d e [] := by
  intro w recording
  rw [heard, same, List.append_nil]
  exact ⟨recording, rfl⟩

/-! ### Steps of the mixer -/

theorem works_commit (passing : d.stage = .passing j p strip) (id : VoiceId) :
    ∃ told, Works id d (d.committed j p strip) told ∧ Tells id d (d.committed j p strip) told := by
  have tells : Tells id d (d.committed j p strip)
      (Event.occurrences id (d.clip.pool.finish d.clip.mixer j p).1) := by
    intro w recording
    refine ⟨recording.postAll _, ?_⟩
    change Event.occurrences id ((d.clip.listeners.postAll _).record w) = _
    rw [Listeners.record_postAll, Event.occurrences_append]
    rfl
  have pass := pass?_of_passing passing id
  obtain ⟨dropped, stale⟩ | ⟨v, voice, -, -, events, written⟩ :=
    d.clip.pool.finish_cases d.clip.mixer j p
  · have same : (d.committed j p strip).voice? id = d.voice? id := by
      unfold voice? committed
      rw [dropped]
      rfl
    rw [dropped] at tells
    refine ⟨[], ?_, tells⟩
    split at pass
    · subst id
      exact .drop pass stale same rfl
    · exact .aside same pass.symm
  · have after := voice?_of_set (e := d.committed j p strip) voice written id
    rw [events] at tells
    refine ⟨_, ?_, tells⟩
    split at pass
    · subst id
      rw [if_pos rfl] at after
      exact .writeBack pass voice after rfl
    · -- What is told of the other voice is not about this one.
      rename_i other
      rw [if_neg other] at after
      rw [Event.occurrences_eq_nil j id (Ne.symm other) (p.voice?_writeBack v)]
      exact .aside after pass.symm

namespace Does

/-- A step of the mixer is one of a few things for a voice, and tells what these tell. -/
theorem works (s : Does d none e) (id : VoiceId) :
    ∃ told, Works id d e told ∧ Tells id d e told := by
  cases s with
  | deliver =>
    refine ⟨[], .aside rfl rfl, fun w recording => ⟨recording.deliver, ?_⟩⟩
    rw [heard, List.append_nil]
    exact congrArg _ (Listeners.record_deliver recording)
  | mixer s own =>
    cases s with
    | commit passing full => exact works_commit passing id
    | step s =>
      cases s with
      | request | deliver => exact absurd rfl own
      | begin => exact ⟨[], .aside rfl rfl, tells_nil rfl⟩
      | sight between =>
        refine ⟨[], .aside rfl ?_, tells_nil rfl⟩
        rw [pass?, pass?, between]
        rfl
      | notice sighted =>
        refine ⟨[], .aside rfl ?_, tells_nil rfl⟩
        rw [pass?, pass?, sighted]
        dsimp only
        split <;> rfl
      | @enter j snapshot v noticed voice =>
        refine ⟨[], ?_, tells_nil rfl⟩
        have none : d.pass? id = none := by
          rw [pass?, noticed]
          rfl
        by_cases here : v.playing = true ∧ j = id
        · obtain ⟨playing, rfl⟩ := here
          have pass : Stage.pass? j (if v.playing = true then .passing j (.startAt snapshot v) #[]
              else .between) = some (.startAt snapshot v, #[]) := by
            simp [playing, Stage.pass?]
          exact .enter voice voice none pass
        · refine .aside rfl ?_
          rw [none, pass?]
          dsimp only
          split
          · exact if_neg fun same => here ⟨‹_›, same⟩
          · rfl
      | @frame j p strip v passing voice more unfinished =>
        refine ⟨[], ?_, tells_nil rfl⟩
        have pass := pass?_of_passing passing id
        have after := voice?_of_set (e := { d with
          clip := { d.clip with pool := d.clip.pool.set j (p.next d.clip.mixer v).2.2 }
          stage := .passing j (p.next d.clip.mixer v).2.1 (strip.push (p.next d.clip.mixer v).1) })
          voice rfl id
        split at pass
        · subst id
          rw [if_pos rfl] at after
          exact .frame pass voice unfinished after (if_pos rfl)
        · rename_i other
          rw [if_neg other] at after
          exact .aside after ((if_neg other).trans pass.symm)
      | commit passing full => exact works_commit passing id

/-- A voice that has still the epoch that the mixer read has it after a step of the mixer, and one
whose epoch the mixer reads has it. -/
theorem current (s : Does d none e) (h : d.Current id) : e.Current id := by
  cases s with
  | deliver => exact h
  | mixer s own =>
    cases s with
    | commit => nofun
    | step s =>
      cases s with
      | request | deliver => exact absurd rfl own
      | begin => exact h
      | sight between next voice =>
        intro snapshot u subject found
        cases subject
        exact congrArg Voice.epoch (Option.some.inj (found.symm.trans voice))
      | notice sighted =>
        intro snapshot u subject found
        refine h snapshot u ?_ found
        dsimp only at subject
        split at subject
        · rwa [sighted]
        · cases subject
      | enter noticed =>
        intro snapshot u subject found
        refine h snapshot u ?_ found
        dsimp only at subject
        split at subject
        · rwa [noticed]
        · cases subject
      | @frame j p strip v passing voice =>
        intro snapshot u subject found
        cases subject
        have after : some (p.next d.clip.mixer v).2.2 = some u := by
          rw [← found, voice?, framed, Pool.getElem?_set, if_pos rfl, voice]
          rfl
        rw [← Option.some.inj after, (p.next_flags d.clip.mixer v).2.2, Pass.snapshot_next]
        exact h p.snapshot v (by rw [passing]; rfl) voice
      | commit => nofun

end Does

end Desk

end SamplePlayer
