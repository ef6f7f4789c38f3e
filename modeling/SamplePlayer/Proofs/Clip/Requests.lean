import SamplePlayer.Proofs.Clip.Calls
import SamplePlayer.Proofs.Pool.Sound
import SamplePlayer.Proofs.Recording

/-!
# Requests

A request is a call that a caller can make on a clip. Whatever its answer is, it is made of changes
of the pool, and the events of these changes are queued in their order. How many transitions of a
voice it runs can be told from the clip before it: a transition runs on a voice that is there and,
for the transport calls, active, even if it then finds that it has nothing to do.

## Main definitions

* `Request`, `Request.after`: the calls, and the clip after each.
* `Request.turns`: how many transitions of a voice a call runs.
* `Pool.Tracks`: the epochs tell the transitions.
* `Clip.Reports`, `Clip.Evolves`: a clip that went through changes, and how many were transitions.

## Main results

* `Request.evolves`: calls are made of changes.
-/

namespace SamplePlayer

/-- A call that can be made on a clip. -/
inductive Request where
  | obtain
  | release (id : VoiceId)
  | play (left right speed : Float32) (loops : Int32)
  | start (id : VoiceId)
  | stop (id : VoiceId)
  | seek (id : VoiceId) (position : Float)
  | seekMicros (id : VoiceId) (micros : UInt64)
  | seekFraction (id : VoiceId) (fraction : Float)
  | setVolume (id : VoiceId) (left right : Float32)
  | setPan (id : VoiceId) (volume pan : Float32) (law : PanLaw)
  | setSpeed (id : VoiceId) (speed : Float32)
  | setLoops (id : VoiceId) (count : Int32)
  | setRecycle (id : VoiceId) (recycle : Bool)

namespace Request

/-- The clip after a call. -/
def after (c : Clip) : Request → Clip
  | obtain => (Clip.obtain.on c).2
  | release id => ((Clip.release id).on c).2
  | play left right speed loops => ((Clip.play left right speed loops).on c).2
  | start id => ((Clip.start id).on c).2
  | stop id => ((Clip.stop id).on c).2
  | seek id position => ((Clip.seek id position).on c).2
  | seekMicros id micros => ((Clip.seekMicros id micros).on c).2
  | seekFraction id fraction => ((Clip.seekFraction id fraction).on c).2
  | setVolume id left right => ((Clip.setVolume id left right).on c).2
  | setPan id volume pan law => ((Clip.setPan id volume pan law).on c).2
  | setSpeed id speed => ((Clip.setSpeed id speed).on c).2
  | setLoops id count => ((Clip.setLoops id count).on c).2
  | setRecycle id recycle => ((Clip.setRecycle id recycle).on c).2

/-- How many transitions of the voice `j` a call runs. -/
def turns (c : Clip) (j : VoiceId) : Request → Nat
  | obtain => if c.pool.free.head? = some j then 1 else 0
  | play .. => if c.pool.free.head? = some j then 2 else 0
  | release id => if j = id ∧ id < c.polyphony then 1 else 0
  | start id | stop id | seek id _ | seekMicros id _ | seekFraction id _ =>
    if j = id ∧ c.pool.inUse id then 1 else 0
  | setVolume .. | setPan .. | setSpeed .. | setLoops .. | setRecycle .. => 0

/-- No call runs more than two transitions of a voice. -/
theorem turns_le_two (c : Clip) (j : VoiceId) (r : Request) : r.turns c j ≤ 2 := by
  cases r <;> simp only [turns] <;> first | omega | (split <;> omega)

end Request

namespace Pool

/-- Every voice is still there, and its epoch tells how many transitions there were. A voice
without a transition is in and out of use, and plays, as before. -/
def Tracks (pool : Pool) (turns : VoiceId → Nat) (pool' : Pool) : Prop :=
  ∀ ⦃id v⦄, pool.voices[id]? = some v → ∃ w, pool'.voices[id]? = some w ∧
    w.epoch = v.epoch.after (turns id) ∧
    (turns id = 0 → w.active = v.active ∧ w.playing = v.playing)

variable {m : Mixer} {p q r : Pool} {turns turns' : VoiceId → Nat}

theorem Tracks.refl (p : Pool) : p.Tracks (fun _ => 0) p :=
  fun _ v voice => ⟨v, voice, by simp⟩

theorem Tracks.trans (first : p.Tracks turns q) (second : q.Tracks turns' r) :
    p.Tracks (fun j => turns j + turns' j) r := by
  intro id u voice
  obtain ⟨v, voice, epoch, flags⟩ := first voice
  obtain ⟨w, voice, epoch', flags'⟩ := second voice
  refine ⟨w, voice, by rw [epoch', epoch, Epoch.after_after], fun none => ?_⟩
  obtain ⟨none, none'⟩ := Nat.add_eq_zero_iff.mp none
  rw [(flags' none').1, (flags' none').2]
  exact flags none

/-- A change with a transition is told by the epoch. -/
theorem Change.tracks {id : VoiceId} {v : Voice} {es : List Event} (c : Change m p id v 1 es q)
    (voice : p.voices[id]? = some v) : p.Tracks (fun j => if j = id then 1 else 0) q := by
  intro j u found
  by_cases same : j = id
  · subst j
    -- With a transition nothing is promised of the flags.
    obtain rfl : v = u := Option.some.inj (voice.symm.trans found)
    obtain ⟨w, after, epoch⟩ := c.epoch_eq voice
    exact ⟨w, after, by simpa using epoch, by simp⟩
  · exact ⟨u, by rw [c.getElem?_of_ne same, found], by simp [same]⟩

/-- A voice may be replaced by one with the same epoch and the same flags. -/
theorem tracks_set {id : VoiceId} {v w : Voice} (voice : p.voices[id]? = some v)
    (epoch : w.epoch = v.epoch) (active : w.active = v.active) (playing : w.playing = v.playing) :
    p.Tracks (fun _ => 0) (p.set id w) := by
  intro j u found
  by_cases same : j = id
  · subst j
    obtain rfl : v = u := Option.some.inj (voice.symm.trans found)
    exact ⟨w, by simp [getElem?_set, voice], by simpa using epoch, fun _ => ⟨active, playing⟩⟩
  · exact ⟨u, by rw [getElem?_set, if_neg (Ne.symm same), found], by simp⟩

end Pool

namespace Clip

/-- The clip `d` is `c` after changes of its pool, with the events of these changes queued. -/
structure Reports (c : Clip) (events : List Event) (d : Clip) : Prop where
  changes : c.pool.Changes c.mixer events d.pool
  mixer_eq : d.mixer = c.mixer
  heard : ∀ w, c.listeners.Recording w →
    d.listeners.Recording w ∧ d.listeners.record w = c.listeners.record w ++ events

/-- The same, with so many transitions of each voice. -/
structure Evolves (c : Clip) (turns : VoiceId → Nat) (events : List Event) (d : Clip) : Prop
    extends c.Reports events d where
  tracks : c.pool.Tracks turns d.pool

variable {c d : Clip} {id : VoiceId} {v : Voice} {turns turns' : VoiceId → Nat}
  {events events' : List Event}

namespace Reports

theorem refl (c : Clip) : c.Reports [] c :=
  ⟨.none, rfl, fun _ recording => ⟨recording, by simp⟩⟩

theorem trans {e : Clip} (first : c.Reports events d) (second : d.Reports events' e) :
    c.Reports (events ++ events') e where
  changes := first.changes.trans (first.mixer_eq ▸ second.changes)
  mixer_eq := second.mixer_eq.trans first.mixer_eq
  heard w recording := by
    obtain ⟨during, record⟩ := first.heard w recording
    obtain ⟨after, record'⟩ := second.heard w during
    exact ⟨after, by rw [record', record, List.append_assoc]⟩

/-- Handing out the queue is no change. -/
theorem delivered (h : c.Reports events d) : c.Reports events d.delivered where
  changes := h.changes
  mixer_eq := h.mixer_eq
  heard w recording := by
    obtain ⟨after, record⟩ := h.heard w recording
    exact ⟨after.deliver, (Listeners.record_deliver after).trans record⟩

/-- A single change whose events are queued. -/
theorem of_change {n : Nat} {pool : Pool} (voice : c.pool.voices[id]? = some v)
    (change : Pool.Change c.mixer c.pool id v n events pool) :
    c.Reports events (c.changed pool events) where
  changes := change.changes voice
  mixer_eq := rfl
  heard _ recording := ⟨recording.postAll events, Listeners.record_postAll events⟩

/-- A single change that raises no event. -/
theorem of_silent {n : Nat} {pool : Pool} (voice : c.pool.voices[id]? = some v)
    (change : Pool.Change c.mixer c.pool id v n [] pool) : c.Reports [] { c with pool } where
  changes := change.changes voice
  mixer_eq := rfl
  heard _ recording := ⟨recording, (List.append_nil _).symm⟩

end Reports

namespace Evolves

theorem refl (c : Clip) : c.Evolves (fun _ => 0) [] c := ⟨.refl c, .refl c.pool⟩

theorem trans {e : Clip} (first : c.Evolves turns events d) (second : d.Evolves turns' events' e) :
    c.Evolves (fun j => turns j + turns' j) (events ++ events') e :=
  ⟨first.toReports.trans second.toReports, first.tracks.trans second.tracks⟩

theorem delivered (h : c.Evolves turns events d) : c.Evolves turns events d.delivered :=
  ⟨h.toReports.delivered, h.tracks⟩

theorem of_turns_eq (h : c.Evolves turns events d) (same : ∀ j, turns j = turns' j) :
    c.Evolves turns' events d :=
  funext same ▸ h

/-- A single change with a transition, whose events are queued. -/
theorem of_change {pool : Pool} (voice : c.pool.voices[id]? = some v)
    (change : Pool.Change c.mixer c.pool id v 1 events pool) :
    c.Evolves (fun j => if j = id then 1 else 0) events (c.changed pool events) :=
  ⟨.of_change voice change, change.tracks voice⟩

end Evolves

/-! ### Setting parameters -/

theorem setRecycle_eq (recycle : Bool) :
    setRecycle id recycle = adjust id (Adjustment.recycle recycle).apply := rfl

theorem setVolume_eq (left right : Float32) :
    setVolume id left right = adjust id (Adjustment.volume left right).apply := rfl

theorem setSpeed_eq (speed : Float32) :
    setSpeed id speed = adjust id (Adjustment.speed speed).apply := rfl

theorem setLoops_eq (count : Int32) :
    setLoops id count = adjust id (Adjustment.loops count).apply := rfl

theorem evolves_adjust (c : Clip) (id : VoiceId) (a : Adjustment) :
    c.Evolves (fun _ => 0) [] ((adjust id a.apply).on c).2 := by
  obtain ⟨v, voice, active⟩ | ⟨-, e, refused⟩ := c.pool.active_or_refused id
  · rw [on_adjust voice active]
    exact ⟨.of_silent voice (.adjust a active), Pool.tracks_set voice (by simp) (by simp) (by simp)⟩
  · rw [on_adjust_of_error refused]
    exact .refl c

/-! ### Transport and release -/

/-- A call that runs a transition on a voice in use counts as one, on this voice. -/
theorem Evolves.of_inUse (voice : c.pool.voices[id]? = some v) (active : v.active)
    (h : c.Evolves (fun j => if j = id then 1 else 0) events d) :
    c.Evolves (fun j => if j = id ∧ c.pool.inUse id then 1 else 0) events d :=
  h.of_turns_eq fun j => by simp [Pool.inUse_of_voice voice, active]

/-- A call that is refused does nothing. -/
theorem Evolves.of_refused (idle : c.pool.inUse id = false) :
    c.Evolves (fun j => if j = id ∧ c.pool.inUse id then 1 else 0) [] c :=
  (Evolves.refl c).of_turns_eq fun j => by simp [idle]

theorem evolves_start (c : Clip) (id : VoiceId) : ∃ events,
    c.Evolves (fun j => if j = id ∧ c.pool.inUse id then 1 else 0) events
      ((start id).on c).2 := by
  obtain ⟨v, voice, active⟩ | ⟨idle, e, refused⟩ := c.pool.active_or_refused id
  · -- A voice that plays already is found out within the transition only.
    cases playing : v.playing
    · rw [on_start voice active playing]
      exact ⟨_, ((Evolves.of_change voice (.start active playing)).delivered).of_inUse voice active⟩
    · rw [on_start_of_playing voice active playing]
      exact ⟨_, (Evolves.of_change voice .idle).of_inUse voice active⟩
  · rw [on_start_of_error refused]
    exact ⟨[], .of_refused idle⟩

theorem evolves_stop (c : Clip) (id : VoiceId) : ∃ events,
    c.Evolves (fun j => if j = id ∧ c.pool.inUse id then 1 else 0) events
      ((stop id).on c).2 := by
  obtain ⟨v, voice, active⟩ | ⟨idle, e, refused⟩ := c.pool.active_or_refused id
  · cases playing : v.playing
    · rw [on_stop_of_still voice active playing]
      exact ⟨_, (Evolves.of_change voice .idle).delivered.of_inUse voice active⟩
    · rw [on_stop voice active playing]
      exact ⟨_, (Evolves.of_change voice (.stop active playing)).delivered.of_inUse voice active⟩
  · rw [on_stop_of_error refused]
    exact ⟨[], .of_refused idle⟩

theorem evolves_seek (c : Clip) (id : VoiceId) (place : Float) : ∃ events,
    c.Evolves (fun j => if j = id ∧ c.pool.inUse id then 1 else 0) events
      ((seek id place).on c).2 := by
  obtain ⟨v, voice, active⟩ | ⟨idle, e, refused⟩ := c.pool.active_or_refused id
  · cases playing : v.playing
    · rw [on_seek voice active playing]
      exact ⟨_, (Evolves.of_change voice (.seek place active playing)).of_inUse voice active⟩
    · rw [on_seek_of_playing voice active playing]
      exact ⟨_, (Evolves.of_change voice .idle).of_inUse voice active⟩
  · rw [on_seek_of_error refused]
    exact ⟨[], .of_refused idle⟩

theorem on_seekMicros (micros : UInt64) : (seekMicros id micros).on c =
    (seek id (c.bank.microsToFrames micros)).on c := by
  simp only [seekMicros, Call.on_bind, Call.on_get]

theorem on_seekFraction (fraction : Float) : (seekFraction id fraction).on c =
    (seek id ((if fraction.isNaN then 0.0 else Number.clamp fraction 0.0 1.0) *
      c.bank.lastFrame)).on c := by
  simp only [seekFraction, Call.on_bind, Call.on_get]

/-- A release runs a transition even on a voice that turns out not to be in use. -/
theorem evolves_release (c : Clip) (id : VoiceId) : ∃ events,
    c.Evolves (fun j => if j = id ∧ id < c.polyphony then 1 else 0) events
      ((release id).on c).2 := by
  cases voice : c.pool.voices[id]? with
  | none =>
    -- The number is refused before the transition.
    have outside : ¬ id < c.polyphony := Array.getElem?_eq_none_iff.mp voice |>.not_gt
    rw [on_release_of_none voice]
    exact ⟨[], (Evolves.refl c).of_turns_eq fun j => by simp [outside]⟩
  | some v =>
    have inside : id < c.polyphony := (Array.getElem?_eq_some_iff.mp voice).1
    cases active : v.active
    · rw [on_release_of_idle voice active]
      exact ⟨_, (Evolves.of_change voice .idle).delivered.of_turns_eq fun j => by simp [inside]⟩
    · rw [on_release voice active]
      exact ⟨_, (Evolves.of_change voice (.release active)).delivered.of_turns_eq fun j => by
        simp [inside]⟩

/-! ### Obtaining and playing -/

/-- In a sound pool the number at the front of the queue is that of a voice, and obtaining takes
it. -/
theorem obtain_succeeds {rest : List VoiceId} (sound : c.pool.Sound)
    (next : c.pool.free = id :: rest) : ∃ v d, obtain.on c = (.ok (some id), d) ∧
      d.pool.voices[id]? = some v ∧ v.active ∧ v.playing = false ∧
      c.Evolves (fun j => if j = id then 1 else 0) [.voice .obtain id 0.0] d := by
  obtain ⟨v, voice, -⟩ := (sound.mem_free_iff id).mp (next ▸ List.mem_cons_self)
  refine ⟨v.turned { v.reset with active := true }, _, on_obtain next voice, ?_, rfl, rfl,
    (Evolves.of_change voice (.obtain next)).delivered⟩
  change (c.pool.set id _).voices[id]? = some _
  simp [Pool.getElem?_set, voice]

/-- Obtaining a voice fails exactly if the queue is empty. -/
theorem obtain_eq_none_iff (sound : c.pool.Sound) :
    (obtain.on c).1 = .ok none ↔ c.pool.free = [] := by
  cases next : c.pool.free with
  | nil => simp [on_obtain_of_nil next]
  | cons id rest =>
    obtain ⟨_, d, done, -⟩ := obtain_succeeds sound next
    simp [done]

/-- Setting something on a voice in use succeeds and leaves it in use. -/
theorem adjust_succeeds (voice : c.pool.voices[id]? = some v) (active : v.active)
    (still : v.playing = false) (a : Adjustment) : ∃ w d, (adjust id a.apply).on c = (.ok (), d) ∧
      d.pool.voices[id]? = some w ∧ w.active ∧ w.playing = false ∧
      c.Evolves (fun _ => 0) [] d := by
  have evolves := c.evolves_adjust id a
  rw [on_adjust voice active] at evolves
  refine ⟨a.apply v, _, on_adjust voice active _, ?_, by simpa, by simpa, evolves⟩
  simp [Pool.getElem?_set, voice]

theorem evolves_obtain (sound : c.pool.Sound) : ∃ events,
    c.Evolves (fun j => if c.pool.free.head? = some j then 1 else 0) events (obtain.on c).2 := by
  cases next : c.pool.free with
  | nil =>
    rw [on_obtain_of_nil next]
    exact ⟨[], (Evolves.refl c).of_turns_eq fun j => by simp⟩
  | cons id rest =>
    obtain ⟨_, d, done, -, -, -, evolves⟩ := obtain_succeeds sound next
    rw [done]
    exact ⟨_, evolves.of_turns_eq fun j => by simp [eq_comm]⟩

theorem evolves_play (sound : c.pool.Sound) (left right speed : Float32) (loops : Int32) :
    ∃ events, c.Evolves (fun j => if c.pool.free.head? = some j then 2 else 0) events
      ((play left right speed loops).on c).2 := by
  cases next : c.pool.free with
  | nil =>
    refine ⟨[], ?_⟩
    simp only [play, Call.on_bind, on_obtain_of_nil next, Call.on_pure]
    exact (Evolves.refl c).of_turns_eq fun j => by simp
  | cons id rest =>
    -- Every part finds the voice in use and still, as the part before it left it.
    obtain ⟨_, c₁, done₁, voice₁, active₁, still₁, evolves₁⟩ := obtain_succeeds sound next
    obtain ⟨_, c₂, done₂, voice₂, active₂, still₂, evolves₂⟩ :=
      adjust_succeeds voice₁ active₁ still₁ (.recycle true)
    obtain ⟨_, c₃, done₃, voice₃, active₃, still₃, evolves₃⟩ :=
      adjust_succeeds voice₂ active₂ still₂ (.volume left right)
    obtain ⟨_, c₄, done₄, voice₄, active₄, still₄, evolves₄⟩ :=
      adjust_succeeds voice₃ active₃ still₃ (.speed speed)
    obtain ⟨v, c₅, done₅, voice₅, active₅, still₅, evolves₅⟩ :=
      adjust_succeeds voice₄ active₄ still₄ (.loops loops)
    have evolves₆ := (Evolves.of_change voice₅ (.start active₅ still₅)).delivered
    have last : ((play left right speed loops).on c).2 = ((c₅.changed (c₅.pool.set id
        (v.turned { v.snap with playing := true })) [.voice .start id v.cursor]).delivered) := by
      simp only [play, setRecycle_eq, setVolume_eq, setSpeed_eq, setLoops_eq, Call.on_bind, done₁,
        done₂, done₃, done₄, done₅, on_start voice₅ active₅ still₅, Call.on_pure]
    rw [last]
    refine ⟨_, (evolves₁.trans (evolves₂.trans (evolves₃.trans (evolves₄.trans
      (evolves₅.trans evolves₆))))).of_turns_eq fun j => ?_⟩
    by_cases same : id = j
    · simp [same]
    · simp [same, Ne.symm same]

end Clip

/-- Whatever a call answers, it is made of changes. -/
theorem Request.evolves {c : Clip} (sound : c.pool.Sound) (r : Request) :
    ∃ events, c.Evolves (r.turns c ·) events (r.after c) := by
  cases r with
  | obtain => exact Clip.evolves_obtain sound
  | release id => exact c.evolves_release id
  | play left right speed loops => exact Clip.evolves_play sound left right speed loops
  | start id => exact c.evolves_start id
  | stop id => exact c.evolves_stop id
  | seek id position => exact c.evolves_seek id position
  | seekMicros id micros =>
    rw [after, Clip.on_seekMicros]
    exact c.evolves_seek id _
  | seekFraction id fraction =>
    rw [after, Clip.on_seekFraction]
    exact c.evolves_seek id _
  | setVolume id left right => exact ⟨[], c.evolves_adjust id (.volume left right)⟩
  | setPan id volume pan law =>
    exact ⟨[], c.evolves_adjust id (.volume (law.gains volume pan).1 (law.gains volume pan).2)⟩
  | setSpeed id speed => exact ⟨[], c.evolves_adjust id (.speed speed)⟩
  | setLoops id count => exact ⟨[], c.evolves_adjust id (.loops count)⟩
  | setRecycle id recycle => exact ⟨[], c.evolves_adjust id (.recycle recycle)⟩

end SamplePlayer
