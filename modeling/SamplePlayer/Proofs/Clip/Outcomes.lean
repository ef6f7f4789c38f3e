import SamplePlayer.Proofs.Clip.Requests
import SamplePlayer.Proofs.Trace

/-!
# What a request makes of a voice

A request leaves most voices as they are. What it makes of the one it is about, told from that voice
alone, is one of a few things: something is set on it, a transition runs on it that may start, stop,
move or release it or find nothing to do, or it is obtained, and set up and started at once by a
request to play. Nothing else can become of a voice, whether the pool is sound or not. So what holds
of a voice under these few changes holds of it whatever is requested. And no request tells of a
loop.

## Main definitions

* `Voice.launched`: a voice that was obtained, set up and started.
* `Request.sets?`: what a request sets.
* `Request.Makes`: what can become of a voice.
* `Clip.Unlooped`, `Clip.Becomes`: a clip in which no more than this changed.

## Main results

* `Request.makes`: nothing else becomes of a voice.
* `Request.Makes.epoch_eq`, `Request.Makes.of_unturned`: what the transitions of a voice tell.
-/

namespace SamplePlayer

/-- The voice obtained anew, set up as asked for, and started. -/
def Voice.launched (v : Voice) (left right speed : Float32) (loops : Int32) : Voice :=
  let w := (Adjustment.loops loops).apply ((Adjustment.speed speed).apply
    ((Adjustment.volume left right).apply
      ((Adjustment.recycle true).apply (v.turned { v.reset with active := true }))))
  w.turned { w.snap with playing := true }

namespace Request

/-- What a request sets, and on which voice. -/
def sets? : Request → Option (VoiceId × Adjustment)
  | setVolume id left right => some (id, .volume left right)
  | setPan id volume pan law =>
    some (id, .volume (law.gains volume pan).1 (law.gains volume pan).2)
  | setSpeed id speed => some (id, .speed speed)
  | setLoops id count => some (id, .loops count)
  | setRecycle id recycle => some (id, .recycle recycle)
  | _ => none

/-- What a request on the clip `c` can make of its voice `j`, which is `v` before. -/
inductive Makes (c : Clip) (r : Request) (j : VoiceId) (v : Voice) : Voice → Prop
  -- Without a transition of the voice.
  | kept (none : r.turns c j = 0) : Makes c r j v v
  | adjusted {a : Adjustment} (none : r.turns c j = 0) (sets : r.sets? = some (j, a))
      (active : v.active) : Makes c r j v (a.apply v)
  -- In a transition, which may leave the voice as it is.
  | turned (one : r.turns c j = 1) : Makes c r j v (v.turned v)
  | started (one : r.turns c j = 1) (active : v.active) (still : v.playing = false) :
    Makes c r j v (v.turned { v.snap with playing := true })
  | stopped (one : r.turns c j = 1) (active : v.active) (playing : v.playing) :
    Makes c r j v (v.turned { v with playing := false })
  | placed (one : r.turns c j = 1) (active : v.active) (still : v.playing = false)
      (place : Float) : Makes c r j v (v.turned { v with
        cursor := Number.clamp (if place.isNaN then 0.0 else place) 0.0 c.mixer.bank.lastFrame })
  | released (one : r.turns c j = 1) (named : r = .release j) (active : v.active) :
    Makes c r j v (v.turned { v with active := false, playing := false })
  -- The voice comes from the front of the queue.
  | obtained (one : r.turns c j = 1) (next : c.pool.free.head? = some j) :
    Makes c r j v (v.turned { v.reset with active := true })
  | launched (two : r.turns c j = 2) (next : c.pool.free.head? = some j)
      (left right speed : Float32) (loops : Int32) :
    Makes c r j v (v.launched left right speed loops)

namespace Makes

variable {c : Clip} {r : Request} {j : VoiceId} {v w : Voice}

/-- The epoch tells how many transitions of the voice there were. -/
theorem epoch_eq (h : r.Makes c j v w) : w.epoch = v.epoch.after (r.turns c j) := by
  cases h with
  | kept none => simp [none]
  | adjusted none => simp [none]
  | launched two => simp [two, Voice.launched, Voice.turned, Epoch.after_after]
  | turned one | started one | stopped one | placed one | released one | obtained one =>
    rw [one]
    rfl

/-- Without a transition a voice stays as it is, or something is set on it. -/
theorem of_unturned (h : r.Makes c j v w) (none : r.turns c j = 0) :
    w = v ∨ ∃ a, r.sets? = some (j, a) ∧ v.active ∧ w = a.apply v := by
  cases h with
  | kept => exact .inl rfl
  | adjusted _ sets active => exact .inr ⟨_, sets, active, rfl⟩
  | launched two => omega
  | turned one | started one | stopped one | placed one | released one | obtained one => omega

end Makes

end Request

/-! ### Clips in which one voice changed -/

namespace Clip

variable {c d : Clip} {id : VoiceId} {v w : Voice} {R : VoiceId → Voice → Voice → Prop}

/-- What a listener will hear of the clip `d` that it did not of `c` tells of no loop. -/
def Unlooped (c d : Clip) : Prop :=
  ∀ w, c.listeners.Recording w → d.listeners.Recording w ∧
    ∃ events, d.listeners.record w = c.listeners.record w ++ events ∧
      ∀ j, Occurrence.loop ∉ Event.occurrences j events

namespace Unlooped

theorem refl (c : Clip) : c.Unlooped c :=
  fun _ recording => ⟨recording, [], (List.append_nil _).symm, by simp⟩

theorem trans {e : Clip} (first : c.Unlooped d) (second : d.Unlooped e) : c.Unlooped e := by
  intro w recording
  obtain ⟨recording, events, heard, none⟩ := first w recording
  obtain ⟨recording, events', heard', none'⟩ := second w recording
  exact ⟨recording, events ++ events', by rw [heard', heard, List.append_assoc],
    fun j => by simp [none j, none' j]⟩

/-- Handing out the queue tells nothing new. -/
theorem delivered (h : c.Unlooped d) : c.Unlooped d.delivered := by
  intro w recording
  obtain ⟨recording, events, heard, none⟩ := h w recording
  exact ⟨recording.deliver, events, (Listeners.record_deliver recording).trans heard, none⟩

/-- An event of another kind may be queued. -/
theorem changed (h : c.Unlooped d) (pool : Pool) {what : Occurrence} (place : Float)
    (other : what ≠ .loop) : c.Unlooped (d.changed pool [.voice what id place]) := by
  refine h.trans fun w recording =>
    ⟨recording.postAll _, _, Listeners.record_postAll _, fun j => ?_⟩
  simp only [Event.occurrences, Event.about?, List.filterMap_cons, List.filterMap_nil]
  by_cases same : id = j
  · simpa [same] using other.symm
  · simp [same]

/-- A transition may raise no event. -/
theorem turned (c : Clip) (pool : Pool) : c.Unlooped (c.changed pool []) :=
  fun _ recording => ⟨recording.postAll [], [], Listeners.record_postAll [], by simp⟩

/-- Nothing is told by a change of the voices alone. -/
theorem of_listeners_eq (same : d.listeners = c.listeners) : c.Unlooped d := by
  intro w recording
  rw [same]
  exact refl c w recording

end Unlooped

/-- The clip is mixed as before, its voices became what the relation tells, and no loop was told
of. -/
structure Becomes (c : Clip) (R : VoiceId → Voice → Voice → Prop) (d : Clip) : Prop where
  mixer_eq : d.mixer = c.mixer
  heard : c.Unlooped d
  voices : ∀ j, Option.Rel (R j) c.pool.voices[j]? d.pool.voices[j]?

theorem Becomes.before (h : c.Becomes R d) (voice : d.pool.voices[id]? = some w) :
    ∃ v, c.pool.voices[id]? = some v ∧ R id v w := by
  have here := h.voices id
  rw [voice] at here
  cases before : c.pool.voices[id]? <;> rw [before] at here <;> cases here
  exact ⟨_, rfl, ‹_›⟩

theorem Becomes.after (h : c.Becomes R d) (voice : c.pool.voices[id]? = some v) :
    ∃ w, d.pool.voices[id]? = some w ∧ R id v w := by
  have here := h.voices id
  rw [voice] at here
  cases after : d.pool.voices[id]? <;> rw [after] at here <;> cases here
  exact ⟨_, rfl, ‹_›⟩

theorem becomes_of_voices_eq (mixer : d.mixer = c.mixer) (heard : c.Unlooped d)
    (same : d.pool.voices = c.pool.voices) (kept : ∀ j v, c.pool.voices[j]? = some v → R j v v) :
    c.Becomes R d := by
  refine ⟨mixer, heard, fun j => ?_⟩
  rw [same]
  cases voice : c.pool.voices[j]? with
  | none => exact .none
  | some v => exact .some (kept j v voice)

theorem becomes_of_set (mixer : d.mixer = c.mixer) (heard : c.Unlooped d)
    (set : d.pool.voices = (c.pool.set id w).voices) (voice : c.pool.voices[id]? = some v)
    (here : R id v w) (kept : ∀ j v, j ≠ id → R j v v) : c.Becomes R d := by
  refine ⟨mixer, heard, fun j => ?_⟩
  rw [set, Pool.getElem?_set]
  split
  · subst j
    rw [voice]
    exact .some here
  · rename_i other
    cases c.pool.voices[j]? with
    | none => exact .none
    | some u => exact .some (kept j u (Ne.symm other))

/-- A request for a voice that there is none of leaves all others. -/
theorem becomes_of_missing (mixer : d.mixer = c.mixer) (heard : c.Unlooped d)
    (same : d.pool.voices = c.pool.voices) (missing : c.pool.voices[id]? = none)
    (kept : ∀ j v, j ≠ id → R j v v) : c.Becomes R d := by
  refine becomes_of_voices_eq mixer heard same fun j v found => kept j v ?_
  rintro rfl
  rw [missing] at found
  cases found

/-! ### Requests one by one -/

theorem becomes_adjust (c : Clip) (id : VoiceId) (a : Adjustment) {r : Request}
    (none : ∀ j, r.turns c j = 0) (sets : r.sets? = some (id, a)) :
    c.Becomes (r.Makes c) ((adjust id a.apply).on c).2 := by
  obtain ⟨v, voice, active⟩ | ⟨-, e, refused⟩ := c.pool.active_or_refused id
  · rw [on_adjust voice active]
    exact becomes_of_set rfl (.of_listeners_eq rfl) rfl voice (.adjusted (none id) sets active)
      fun j _ _ => .kept (none j)
  · rw [on_adjust_of_error refused]
    exact becomes_of_voices_eq rfl (.refl c) rfl fun j _ _ => .kept (none j)

section

variable {r : Request} (turns : ∀ j, r.turns c j = if j = id ∧ c.pool.inUse id then 1 else 0)
include turns

theorem turns_of_active (voice : c.pool.voices[id]? = some v) (active : v.active) :
    r.turns c id = 1 ∧ ∀ j v, j ≠ id → r.Makes c j v v := by
  refine ⟨by simp [turns, Pool.inUse_of_voice voice, active], fun j v other => .kept ?_⟩
  simp [turns, other]

theorem becomes_of_refused (idle : c.pool.inUse id = false) : c.Becomes (r.Makes c) c :=
  becomes_of_voices_eq rfl (.refl c) rfl fun j _ _ => .kept (by simp [turns, idle])

theorem becomes_start : c.Becomes (r.Makes c) ((start id).on c).2 := by
  obtain ⟨v, voice, active⟩ | ⟨idle, e, refused⟩ := c.pool.active_or_refused id
  · obtain ⟨one, others⟩ := turns_of_active turns voice active
    cases playing : v.playing
    · rw [on_start voice active playing]
      exact becomes_of_set rfl ((Unlooped.refl c).changed _ _ (by decide)).delivered rfl voice
        (.started one active playing) others
    · rw [on_start_of_playing voice active playing]
      exact becomes_of_set rfl (.turned c _) rfl voice (.turned one) others
  · rw [on_start_of_error refused]
    exact becomes_of_refused turns idle

theorem becomes_stop : c.Becomes (r.Makes c) ((stop id).on c).2 := by
  obtain ⟨v, voice, active⟩ | ⟨idle, e, refused⟩ := c.pool.active_or_refused id
  · obtain ⟨one, others⟩ := turns_of_active turns voice active
    cases playing : v.playing
    · rw [on_stop_of_still voice active playing]
      exact becomes_of_set rfl (Unlooped.turned c _).delivered rfl voice (.turned one) others
    · rw [on_stop voice active playing]
      exact becomes_of_set rfl ((Unlooped.refl c).changed _ _ (by decide)).delivered rfl voice
        (.stopped one active playing) others
  · rw [on_stop_of_error refused]
    exact becomes_of_refused turns idle

theorem becomes_seek (place : Float) : c.Becomes (r.Makes c) ((seek id place).on c).2 := by
  obtain ⟨v, voice, active⟩ | ⟨idle, e, refused⟩ := c.pool.active_or_refused id
  · obtain ⟨one, others⟩ := turns_of_active turns voice active
    cases playing : v.playing
    · rw [on_seek voice active playing]
      exact becomes_of_set rfl (.turned c _) rfl voice (.placed one active playing place) others
    · rw [on_seek_of_playing voice active playing]
      exact becomes_of_set rfl (.turned c _) rfl voice (.turned one) others
  · rw [on_seek_of_error refused]
    exact becomes_of_refused turns idle

end

theorem becomes_release (c : Clip) (id : VoiceId) :
    c.Becomes ((Request.release id).Makes c) ((release id).on c).2 := by
  have others (j : VoiceId) (v : Voice) (other : j ≠ id) : (Request.release id).Makes c j v v :=
    .kept (by simp [Request.turns, other])
  cases voice : c.pool.voices[id]? with
  | none =>
    rw [on_release_of_none voice]
    exact becomes_of_missing rfl (.refl c) rfl voice others
  | some v =>
    have inside : id < c.polyphony := (Array.getElem?_eq_some_iff.mp voice).1
    have one : (Request.release id).turns c id = 1 := by simp [Request.turns, inside]
    cases active : v.active
    · rw [on_release_of_idle voice active]
      exact becomes_of_set rfl (Unlooped.turned c _).delivered rfl voice (.turned one) others
    · rw [on_release voice active]
      exact becomes_of_set rfl ((Unlooped.refl c).changed _ _ (by decide)).delivered
        Pool.voices_giveBack voice (.released one rfl active) others

/-- A number at the front of the queue that no voice has is given out all the same. -/
theorem on_obtain_of_none {rest : List VoiceId} (next : c.pool.free = id :: rest)
    (missing : c.pool.voices[id]? = none) : ∃ d, obtain.on c = (.ok (some id), d) ∧
      d.mixer = c.mixer ∧ c.Unlooped d ∧ d.pool.voices = c.pool.voices := by
  have still (f : Voice → Voice) : c.pool.voices.modify id f = c.pool.voices := by
    apply Array.ext_getElem?
    intro j
    rw [Array.getElem?_modify]
    split
    · subst j
      rw [missing]
      rfl
    · rfl
  simp only [obtain, Call.on_bind, Call.on_get, Pool.obtain, next]
  have told : c.Unlooped (c.changed c.pool [.voice .obtain id 0.0]).delivered :=
    ((Unlooped.refl c).changed _ _ (by decide)).delivered
  exact ⟨_, rfl, rfl, told.trans (.of_listeners_eq rfl),
    still fun v => (v.transition fun v => ({ v.reset with active := true }, ())).1⟩

theorem becomes_obtain (c : Clip) : c.Becomes (Request.obtain.Makes c) (obtain.on c).2 := by
  cases next : c.pool.free with
  | nil =>
    rw [on_obtain_of_nil next]
    exact becomes_of_voices_eq rfl (.refl c) rfl fun j _ _ => .kept (by simp [Request.turns, next])
  | cons id rest =>
    have others (j : VoiceId) (v : Voice) (other : j ≠ id) : Request.obtain.Makes c j v v :=
      .kept (by simp [Request.turns, next, Ne.symm other])
    cases voice : c.pool.voices[id]? with
    | none =>
      obtain ⟨d, done, mixer, heard, same⟩ := on_obtain_of_none next voice
      rw [done]
      exact becomes_of_missing mixer heard same voice others
    | some v =>
      rw [on_obtain next voice]
      exact becomes_of_set rfl ((Unlooped.refl c).changed _ _ (by decide)).delivered rfl voice
        (.obtained (by simp [Request.turns, next]) (by simp [next])) others

/-- Something is set on a voice in use; replacing the voice afterwards undoes it. -/
theorem on_adjust_of_active (voice : c.pool.voices[id]? = some v) (active : v.active)
    (a : Adjustment) : ∃ d, (adjust id a.apply).on c = (.ok (), d) ∧ d.mixer = c.mixer ∧
      d.listeners = c.listeners ∧ d.pool.voices[id]? = some (a.apply v) ∧
      ∀ w, (d.pool.set id w).voices = (c.pool.set id w).voices := by
  refine ⟨_, on_adjust voice active _, rfl, rfl, ?_, fun w => ?_⟩
  · simp [Pool.getElem?_set, voice]
  · exact congrArg Pool.voices (Pool.set_set ..)

/-- A request to play takes the voice from the front of the queue, and nothing of what it asks of
that voice is refused. -/
theorem on_play {rest : List VoiceId} (next : c.pool.free = id :: rest)
    (voice : c.pool.voices[id]? = some v) (left right speed : Float32) (loops : Int32) :
    (play left right speed loops).on c = (.ok (some id), (c.changed
      { c.pool.set id (v.launched left right speed loops) with free := rest }
      [.voice .obtain id 0.0, .voice .start id 0.0]).delivered) := by
  -- After the first call, each finds the clip with the voice that the one before made of it.
  let holding (w : Voice) : Pool := { c.pool.set id w with free := rest }
  obtain ⟨having, having_eq⟩ : ∃ having : Voice → Clip, ∀ w, having w =
    (c.changed (holding w) [.voice .obtain id 0.0]).delivered := ⟨_, fun _ => rfl⟩
  have held (w : Voice) : (having w).pool.voices[id]? = some w := by
    rw [having_eq]
    change (c.pool.set id w).voices[id]? = _
    simp [Pool.getElem?_set, voice]
  have put (w w' : Voice) : (having w).pool.set id w' = holding w' := by
    rw [having_eq]
    change Pool.set (holding w) id w' = _
    simp [holding, Pool.set]
  have obtained : obtain.on c =
      (.ok (some id), having (v.turned { v.reset with active := true })) := by
    rw [having_eq]
    exact on_obtain next voice
  have set (w : Voice) (active : w.active) (a : Adjustment) :
      (adjust id a.apply).on (having w) = (.ok (), having (a.apply w)) := by
    rw [on_adjust (held w) active, put, having_eq, having_eq]
    rfl
  have started (w : Voice) (active : w.active) (still : w.playing = false) :
      (start id).on (having w) = (.ok (), (c.changed
        (holding (w.turned { w.snap with playing := true }))
        [.voice .obtain id 0.0, .voice .start id w.cursor]).delivered) := by
    rw [on_start (held w) active still, put, having_eq, delivered_changed_delivered]
    rfl
  have active : (v.turned { v.reset with active := true }).active := rfl
  have still : (v.turned { v.reset with active := true }).playing = false := rfl
  simp only [play, setRecycle_eq, setVolume_eq, setSpeed_eq, setLoops_eq, Call.on_bind, obtained,
    set, active, started, still, Adjustment.active_apply, Adjustment.playing_apply, Call.on_pure]
  rfl

/-- A request to play finds no voice when the queue is empty. -/
theorem on_play_of_nil (none : c.pool.free = []) (left right speed : Float32) (loops : Int32) :
    (play left right speed loops).on c = (.ok .none, c) := by
  simp only [play, Call.on_bind, on_obtain_of_nil none, Call.on_pure]

theorem becomes_play (c : Clip) (left right speed : Float32) (loops : Int32) :
    c.Becomes ((Request.play left right speed loops).Makes c)
      ((play left right speed loops).on c).2 := by
  cases next : c.pool.free with
  | nil =>
    rw [on_play_of_nil next]
    exact becomes_of_voices_eq rfl (.refl c) rfl fun j _ _ => .kept (by simp [Request.turns, next])
  | cons id rest =>
    have others (j : VoiceId) (v : Voice) (other : j ≠ id) :
        (Request.play left right speed loops).Makes c j v v :=
      .kept (by simp [Request.turns, next, Ne.symm other])
    cases voice : c.pool.voices[id]? with
    | none =>
      obtain ⟨d, done, mixer, heard, same⟩ := on_obtain_of_none next voice
      have refused : d.pool.getActive id = .error (.outOfRange id) :=
        Pool.getActive_of_none (same ▸ voice)
      simp only [play, setRecycle_eq, Call.on_bind, done, on_adjust_of_error refused]
      exact becomes_of_missing mixer heard same voice others
    | some v =>
      rw [on_play next voice]
      have heard : c.Unlooped ((c.changed c.pool [.voice .obtain id 0.0]).delivered.changed
          { c.pool.set id (v.launched left right speed loops) with free := rest }
          [.voice .start id 0.0]).delivered :=
        (((Unlooped.refl c).changed _ _ (by decide)).delivered.changed _ _ (by decide)).delivered
      rw [delivered_changed_delivered] at heard
      exact becomes_of_set rfl heard rfl voice
        (.launched (by simp [Request.turns, next]) (by simp [next]) left right speed loops) others

end Clip

/-- Nothing else becomes of a voice than what the changes tell, whatever is requested. -/
theorem Request.makes (r : Request) (c : Clip) : c.Becomes (r.Makes c) (r.after c) := by
  cases r with
  | obtain => exact Clip.becomes_obtain c
  | release id => exact c.becomes_release id
  | play left right speed loops => exact c.becomes_play left right speed loops
  | start id => exact Clip.becomes_start fun _ => rfl
  | stop id => exact Clip.becomes_stop fun _ => rfl
  | seek id position => exact Clip.becomes_seek (fun _ => rfl) position
  | seekMicros id micros =>
    rw [after, Clip.on_seekMicros]
    exact Clip.becomes_seek (fun _ => rfl) _
  | seekFraction id fraction =>
    rw [after, Clip.on_seekFraction]
    exact Clip.becomes_seek (fun _ => rfl) _
  | setVolume id left right => exact c.becomes_adjust id (.volume left right) (fun _ => rfl) rfl
  | setPan id volume pan law =>
    exact c.becomes_adjust id (.volume (law.gains volume pan).1 (law.gains volume pan).2)
      (fun _ => rfl) rfl
  | setSpeed id speed => exact c.becomes_adjust id (.speed speed) (fun _ => rfl) rfl
  | setLoops id count => exact c.becomes_adjust id (.loops count) (fun _ => rfl) rfl
  | setRecycle id recycle => exact c.becomes_adjust id (.recycle recycle) (fun _ => rfl) rfl

end SamplePlayer
