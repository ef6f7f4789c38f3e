import SamplePlayer.Proofs.Clip.Rejection
import SamplePlayer.Proofs.Playback.Deeds

/-!
# Which calls fail

All calls on a voice go by one table. A number that no voice has is refused first, then a voice that
is not in use, and last, if the call is a start or a seek, a voice that plays. Whatever is not
refused succeeds. The checks are made in several places, some of them within a transition, so a
refused call may leave a mark: the epoch of the voice has moved, or the events that waited in the
queue were handed out. Nothing else is different, and no call touches a voice other than its own.

## Main definitions

* `Request.voice?`, `Query.voice?`, `Deed.voice?`: the voice that something is asked of.
* `Deed.clash?`: what it is refused with while the voice plays.
* `Pool.verdict`: the table.
* `Clip.Spared`: a clip that a refused call leaves behind.
* `Clip.Judged`: a call that goes by the table.

## Main results

* `Deed.judged`: every call on a voice goes by the table.
-/

namespace SamplePlayer

/-- Why something was refused, if it was. -/
def CallError.of? {α : Type} : Except CallError α → Option CallError
  | .ok _ => none
  | .error e => some e

/-! ### Calls on a voice -/

/-- The voice that a call is made on. Obtaining and playing choose theirs themselves. -/
def Request.voice? : Request → Option VoiceId
  | obtain | play .. => none
  | release id | start id | stop id | seek id _ | seekMicros id _ | seekFraction id _ => some id
  | setVolume id .. | setPan id .. | setSpeed id _ | setLoops id _ | setRecycle id _ => some id

/-- What a call is refused with while its voice plays. -/
def Request.clash? : Request → Option CallError
  | start id => some (.alreadyPlaying id)
  | seek id _ | seekMicros id _ | seekFraction id _ => some (.seekWhilePlaying id)
  | _ => none

/-- The voice that a question is about, if it has to be in use. Whether it is in use can be asked of
every voice. -/
def Query.voice? : Query → Option VoiceId
  | volume id | speed id | loops id | recycle id | position id | isPlaying id => some id
  | isActive _ | activeCount | state | description => none

/-- Why a question was not answered, if it was not. -/
def Query.refusal? : (q : Query) → q.Value → Option CallError
  | volume _, value | speed _, value | loops _, value | position _, value => CallError.of? value
  | recycle _, value | isPlaying _, value | isActive _, value => CallError.of? value
  | activeCount, _ | state, _ | description, _ => none

/-- Why a call was refused, if it was. -/
def Answer.refusal? : Answer → Option CallError
  | request answer => CallError.of? answer
  | query q value => q.refusal? value
  | _ => none

section

variable {σ : Type}

/-- The voice that something is asked of. -/
def Deed.voice? : Deed σ → Option VoiceId
  | request r => r.voice?
  | query q => q.voice?
  | _ => none

/-- What something is refused with while the voice plays. -/
def Deed.clash? : Deed σ → Option CallError
  | request r => r.clash?
  | _ => none

end

/-! ### The table -/

namespace Pool

variable {pool : Pool} {id : VoiceId} {v : Voice} {e : CallError} {clash : Option CallError}

/-- Whether there is a voice with this number that plays. -/
def plays (pool : Pool) (id : VoiceId) : Bool := pool.voices[id]?.any Voice.playing

/-- What a call on a voice is refused with, if `clash` is what a voice that plays is no good for. -/
def verdict (pool : Pool) (id : VoiceId) (clash : Option CallError) : Option CallError :=
  if pool.polyphony ≤ id then some (.outOfRange id)
  else if !pool.inUse id then some (.inactive id)
  else if pool.plays id then clash
  else none

theorem verdict_of_none (missing : pool.voices[id]? = none) :
    pool.verdict id clash = some (.outOfRange id) :=
  if_pos (Array.getElem?_eq_none_iff.mp missing)

theorem verdict_of_voice (voice : pool.voices[id]? = some v) : pool.verdict id clash =
    if v.active then if v.playing then clash else none else some (.inactive id) := by
  have inside : ¬ pool.polyphony ≤ id := (Array.getElem?_eq_some_iff.mp voice).1.not_ge
  rw [verdict, if_neg inside, inUse_of_voice voice, plays, voice]
  cases v.active <;> rfl

/-- A call finds the voice in use that it asks for, or is refused as the table says. -/
theorem getActive_eq (pool : Pool) (id : VoiceId) :
    (∃ v, pool.voices[id]? = some v ∧ v.active ∧ pool.getActive id = .ok v) ∨
      ∃ e, pool.getActive id = .error e ∧ ∀ clash, pool.verdict id clash = some e := by
  cases voice : pool.voices[id]? with
  | none => exact .inr ⟨_, getActive_of_none voice, fun _ => verdict_of_none voice⟩
  | some v =>
    cases active : v.active
    · exact .inr ⟨_, getActive_of_idle voice active,
        fun _ => by simp [verdict_of_voice voice, active]⟩
    · exact .inl ⟨v, rfl, active, getActive_of_active voice active⟩

end Pool

/-! ### What calls leave behind -/

namespace Clip

variable {c d : Clip} {id : VoiceId} {v : Voice} {e : CallError} {clash : Option CallError}

/-- The clip `d` is `c` but for the epoch of a voice, and its queue may have been handed out. -/
structure Spared (c : Clip) (id : VoiceId) (d : Clip) : Prop where
  voice : ∃ epoch, d.pool.voices[id]? = c.pool.voices[id]?.map ({ · with epoch })
  free : d.pool.free = c.pool.free
  listeners : d.listeners = c.listeners ∨ d.listeners = c.listeners.deliver
  rest : { d with pool := c.pool, listeners := c.listeners } = c

/-- A call on a voice was refused with `refusal`, or succeeded, as the table says. The clip was `c`
before it and is `d` after it. -/
structure Judged (c : Clip) (id : VoiceId) (clash refusal : Option CallError) (d : Clip) :
    Prop where
  refusal_eq : refusal = c.pool.verdict id clash
  spared : refusal.isSome → c.Spared id d
  others : ∀ j ≠ id, d.pool.voices[j]? = c.pool.voices[j]?

theorem Spared.refl (c : Clip) (id : VoiceId) : c.Spared id c where
  voice := by
    cases c.pool.voices[id]? with
    | none => exact ⟨.first, rfl⟩
    | some v => exact ⟨v.epoch, rfl⟩
  free := rfl
  listeners := .inl rfl
  rest := rfl

/-- A transition that changed nothing. -/
theorem Spared.turned (voice : c.pool.voices[id]? = some v) :
    c.Spared id (c.changed (c.pool.set id (v.turned v)) []) where
  voice := ⟨(v.turned v).epoch, by simp [changed, Pool.getElem?_set, voice, Voice.turned]⟩
  free := rfl
  listeners := .inl (by simp [changed, Listeners.postAll])
  rest := rfl

namespace Judged

theorem refused (verdict : c.pool.verdict id clash = some e) : c.Judged id clash (some e) c :=
  ⟨verdict.symm, fun _ => .refl c id, fun _ _ => rfl⟩

/-- A call that was refused within a transition. -/
theorem turned (verdict : c.pool.verdict id clash = some e) (voice : c.pool.voices[id]? = some v) :
    c.Judged id clash (some e) (c.changed (c.pool.set id (v.turned v)) []) where
  refusal_eq := verdict.symm
  spared _ := .turned voice
  others j other := by
    change (c.pool.set id _).voices[j]? = _
    rw [Pool.getElem?_set, if_neg other.symm]

/-- A voice that plays was found out. -/
theorem clashed (voice : c.pool.voices[id]? = some v) (active : v.active) (playing : v.playing) :
    c.Judged id (some e) (some e) (c.changed (c.pool.set id (v.turned v)) []) :=
  .turned (by simp [Pool.verdict_of_voice voice, active, playing]) voice

theorem done (verdict : c.pool.verdict id clash = none) {w : Voice}
    (voices : d.pool.voices = (c.pool.set id w).voices) : c.Judged id clash none d where
  refusal_eq := verdict.symm
  spared refusal := by simp at refusal
  others j other := by rw [voices, Pool.getElem?_set, if_neg other.symm]

end Judged

theorem judged_release (c : Clip) (id : VoiceId) :
    c.Judged id none (CallError.of? ((release id).on c).1) ((release id).on c).2 := by
  cases voice : c.pool.voices[id]? with
  | none =>
    rw [on_release_of_none voice]
    exact .refused (Pool.verdict_of_none voice)
  | some v =>
    have verdict : c.pool.verdict id none = _ := Pool.verdict_of_voice voice
    cases active : v.active
    · rw [on_release_of_idle voice active]
      have judged : c.Judged id none (some (.inactive id)) _ :=
        .turned (by simp [verdict, active]) voice
      -- What waited in the queue is handed out all the same.
      exact { judged with spared := fun _ => { Spared.turned voice with
        listeners := .inr (by simp [delivered, changed, Listeners.postAll]) } }
    · rw [on_release voice active]
      exact .done (by simp [verdict, active]) Pool.voices_giveBack

theorem judged_adjust (c : Clip) (id : VoiceId) (f : Voice → Voice) :
    c.Judged id none (CallError.of? ((adjust id f).on c).1) ((adjust id f).on c).2 := by
  obtain ⟨v, voice, active, -⟩ | ⟨e, refused, verdict⟩ := c.pool.getActive_eq id
  · rw [on_adjust voice active]
    exact .done (by simp [Pool.verdict_of_voice voice, active]) rfl
  · rw [on_adjust_of_error refused]
    exact .refused (verdict none)

theorem judged_start (c : Clip) (id : VoiceId) : c.Judged id (some (.alreadyPlaying id))
    (CallError.of? ((start id).on c).1) ((start id).on c).2 := by
  obtain ⟨v, voice, active, -⟩ | ⟨e, refused, verdict⟩ := c.pool.getActive_eq id
  · cases playing : v.playing
    · rw [on_start voice active playing]
      exact .done (by simp [Pool.verdict_of_voice voice, active, playing]) rfl
    · rw [on_start_of_playing voice active playing]
      exact .clashed voice active playing
  · rw [on_start_of_error refused]
    exact .refused (verdict _)

theorem judged_stop (c : Clip) (id : VoiceId) :
    c.Judged id none (CallError.of? ((stop id).on c).1) ((stop id).on c).2 := by
  obtain ⟨v, voice, active, -⟩ | ⟨e, refused, verdict⟩ := c.pool.getActive_eq id
  · have verdict : c.pool.verdict id none = none := by
      simp [Pool.verdict_of_voice voice, active]
    cases playing : v.playing
    · rw [on_stop_of_still voice active playing]
      exact .done verdict rfl
    · rw [on_stop voice active playing]
      exact .done verdict rfl
  · rw [on_stop_of_error refused]
    exact .refused (verdict none)

theorem judged_seek (c : Clip) (id : VoiceId) (place : Float) :
    c.Judged id (some (.seekWhilePlaying id)) (CallError.of? ((seek id place).on c).1)
      ((seek id place).on c).2 := by
  obtain ⟨v, voice, active, -⟩ | ⟨e, refused, verdict⟩ := c.pool.getActive_eq id
  · cases playing : v.playing
    · rw [on_seek voice active playing]
      exact .done (by simp [Pool.verdict_of_voice voice, active, playing]) rfl
    · rw [on_seek_of_playing voice active playing]
      exact .clashed voice active playing
  · rw [on_seek_of_error refused]
    exact .refused (verdict _)

/-- Whether a voice is in use can be asked of every voice. -/
theorem isActive_eq (c : Clip) (id : VoiceId) : c.isActive id =
    if c.polyphony ≤ id then .error (.outOfRange id) else .ok (c.pool.inUse id) := by
  rw [isActive, polyphony, Pool.polyphony]
  cases voice : c.pool.voices[id]? with
  | none =>
    rw [if_pos (Array.getElem?_eq_none_iff.mp voice), Pool.get_of_none voice]
    rfl
  | some v =>
    rw [if_neg (Array.getElem?_eq_some_iff.mp voice).1.not_ge, Pool.get_of_voice voice,
      Pool.inUse_of_voice voice]
    rfl

end Clip

/-! ### All calls -/

/-- A call is judged by how it went, not by the number it tells. -/
theorem Clip.Judged.quietly {c : Clip} {id : VoiceId} {clash : Option CallError} {x : Call Unit}
    (h : c.Judged id clash (CallError.of? (x.on c).1) (x.on c).2) :
    c.Judged id clash (CallError.of? ((Request.call.quietly x).on c).1)
      ((Request.call.quietly x).on c).2 := by
  rw [Request.on_quietly]
  cases answer : (x.on c).1 <;> rwa [answer] at h

theorem Request.judged_after {r : Request} {id : VoiceId} (named : r.voice? = some id) (c : Clip) :
    c.Judged id r.clash? (CallError.of? (r.call.on c).1) (r.call.on c).2 := by
  cases r with
  | obtain | play => simp [voice?] at named
  | release => cases named; exact (c.judged_release id).quietly
  | start => cases named; exact (c.judged_start id).quietly
  | stop => cases named; exact (c.judged_stop id).quietly
  | seek _ place => cases named; exact (c.judged_seek id place).quietly
  | seekMicros _ micros =>
    cases named
    refine Clip.Judged.quietly ?_
    rw [Clip.on_seekMicros]
    exact c.judged_seek id _
  | seekFraction _ fraction =>
    cases named
    refine Clip.Judged.quietly ?_
    rw [Clip.on_seekFraction]
    exact c.judged_seek id _
  | setVolume | setPan | setSpeed | setLoops | setRecycle =>
    cases named
    exact (c.judged_adjust id _).quietly

/-- Questions about a voice in use read it, and about others they are refused. -/
theorem Query.refusal?_answer {σ ω : Type} {q : Query} {id : VoiceId} (named : q.voice? = some id)
    (p : Playback σ ω) : q.refusal? (q.answer p) = p.clip.pool.verdict id none := by
  have read {α : Type} (f : Voice → α) : CallError.of? ((p.clip.pool.getActive id).map f) =
      p.clip.pool.verdict id none := by
    obtain ⟨v, voice, active, found⟩ | ⟨e, refused, verdict⟩ := p.clip.pool.getActive_eq id
    · rw [found, Pool.verdict_of_voice voice, if_pos active, ite_self]
      rfl
    · rw [refused, verdict]
      rfl
  cases q with
  | isActive | activeCount | state | description => simp [voice?] at named
  | volume | speed | loops | recycle | position | isPlaying =>
    obtain rfl := Option.some.inj named
    exact read _

variable {σ ω : Type}

/-- Every call on a voice goes by the table, whatever its arguments are. If it is refused, nothing
is different but the epoch of the voice, no event is raised, and only those that waited may have
been handed out. If it succeeds, no voice but its own is touched. Whether a voice is in use can be
asked of every number that a voice has. -/
theorem Deed.judged (io : OutputInterface σ ω) (p : Playback σ ω) (id : VoiceId) :
    (∀ deed : Deed σ, deed.voice? = some id → p.clip.Judged id deed.clash?
      (deed.perform io p).1.refusal? (deed.perform io p).2.clip) ∧
    p.clip.isActive id = if p.clip.polyphony ≤ id then .error (.outOfRange id)
      else .ok (p.clip.pool.inUse id) := by
  refine ⟨fun deed named => ?_, p.clip.isActive_eq id⟩
  cases deed with
  | request r => exact r.judged_after named p.clip
  | query q => exact ⟨q.refusal?_answer named p, fun _ => .refl _ _, fun _ _ => rfl⟩
  | opening | close | pump | mix | mixDuring | addListener | removeListener =>
    simp [voice?] at named

/-- Calls on the voices of the clip `click`, whose only voice plays. -/
theorem Deed.judged_click :
    let io := ScriptedOutput.interface
    let p : Playback ScriptedOutput Storage := { clip := Underway.click, surroundings := {} }
    ((request (.seekMicros 0 5)).perform io p).1.refusal? = some (.seekWhilePlaying 0) ∧
      ((request (.setLoops 0 2)).perform io p).1.refusal? = none ∧
      ((query (.position 1)).perform io p).1.refusal? = some (.outOfRange 1) ∧
      p.clip.isActive 0 = .ok true := by
  intro io p
  obtain ⟨judged, isActive⟩ := Deed.judged io p 0
  obtain ⟨judged', -⟩ := Deed.judged io p 1
  exact ⟨(judged _ rfl).refusal_eq, (judged _ rfl).refusal_eq, (judged' _ rfl).refusal_eq, isActive⟩

end SamplePlayer
