import SamplePlayer.Proofs.Pool.Change

/-!
# What each call does

For every call on a voice there is one equation for each way in which it can go: the number or the
voice is refused and nothing changes, or the voice is changed, with the events that are queued. The
calls are opened here only; everything else about them is derived from these equations.

## Main definitions

* `Clip.changed`, `Clip.delivered`: what calls do to a clip.
* `Pool.inUse`: whether a call on a voice gets past the first checks.

## Main results

* `Call.on_bind` and its companions: calls one after the other.
* `Clip.on_obtain`, `Clip.on_release`, `Clip.on_adjust`, `Clip.on_start`, `Clip.on_stop`,
  `Clip.on_seek`, and the equations for the cases in which a voice is left as it is.
-/

namespace SamplePlayer

namespace Call

variable {α β : Type} (c : Clip)

theorem on_bind (x : Call α) (f : α → Call β) :
    (x >>= f).on c = match x.on c with
      | (.ok a, d) => (f a).on d
      | (.error e, d) => (.error e, d) := by
  simp only [on, ExceptT.run_bind, StateT.run_bind]
  rcases StateT.run x.run c with ⟨answer, d⟩
  cases answer <;> rfl

theorem on_pure (a : α) : (pure a : Call α).on c = (.ok a, c) := rfl

theorem on_get : (get : Call Clip).on c = (.ok c, c) := rfl

theorem on_modify (f : Clip → Clip) : (modify f : Call PUnit).on c = (.ok ⟨⟩, f c) := rfl

/-- What relates a clip to the one that each of two calls leaves behind relates it to the one that
both of them leave behind, or the first one alone if it fails. -/
theorem rel_bind {R : Clip → Clip → Prop} (trans : ∀ {a b c}, R a b → R b c → R a c)
    {x : Call α} {f : α → Call β} {c : Clip} (first : R c (x.on c).2)
    (second : ∀ a d, R d ((f a).on d).2) : R c ((x >>= f).on c).2 := by
  rw [on_bind]
  rcases done : x.on c with ⟨answer, d⟩
  rw [done] at first
  cases answer with
  | ok a => exact trans first (second a d)
  | error e => exact first

theorem on_lift (x : Except CallError α) : (liftM x : Call α).on c = (x, c) := by
  cases x <;> rfl

end Call

theorem Voice.transition_eq {α : Type} (v : Voice) (change : Voice → Voice × α) :
    v.transition change =
      (v.turned (change { v with epoch := v.epoch.marked }).1,
        (change { v with epoch := v.epoch.marked }).2) := by
  simp [transition, turned]

namespace Pool

variable {pool : Pool} {id : VoiceId} {v : Voice}

/-- Whether there is an active voice with this number. -/
def inUse (pool : Pool) (id : VoiceId) : Bool := pool.voices[id]?.any Voice.active

theorem inUse_of_voice (voice : pool.voices[id]? = some v) : pool.inUse id = v.active := by
  simp [inUse, voice]

theorem get_of_voice (voice : pool.voices[id]? = some v) : pool.get id = .ok v := by
  simp [get, voice]

theorem get_of_none (missing : pool.voices[id]? = none) :
    pool.get id = .error (.outOfRange id) := by
  simp [get, missing]

theorem getActive_of_active (voice : pool.voices[id]? = some v) (active : v.active) :
    pool.getActive id = .ok v := by
  simp [getActive, get_of_voice voice, active, bind, Except.bind]

theorem getActive_of_none (missing : pool.voices[id]? = none) :
    pool.getActive id = .error (.outOfRange id) := by
  simp [getActive, get_of_none missing, bind, Except.bind]

theorem getActive_of_idle (voice : pool.voices[id]? = some v) (idle : v.active = false) :
    pool.getActive id = .error (.inactive id) := by
  simp [getActive, get_of_voice voice, idle, bind, Except.bind]

/-- A call that asks for a voice in use finds it or is told why there is none. -/
theorem active_or_refused (pool : Pool) (id : VoiceId) :
    (∃ v, pool.voices[id]? = some v ∧ v.active = true) ∨
      pool.inUse id = false ∧ ∃ e, pool.getActive id = .error e := by
  cases voice : pool.voices[id]? with
  | none => exact .inr ⟨by simp [inUse, voice], _, getActive_of_none voice⟩
  | some v =>
    cases active : v.active
    · exact .inr ⟨by rw [inUse_of_voice voice, active], _, getActive_of_idle voice active⟩
    · exact .inl ⟨v, rfl, active⟩

/-- The front of the queue goes into use. -/
theorem obtain_of_cons {rest : List VoiceId} (next : pool.free = id :: rest)
    (voice : pool.voices[id]? = some v) :
    pool.obtain = some (id,
      { pool.set id (v.turned { v.reset with active := true }) with free := rest }) := by
  have modified (w : Voice) (f : Voice → Voice) (same : f v = w) :
      pool.voices.modify id f = pool.voices.setIfInBounds id w := by
    apply Array.ext_getElem?
    intro j
    rw [Array.getElem?_modify, Array.getElem?_setIfInBounds]
    grind
  simp only [obtain, next]
  rw [modified (v.turned { v.reset with active := true }) _ (by rw [Voice.transition_eq]; rfl)]
  rfl

theorem release_of_active (voice : pool.voices[id]? = some v) (active : v.active) :
    pool.release id = (some v.cursor,
      (pool.set id (v.turned { v with active := false, playing := false })).giveBack id) := by
  simp only [release, voice, Voice.transition_eq, retired, active]
  rfl

theorem release_of_idle (voice : pool.voices[id]? = some v) (idle : v.active = false) :
    pool.release id = (none, pool.set id (v.turned v)) := by
  simp only [release, voice, Voice.transition_eq, retired]
  rw [if_neg (by simp [idle])]
  rfl

end Pool

namespace Clip

variable {c : Clip} {id : VoiceId} {v : Voice} {e : CallError}

/-- The clip with a new pool and with events queued. -/
def changed (c : Clip) (pool : Pool) (events : List Event) : Clip :=
  { c with pool, listeners := c.listeners.postAll events }

@[simp] theorem changed_nil (c : Clip) : c.changed c.pool [] = c := by
  simp [changed, Listeners.postAll]

theorem changed_changed (c : Clip) (p q : Pool) (es es' : List Event) :
    (c.changed p es).changed q es' = c.changed q (es ++ es') := by
  simp [changed, Listeners.postAll]

/-- The clip with the queue handed out. -/
def delivered (c : Clip) : Clip := { c with listeners := c.listeners.deliver }

/-- What is handed out in two portions is handed out. -/
theorem delivered_changed_delivered (c : Clip) (p q : Pool) (es es' : List Event) :
    ((c.changed p es).delivered.changed q es').delivered =
      (c.changed q (es ++ es')).delivered := by
  simp [changed, delivered, Listeners.deliver, Listeners.postAll, List.foldl_append]

theorem on_deliver : deliver.on c = (.ok (), c.delivered) := rfl

theorem on_voice : (voice id).on c = (c.pool.getActive id, c) := by
  simp only [Clip.voice, Call.on_bind, Call.on_get, Call.on_lift]

/-- The body of a transition sees a marked epoch, but what it leaves behind does not depend on
it. -/
theorem on_transition {α : Type} {change : Voice → Voice × List Event × α}
    (voice : c.pool.voices[id]? = some v) (w : Voice) (es : List Event) (answer : α)
    (body : ∀ epoch, change { v with epoch } = ({ w with epoch }, es, answer)) :
    (transition id change).on c = (.ok answer, c.changed (c.pool.set id (v.turned w)) es) := by
  simp only [transition, Call.on_bind, Call.on_get, Call.on_lift, Pool.get_of_voice voice,
    Voice.transition_eq, body]
  rfl

/-! ### Allocation -/

theorem on_obtain_of_nil (empty : c.pool.free = []) : obtain.on c = (.ok none, c) := by
  simp only [obtain, Call.on_bind, Call.on_get, Pool.obtain, empty, Call.on_pure]

theorem on_obtain {rest : List VoiceId} (next : c.pool.free = id :: rest)
    (voice : c.pool.voices[id]? = some v) :
    obtain.on c = (.ok (some id), (c.changed
      { c.pool.set id (v.turned { v.reset with active := true }) with free := rest }
      [.voice .obtain id 0.0]).delivered) := by
  simp only [obtain, Call.on_bind, Call.on_get, Pool.obtain_of_cons next voice]
  rfl

theorem on_release_of_none (missing : c.pool.voices[id]? = none) :
    (release id).on c = (.error (.outOfRange id), c) := by
  simp only [release, Call.on_bind, Call.on_get, Call.on_lift, Pool.get_of_none missing]

theorem on_release (voice : c.pool.voices[id]? = some v) (active : v.active) :
    (release id).on c = (.ok (), (c.changed
      ((c.pool.set id (v.turned { v with active := false, playing := false })).giveBack id)
      [.voice .release id v.cursor]).delivered) := by
  simp only [release, Call.on_bind, Call.on_get, Call.on_lift, Pool.get_of_voice voice,
    Pool.release_of_active voice active]
  rfl

theorem on_release_of_idle (voice : c.pool.voices[id]? = some v) (idle : v.active = false) :
    (release id).on c = (.error (.inactive id),
      (c.changed (c.pool.set id (v.turned v)) []).delivered) := by
  simp only [release, Call.on_bind, Call.on_get, Call.on_lift, Pool.get_of_voice voice,
    Pool.release_of_idle voice idle]
  rfl

/-! ### Voices that are refused -/

theorem on_adjust_of_error (refused : c.pool.getActive id = .error e) (f : Voice → Voice) :
    (adjust id f).on c = (.error e, c) := by
  simp only [adjust, Call.on_bind, on_voice, refused]

theorem on_start_of_error (refused : c.pool.getActive id = .error e) :
    (start id).on c = (.error e, c) := by
  simp only [start, Call.on_bind, on_voice, refused]

theorem on_stop_of_error (refused : c.pool.getActive id = .error e) :
    (stop id).on c = (.error e, c) := by
  simp only [stop, Call.on_bind, on_voice, refused]

theorem on_seek_of_error (refused : c.pool.getActive id = .error e) (place : Float) :
    (seek id place).on c = (.error e, c) := by
  simp only [seek, Call.on_bind, on_voice, refused]

/-! ### Voices in use -/

theorem on_adjust (voice : c.pool.voices[id]? = some v) (active : v.active) (f : Voice → Voice) :
    (adjust id f).on c = (.ok (), { c with pool := c.pool.set id (f v) }) := by
  simp only [adjust, Call.on_bind, on_voice, Pool.getActive_of_active voice active, Call.on_modify]

theorem on_start (voice : c.pool.voices[id]? = some v) (active : v.active)
    (still : v.playing = false) :
    (start id).on c =
      (.ok (), (c.changed (c.pool.set id (v.turned { v.snap with playing := true }))
        [.voice .start id v.cursor]).delivered) := by
  simp only [start, Call.on_bind, on_voice, Pool.getActive_of_active voice active]
  rw [on_transition voice { v.snap with playing := true } [.voice .start id v.cursor] (.ok ())
    fun epoch => by
      rw [if_neg (by simp [active]), if_neg (by simp [still])]
      rfl]
  simp only [Call.on_lift, on_deliver]

theorem on_start_of_playing (voice : c.pool.voices[id]? = some v) (active : v.active)
    (playing : v.playing) :
    (start id).on c =
      (.error (.alreadyPlaying id), c.changed (c.pool.set id (v.turned v)) []) := by
  simp only [start, Call.on_bind, on_voice, Pool.getActive_of_active voice active]
  rw [on_transition voice v [] (.error (.alreadyPlaying id)) fun epoch => by
    rw [if_neg (by simp [active]), if_pos playing]]
  simp only [Call.on_lift]

theorem on_stop (voice : c.pool.voices[id]? = some v) (active : v.active) (playing : v.playing) :
    (stop id).on c =
      (.ok (), (c.changed (c.pool.set id (v.turned { v with playing := false }))
        [.voice .stop id v.cursor]).delivered) := by
  simp only [stop, Call.on_bind, on_voice, Pool.getActive_of_active voice active]
  rw [on_transition voice { v with playing := false } [.voice .stop id v.cursor] () fun epoch => by
    rw [if_pos playing]]
  simp only [on_deliver]

theorem on_stop_of_still (voice : c.pool.voices[id]? = some v) (active : v.active)
    (still : v.playing = false) :
    (stop id).on c = (.ok (), (c.changed (c.pool.set id (v.turned v)) []).delivered) := by
  have same : ({ v with playing := false } : Voice) = v := by rw [← still]
  simp only [stop, Call.on_bind, on_voice, Pool.getActive_of_active voice active]
  rw [on_transition voice { v with playing := false } [] () fun epoch => by
    rw [if_neg (by simp [still])], same]
  simp only [on_deliver]

theorem on_seek (voice : c.pool.voices[id]? = some v) (active : v.active)
    (still : v.playing = false) (place : Float) :
    (seek id place).on c =
      (.ok (), c.changed (c.pool.set id (v.turned { v with
        cursor := Number.clamp (if place.isNaN then 0.0 else place) 0.0
          c.mixer.bank.lastFrame })) []) := by
  simp only [seek, Call.on_bind, on_voice, Pool.getActive_of_active voice active, Call.on_get]
  rw [on_transition voice { v with
      cursor := Number.clamp (if place.isNaN then 0.0 else place) 0.0 c.mixer.bank.lastFrame }
    [] (.ok ()) fun epoch => by
      rw [if_neg (by simp [still])]
      rfl]
  simp only [Call.on_lift]

theorem on_seek_of_playing (voice : c.pool.voices[id]? = some v) (active : v.active)
    (playing : v.playing) (place : Float) :
    (seek id place).on c =
      (.error (.seekWhilePlaying id), c.changed (c.pool.set id (v.turned v)) []) := by
  simp only [seek, Call.on_bind, on_voice, Pool.getActive_of_active voice active, Call.on_get]
  rw [on_transition voice v [] (.error (.seekWhilePlaying id)) fun epoch => by rw [if_pos playing]]
  simp only [Call.on_lift]

end Clip

end SamplePlayer
