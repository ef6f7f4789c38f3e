import SamplePlayer.Proofs.Pass
import SamplePlayer.Proofs.Playback.Deeds

/-!
# Clips that cannot be told apart

A voice that is not in use may hold anything: where its last owner left it, at which volume, with
how many loops to go. Two clips are alike if they differ in nothing but such voices and in how far
the epochs have counted. Obtaining a voice forgets what it held, and every other call asks first
whether the voice is in use. So a call has the same answer on both clips and leaves them alike.

An epoch is only ever compared with an earlier one of the same voice, and a transition moves it on
by the same distance in both clips. So the lead that one clip has over the other stays as it is.

## Main definitions

* `Voice.later`: a voice whose epoch has counted further.
* `Voice.Alike`, `Pool.Alike`, `Clip.Alike`: what cannot be told apart.
* `Call.Discreet`: calls that do not tell alike clips apart.

## Main results

* `Request.discreet_call`: no request tells alike clips apart.
-/

namespace SamplePlayer

namespace Epoch

variable {e f : Epoch} {k n : Nat}

theorem after_comm (e : Epoch) (k n : Nat) : (e.after k).after n = (e.after n).after k := by
  rw [after_after, after_after, Nat.add_comm]

theorem after_inj : e.after k = f.after k ↔ e = f := by
  cases e
  cases f
  simp [after]

/-- Epochs that agree on whether a change is under way are some transitions apart. -/
theorem exists_after (same : f.busy = e.busy) : ∃ k, f = e.after k := by
  rw [Bool.eq_iff_iff, busy_iff, busy_iff] at same
  have high := e.count.toNat_lt
  have high' := f.count.toNat_lt
  let k := (f.count.toNat + (2 ^ 32 - e.count.toNat)) / 2
  have count : f.count.toNat = (e.after k).count.toNat := by
    rw [toNat_count_after]
    omega
  exact ⟨k, congrArg Epoch.mk (UInt32.toNat_inj.mp count)⟩

end Epoch

namespace Voice

/-- The voice with an epoch that is `k` transitions further. -/
def later (k : Nat) (v : Voice) : Voice := { v with epoch := v.epoch.after k }

@[simp] theorem epoch_later (k : Nat) (v : Voice) : (v.later k).epoch = v.epoch.after k := rfl

@[simp] theorem active_later (k : Nat) (v : Voice) : (v.later k).active = v.active := rfl

@[simp] theorem playing_later (k : Nat) (v : Voice) : (v.later k).playing = v.playing := rfl

/-- Two voices that cannot be told apart: the epoch of one is `k` transitions ahead, and there is no
other difference if the voice is in use or was `seen`. -/
structure Alike (seen : Prop) (k : Nat) (v w : Voice) : Prop where
  epoch_eq : w.epoch = v.epoch.after k
  active_eq : w.active = v.active
  eq_later : seen ∨ v.active → w = v.later k

variable {seen : Prop} {k : Nat} {u v w : Voice}

theorem alike_later (seen : Prop) (k : Nat) (v : Voice) : Alike seen k v (v.later k) :=
  ⟨rfl, rfl, fun _ => rfl⟩

/-- A transition moves both epochs on. -/
theorem turned_later (k : Nat) (v w : Voice) :
    (v.later k).turned (w.later k) = (v.turned w).later k := by
  simp [turned, later, Epoch.after_after, Nat.add_comm]

theorem alike_turned_later (seen : Prop) (k : Nat) (v w : Voice) :
    Alike seen k (v.turned w) ((v.later k).turned (w.later k)) := by
  rw [turned_later]
  exact alike_later ..

theorem Alike.turned (h : Alike seen k v w) : Alike seen k (v.turned v) (w.turned w) where
  epoch_eq := by rw [Voice.turned, h.epoch_eq, Epoch.after_comm]; rfl
  active_eq := h.active_eq
  eq_later known := by rw [h.eq_later known, turned_later]

/-- Obtaining a voice forgets everything but the epoch. -/
theorem Alike.obtained (h : Alike seen k v w) :
    Alike seen k (v.turned { v.reset with active := true })
      (w.turned { w.reset with active := true }) := by
  have same : w.turned { w.reset with active := true } =
      (v.turned { v.reset with active := true }).later k := by
    simp only [Voice.turned, reset, later, h.epoch_eq, Epoch.after_comm v.epoch k]
  rw [same]
  exact alike_later ..

end Voice

namespace Pool

/-- Two pools that cannot be told apart, one of which leads the epochs of the other. -/
structure Alike (seen : VoiceId → Prop) (lead : VoiceId → Nat) (p q : Pool) : Prop where
  free_eq : q.free = p.free
  polyphony_eq : q.polyphony = p.polyphony
  voice : ∀ {id v}, p.voices[id]? = some v →
    ∃ w, q.voices[id]? = some w ∧ Voice.Alike (seen id) (lead id) v w

namespace Alike

variable {seen : VoiceId → Prop} {lead : VoiceId → Nat} {p q : Pool} {id : VoiceId} {v w : Voice}
  {e : CallError}

theorem missing (h : Alike seen lead p q) (missing : p.voices[id]? = none) :
    q.voices[id]? = none := by
  rw [Array.getElem?_eq_none_iff] at missing ⊢
  exact h.polyphony_eq.trans_le missing

/-- A voice in use is the same in both pools, its epoch aside. -/
theorem voice_of_active (h : Alike seen lead p q) (voice : p.voices[id]? = some v)
    (known : seen id ∨ v.active) : q.voices[id]? = some (v.later (lead id)) := by
  obtain ⟨w, found, alike⟩ := h.voice voice
  rw [found, alike.eq_later known]

/-- Fewer voices may have been seen. -/
theorem mono {seen' : VoiceId → Prop} (h : Alike seen lead p q) (fewer : ∀ j, seen' j → seen j) :
    Alike seen' lead p q where
  free_eq := h.free_eq
  polyphony_eq := h.polyphony_eq
  voice {j _} found := by
    obtain ⟨w, found', alike⟩ := h.voice found
    exact ⟨w, found', alike.epoch_eq, alike.active_eq, fun known =>
      alike.eq_later (known.imp_left (fewer j))⟩

/-- A voice in use may be looked at. -/
theorem looked (h : Alike seen lead p q) (voice : p.voices[id]? = some v) (active : v.active) :
    Alike (fun j => seen j ∨ j = id) lead p q where
  free_eq := h.free_eq
  polyphony_eq := h.polyphony_eq
  voice {j u} found := by
    obtain ⟨w, found', alike⟩ := h.voice found
    refine ⟨w, found', alike.epoch_eq, alike.active_eq, fun known => alike.eq_later ?_⟩
    obtain (seen | rfl) | active' := known
    · exact .inl seen
    · rw [voice] at found
      exact .inr (Option.some.inj found ▸ active)
    · exact .inr active'

/-- Each voice may be changed in both pools. -/
theorem modify {f g : Voice → Voice} (h : Alike seen lead p q) (id : VoiceId)
    (change : ∀ v w, p.voices[id]? = some v → Voice.Alike (seen id) (lead id) v w →
      Voice.Alike (seen id) (lead id) (f v) (g w)) :
    Alike seen lead { p with voices := p.voices.modify id f }
      { q with voices := q.voices.modify id g } where
  free_eq := h.free_eq
  polyphony_eq := by simpa [polyphony] using h.polyphony_eq
  voice {j u} found := by
    rw [Array.getElem?_modify] at found ⊢
    split
    · subst j
      rw [if_pos rfl] at found
      obtain ⟨v, voice, rfl⟩ := Option.map_eq_some_iff.mp found
      obtain ⟨w, voice', alike⟩ := h.voice voice
      exact ⟨g w, by rw [voice']; rfl, change v w voice alike⟩
    · rw [if_neg ‹_›] at found
      exact h.voice found

theorem set (h : Alike seen lead p q) (alike : Voice.Alike (seen id) (lead id) v w) :
    Alike seen lead (p.set id v) (q.set id w) where
  free_eq := h.free_eq
  polyphony_eq := by simpa using h.polyphony_eq
  voice {j u} found := by
    rw [getElem?_set] at found ⊢
    split
    · subst j
      rw [if_pos rfl] at found
      obtain ⟨v', voice, rfl⟩ := Option.map_eq_some_iff.mp found
      obtain ⟨w', voice', -⟩ := h.voice voice
      exact ⟨w, by rw [voice']; rfl, alike⟩
    · rw [if_neg ‹_›] at found
      exact h.voice found

theorem giveBack (h : Alike seen lead p q) (id : VoiceId) :
    Alike seen lead (p.giveBack id) (q.giveBack id) := by
  have full : q.full = p.full := by rw [full, full, available, available, h.free_eq, h.polyphony_eq]
  unfold Pool.giveBack
  rw [full]
  split
  · exact h
  · exact ⟨congrArg (· ++ [id]) h.free_eq, h.polyphony_eq, h.voice⟩

/-- The same voices are in use. -/
theorem activeCount_eq (h : Alike seen lead p q) : q.activeCount = p.activeCount := by
  have flags : q.voices.toList.map Voice.active = p.voices.toList.map Voice.active := by
    refine List.ext_getElem? fun j => ?_
    simp only [List.getElem?_map, Array.getElem?_toList]
    cases voice : p.voices[j]? with
    | none => rw [h.missing voice]
    | some v =>
      obtain ⟨w, found, alike⟩ := h.voice voice
      rw [found, Option.map_some, Option.map_some, alike.active_eq]
  have counted (pool : Pool) :
      pool.activeCount = (pool.voices.toList.map Voice.active).countP id := by
    rw [activeCount, List.countP_map, ← Array.countP_toList]
    rfl
  rw [counted, counted, flags]

/-- The number of a voice is refused in both pools for the same reason. -/
theorem get_eq (h : Alike seen lead p q) (voice : p.voices[id]? = none) :
    q.get id = p.get id := by
  rw [get_of_none voice, get_of_none (h.missing voice)]

/-- Any voice is in use in both pools or in neither. -/
theorem get_active_eq (h : Alike seen lead p q) (id : VoiceId) :
    (q.get id).map Voice.active = (p.get id).map Voice.active := by
  cases voice : p.voices[id]? with
  | none => rw [h.get_eq voice]
  | some v =>
    obtain ⟨w, found, alike⟩ := h.voice voice
    rw [get_of_voice voice, get_of_voice found, Except.map, Except.map, alike.active_eq]

/-- A voice in use is found in both pools, and any other is refused in both. -/
theorem getActive_eq (h : Alike seen lead p q) (id : VoiceId) :
    q.getActive id = (p.getActive id).map (Voice.later (lead id)) := by
  cases voice : p.voices[id]? with
  | none => simp [getActive, h.get_eq voice, get_of_none voice, bind, Except.bind, Except.map]
  | some v =>
    obtain ⟨w, found, alike⟩ := h.voice voice
    cases active : v.active
    · simp [getActive, get_of_voice voice, get_of_voice found, alike.active_eq, active, bind,
        Except.bind, Except.map]
    · obtain rfl := alike.eq_later (.inr active)
      rw [getActive_of_active voice active, getActive_of_active found active]
      rfl

theorem getActive_of_error (h : Alike seen lead p q) (refused : p.getActive id = .error e) :
    q.getActive id = .error e := by
  rw [h.getActive_eq, refused]
  rfl

theorem obtain_eq (h : Alike seen lead p q) :
    p.obtain = none ∧ q.obtain = none ∨
      ∃ id p' q', p.obtain = some (id, p') ∧ q.obtain = some (id, q') ∧ Alike seen lead p' q' := by
  cases next : p.free with
  | nil => exact .inl ⟨by simp [obtain, next], by simp [obtain, h.free_eq, next]⟩
  | cons id rest =>
    have next' : q.free = id :: rest := h.free_eq.trans next
    refine .inr ⟨id, _, _, by simp only [obtain, next]; rfl, by simp only [obtain, next']; rfl, ?_⟩
    have obtained := h.modify id (f := fun v => v.turned { v.reset with active := true })
      (g := fun w => w.turned { w.reset with active := true }) fun _ _ _ alike => alike.obtained
    simp only [Voice.transition_eq]
    exact ⟨rfl, obtained.polyphony_eq, obtained.voice⟩

end Alike

end Pool

/-- Two clips that cannot be told apart: they differ in their pools only, and those are alike. -/
structure Clip.Alike (seen : VoiceId → Prop) (lead : VoiceId → Nat) (c d : Clip) : Prop where
  eq_pool : d = { c with pool := d.pool }
  pool : c.pool.Alike seen lead d.pool

namespace Clip.Alike

variable {seen : VoiceId → Prop} {lead : VoiceId → Nat} {c d : Clip} {p q : Pool}

theorem exists_pool (h : Alike seen lead c d) :
    ∃ pool, d = { c with pool } ∧ c.pool.Alike seen lead pool :=
  ⟨d.pool, h.eq_pool, h.pool⟩

theorem mono {seen' : VoiceId → Prop} (h : Alike seen lead c d) (fewer : ∀ j, seen' j → seen j) :
    Alike seen' lead c d := ⟨h.eq_pool, h.pool.mono fewer⟩

theorem looked {id : VoiceId} {v : Voice} (h : Alike seen lead c d)
    (voice : c.pool.voices[id]? = some v) (active : v.active) :
    Alike (fun j => seen j ∨ j = id) lead c d := ⟨h.eq_pool, h.pool.looked voice active⟩

theorem mixer_eq (h : Alike seen lead c d) : d.mixer = c.mixer := by rw [h.eq_pool]

theorem listeners_eq (h : Alike seen lead c d) : d.listeners = c.listeners := by rw [h.eq_pool]

theorem polyphony_eq (h : Alike seen lead c d) : d.polyphony = c.polyphony :=
  h.pool.polyphony_eq

/-- Both clips may get new pools. -/
theorem withPool {seen' : VoiceId → Prop} (h : Alike seen lead c d) (alike : p.Alike seen' lead q) :
    Alike seen' lead { c with pool := p } { d with pool := q } where
  eq_pool := by rw [h.eq_pool]
  pool := alike

/-- Both clips may get new pools and queue the same events. -/
theorem changed (h : Alike seen lead c d) (alike : p.Alike seen lead q) (events : List Event) :
    Alike seen lead (c.changed p events) (d.changed q events) where
  eq_pool := by
    rw [Clip.changed, h.eq_pool]
    rfl
  pool := alike

/-- Whatever is done to the listeners of both clips is not told from the pools. -/
theorem withListeners (h : Alike seen lead c d) (f : Listeners → Listeners) :
    Alike seen lead { c with listeners := f c.listeners }
      { d with listeners := f d.listeners } where
  eq_pool := by rw [h.eq_pool]
  pool := h.pool

theorem delivered (h : Alike seen lead c d) : Alike seen lead c.delivered d.delivered :=
  h.withListeners Listeners.deliver

end Clip.Alike

/-! ### Calls -/

/-- A call that does not tell alike clips apart: it has the same answer on both and leaves them
alike. -/
def Call.Discreet {α : Type} (x : Call α) : Prop :=
  ∀ ⦃seen lead c d⦄, Clip.Alike seen lead c d →
    (x.on d).1 = (x.on c).1 ∧ Clip.Alike seen lead (x.on c).2 (x.on d).2

namespace Call

variable {α β : Type}

theorem discreet_pure (a : α) : Discreet (pure a) := fun _ _ _ _ alike => ⟨rfl, alike⟩

theorem Discreet.bind {x : Call α} {f : α → Call β} (first : x.Discreet)
    (second : ∀ a, (f a).Discreet) : (x >>= f).Discreet := by
  intro seen lead c d alike
  obtain ⟨same, after⟩ := first alike
  rw [on_bind, on_bind]
  -- The second call is made on what the first one left, or not at all.
  rcases done : x.on c with ⟨answer, c'⟩
  rcases done' : x.on d with ⟨answer', d'⟩
  rw [done, done'] at same after
  obtain rfl : answer' = answer := same
  cases answer' with
  | ok a => exact second a after
  | error e => exact ⟨rfl, after⟩

theorem Discreet.quietly {x : Call Unit} (h : x.Discreet) : (Request.call.quietly x).Discreet :=
  h.bind fun _ => discreet_pure none

end Call

namespace Clip

variable {id : VoiceId}

theorem discreet_obtain : Call.Discreet obtain := by
  intro seen lead c d alike
  simp only [obtain, Call.on_bind, Call.on_get]
  obtain ⟨none, none'⟩ | ⟨id, p, q, taken, taken', pools⟩ := alike.pool.obtain_eq
  · rw [none, none']
    exact ⟨rfl, alike⟩
  · rw [taken, taken']
    exact ⟨rfl, (alike.changed pools [.voice .obtain id 0.0]).delivered⟩

theorem discreet_release : Call.Discreet (release id) := by
  intro seen lead c d alike
  cases voice : c.pool.voices[id]? with
  | none =>
    rw [on_release_of_none voice, on_release_of_none (alike.pool.missing voice)]
    exact ⟨rfl, alike⟩
  | some v =>
    obtain ⟨w, voice', voices⟩ := alike.pool.voice voice
    cases active : v.active
    · -- On a voice that is not in use the transition runs for nothing.
      have active' : w.active = false := voices.active_eq.trans active
      rw [on_release_of_idle voice active, on_release_of_idle voice' active']
      exact ⟨rfl, (alike.changed (alike.pool.set voices.turned) []).delivered⟩
    · obtain rfl := voices.eq_later (.inr active)
      rw [on_release voice active, on_release voice' active]
      refine ⟨rfl, (alike.changed ((alike.pool.set ?_).giveBack id) _).delivered⟩
      exact Voice.alike_turned_later _ _ v { v with active := false, playing := false }

/-- A change that does not look at the epoch may be made on a voice in use. -/
theorem discreet_adjust {f : Voice → Voice} (blind : ∀ k v, f (v.later k) = (f v).later k) :
    Call.Discreet (adjust id f) := by
  intro seen lead c d alike
  obtain ⟨v, voice, active⟩ | ⟨-, e, refused⟩ := c.pool.active_or_refused id
  · rw [on_adjust voice active,
      on_adjust (alike.pool.voice_of_active voice (.inr active)) active, blind]
    refine ⟨rfl, ?_⟩
    rw [alike.eq_pool]
    exact ⟨rfl, alike.pool.set (Voice.alike_later ..)⟩
  · rw [on_adjust_of_error refused, on_adjust_of_error (alike.pool.getActive_of_error refused)]
    exact ⟨rfl, alike⟩

theorem discreet_adjustment (a : Adjustment) : Call.Discreet (adjust id a.apply) :=
  discreet_adjust fun k v => by cases a <;> rfl

theorem discreet_start : Call.Discreet (start id) := by
  intro seen lead c d alike
  obtain ⟨v, voice, active⟩ | ⟨-, e, refused⟩ := c.pool.active_or_refused id
  · have voice' := alike.pool.voice_of_active voice (.inr active)
    cases playing : v.playing
    · rw [on_start voice active playing, on_start voice' active playing]
      refine ⟨rfl, (alike.changed (alike.pool.set ?_) _).delivered⟩
      exact Voice.alike_turned_later _ _ v { v.snap with playing := true }
    · rw [on_start_of_playing voice active playing, on_start_of_playing voice' active playing]
      exact ⟨rfl, alike.changed (alike.pool.set (Voice.alike_later ..).turned) []⟩
  · rw [on_start_of_error refused, on_start_of_error (alike.pool.getActive_of_error refused)]
    exact ⟨rfl, alike⟩

theorem discreet_stop : Call.Discreet (stop id) := by
  intro seen lead c d alike
  obtain ⟨v, voice, active⟩ | ⟨-, e, refused⟩ := c.pool.active_or_refused id
  · have voice' := alike.pool.voice_of_active voice (.inr active)
    cases playing : v.playing
    · rw [on_stop_of_still voice active playing, on_stop_of_still voice' active playing]
      exact ⟨rfl, (alike.changed (alike.pool.set (Voice.alike_later ..).turned) []).delivered⟩
    · rw [on_stop voice active playing, on_stop voice' active playing]
      refine ⟨rfl, (alike.changed (alike.pool.set ?_) _).delivered⟩
      exact Voice.alike_turned_later _ _ v { v with playing := false }
  · rw [on_stop_of_error refused, on_stop_of_error (alike.pool.getActive_of_error refused)]
    exact ⟨rfl, alike⟩

theorem discreet_seek (place : Float) : Call.Discreet (seek id place) := by
  intro seen lead c d alike
  obtain ⟨v, voice, active⟩ | ⟨-, e, refused⟩ := c.pool.active_or_refused id
  · have voice' := alike.pool.voice_of_active voice (.inr active)
    cases playing : v.playing
    · rw [on_seek voice active playing, on_seek voice' active playing, alike.mixer_eq]
      refine ⟨rfl, alike.changed (alike.pool.set ?_) []⟩
      exact Voice.alike_turned_later _ _ v { v with cursor := _ }
    · rw [on_seek_of_playing voice active playing, on_seek_of_playing voice' active playing]
      exact ⟨rfl, alike.changed (alike.pool.set (Voice.alike_later ..).turned) []⟩
  · rw [on_seek_of_error refused, on_seek_of_error (alike.pool.getActive_of_error refused)]
    exact ⟨rfl, alike⟩

theorem discreet_seekMicros (micros : UInt64) : Call.Discreet (seekMicros id micros) := by
  intro seen lead c d alike
  have bank : d.bank = c.bank := congrArg Mixer.bank alike.mixer_eq
  rw [on_seekMicros, on_seekMicros, bank]
  exact discreet_seek _ alike

theorem discreet_seekFraction (fraction : Float) : Call.Discreet (seekFraction id fraction) := by
  intro seen lead c d alike
  have bank : d.bank = c.bank := congrArg Mixer.bank alike.mixer_eq
  rw [on_seekFraction, on_seekFraction, bank]
  exact discreet_seek _ alike

theorem discreet_play (left right speed : Float32) (loops : Int32) :
    Call.Discreet (play left right speed loops) := by
  refine discreet_obtain.bind fun found => ?_
  cases found with
  | none => exact Call.discreet_pure none
  | some id =>
    exact (discreet_adjustment (.recycle true)).bind fun _ =>
      (discreet_adjustment (.volume left right)).bind fun _ =>
      (discreet_adjustment (.speed speed)).bind fun _ =>
      (discreet_adjustment (.loops loops)).bind fun _ =>
      discreet_start.bind fun _ => Call.discreet_pure (some id)

end Clip

/-- No request tells alike clips apart. -/
theorem Request.discreet_call (r : Request) : r.call.Discreet := by
  cases r with
  | obtain => exact Clip.discreet_obtain
  | play left right speed loops => exact Clip.discreet_play left right speed loops
  | release => exact Clip.discreet_release.quietly
  | start => exact Clip.discreet_start.quietly
  | stop => exact Clip.discreet_stop.quietly
  | seek _ place => exact (Clip.discreet_seek place).quietly
  | seekMicros _ micros => exact (Clip.discreet_seekMicros micros).quietly
  | seekFraction _ fraction => exact (Clip.discreet_seekFraction fraction).quietly
  | setVolume _ left right => exact (Clip.discreet_adjustment (.volume left right)).quietly
  | setPan _ volume pan law =>
    exact (Clip.discreet_adjustment
      (.volume (law.gains volume pan).1 (law.gains volume pan).2)).quietly
  | setSpeed _ speed => exact (Clip.discreet_adjustment (.speed speed)).quietly
  | setLoops _ count => exact (Clip.discreet_adjustment (.loops count)).quietly
  | setRecycle _ recycle => exact (Clip.discreet_adjustment (.recycle recycle)).quietly

end SamplePlayer
