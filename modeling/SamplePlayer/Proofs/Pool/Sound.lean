import Mathlib.Data.List.Perm.Subperm
import Mathlib.Data.List.Range
import SamplePlayer.Proofs.Pool.Change

/-!
# Sound pools

In a sound pool the queue of free voices holds the number of every voice that is not active, once,
and nothing else. A voice that plays is active, and no epoch carries the mark of a change under way.
A new pool is sound, and every change leaves a sound pool sound. So a slot comes back to the queue
exactly when its voice goes out of use, and the queue has a place for it.

## Main definitions

* `Voice.Settled`, `Pool.Sound`.

## Main results

* `Pool.Sound.change`, `Pool.Sound.changes`: changes keep a pool sound.
* `Pool.Sound.available_add_activeCount`: the free and the active voices make up the polyphony.
* `Pool.Sound.full_eq_false`: there is a place for every voice in use.
-/

namespace SamplePlayer

/-- Nobody is changing the voice, and it plays only if it is active. -/
structure Voice.Settled (v : Voice) : Prop where
  active_of_playing : v.playing → v.active
  at_rest : v.epoch.busy = false

namespace Pool

/-- The queue of free voices agrees with the voices, and the voices are settled. -/
structure Sound (pool : Pool) : Prop where
  free_nodup : pool.free.Nodup
  mem_free_iff : ∀ id, id ∈ pool.free ↔ ∃ v, pool.voices[id]? = some v ∧ v.active = false
  settled : ∀ {id : VoiceId} {v : Voice}, pool.voices[id]? = some v → v.Settled

variable {m : Mixer} {pool pool' : Pool} {id : VoiceId} {v w : Voice}

theorem eq_of_make {n : Nat} (made : make n = .ok pool) :
    pool = ⟨Array.replicate n {}, List.range n⟩ := by
  unfold make at made
  split at made
  · contradiction
  · exact (Except.ok.inj made).symm

/-- A new pool is sound. -/
theorem sound_of_make {n : Nat} (made : make n = .ok pool) : pool.Sound ∧ pool.polyphony = n := by
  obtain rfl := eq_of_make made
  refine ⟨⟨List.nodup_range, fun id => ?_, ?_⟩, by simp [polyphony]⟩
  · simp [Array.getElem?_replicate]
  · intro id v voice
    simp only [Array.getElem?_replicate, Option.ite_none_right_eq_some, Option.some.injEq] at voice
    obtain ⟨-, rfl⟩ := voice
    exact ⟨by simp, rfl⟩

/-- A voice with the number of one that was replaced is the new one, and all others are as they
were. -/
theorem eq_or_of_getElem?_set {j : VoiceId} {u : Voice}
    (found : (pool.set id w).voices[j]? = some u) :
    u = w ∨ pool.voices[j]? = some u := by
  rw [getElem?_set] at found
  split at found
  · left
    obtain ⟨-, -, rfl⟩ := Option.map_eq_some_iff.mp found
    rfl
  · exact .inr found

/-- The voices, asked for by their numbers one after the other. -/
theorem map_getElem?_range (pool : Pool) :
    (List.range pool.polyphony).map (pool.voices[·]?) = pool.voices.toList.map some := by
  refine List.ext_getElem (by simp [polyphony]) fun i _ inside => ?_
  have bound : i < pool.voices.size := by simpa using inside
  simp [bound]

namespace Sound

theorem lt_polyphony_of_mem_free (h : pool.Sound) (free : id ∈ pool.free) :
    id < pool.polyphony := by
  obtain ⟨v, voice, -⟩ := (h.mem_free_iff id).mp free
  exact (Array.getElem?_eq_some_iff.mp voice).1

/-- A voice is in the queue exactly if it is not active. -/
theorem mem_free_iff_of_voice (h : pool.Sound) (voice : pool.voices[id]? = some v) :
    id ∈ pool.free ↔ v.active = false := by
  simp [h.mem_free_iff, voice]

theorem settled_set (h : pool.Sound) (settled : w.Settled) {j : VoiceId} {u : Voice}
    (found : (pool.set id w).voices[j]? = some u) : u.Settled := by
  obtain rfl | before := eq_or_of_getElem?_set found
  · exact settled
  · exact h.settled before

/-! ### How changes keep a pool sound -/

/-- A voice may change as long as it stays in or out of use. -/
theorem set (h : pool.Sound) (voice : pool.voices[id]? = some v) (same : w.active = v.active)
    (settled : w.Settled) : (pool.set id w).Sound where
  free_nodup := h.free_nodup
  mem_free_iff j := by
    rw [free_set, h.mem_free_iff j, getElem?_set]
    split
    · subst j
      simp [voice, same]
    · rfl
  settled := h.settled_set settled

/-- The voice at the front of the queue may go into use as it leaves the queue. -/
theorem take {tail : List VoiceId} (h : pool.Sound) (next : pool.free = id :: tail)
    (voice : pool.voices[id]? = some v) (active : w.active) (settled : w.Settled) :
    Sound { pool.set id w with free := tail } where
  free_nodup := (List.nodup_cons.mp (next ▸ h.free_nodup)).2
  mem_free_iff j := by
    -- No other place of the queue holds the number, so it is gone with the front.
    have out : id ∉ tail := (List.nodup_cons.mp (next ▸ h.free_nodup)).1
    have before := h.mem_free_iff j
    rw [next, List.mem_cons] at before
    show j ∈ tail ↔ ∃ u, (pool.set id w).voices[j]? = some u ∧ u.active = false
    rw [getElem?_set]
    split
    · subst j
      simp [voice, active, out]
    · rename_i other
      simpa [Ne.symm other] using before
  settled := h.settled_set settled

/-- While a voice is in use there is a place for it in the queue. -/
theorem full_eq_false (h : pool.Sound) (voice : pool.voices[id]? = some v) (active : v.active) :
    pool.full = false := by
  have out : id ∉ pool.free := by simp [h.mem_free_iff_of_voice voice, active]
  -- The voice and the free ones are distinct slots, so the free ones do not fill the queue.
  have within : id :: pool.free ⊆ List.range pool.polyphony := by
    intro j member
    rw [List.mem_range]
    rcases List.mem_cons.mp member with rfl | free
    · exact (Array.getElem?_eq_some_iff.mp voice).1
    · exact h.lt_polyphony_of_mem_free free
  have distinct : (id :: pool.free).Nodup := List.nodup_cons.mpr ⟨out, h.free_nodup⟩
  have shorter := (List.subperm_of_subset distinct within).length_le
  rw [List.length_cons, List.length_range] at shorter
  exact full_eq_false_iff.mpr shorter

/-- So it does not get lost when it goes out of use. -/
theorem free_giveBack_set (h : pool.Sound) (voice : pool.voices[id]? = some v)
    (active : v.active) (w : Voice) : ((pool.set id w).giveBack id).free = pool.free ++ [id] := by
  have room : (pool.set id w).full = pool.full := by rw [full, full, polyphony_set]; rfl
  rw [free_giveBack (room.trans (h.full_eq_false voice active)), free_set]

/-- A voice in use may go out of use as it joins the queue. -/
theorem giveBack (h : pool.Sound) (voice : pool.voices[id]? = some v) (active : v.active)
    (idle : w.active = false) (settled : w.Settled) :
    ((pool.set id w).giveBack id).Sound where
  free_nodup := by
    have out : id ∉ pool.free := by simp [h.mem_free_iff_of_voice voice, active]
    rw [h.free_giveBack_set voice active]
    exact (List.perm_append_singleton id pool.free).nodup_iff.mpr
      (List.nodup_cons.mpr ⟨out, h.free_nodup⟩)
  mem_free_iff j := by
    rw [h.free_giveBack_set voice active, voices_giveBack, List.mem_append, List.mem_singleton,
      h.mem_free_iff j, getElem?_set]
    split
    · subst j
      simp [voice, idle]
    · rename_i other
      simp [Ne.symm other]
  settled found := h.settled_set settled (by simpa only [voices_giveBack] using found)

theorem change {n : Nat} {es : List Event} (h : pool.Sound) (voice : pool.voices[id]? = some v)
    (c : Change m pool id v n es pool') : pool'.Sound := by
  obtain ⟨still, rest⟩ := h.settled voice
  have turned : (v.epoch.after 1).busy = false := by simpa using rest
  cases c with
  | adjust a active => exact h.set voice (by simp) ⟨by simp [active], by simpa using rest⟩
  | obtain next => exact h.take next voice rfl ⟨fun _ => rfl, turned⟩
  -- A voice goes back to the queue by a release, or when its sound is over.
  | release active => exact h.giveBack voice active rfl ⟨nofun, turned⟩
  | idle => exact h.set voice rfl ⟨still, turned⟩
  | start active => exact h.set voice rfl ⟨fun _ => active, turned⟩
  | stop active => exact h.set voice rfl ⟨fun _ => active, turned⟩
  | seek place active => exact h.set voice rfl ⟨fun _ => active, turned⟩
  | takeLoop => exact h.set voice (by simp) ⟨by simpa using still, by simpa using rest⟩
  | carry active => exact h.set voice rfl ⟨fun _ => active, rest⟩
  | finish active => exact h.set voice rfl ⟨fun _ => active, rest⟩
  | expire active => exact h.giveBack voice active rfl ⟨nofun, rest⟩

theorem changes {events : List Event} (h : pool.Sound)
    (c : Changes m pool events pool') : pool'.Sound := by
  induction c with
  | none => exact h
  | snoc _ voice last before => exact before.change voice last

/-! ### What the queue tells -/

/-- The queue is the list of the voices that are not active, in some order. -/
theorem free_perm (h : pool.Sound) :
    pool.free.Perm ((List.range pool.polyphony).filter fun id =>
      pool.voices[id]?.any fun v => !v.active) := by
  refine (List.perm_ext_iff_of_nodup h.free_nodup (List.nodup_range.filter _)).mpr fun id => ?_
  rw [h.mem_free_iff, List.mem_filter, List.mem_range]
  constructor
  · rintro ⟨v, voice, idle⟩
    exact ⟨(Array.getElem?_eq_some_iff.mp voice).1, by simp [voice, idle]⟩
  · rintro ⟨-, idle⟩
    obtain ⟨v, voice, idle⟩ := (Option.any_eq_true _ _).mp idle
    exact ⟨v, voice, by simpa using idle⟩

/-- Pools with the same voices have the same free voices. -/
theorem free_perm_of_voices_eq (h : pool.Sound) (h' : pool'.Sound)
    (same : pool.voices = pool'.voices) : pool.free.Perm pool'.free := by
  have slots := h.free_perm
  rw [polyphony, same] at slots
  exact slots.trans h'.free_perm.symm

/-- The voices that can be obtained and those that are obtained make up the polyphony. -/
theorem available_add_activeCount (h : pool.Sound) :
    pool.available + pool.activeCount = pool.polyphony := by
  -- The queue is as long as there are voices that are not active; the others are active.
  have idle : pool.available = pool.voices.toList.countP fun v => !v.active := by
    rw [available, h.free_perm.length_eq, ← List.countP_eq_length_filter]
    calc
      _ = ((List.range pool.polyphony).map (pool.voices[·]?)).countP
            (Option.any fun v => !v.active) := by rw [List.countP_map]; rfl
      _ = _ := by rw [map_getElem?_range, List.countP_map]; rfl
  have parts := List.length_eq_countP_add_countP Voice.active (l := pool.voices.toList)
  rw [Array.length_toList, Array.countP_toList] at parts
  rw [idle, activeCount, polyphony, parts, Nat.add_comm]
  simp

/-- No voice is free exactly if all of them are active. -/
theorem free_eq_nil_iff (h : pool.Sound) :
    pool.free = [] ↔ pool.activeCount = pool.polyphony := by
  have total := h.available_add_activeCount
  rw [available] at total
  rw [← List.length_eq_zero_iff]
  omega

end Sound

end Pool

end SamplePlayer
