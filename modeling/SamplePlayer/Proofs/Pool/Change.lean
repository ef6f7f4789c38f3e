import Mathlib.Logic.Function.Basic
import SamplePlayer.Clip.Voices
import SamplePlayer.Proofs.Epoch

/-!
# The changes of a pool

Whatever happens to a clip, its pool goes through changes of a few kinds, each of them about one
voice: a voice is obtained or released, started, stopped or moved, its parameters are set, a pass
takes one of its loops, or a pass is written back to it. A change tells how many transitions of the
voice it is (none or one) and which events it raises. Invariants of a clip are proved of single
changes and follow for everything that is made of them.

## Main definitions

* `Adjustment`: what can be set on a voice without a transition.
* `Pool.Change`: a single change.
* `Pool.Changes`: any number of changes, with the events put together in order.

## Main results

* `Pool.Change.epoch_eq`: the epoch of a voice counts its transitions.
-/

namespace SamplePlayer

/-- What can be set on a voice without a transition. -/
inductive Adjustment where
  | volume (left right : Float32)
  | speed (x : Float32)
  | loops (count : Int32)
  | recycle (on : Bool)

namespace Adjustment

/-- The voice with something set. -/
def apply : Adjustment → Voice → Voice
  | volume l r, v => { v with
    left := { v.left with target := Clip.clampGain l }
    right := { v.right with target := Clip.clampGain r } }
  | speed x, v => { v with speed := { v.speed with target := Clip.clampSpeed x } }
  | loops count, v => v.setLoops count
  | recycle on, v => { v with recycle := on }

variable (a : Adjustment) (v : Voice)

@[simp] theorem active_apply : (a.apply v).active = v.active := by cases a <;> rfl

@[simp] theorem playing_apply : (a.apply v).playing = v.playing := by cases a <;> rfl

@[simp] theorem epoch_apply : (a.apply v).epoch = v.epoch := by cases a <;> rfl

end Adjustment

namespace Voice

variable (v w : Voice)

/-- What a transition of `v` leaves behind if its body makes `w` of it. -/
def turned : Voice := { w with epoch := v.epoch.after 1 }

/-- The voice with the ramps at which a pass arrived. -/
def ramped (p : Pass) : Voice := { v with
  left := { v.left with ramp := p.left }
  right := { v.right with ramp := p.right }
  speed := { v.speed with ramp := p.speed.ramp } }

/-- The voice with the cursor as well. -/
def placed (p : Pass) : Voice := { v.ramped p with cursor := p.cursor }

@[simp] theorem active_takeLoop : v.takeLoop.2.active = v.active := by
  unfold takeLoop; split <;> rfl

@[simp] theorem playing_takeLoop : v.takeLoop.2.playing = v.playing := by
  unfold takeLoop; split <;> rfl

@[simp] theorem epoch_takeLoop : v.takeLoop.2.epoch = v.epoch := by
  unfold takeLoop; split <;> rfl

end Voice

namespace Pool

variable {m : Mixer} {pool pool' : Pool} {id : VoiceId}

@[simp] theorem free_set (v : Voice) : (pool.set id v).free = pool.free := rfl

@[simp] theorem polyphony_set (v : Voice) : (pool.set id v).polyphony = pool.polyphony := by
  simp [polyphony, set]

theorem getElem?_set (v : Voice) (j : VoiceId) : (pool.set id v).voices[j]? =
    if id = j then pool.voices[j]?.map fun _ => v else pool.voices[j]? := by
  simp only [set, Array.getElem?_setIfInBounds]
  grind

/-- Replacing a voice by itself is no change. -/
theorem set_of_voice {v : Voice} (voice : pool.voices[id]? = some v) : pool.set id v = pool := by
  obtain ⟨inside, rfl⟩ := Array.getElem?_eq_some_iff.mp voice
  simp [set, Array.setIfInBounds, inside]

@[simp] theorem set_set (v w : Voice) : (pool.set id v).set id w = pool.set id w := by
  simp [set]

@[simp] theorem voices_giveBack : (pool.giveBack id).voices = pool.voices := by
  unfold giveBack; split <;> rfl

@[simp] theorem polyphony_giveBack : (pool.giveBack id).polyphony = pool.polyphony := by
  simp [polyphony]

theorem full_eq_false_iff : pool.full = false ↔ pool.available < pool.polyphony := by
  rw [full, decide_eq_false_iff_not, Nat.not_le]

theorem free_giveBack (room : pool.full = false) :
    (pool.giveBack id).free = pool.free ++ [id] := by
  simp [giveBack, room]

/-- A single change of the voice `id`, which is `v` before it. The number of its transitions and
the events it raises are told. -/
inductive Change (m : Mixer) (pool : Pool) (id : VoiceId) (v : Voice) :
    Nat → List Event → Pool → Prop
  -- What callers do: they set parameters, and everything else in a transition.
  | adjust (a : Adjustment) (active : v.active) : Change m pool id v 0 [] (pool.set id (a.apply v))
  | obtain {rest : List VoiceId} (next : pool.free = id :: rest) :
    Change m pool id v 1 [.voice .obtain id 0.0]
      { pool.set id (v.turned { v.reset with active := true }) with free := rest }
  | release (active : v.active) :
    Change m pool id v 1 [.voice .release id v.cursor]
      ((pool.set id (v.turned { v with active := false, playing := false })).giveBack id)
  | idle : Change m pool id v 1 [] (pool.set id (v.turned v))
  | start (active : v.active) (still : v.playing = false) :
    Change m pool id v 1 [.voice .start id v.cursor]
      (pool.set id (v.turned { v.snap with playing := true }))
  | stop (active : v.active) (playing : v.playing) :
    Change m pool id v 1 [.voice .stop id v.cursor]
      (pool.set id (v.turned { v with playing := false }))
  | seek (place : Float) (active : v.active) (still : v.playing = false) :
    Change m pool id v 1 [] (pool.set id (v.turned { v with
      cursor := Number.clamp (if place.isNaN then 0.0 else place) 0.0 m.bank.lastFrame }))
  -- What the mixer does: it takes a loop on the way, and writes a pass back at the end.
  | takeLoop : Change m pool id v 0 [] (pool.set id v.takeLoop.2)
  | carry {p : Pass} (active : v.active) (playing : v.playing) (unfinished : p.finished = false) :
    Change m pool id v 0 (List.replicate p.loops (.voice .loop id 0.0))
      (pool.set id (v.placed p))
  | finish {p : Pass} (active : v.active) (playing : v.playing) (finished : p.finished)
      (keep : v.recycle = false) :
    Change m pool id v 0
      (List.replicate p.loops (.voice .loop id 0.0) ++ [.voice .stop id m.bank.lastFrame])
      (pool.set id { v.ramped p with cursor := 0.0, playing := false })
  | expire {p : Pass} (active : v.active) (playing : v.playing) (finished : p.finished)
      (recycle : v.recycle) :
    Change m pool id v 0
      (List.replicate p.loops (.voice .loop id 0.0) ++
        [.voice .stop id m.bank.lastFrame, .voice .release id 0.0])
      ((pool.set id { v.ramped p with cursor := 0.0, active := false, playing := false }).giveBack
        id)

/-- Any number of changes, one after the other. -/
inductive Changes (m : Mixer) (pool : Pool) : List Event → Pool → Prop
  | none : Changes m pool [] pool
  | snoc {events es : List Event} {id : VoiceId} {v : Voice} {n : Nat} {q r : Pool}
      (before : Changes m pool events q) (voice : q.voices[id]? = some v)
      (last : Change m q id v n es r) : Changes m pool (events ++ es) r

namespace Change

variable {v : Voice} {n : Nat} {es : List Event}

theorem changes (c : Change m pool id v n es pool') (voice : pool.voices[id]? = some v) :
    Changes m pool es pool' := by
  simpa using Changes.snoc .none voice c

/-- A change leaves the other voices alone. -/
theorem getElem?_of_ne (c : Change m pool id v n es pool') {j : VoiceId} (other : j ≠ id) :
    pool'.voices[j]? = pool.voices[j]? := by
  have away (w : Voice) : (pool.set id w).voices[j]? = pool.voices[j]? := by
    rw [getElem?_set, if_neg (Ne.symm other)]
  cases c <;> simpa only [voices_giveBack] using away _

/-- The voice is still there, and its epoch moved on by the transitions. -/
theorem epoch_eq (c : Change m pool id v n es pool') (voice : pool.voices[id]? = some v) :
    ∃ w, pool'.voices[id]? = some w ∧ w.epoch = v.epoch.after n := by
  have here (w : Voice) : (pool.set id w).voices[id]? = some w := by
    simp [getElem?_set, voice]
  -- Going back to the queue does not touch the voices.
  have back (w : Voice) : ((pool.set id w).giveBack id).voices[id]? = some w := by
    rw [voices_giveBack, here]
  cases c with
  | adjust a => exact ⟨_, here _, by simp⟩
  | obtain => exact ⟨_, here _, rfl⟩
  | release => exact ⟨_, back _, rfl⟩
  | idle => exact ⟨_, here _, rfl⟩
  | start => exact ⟨_, here _, rfl⟩
  | stop => exact ⟨_, here _, rfl⟩
  | seek => exact ⟨_, here _, rfl⟩
  | takeLoop => exact ⟨_, here _, by simp⟩
  | carry => exact ⟨_, here _, by simp [Voice.placed, Voice.ramped]⟩
  | finish => exact ⟨_, here _, by simp [Voice.ramped]⟩
  | expire => exact ⟨_, back _, by simp [Voice.ramped]⟩

/-- The number of voices never changes. -/
theorem polyphony_eq (c : Change m pool id v n es pool') : pool'.polyphony = pool.polyphony := by
  cases c
  case obtain => exact (polyphony_set _ : (pool.set id _).polyphony = pool.polyphony)
  all_goals simp

end Change

theorem Changes.polyphony_eq {events : List Event} (c : Changes m pool events pool') :
    pool'.polyphony = pool.polyphony := by
  induction c with
  | none => rfl
  | snoc _ _ last ih => rw [last.polyphony_eq, ih]

theorem Changes.trans {q r : Pool} {es es' : List Event} (first : Changes m pool es q)
    (second : Changes m q es' r) : Changes m pool (es ++ es') r := by
  induction second with
  | none => simpa using first
  | snoc _ voice last ih =>
    rw [← List.append_assoc]
    exact .snoc ih voice last

end Pool

end SamplePlayer
