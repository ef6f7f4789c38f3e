import SamplePlayer.Proofs.Desk.Moves
import SamplePlayer.Proofs.Independence
import SamplePlayer.Proofs.Ramp
import SamplePlayer.Proofs.Reading

/-!
# Mixing reads only frames that are there

The position at which a pass reads the bank comes from the cursor of its voice, which callers put
wherever they like, and from speeds that are added to it frame by frame. It is always a number, and
never beyond the last frame. This does not depend on the epochs, so it holds as well if so many
transitions come in during a pass that the epoch of the voice is again the one that was read.

## Main definitions

* `Voice.Sane`, `Pass.Sane`, `Pool.Sane`, `Desk.Sane`: the invariant.

## Main results

* `Pass.Sane.next`: a frame keeps the invariant.
* `Voice.Sane.makes`: requests keep it, whatever the arguments are.
* `Desk.Sane.run`: runs keep it.
* `Desk.reads_inside`: a pass reads only frames that are there.
-/

namespace SamplePlayer

open Number

variable {m : Mixer} {id : VoiceId}

/-! ### Voices and passes -/

/-- The cursor of the voice is at a place within the bank, and its speed is limited. -/
structure Voice.Sane (m : Mixer) (v : Voice) : Prop where
  place : m.bank.Place v.cursor
  target : Single.Bounded 8 v.speed.target
  steady : v.speed.ramp.Steady

/-- The same of a pass, unless it is over. -/
structure Pass.Sane (m : Mixer) (p : Pass) : Prop where
  place : p.finished = false → m.bank.Place p.cursor
  steady : p.speed.ramp.Steady

namespace Voice

variable {v w : Voice}

/-- Nothing but the cursor and the speed counts. -/
theorem Sane.congr (h : v.Sane m) (cursor : w.cursor = v.cursor) (speed : w.speed = v.speed) :
    w.Sane m :=
  ⟨cursor ▸ h.place, speed ▸ h.target, speed ▸ h.steady⟩

theorem sane_fresh (active : Bool) (epoch : Epoch) :
    ({ active := active, epoch := epoch } : Voice).Sane m :=
  ⟨m.bank.place_zero, bounded_one, Ramp.steady_settled bounded_one⟩

theorem Sane.snap (h : v.Sane m) : v.snap.Sane m :=
  ⟨h.place, h.target, Ramp.steady_settled h.target⟩

/-- Taking a loop moves neither the cursor nor the speed. -/
theorem Sane.takeLoop (h : v.Sane m) : v.takeLoop.2.Sane m := by
  unfold Voice.takeLoop
  split <;> exact h.congr rfl rfl

theorem Sane.apply (h : v.Sane m) (a : Adjustment) : (a.apply v).Sane m := by
  cases a with
  | speed x => exact ⟨h.place, bounded_clampSpeed x, h.steady⟩
  | volume | loops | recycle => exact h.congr rfl rfl

/-- Whatever is requested, with whatever arguments, a voice stays sane. -/
theorem Sane.makes {c : Clip} {r : Request} {j : VoiceId} (few : m.bank.frameCount ≤ 2 ^ 53)
    (h : v.Sane m) (mixer : c.mixer = m) (made : r.Makes c j v w) : w.Sane m := by
  have fresh : (v.turned { v.reset with active := true }).Sane m := sane_fresh true _
  cases made with
  | kept => exact h
  | adjusted => exact h.apply _
  | turned | stopped | released => exact h.congr rfl rfl
  | started => exact h.snap.congr rfl rfl
  | placed one active still place =>
    subst mixer
    exact ⟨Bank.place_clamp few place, h.target, h.steady⟩
  | obtained => exact fresh
  | launched two next left right speed loops =>
    exact (((((fresh.apply (.recycle true)).apply (.volume left right)).apply
      (.speed speed)).apply (.loops loops)).snap).congr rfl rfl

end Voice

namespace Pass

variable {p : Pass} {v : Voice}

theorem sane_startAt (h : v.Sane m) (snapshot : Epoch) : (startAt snapshot v).Sane m :=
  ⟨fun _ => h.place, h.steady⟩

/-- A frame leaves the pass and its voice sane. -/
theorem Sane.next (few : m.bank.frameCount ≤ 2 ^ 53) (h : p.Sane m) (voice : v.Sane m)
    (unfinished : p.finished = false) :
    (p.next m v).2.1.Sane m ∧ (p.next m v).2.2.Sane m := by
  have steady : (p.speed.tick v.speed.target m.steps.speed).ramp.Steady := by
    rw [Pace.ramp_tick]
    exact h.steady.tick voice.target m.steps.speed
  obtain ⟨a, value, slow⟩ := steady.bounded
  have rate : toRat? (p.speed.tick v.speed.target m.steps.speed).rate = some a := by
    rw [Pace.rate_eq]
    exact toRat?_widen value (le_large (slow.trans (by norm_num)))
  have again := voice.takeLoop
  simp only [Pass.next]
  -- The sum is a place unless it is beyond the last frame, and then it is not kept.
  split
  · cases taken : v.takeLoop with
    | mk more w =>
      rw [taken] at again
      cases more with
      | true => exact ⟨⟨fun _ => m.bank.place_zero, steady⟩, again⟩
      | false => exact ⟨⟨by simp, steady⟩, again⟩
  · exact ⟨⟨fun _ => (h.place unfinished).add few rate slow ‹_›, steady⟩, voice⟩

/-- What a pass leaves behind is sane. -/
theorem Sane.writeBack (h : p.Sane m) (voice : v.Sane m) : (p.writeBack m id v).1.Sane m := by
  simp only [Pass.writeBack]
  cases finished : p.finished
  · exact ⟨h.place finished, voice.target, h.steady⟩
  · cases v.recycle
    · exact ⟨m.bank.place_zero, voice.target, h.steady⟩
    · unfold Pool.retired
      simp only [if_true]
      split <;> exact ⟨m.bank.place_zero, voice.target, h.steady⟩

end Pass

/-! ### Pools -/

/-- All voices are sane. -/
def Pool.Sane (m : Mixer) (pool : Pool) : Prop :=
  ∀ ⦃id : VoiceId⦄ ⦃v : Voice⦄, pool.voices[id]? = some v → v.Sane m

/-- The voices of the clip are sane, and this is how they are mixed. -/
structure Clip.Sane (m : Mixer) (c : Clip) : Prop where
  mixer_eq : c.mixer = m
  pool : c.pool.Sane m

/-! ### Steps and runs -/

namespace Desk

variable {c : Clip} {d e : Desk} {n : Nat} {old : Array Frame}

/-- The voices of the clip and the pass under way, if any, are sane. -/
structure Sane (m : Mixer) (d : Desk) : Prop where
  clip : d.clip.Sane m
  pass : ∀ {id : VoiceId} {p : Pass} {strip : Array Frame},
    d.stage = .passing id p strip → p.Sane m

/-- Operations keep voices and passes sane. -/
theorem law_sane (few : m.bank.frameCount ≤ 2 ^ 53) : Law m (Voice.Sane m) (Pass.Sane m) where
  makes mixer h made := h.makes few mixer made
  enter snapshot h := Pass.sane_startAt h snapshot
  next pass voice unfinished := pass.next few voice unfinished
  writeBack _ pass voice := pass.writeBack voice

theorem sane_iff_upholds : d.Sane m ↔ d.Upholds m (Voice.Sane m) (Pass.Sane m) :=
  ⟨fun h => ⟨h.clip.mixer_eq, fun voice => h.clip.pool voice, h.pass⟩,
    fun h => ⟨⟨h.mixer_eq, fun _ _ voice => h.voice voice⟩, h.pass⟩⟩

theorem sane_resting (made : Pool.make n = .ok c.pool) (old : Array Frame) :
    (resting c old).Sane c.mixer :=
  sane_iff_upholds.mpr (upholds_resting made (Voice.sane_fresh false .first) old)

/-- Steps that may come late keep the voices and the pass sane. -/
theorem Sane.run (few : m.bank.frameCount ≤ 2 ^ 53) (h : d.Sane m)
    (run : Relation.ReflTransGen Move d e) : e.Sane m :=
  sane_iff_upholds.mpr ((law_sane few).run (sane_iff_upholds.mp h) run)

/-- Take a clip that has just been made, with fewer than `2 ^ 53` frames and ramps of any length,
and any run of calls with any arguments and of mixing. When a pass is about to take a frame, its
cursor is a number and not beyond the last frame, and both frames that it reads are there. So it
gets a frame from the bank, and this is what it mixes. -/
theorem reads_inside (made : Pool.make n = .ok c.pool) (few : c.bank.frameCount < 2 ^ 53)
    (run : Relation.ReflTransGen Move (resting c old) d) {p : Pass} {strip : Array Frame}
    (passing : d.stage = .passing id p strip) (unfinished : p.finished = false) :
    let index := toCount (floor p.cursor)
    d.clip.mixer = c.mixer ∧ p.cursor.isNaN = false ∧ ¬ c.bank.lastFrame < p.cursor ∧
      index < c.bank.frameCount ∧ min (index + 1) (c.bank.frameCount - 1) < c.bank.frameCount ∧
      ∃ f, c.bank.read? p.cursor = some f ∧ ∀ v, (p.next c.mixer v).1 =
        f.scale (p.left.tick v.left.target c.mixer.steps.volume).current
          (p.right.tick v.right.target c.mixer.steps.volume).current := by
  intro index
  have sane := (sane_resting made old).run few.le run
  obtain ⟨q, within, -⟩ := (sane.pass passing).place unfinished
  obtain ⟨f, read⟩ := Option.isSome_iff_exists.mp (within.read?_isSome few.le)
  refine ⟨sane.clip.mixer_eq, isNaN_eq_false within.value, ?_, within.index_lt few.le,
    c.bank.successor_lt index, f, read, fun v => ?_⟩
  · rw [c.bank.lastFrame_lt_iff few.le within.value, not_lt]
    exact within.le_last
  · change c.mixer.bank.read? p.cursor = some f at read
    rw [p.next_frame, Pass.sound, read]
    rfl

/-- The clip `blip` plays, and the mixer is about to take the first frame. -/
theorem reads_inside_blip :
    let played := (Request.play 1.0 1.0 1.0 3).after blip
    ∃ v, played.pool.voices[0]? = some v ∧ v.cursor.isNaN = false ∧
      toCount (floor v.cursor) < blip.bank.frameCount ∧ (blip.bank.read? v.cursor).isSome := by
  intro played
  obtain ⟨v, voice, active, playing⟩ :
      ∃ v, played.pool.voices[0]? = some v ∧ v.active ∧ v.playing := ⟨_, rfl, rfl, rfl⟩
  have entered : Run (mixing played ⟨played.pool, Array.replicate 1 .silence, []⟩ [0]) _ :=
    run_enter voice active playing []
  have run := (Relation.ReflTransGen.single (Step.request (resting blip #[])
    (.play 1.0 1.0 1.0 3))).trans ((run_begin played #[] 1).trans entered)
  obtain ⟨-, number, -, inside, -, f, read, -⟩ :=
    reads_inside (n := 1) rfl (by decide) (moves_of_run run) rfl rfl
  exact ⟨v, voice, number, inside, Option.isSome_iff_exists.mpr ⟨f, read⟩⟩

end Desk

end SamplePlayer
