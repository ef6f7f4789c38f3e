import SamplePlayer.Proofs.Desk.Works
import SamplePlayer.Proofs.Lifecycle
import SamplePlayer.Proofs.Ramp.Approach

/-!
# Gains and speeds arrive at their targets

A ramp knows a new target from the one that it saw last, so nobody tells it when its target is set.
Targets are set at any time, the ramp is taken out of its voice for every pass and put back after
it, and a pass that was overtaken takes all that its ramps did with it. What carries over all this
is small: as long as steps are left the ramp counts them down, and when none is left it is on the
target that it saw last. So when the voice was mixed for as many frames as the ramp is long, and the
target was the same all the while, the ramp has seen it and has no steps left.

## Main definitions

* `Knob`, `Voice.knob`, `Pass.ramp`, `RampSteps.limit`: the two gains and the speed.
* `Ramp.Timely`, `Ramp.Nears`: the invariants of a ramp, and of one with the same target for a
  while.
* `Desk.ramp?`, `Desk.Course`: a ramp that is in its voice or in a pass, and a while.

## Main results

* `Ramp.Timely.tick`, `Ramp.Nears.tick`: a mix step keeps the invariants.
* `Desk.law_timely`, `Desk.Course.nears`: so do steps and runs.
* `Desk.targets_reached`: gains and speeds arrive at their targets.
-/

namespace SamplePlayer

open Number

/-! ### Ramps -/

namespace Ramp

variable {r : Ramp} {target : Float32} {limit : UInt32} {q : ℚ} {n : Nat}
  (number : Single.toRat? target = some q) (length : limit ≠ 0)

/-- The target seen last is a number, at most so many steps are left, and the ramp is on that target
if none is left. -/
structure Timely (limit : UInt32) (r : Ramp) : Prop where
  number : ∃ a, Single.toRat? r.seen = some a
  few : r.remaining ≤ limit
  lands : r.remaining = 0 → Single.toRat? r.current = Single.toRat? r.seen

/-- The target was worth `q` for the last `n` steps. -/
structure Nears (limit : UInt32) (q : ℚ) (n : Nat) (r : Ramp) : Prop where
  seen : 0 < n → Single.toRat? r.seen = some q
  few : r.remaining.toNat ≤ limit.toNat - n

include number in
theorem timely_settled : (settled target).Timely limit :=
  ⟨⟨q, number⟩, UInt32.zero_le, fun _ => rfl⟩

include number length in
theorem timely_retarget (r : Ramp) : (r.retarget target limit).Timely limit :=
  ⟨⟨q, number⟩, UInt32.le_refl _, fun none => absurd none length⟩

theorem Timely.advance (h : r.Timely limit) : r.advance.Timely limit := by
  obtain ⟨a, seen⟩ := h.number
  refine ⟨⟨a, by rw [seen_advance, seen]⟩, ?_, fun none => ?_⟩
  · rw [UInt32.le_iff_toNat_le, toNat_remaining_advance]
    exact (Nat.sub_le ..).trans (UInt32.le_iff_toNat_le.mp h.few)
  · have last := congrArg UInt32.toNat none
    rw [toNat_remaining_advance, UInt32.toNat_zero] at last
    rw [current_advance, seen_advance]
    split
    · exact h.lands (UInt32.toNat_inj.mp ‹_›)
    · rw [if_pos (by omega)]

include number length in
/-- A mix step keeps a ramp timely, whatever number the target is. -/
theorem Timely.tick (h : r.Timely limit) : (r.tick target limit).Timely limit := by
  unfold Ramp.tick
  split
  · exact (timely_retarget number length r).advance
  · exact h.advance

theorem Timely.nears_zero (h : r.Timely limit) : r.Nears limit q 0 :=
  ⟨nofun, UInt32.le_iff_toNat_le.mp h.few⟩

theorem Timely.on_seen (h : r.Timely limit) (none : r.remaining = 0) :
    (r.current == r.seen) = true := by
  obtain ⟨a, seen⟩ := h.number
  exact (Single.beq_iff ((h.lands none).trans seen) seen).mpr rfl

include number

/-- A mix step toward a target that is worth the same. -/
theorem Nears.tick (h : r.Nears limit q n) (timely : r.Timely limit) :
    (r.tick target limit).Nears limit q (n + 1) := by
  obtain ⟨a, seen⟩ := timely.number
  have few := h.few
  unfold Ramp.tick
  cases same : target == r.seen
  · -- The target has just been set, for the ramp has seen none that is worth this.
    have first : n = 0 := by
      by_contra more
      have equal := (Single.beq_iff number (h.seen (Nat.pos_of_ne_zero more))).mpr rfl
      rw [same] at equal
      cases equal
    rw [if_pos (by simp [bne, same])]
    refine ⟨fun _ => by rw [seen_advance]; exact number, ?_⟩
    rw [toNat_remaining_advance, first]
    exact le_rfl
  · -- The target is not new, so a step is counted down unless there is none left.
    rw [if_neg (by simp [bne, same])]
    obtain rfl := (Single.beq_iff number seen).mp same
    refine ⟨fun _ => by rw [seen_advance, seen], ?_⟩
    rw [toNat_remaining_advance]
    omega

include length in
/-- A ramp whose target was worth the same for as many steps as it is long has arrived. -/
theorem Nears.arrives (h : r.Nears limit q n) (timely : r.Timely limit)
    (long : limit.toNat ≤ n) : r.remaining = 0 ∧ (r.current == target) = true := by
  have none : r.remaining = 0 := by
    have few := h.few
    rw [Nat.sub_eq_zero_of_le long, Nat.le_zero] at few
    exact UInt32.toNat_inj.mp few
  have seen := h.seen ((toNat_pos length).trans_le long)
  exact ⟨none, (Single.beq_iff ((timely.lands none).trans seen) number).mpr rfl⟩

end Ramp

/-! ### Knobs -/

/-- What of a voice follows a target. -/
inductive Knob where
  | left
  | right
  | speed

/-- The quantity that a knob sets. -/
def Voice.knob (v : Voice) : Knob → Parameter
  | .left => v.left
  | .right => v.right
  | .speed => v.speed

@[simp] theorem Voice.knob_takeLoop (v : Voice) (k : Knob) : v.takeLoop.2.knob k = v.knob k := by
  unfold takeLoop
  split <;> cases k <;> rfl

/-- The ramp of that quantity on a pass. -/
def Pass.ramp (p : Pass) : Knob → Ramp
  | .left => p.left
  | .right => p.right
  | .speed => p.speed.ramp

/-- How many steps the ramp takes. -/
def RampSteps.limit (s : RampSteps) : Knob → UInt32
  | .left | .right => s.volume
  | .speed => s.speed

theorem RampSteps.limit_ne (s : RampSteps) (k : Knob) : s.limit k ≠ 0 := by
  cases k with
  | left | right => exact s.volume_ne
  | speed => exact s.speed_ne

namespace Pass

variable (m : Mixer) (id : VoiceId) (p : Pass) (v : Voice) (k : Knob)

@[simp] theorem ramp_startAt (snapshot : Epoch) :
    (startAt snapshot v).ramp k = (v.knob k).ramp := by
  cases k <;> rfl

/-- A frame is a mix step of every ramp. -/
theorem ramp_next :
    (p.next m v).2.1.ramp k = (p.ramp k).tick (v.knob k).target (m.steps.limit k) := by
  simp only [next]
  split
  · cases v.takeLoop with
    | mk again w =>
      cases again <;> cases k <;> first | rfl | exact p.speed.ramp_tick _ _
  · cases k <;> first | rfl | exact p.speed.ramp_tick _ _

/-- A frame turns no knob. -/
@[simp] theorem knob_next : (p.next m v).2.2.knob k = v.knob k := by
  obtain ⟨-, same⟩ | ⟨-, -, taken⟩ := p.next_voice m v
  · rw [same]
  · rw [taken, v.knob_takeLoop]

/-- What is written back is the ramp; the target stays. -/
@[simp] theorem knob_writeBack :
    (p.writeBack m id v).1.knob k = ⟨(v.knob k).target, p.ramp k⟩ := by
  simp only [writeBack]
  split
  · split
    · unfold Pool.retired
      split <;> cases k <;> rfl
    · cases k <;> rfl
  · cases k <;> rfl

@[simp] theorem epoch_writeBack : (p.writeBack m id v).1.epoch = v.epoch :=
  congrArg (fun done => done.1.epoch) (p.writeBack_epoch m id v v.epoch)

end Pass

theorem clampGain_number (x : Float32) : ∃ a, Single.toRat? (Clip.clampGain x) = some a := by
  unfold Clip.clampGain
  cases number : x.isNaN
  · obtain ⟨a, value, -, -⟩ :=
      Single.toRat?_clamp32 Single.toRat?_zero Single.toRat?_one zero_le_one number
    exact ⟨a, value⟩
  · exact ⟨0, Single.toRat?_zero⟩

theorem clampSpeed_number (x : Float32) : ∃ a, Single.toRat? (Clip.clampSpeed x) = some a := by
  obtain ⟨a, value, -⟩ := bounded_clampSpeed x
  exact ⟨a, value⟩

/-- The target is a number, and the ramp that follows it is timely. -/
structure Parameter.Timely (limit : UInt32) (x : Parameter) : Prop where
  number : ∃ a, Single.toRat? x.target = some a
  ramp : x.ramp.Timely limit

theorem Parameter.timely_settled {target : Float32} {limit : UInt32}
    (number : ∃ a, Single.toRat? target = some a) : (settled target).Timely limit := by
  obtain ⟨a, value⟩ := number
  exact ⟨⟨a, value⟩, Ramp.timely_settled value⟩

/-- All quantities of the voice are timely, and no transition is under way. -/
structure Voice.Timely (s : RampSteps) (v : Voice) : Prop where
  rest : v.epoch.busy = false
  knob : ∀ k, (v.knob k).Timely (s.limit k)

/-- All ramps of the pass are timely. -/
def Pass.Timely (s : RampSteps) (p : Pass) : Prop := ∀ k, (p.ramp k).Timely (s.limit k)

namespace Voice

variable {s : RampSteps} {v w : Voice}

theorem timely_fresh (k : Knob) : (({} : Voice).knob k).Timely (s.limit k) := by
  cases k with
  | left | right => exact Parameter.timely_settled ⟨0, Single.toRat?_zero⟩
  | speed => exact Parameter.timely_settled ⟨1, Single.toRat?_one⟩

theorem Timely.snap (h : v.Timely s) (k : Knob) : (v.snap.knob k).Timely (s.limit k) := by
  have number := (h.knob k).number
  cases k <;> exact Parameter.timely_settled number

theorem ramp_apply (a : Adjustment) (v : Voice) (k : Knob) :
    ((a.apply v).knob k).ramp = (v.knob k).ramp := by
  cases a <;> cases k <;> rfl

/-- Whatever is set on a voice, its targets are numbers. -/
theorem Timely.apply (h : v.Timely s) (a : Adjustment) (k : Knob) :
    ((a.apply v).knob k).Timely (s.limit k) := by
  have same := h.knob k
  refine ⟨?_, ramp_apply a v k ▸ same.ramp⟩
  cases a with
  | volume l r =>
    cases k with
    | left | right => exact clampGain_number _
    | speed => exact same.number
  | speed x =>
    cases k with
    | left | right => exact same.number
    | speed => exact clampSpeed_number x
  | loops | recycle => cases k <;> exact same.number

/-- Whatever is requested, the quantities of a voice stay timely. -/
theorem Timely.makes {c : Clip} {r : Request} {j : VoiceId} (h : v.Timely s)
    (made : r.Makes c j v w) : w.Timely s := by
  refine ⟨by rw [made.epoch_eq, Epoch.busy_after, h.rest], fun k => ?_⟩
  have same := h.knob k
  -- A voice that starts, or is reset, is on its targets; otherwise no ramp moves.
  cases made with
  | kept => exact same
  | adjusted => exact h.apply _ k
  | turned | stopped | released | placed => cases k <;> exact same
  | started =>
    have snapped := h.snap k
    cases k <;> exact snapped
  | obtained =>
    have fresh := timely_fresh (s := s) k
    cases k <;> exact fresh
  | launched _ _ left right speed =>
    cases k with
    | left => exact Parameter.timely_settled (clampGain_number left)
    | right => exact Parameter.timely_settled (clampGain_number right)
    | speed => exact Parameter.timely_settled (clampSpeed_number speed)

end Voice

/-! ### Desks -/

namespace Desk

variable {c : Clip} {d e f : Desk} {id : VoiceId} {k : Knob} {q : ℚ} {n : Nat} {m : Mixer}
  {old : Array Frame} {told : List Occurrence}

/-- All quantities are timely. -/
def Timely (m : Mixer) (d : Desk) : Prop := d.Upholds m (Voice.Timely m.steps) (Pass.Timely m.steps)

/-- Operations keep quantities timely, since no ramp is without a step. -/
theorem law_timely (m : Mixer) : Law m (Voice.Timely m.steps) (Pass.Timely m.steps) where
  makes _ h made := h.makes made
  enter snapshot h k := by
    rw [Pass.ramp_startAt]
    exact (h.knob k).ramp
  next {p v} pass voice _ := by
    refine ⟨fun k => ?_, by rw [(p.next_flags m v).2.2, voice.rest], fun k => ?_⟩
    · obtain ⟨a, number⟩ := (voice.knob k).number
      rw [Pass.ramp_next]
      exact (pass k).tick number (m.steps.limit_ne k)
    · rw [Pass.knob_next]
      exact voice.knob k
  writeBack id pass voice := by
    refine ⟨by rw [Pass.epoch_writeBack, voice.rest], fun k => ?_⟩
    rw [Pass.knob_writeBack]
    exact ⟨(voice.knob k).number, pass k⟩

/-- The target of a quantity. -/
def target? (d : Desk) (id : VoiceId) (k : Knob) : Option Float32 :=
  (d.voice? id).map fun v => (v.knob k).target

/-- The ramp that the mixer moves: that of the pass, if one is under way. -/
def ramp? (d : Desk) (id : VoiceId) (k : Knob) : Option Ramp :=
  match d.pass? id with
  | some (p, _) => some (p.ramp k)
  | none => (d.voice? id).map fun v => (v.knob k).ramp

/-- How many frames the pass over a voice that is under way took. -/
def frames (d : Desk) (id : VoiceId) : Nat := ((d.pass? id).map fun (_, strip) => strip.size).getD 0

/-- The target of a quantity is worth so much. -/
def Aims (d : Desk) (id : VoiceId) (k : Knob) (q : ℚ) : Prop :=
  ∃ target, d.target? id k = some target ∧ Single.toRat? target = some q

theorem Aims.voice (h : d.Aims id k q) : ∃ v, d.voice? id = some v := by
  obtain ⟨target, found, -⟩ := h
  obtain ⟨v, voice, -⟩ := Option.map_eq_some_iff.mp found
  exact ⟨v, voice⟩

/-- A while in which the mixer takes so many frames of a voice, in any number of passes, and the
target of a quantity is worth the same all the time. Callers may ask for anything that is no
transition of this voice, at any time. At the start the mixer is not in a pass that a transition
overtook. -/
inductive Course (id : VoiceId) (k : Knob) (q : ℚ) (d : Desk) : Nat → Desk → Prop
  | start (aims : d.Aims id k q) (current : d.Current id) : Course id k q d 0 d
  | step {n : Nat} {e f : Desk} {r : Option Request} (before : Course id k q d n e)
      (does : Does e r f) (unturned : ∀ request ∈ r, request.turns e.clip id = 0)
      (aims : f.Aims id k q) : Course id k q d (n + (f.frames id - e.frames id)) f

theorem ramp?_of_pass {p : Pass} {strip : Array Frame} (pass : d.pass? id = some (p, strip)) :
    d.ramp? id k = some (p.ramp k) := by
  simp only [ramp?, pass]

theorem ramp?_of_voice {v : Voice} (none : d.pass? id = none) (voice : d.voice? id = some v) :
    d.ramp? id k = some (v.knob k).ramp := by
  simp only [ramp?, none, voice, Option.map_some]

theorem frames_of_pass {p : Pass} {strip : Array Frame} (pass : d.pass? id = some (p, strip)) :
    d.frames id = strip.size := by
  simp [frames, pass]

theorem frames_of_none (none : d.pass? id = none) : d.frames id = 0 := by
  simp [frames, none]

/-- No step of the mixer alters a target. -/
theorem Works.target? (works : Works id d e told) (k : Knob) :
    e.target? id k = d.target? id k := by
  unfold Desk.target?
  cases works with
  | aside voice | drop _ _ voice => rw [voice]
  | enter voice after => rw [voice, after]
  | frame _ voice _ after => simp [voice, after]
  | writeBack _ voice after => simp [voice, after]

theorem Timely.ramp? (h : d.Timely m) {r : Ramp} (ramp : d.ramp? id k = some r) :
    r.Timely (m.steps.limit k) := by
  cases pass : d.pass? id with
  | some here =>
    rw [ramp?_of_pass pass] at ramp
    cases ramp
    exact h.pass (passing_of_pass? pass) k
  | none =>
    simp only [Desk.ramp?, pass, Option.map_eq_some_iff] at ramp
    obtain ⟨v, voice, rfl⟩ := ramp
    exact ((h.voice voice).knob k).ramp

/-- What a step of the mixer is for a ramp: nothing, or a mix step with a frame. -/
theorem Works.ramp? (works : Works id d e told) (h : d.Timely m) (aims : d.Aims id k q)
    (current : d.Current id) : e.ramp? id k = d.ramp? id k ∧ e.frames id ≤ d.frames id ∨
      ∃ r target, d.ramp? id k = some r ∧ d.target? id k = some target ∧
        e.ramp? id k = some (r.tick target (m.steps.limit k)) ∧
        e.frames id = d.frames id + 1 := by
  cases works with
  | aside voice pass =>
    unfold Desk.ramp? Desk.frames
    rw [voice, pass]
    exact .inl ⟨rfl, le_rfl⟩
  | enter voice after none pass =>
    rw [ramp?_of_pass pass, ramp?_of_voice none voice, frames_of_pass pass, Pass.ramp_startAt]
    exact .inl ⟨rfl, Nat.zero_le _⟩
  | frame before voice unfinished after pass =>
    right
    rw [ramp?_of_pass before, ramp?_of_pass pass, frames_of_pass before, frames_of_pass pass,
      Array.size_push, Pass.ramp_next, ← h.mixer_eq]
    exact ⟨_, _, rfl, by rw [Desk.target?, voice]; rfl, rfl, rfl⟩
  | @drop p strip before stale after none =>
    -- Nothing was dropped, for the voice has still the epoch that was read.
    obtain ⟨v, voice⟩ := aims.voice
    have same := current p.snapshot v (by rw [passing_of_pass? before]; rfl) voice
    exact absurd (stale v voice same) (by simp [(h.voice voice).rest])
  | writeBack before voice after none =>
    rw [ramp?_of_pass before, ramp?_of_voice none after, frames_of_none none, Pass.knob_writeBack]
    exact .inl ⟨rfl, Nat.zero_le _⟩

/-- A request without a transition of a voice leaves its ramps and the epoch that was read. -/
theorem ramp?_requested {v : Voice} {r : Request} (voice : d.voice? id = some v)
    (unturned : r.turns d.clip id = 0) : (d.requested r).ramp? id k = d.ramp? id k ∧
      (d.Current id → (d.requested r).Current id) := by
  obtain ⟨w, after, made⟩ := (r.makes d.clip).after voice
  change (d.requested r).voice? id = some w at after
  have pass : (d.requested r).pass? id = d.pass? id := rfl
  have unmoved : (w.knob k).ramp = (v.knob k).ramp ∧ w.epoch = v.epoch := by
    obtain rfl | ⟨a, -, -, rfl⟩ := made.of_unturned unturned
    · exact ⟨rfl, rfl⟩
    · exact ⟨Voice.ramp_apply a v k, a.epoch_apply v⟩
  refine ⟨?_, fun current snapshot u subject found => ?_⟩
  · unfold ramp?
    rw [pass, voice, after, Option.map_some, Option.map_some, unmoved.1]
  · obtain rfl := Option.some.inj (found.symm.trans after)
    rw [unmoved.2]
    exact current snapshot v subject voice

namespace Course

theorem aims (course : Course id k q d n e) : e.Aims id k q := by
  cases course with
  | start aims => exact aims
  | step _ _ _ aims => exact aims

/-- The mixer gets on. -/
theorem mixer (course : Course id k q d n e) (does : Does e none f) :
    Course id k q d (n + (f.frames id - e.frames id)) f := by
  obtain ⟨told, works, -⟩ := does.works id
  obtain ⟨target, found, number⟩ := course.aims
  exact .step course does nofun ⟨target, (works.target? k).trans found, number⟩

/-- The mixer takes a frame. -/
theorem frame (course : Course id k q d n e) {p : Pass} {strip : Array Frame} {v : Voice}
    (passing : e.stage = .passing id p strip) (voice : e.clip.pool.voices[id]? = some v)
    (more : strip.size < e.buffer.size) (unfinished : p.finished = false) :
    Course id k q d (n + 1) (e.framed id p strip v) := by
  have before : e.frames id = strip.size :=
    frames_of_pass (by rw [pass?_of_passing passing, if_pos rfl])
  have after : (e.framed id p strip v).frames id = strip.size + 1 := by
    simp [frames, pass?, framed, Stage.pass?]
  have next := course.mixer (.frame passing voice more unfinished)
  rwa [before, after, Nat.add_sub_cancel_left] at next

/-- The mixer begins with another buffer. -/
theorem begin (course : Course id k q d n e) (between : e.stage = .between) (last : e.waiting = [])
    (some : 0 < e.clip.polyphony) (count : Nat) : Course id k q d n { e with
      buffer := Array.replicate count .silence
      waiting := List.range e.clip.polyphony } := by
  have does : Does e none { e with
      buffer := Array.replicate count .silence
      waiting := List.range e.clip.polyphony } := by
    refine .mixer (.step (.begin count between last)) fun same => ?_
    have waiting : List.range e.clip.polyphony = e.waiting := congrArg (·.2.1) same
    rw [last, List.range_eq_nil] at waiting
    exact some.ne' waiting
  simpa [frames, pass?] using course.mixer does

/-- The mixer comes to the voice and finds that it plays. -/
theorem enter (course : Course id k q d n e) (between : e.stage = .between) {rest : List VoiceId}
    (next : e.waiting = id :: rest) {v : Voice} (voice : e.clip.pool.voices[id]? = some v)
    (active : v.active) (playing : v.playing) :
    Course id k q d n
      { e with waiting := rest, stage := .passing id (.start v) #[], turns := 0 } := by
  let standing (stage : Stage) : Desk := { e with waiting := rest, stage, turns := 0 }
  have sight : Does e none (standing (.sighted id v.epoch)) := by
    refine .mixer (.step (.sight between next voice)) fun same => ?_
    have stage : Stage.sighted id v.epoch = e.stage := congrArg Prod.fst same
    rw [between] at stage
    cases stage
  have notice : Does (standing (.sighted id v.epoch)) none (standing (.noticed id v.epoch)) := by
    have step := Step.notice (d := standing (.sighted id v.epoch)) rfl voice
    rw [if_pos active] at step
    exact .mixer (.step step) fun same => nomatch congrArg Prod.fst same
  have enter :
      Does (standing (.noticed id v.epoch)) none (standing (.passing id (.start v) #[])) := by
    have step := Step.enter (d := standing (.noticed id v.epoch)) rfl voice
    rw [if_pos playing] at step
    exact .mixer (.step step) fun same => nomatch congrArg Prod.fst same
  have none : e.frames id = 0 := by simp [frames, pass?, Stage.pass?, between]
  simpa [standing, frames, pass?, Stage.pass?] using ((course.mixer sight).mixer notice).mixer enter

/-- In a while every step leaves a ramp as near to its target as the frames that were taken tell. -/
theorem nears (h : d.Timely m) (course : Course id k q d n e) : e.Timely m ∧ e.Current id ∧
      ∃ r, e.ramp? id k = some r ∧ r.Nears (m.steps.limit k) q n := by
  induction course with
  | start aims current =>
    obtain ⟨v, voice⟩ := aims.voice
    obtain ⟨r, ramp⟩ : ∃ r, d.ramp? id k = some r := by
      cases pass : d.pass? id with
      | some here => exact ⟨_, ramp?_of_pass pass⟩
      | none => exact ⟨_, ramp?_of_voice pass voice⟩
    exact ⟨h, current, r, ramp, (h.ramp? ramp).nears_zero⟩
  | @step n e f request before does unturned _ ih =>
    obtain ⟨timely, current, r, ramp, near⟩ := ih
    refine ⟨(law_timely m).move timely does.move, ?_⟩
    cases request with
    | some request =>
      -- Between two frames a request may set the target, but moves no ramp.
      cases does
      obtain ⟨v, voice⟩ := before.aims.voice
      obtain ⟨same, kept⟩ := ramp?_requested (k := k) voice (unturned request rfl)
      have frames : (e.requested request).frames id - e.frames id = 0 := Nat.sub_self _
      rw [same, frames]
      exact ⟨kept current, r, ramp, near⟩
    | none =>
      refine ⟨does.current current, ?_⟩
      obtain ⟨told, works, -⟩ := does.works id
      obtain ⟨same, le⟩ | ⟨r', target, moved, found, ticked, frames⟩ :=
        works.ramp? (k := k) timely before.aims current
      · rw [same, Nat.sub_eq_zero_of_le le]
        exact ⟨r, ramp, near⟩
      · obtain rfl := Option.some.inj (ramp.symm.trans moved)
        obtain ⟨t, aimed, number⟩ := before.aims
        obtain rfl := Option.some.inj (aimed.symm.trans found)
        rw [frames, Nat.add_sub_cancel_left]
        exact ⟨_, ticked, near.tick number (timely.ramp? ramp)⟩

end Course

theorem timely_resting (made : Pool.make n = .ok c.pool) (old : Array Frame) :
    (resting c old).Timely c.mixer :=
  upholds_resting made ⟨rfl, Voice.timely_fresh⟩ old

/-- Take a clip that has just been made, with ramps of any length, and any run of calls and of
mixing. At every point a ramp has at most as many steps to go as it is long, whether it is in its
voice or in a pass, and it is on the target that it saw last if it has none. No step of the mixer
alters a target. And when the mixer has taken as many frames of a voice as the ramp of one of its
quantities is long, or more, and the target was the same all the while, the ramp is on the target
and has no steps left. -/
theorem targets_reached (made : Pool.make n = .ok c.pool)
    (run : Relation.ReflTransGen Move (resting c old) d) :
    let limit := c.mixer.steps.limit
    (∀ id k r, (d.voice? id).map (fun v => (v.knob k).ramp) = some r ∨ d.ramp? id k = some r →
      r.remaining ≤ limit k ∧ (r.remaining = 0 → (r.current == r.seen) = true)) ∧
    (∀ e, Does d none e → ∀ id k, e.target? id k = d.target? id k) ∧
    ∀ id k q frames e, Course id k q d frames e → (limit k).toNat ≤ frames →
      ∃ r target, e.ramp? id k = some r ∧ e.target? id k = some target ∧
        r.remaining = 0 ∧ (r.current == target) = true := by
  intro limit
  have timely := (law_timely c.mixer).run (timely_resting made old) run
  refine ⟨fun id k r ramp => ?_, fun e does id k => ?_, fun id k q frames e course long => ?_⟩
  · have kept : r.Timely (limit k) := by
      obtain stored | moved := ramp
      · obtain ⟨v, voice, rfl⟩ := Option.map_eq_some_iff.mp stored
        exact ((timely.voice voice).knob k).ramp
      · exact Timely.ramp? timely moved
    exact ⟨kept.few, kept.on_seen⟩
  · obtain ⟨told, works, -⟩ := does.works id
    exact works.target? k
  · obtain ⟨timely, -, r, ramp, near⟩ := course.nears timely
    obtain ⟨target, found, number⟩ := course.aims
    have arrived :=
      near.arrives number (c.mixer.steps.limit_ne k) (timely.ramp? ramp) long
    exact ⟨r, target, ramp, found, arrived⟩

/-- The clip `blip` with ramps of three steps. Its voice plays on and on. -/
def swell : Clip := (Request.play 1.0 1.0 1.0 (-1)).after (blip.withRampSteps (.ofCounts 3 3))

/-- In a pass over two frames the gain was set to nothing before the first and to a half after
it. -/
def swellTurned : Desk :=
  let v := swell.pool.voices[0]?.getD {}
  let begun : Desk := ⟨swell, Array.replicate 2 .silence, [], .passing 0 (.start v) #[], 0⟩
  let fading := begun.requested (.setVolume 0 0.0 0.0)
  (fading.framed 0 (.start v) #[] (fading.clip.pool.voices[0]?.getD {})).requested
    (.setVolume 0 0.5 0.5)

theorem moves_swellTurned :
    Relation.ReflTransGen Move (resting (blip.withRampSteps (.ofCounts 3 3)) #[]) swellTurned := by
  have played : Run (resting (blip.withRampSteps (.ofCounts 3 3)) #[]) (resting swell #[]) :=
    .single (.request _ (.play 1.0 1.0 1.0 (-1)))
  have entered := played.trans ((run_begin swell #[] 2).trans
    (run_enter (v := swell.pool.voices[0]?.getD {}) rfl rfl rfl []))
  have fading := (entered.tail (.request _ (.setVolume 0 0.0 0.0))).tail
    (.frame rfl rfl Nat.zero_lt_two rfl)
  exact moves_of_run (fading.tail (.request _ (.setVolume 0 0.5 0.5)))

/-- The rest of the pass and another one are three frames. -/
theorem course_swell : ∃ e, Course 0 .left (1 / 2) swellTurned 3 e := by
  obtain ⟨v, voice, epoch, half⟩ : ∃ v, swellTurned.voice? 0 = some v ∧
      v.epoch = (Pass.start (swell.pool.voices[0]?.getD {})).snapshot ∧ v.left.target = 0.5 :=
    ⟨_, rfl, rfl, by decide +kernel⟩
  have target : swellTurned.target? 0 .left = some 0.5 := by
    rw [target?, voice, ← half]
    rfl
  have current : swellTurned.Current 0 := by
    intro snapshot u subject found
    cases subject
    exact Option.some.inj (voice.symm.trans found) ▸ epoch
  have here {n : Nat} {e : Desk} (course : Course 0 .left (1 / 2) swellTurned n e) :
      e.clip.pool.voices[0]? = some ((e.voice? 0).getD {}) := by
    obtain ⟨v, found⟩ := course.aims.voice
    rw [found]
    exact found
  have turned : Course 0 .left (1 / 2) swellTurned 0 swellTurned :=
    .start ⟨_, target, Single.toRat?_half⟩ current
  -- The pass under way has one frame to take, and the next one has two.
  have first := turned.frame rfl (here turned) (by decide) (by decide +kernel)
  have ended := first.mixer (.commit rfl (.inl rfl))
  have begun := ended.begin rfl rfl (by decide) 2
  have entered := begun.enter rfl rfl (here begun) (by decide +kernel) (by decide +kernel)
  have second := entered.frame rfl (here entered) (by decide) rfl
  exact ⟨_, second.frame rfl (here second) (by decide) (by decide +kernel)⟩

/-- When the gain is set to a half, its ramp has two steps to go. Three frames later it is there. -/
theorem targets_reached_swell : (swellTurned.ramp? 0 .left).map Ramp.remaining = some 2 ∧
    ∃ e r target, Course 0 .left (1 / 2) swellTurned 3 e ∧ e.ramp? 0 .left = some r ∧
      Single.toRat? target = some (1 / 2) ∧ r.remaining = 0 ∧ (r.current == target) = true := by
  obtain ⟨-, -, arrive⟩ := targets_reached (n := 1) rfl moves_swellTurned
  obtain ⟨e, course⟩ := course_swell
  obtain ⟨r, target, ramp, found, none, arrived⟩ := arrive 0 .left (1 / 2) 3 e course le_rfl
  obtain ⟨t, aimed, number⟩ := course.aims
  obtain rfl := Option.some.inj (aimed.symm.trans found)
  exact ⟨by decide +kernel, e, r, t, course, ramp, number, none, arrived⟩

end Desk

end SamplePlayer
