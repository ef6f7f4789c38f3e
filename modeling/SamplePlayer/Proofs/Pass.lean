import SamplePlayer.Proofs.Pool.Sound

/-!
# The pass over one voice

While a pass is under way it touches nothing of its voice but the loop count, which goes down by one
for every time the sound starts over. At its end it is written back as a whole, or not at all if the
epoch of the voice has moved on.

## Main definitions

* `Voice.wrapped`, `Voice.MayWrap`: starting over a number of times.
* `Pass.since`: a pass for which another epoch was read.
* `Pass.wraps`: how often a pass starts over.

## Main results

* `Voice.takeLoop_of_counts`: starting over at the end of the sound.
* `Pass.next_cases`, `Pass.run_voice`: what a pass does to the voice on the way.
* `Pass.run_epoch`, `Pass.run_since`: a pass looks at no epoch on the way.
* `Pool.finish_of_stale`, `Pool.Change.of_finish`: the end of a pass.
* `Pool.Sound.run_pass`: a pass keeps the pool sound.
* `Mixer.passOver_of_stale`: all that a pass that came too late leaves behind.
-/

namespace SamplePlayer

/-! ### Starting over -/

namespace Voice

variable {v : Voice} {n : Nat}

/-- The voice after it started over `n` times: one that counts its loops has fewer to go. -/
def wrapped (v : Voice) (n : Nat) : Voice :=
  if 0 < v.loops then { v with loops := v.loops - .ofNat n } else v

/-- The loops of the voice are enough to start over `n` times. -/
def MayWrap (v : Voice) (n : Nat) : Prop :=
  n = 0 ∨ v.loops = loopForever ∨ (n : Int) ≤ v.loops.toInt

theorem wrapped_zero (v : Voice) : v.wrapped 0 = v := by
  simp [wrapped]

theorem wrapped_of_forever (forever : v.loops = loopForever) : v.wrapped n = v := by
  simp [wrapped, forever, loopForever]

theorem wrapped_of_pos (counted : 0 < v.loops) :
    v.wrapped n = { v with loops := v.loops - .ofNat n } := by
  simp [wrapped, counted]

/-- Starting over moves neither the flags nor the epoch. -/
theorem wrapped_flags (v : Voice) (n : Nat) : (v.wrapped n).active = v.active ∧
    (v.wrapped n).playing = v.playing ∧ (v.wrapped n).epoch = v.epoch := by
  unfold wrapped
  split <;> exact ⟨rfl, rfl, rfl⟩

theorem pos_loops_iff : 0 < v.loops ↔ 0 < v.loops.toInt := by
  simp [Int32.lt_iff_toInt_lt]

/-- Loops are counted without wrapping around. -/
theorem toInt_loops_wrapped (counted : 0 < v.loops) (enough : (n : Int) ≤ v.loops.toInt) :
    (v.wrapped n).loops.toInt = v.loops.toInt - n := by
  have bound := v.loops.toInt_lt
  rw [wrapped_of_pos counted, Int32.toInt_sub, Int32.toInt_ofNat_of_lt (by omega)]
  rw [Int.bmod_eq_of_le] <;> omega

/-- A voice that starts over has one loop less. -/
theorem takeLoop_of_true (again : v.takeLoop.1 = true) :
    v.MayWrap 1 ∧ v.takeLoop.2 = v.wrapped 1 := by
  by_cases counted : 0 < v.loops
  · have pos := pos_loops_iff.mp counted
    refine ⟨.inr (.inr (by omega)), ?_⟩
    rw [wrapped_of_pos counted]
    simp [takeLoop, counted]
  · have forever : v.loops = loopForever := by simpa [takeLoop, counted] using again
    refine ⟨.inr (.inl forever), ?_⟩
    rw [wrapped_of_forever forever]
    simp [takeLoop, counted]

/-- A voice that does not start over stays as it is. -/
theorem takeLoop_of_false (done : v.takeLoop.1 = false) : v.takeLoop.2 = v := by
  by_cases counted : 0 < v.loops
  · simp [takeLoop, counted] at done
  · simp [takeLoop, counted]

/-- A voice that counts its loops starts over with one of them, or has none to go. -/
theorem takeLoop_of_counts (loops : v.loops.toInt = n) :
    (n = 0 ∧ v.takeLoop = (false, v)) ∨
      ∃ rest, n = rest + 1 ∧ v.takeLoop = (true, { v with loops := v.loops - 1 }) ∧
        (v.loops - 1).toInt = rest := by
  by_cases counted : 0 < v.loops
  · have positive := pos_loops_iff.mp counted
    obtain ⟨rest, rfl⟩ : ∃ rest, n = rest + 1 := ⟨n - 1, by omega⟩
    refine .inr ⟨rest, rfl, by simp [takeLoop, counted], ?_⟩
    have left := toInt_loops_wrapped (n := 1) counted (by omega)
    rw [wrapped_of_pos counted] at left
    change (v.loops - 1).toInt = _ at left
    omega
  · rw [pos_loops_iff] at counted
    have none : n = 0 := by omega
    refine .inl ⟨none, ?_⟩
    have finite : v.loops ≠ loopForever := by
      intro forever
      rw [forever, none] at loops
      revert loops
      decide
    simp [takeLoop, pos_loops_iff, counted, finite]

/-- Starting over once and then `n` times is starting over `n + 1` times. -/
theorem MayWrap.succ (one : v.MayWrap 1) (more : (v.wrapped 1).MayWrap n) :
    v.MayWrap (n + 1) ∧ (v.wrapped 1).wrapped n = v.wrapped (n + 1) := by
  obtain zero | forever | enough := one
  · contradiction
  · simp [MayWrap, wrapped_of_forever forever, forever]
  · have counted : 0 < v.loops := pos_loops_iff.mpr (by omega)
    have left := toInt_loops_wrapped counted enough
    -- With a loop less the voice still counts, or it has none left and cannot start over again.
    obtain rfl | forever | enough' := more
    · exact ⟨.inr (.inr enough), wrapped_zero _⟩
    · have negative : (v.wrapped 1).loops.toInt = -1 := by rw [forever]; rfl
      omega
    · refine ⟨.inr (.inr (by omega)), ?_⟩
      by_cases rest : 0 < (v.wrapped 1).loops
      · rw [wrapped_of_pos rest, wrapped_of_pos counted, wrapped_of_pos counted, Nat.add_comm,
          Int32.ofNat_add, Int32.sub_sub]
      · have none : n = 0 := by
          rw [pos_loops_iff] at rest
          omega
        subst none
        exact wrapped_zero _

/-- Starting over leaves a voice as it is exactly if it does not count its loops or there was
nothing to start over. -/
theorem wrapped_eq_self_iff (may : v.MayWrap n) : v.wrapped n = v ↔ ¬ (0 < v.loops ∧ 0 < n) := by
  by_cases counted : 0 < v.loops
  · -- The count went down by `n`, so it is what it was only for `n = 0`.
    simp only [counted, true_and, Nat.not_lt, Nat.le_zero_eq]
    constructor
    · intro same
      obtain rfl | forever | enough := may
      · rfl
      · simp [forever, loopForever] at counted
      · have left := toInt_loops_wrapped counted enough
        rw [same] at left
        omega
    · rintro rfl
      exact wrapped_zero v
  · simp [wrapped, counted]

end Voice

/-! ### On the way -/

namespace Pass

variable {m : Mixer} {id : VoiceId}

/-- One frame goes on with the pass, starts over with a loop of the voice, or ends the pass if there
is none. -/
theorem next_cases (m : Mixer) (p : Pass) (v : Voice) :
    (p.next m v).2.1.finished = p.finished ∧ (p.next m v).2.1.loops = p.loops ∧
        (p.next m v).2.2 = v ∨
      v.takeLoop.1 = true ∧ (p.next m v).2.1.finished = p.finished ∧
        (p.next m v).2.1.loops = p.loops + 1 ∧ (p.next m v).2.2 = v.takeLoop.2 ∨
      v.takeLoop.1 = false ∧ (p.next m v).2.1.loops = p.loops ∧ (p.next m v).2.2 = v := by
  simp only [next]
  split
  · cases took : v.takeLoop with
    | mk again w =>
      cases again with
      | true => exact .inr (.inl ⟨rfl, rfl, rfl, rfl⟩)
      | false =>
        have same : w = v := by simpa [took] using v.takeLoop_of_false (by simp [took])
        exact .inr (.inr ⟨rfl, rfl, same⟩)
  · exact .inl ⟨rfl, rfl, rfl⟩

/-- One frame either leaves the voice as it is or takes one loop of it, and the pass counts that. -/
theorem next_voice (m : Mixer) (p : Pass) (v : Voice) :
    (p.next m v).2.1.loops = p.loops ∧ (p.next m v).2.2 = v ∨
      v.takeLoop.1 = true ∧ (p.next m v).2.1.loops = p.loops + 1 ∧
        (p.next m v).2.2 = v.takeLoop.2 := by
  obtain ⟨-, kept⟩ | ⟨again, -, wraps⟩ | ⟨-, kept⟩ := next_cases m p v
  · exact .inl kept
  · exact .inr ⟨again, wraps⟩
  · exact .inl kept

/-- One frame moves neither the flags nor the epoch. -/
theorem next_flags (m : Mixer) (p : Pass) (v : Voice) :
    (p.next m v).2.2.active = v.active ∧ (p.next m v).2.2.playing = v.playing ∧
      (p.next m v).2.2.epoch = v.epoch := by
  obtain ⟨-, same⟩ | ⟨-, -, taken⟩ := next_voice m p v
  · simp [same]
  · simp [taken]

@[simp] theorem snapshot_next (m : Mixer) (p : Pass) (v : Voice) :
    (p.next m v).2.1.snapshot = p.snapshot := by
  simp only [next]
  split
  · cases v.takeLoop with
    | mk again w => cases again <;> rfl
  · rfl

@[simp] theorem run_zero (m : Mixer) (strip : Array Frame) (p : Pass) (v : Voice) :
    run m 0 strip p v = (strip, p, v) := rfl

theorem run_of_finished {p : Pass} (finished : p.finished = true) (n : Nat) (strip : Array Frame)
    (v : Voice) : run m n strip p v = (strip, p, v) := by
  cases n with
  | zero => rfl
  | succ n => simp [run, finished]

theorem run_succ {p : Pass} (unfinished : p.finished = false) (n : Nat) (strip : Array Frame)
    (v : Voice) : run m (n + 1) strip p v =
      run m n (strip.push (p.next m v).1) (p.next m v).2.1 (p.next m v).2.2 := by
  simp [run, unfinished]

@[simp] theorem snapshot_run (m : Mixer) (n : Nat) (strip : Array Frame) (p : Pass) (v : Voice) :
    (run m n strip p v).2.1.snapshot = p.snapshot := by
  induction n generalizing strip p v with
  | zero => rfl
  | succ n ih =>
    cases finished : p.finished
    · rw [run_succ finished, ih, snapshot_next]
    · rw [run_of_finished finished]

/-- A pass takes all of its frames, or fewer if it comes to its end. -/
theorem size_run (m : Mixer) (n : Nat) (strip : Array Frame) (p : Pass) (v : Voice) :
    (run m n strip p v).1.size ≤ strip.size + n ∧
      ((run m n strip p v).1.size = strip.size + n ∨ (run m n strip p v).2.1.finished = true) := by
  induction n generalizing strip p v with
  | zero => exact ⟨le_rfl, .inl rfl⟩
  | succ n ih =>
    cases finished : p.finished
    · rw [run_succ finished]
      have rest := ih (strip.push (p.next m v).1) (p.next m v).2.1 (p.next m v).2.2
      rwa [Array.size_push, Nat.add_assoc, Nat.add_comm 1 n] at rest
    · rw [run_of_finished finished]
      exact ⟨Nat.le_add_right _ _, .inr finished⟩

/-- A pass leaves its voice as it is, but for the loops it took. -/
theorem run_voice (m : Mixer) (n : Nat) (strip : Array Frame) (p : Pass) (v : Voice) :
    ∃ k, v.MayWrap k ∧ (run m n strip p v).2.1.loops = p.loops + k ∧
      (run m n strip p v).2.2 = v.wrapped k := by
  -- Each frame hands on a voice with the loops that are left, so the voice is not fixed.
  induction n generalizing strip p v with
  | zero => exact ⟨0, .inl rfl, rfl, v.wrapped_zero.symm⟩
  | succ n ih =>
    cases finished : p.finished
    · rw [run_succ finished]
      obtain ⟨k, may, loops, voice⟩ := ih (strip.push (p.next m v).1) (p.next m v).2.1
        (p.next m v).2.2
      obtain ⟨counted, same⟩ | ⟨again, counted, taken⟩ := next_voice m p v
      · exact ⟨k, same ▸ may, by rw [loops, counted], by rw [voice, same]⟩
      · -- The loop that this frame takes comes before the `k` loops of the rest.
        obtain ⟨one, wrapped⟩ := Voice.takeLoop_of_true again
        rw [taken, wrapped] at may
        obtain ⟨more, both⟩ := one.succ may
        exact ⟨k + 1, more, by rw [loops, counted]; omega, by rw [voice, taken, wrapped, both]⟩
    · rw [run_of_finished finished]
      exact ⟨0, .inl rfl, rfl, v.wrapped_zero.symm⟩

/-- A pass moves neither the flags nor the epoch on the way. -/
theorem run_flags (m : Mixer) (n : Nat) (strip : Array Frame) (p : Pass) (v : Voice) :
    (run m n strip p v).2.2.active = v.active ∧ (run m n strip p v).2.2.playing = v.playing ∧
      (run m n strip p v).2.2.epoch = v.epoch := by
  obtain ⟨k, -, -, voice⟩ := run_voice m n strip p v
  rw [voice]
  exact v.wrapped_flags k

theorem takeLoop_epoch (v : Voice) (e : Epoch) : { v with epoch := e }.takeLoop =
    (v.takeLoop.1, { v.takeLoop.2 with epoch := e }) := by
  unfold Voice.takeLoop
  by_cases counted : 0 < v.loops <;> simp [counted]

theorem next_epoch (m : Mixer) (p : Pass) (v : Voice) (e : Epoch) :
    p.next m { v with epoch := e } =
      ((p.next m v).1, (p.next m v).2.1, { (p.next m v).2.2 with epoch := e }) := by
  simp only [next, takeLoop_epoch]
  split
  · cases v.takeLoop with
    | mk again w => cases again <;> rfl
  · rfl

/-- A pass does not look at the epoch on the way. -/
theorem run_epoch (n : Nat) (strip : Array Frame) (p : Pass) (v : Voice) (e : Epoch) :
    run m n strip p { v with epoch := e } = ((run m n strip p v).1, (run m n strip p v).2.1,
      { (run m n strip p v).2.2 with epoch := e }) := by
  induction n generalizing strip p v with
  | zero => rfl
  | succ n ih =>
    cases finished : p.finished
    · rw [run_succ finished, run_succ finished, next_epoch, ih]
    · rw [run_of_finished finished, run_of_finished finished]

/-- The same pass, as if another epoch had been read before it. -/
def since (e : Epoch) (p : Pass) : Pass := { p with snapshot := e }

@[simp] theorem snapshot_since (e : Epoch) (p : Pass) : (p.since e).snapshot = e := rfl

@[simp] theorem finished_since (e : Epoch) (p : Pass) : (p.since e).finished = p.finished := rfl

theorem next_since (m : Mixer) (p : Pass) (v : Voice) (e : Epoch) :
    (p.since e).next m v = ((p.next m v).1, (p.next m v).2.1.since e, (p.next m v).2.2) := by
  by_cases past : m.bank.lastFrame < p.cursor + (p.speed.tick v.speed.target m.steps.speed).rate
  · simp only [next, since, past, if_true]
    cases v.takeLoop with
    | mk again w => cases again <;> rfl
  · simp only [next, since, past, if_false]

/-- Nor does it look at the epoch that was read before it. -/
theorem run_since (n : Nat) (strip : Array Frame) (p : Pass) (v : Voice) (e : Epoch) :
    run m n strip (p.since e) v =
      ((run m n strip p v).1, (run m n strip p v).2.1.since e, (run m n strip p v).2.2) := by
  induction n generalizing strip p v with
  | zero => rfl
  | succ n ih =>
    cases finished : p.finished
    · rw [run_succ finished, run_succ (p.finished_since e ▸ finished), next_since, ih]
    · rw [run_of_finished finished, run_of_finished (p.finished_since e ▸ finished)]

/-! ### The end of a pass -/

/-- A write-back raises events about its voice only. -/
theorem voice?_writeBack (p : Pass) (v : Voice) :
    ∀ e ∈ (p.writeBack m id v).2.events, e.voice? = some id := by
  simp only [writeBack]
  split
  · simp only [List.mem_append, List.mem_map]
    rintro e ((looped | stopped) | ⟨place, -, rfl⟩)
    · rw [List.eq_of_mem_replicate looped]
      rfl
    · split at stopped
      · rw [List.mem_singleton.mp stopped]
        rfl
      · cases stopped
    · rfl
  · intro e looped
    rw [List.eq_of_mem_replicate looped]
    rfl

/-- A pass that is not at the end stores its place in the voice. -/
theorem writeBack_of_unfinished {p : Pass} (unfinished : p.finished = false) (v : Voice) :
    p.writeBack m id v =
      (v.placed p, ⟨List.replicate p.loops (.voice .loop id 0.0), false⟩) := by
  simp [writeBack, unfinished, Voice.placed, Voice.ramped]

/-- A voice that came to its end stands still. -/
theorem playing_writeBack {p : Pass} (finished : p.finished = true) (v : Voice) :
    (p.writeBack m id v).1.playing = false := by
  simp only [writeBack, finished, if_true]
  split
  · unfold Pool.retired
    split <;> rfl
  · rfl

/-- A write-back neither reads nor moves the epoch. -/
theorem writeBack_epoch (m : Mixer) (id : VoiceId) (p : Pass) (v : Voice) (e : Epoch) :
    p.writeBack m id { v with epoch := e } =
      ({ (p.writeBack m id v).1 with epoch := e }, (p.writeBack m id v).2) := by
  simp only [writeBack]
  cases p.finished <;> cases v.recycle <;> cases v.active <;> simp [Pool.retired]

end Pass

/-- A write-back goes through if the epoch is still the one that was read, and then leaves it. -/
theorem Voice.commit_writeBack (m : Mixer) (id : VoiceId) (p : Pass) (e : Epoch) (v : Voice) :
    v.commit e (p.writeBack m id) =
      if e.busy ∨ v.epoch ≠ e then none
      else some ({ (p.writeBack m id v).1 with epoch := e }, (p.writeBack m id v).2) := by
  by_cases stale : e.busy ∨ v.epoch ≠ e
  · rw [if_pos stale, commit, Epoch.claim?, if_pos stale, Option.map_none]
  · rw [if_neg stale, commit, Epoch.claim?, if_neg stale, Option.map_some, p.writeBack_epoch,
      Epoch.yield]

namespace Pool

variable {m : Mixer} {pool : Pool} {id : VoiceId} {v : Voice} {p : Pass}

/-- A pass that a transition overtook is not written back and raises no event. -/
theorem finish_of_stale (voice : pool.voices[id]? = some v) (stale : v.epoch ≠ p.snapshot) :
    pool.finish m id p = ([], pool) := by
  simp [finish, voice, Voice.commit, Epoch.claim?, stale]

/-- A pass that no transition overtook is written back. -/
theorem finish_of_current (voice : pool.voices[id]? = some v) (rest : v.epoch.busy = false)
    (current : v.epoch = p.snapshot) : pool.finish m id p =
      ((p.writeBack m id v).2.events,
        if (p.writeBack m id v).2.freed then (pool.set id (p.writeBack m id v).1).giveBack id
        else pool.set id (p.writeBack m id v).1) := by
  have claimed : Epoch.claim? p.snapshot v.epoch = some v.epoch.marked := by
    rw [Epoch.claim?_eq (current ▸ rest), if_pos current]
  -- The mark that the write-back sets is gone at its end.
  have epoch : ({ (p.writeBack m id v).1 with epoch := p.snapshot } : Voice) =
      (p.writeBack m id v).1 := by
    rw [← current]
    exact (congrArg Prod.fst (p.writeBack_epoch m id v v.epoch)).symm
  simp only [finish, voice, Voice.commit, claimed, Option.map_some]
  rw [p.writeBack_epoch m id v v.epoch.marked, Epoch.yield, epoch]

@[simp] theorem polyphony_finish (m : Mixer) (id : VoiceId) (p : Pass) (pool : Pool) :
    (pool.finish m id p).2.polyphony = pool.polyphony := by
  unfold finish
  split
  · rfl
  · split
    · rfl
    · simp only
      split <;> simp

/-- The write-back of a pass over a voice that plays is a change. -/
theorem Change.of_finish (voice : pool.voices[id]? = some v) (active : v.active)
    (playing : v.playing) (rest : v.epoch.busy = false) (current : v.epoch = p.snapshot) :
    Change m pool id v 0 (pool.finish m id p).1 (pool.finish m id p).2 := by
  rw [finish_of_current voice rest current]
  cases finished : p.finished
  · rw [Pass.writeBack_of_unfinished finished]
    exact .carry active playing finished
  · cases recycle : v.recycle
    · have ended : p.writeBack m id v =
          ({ v.ramped p with cursor := 0.0, playing := false },
            ⟨List.replicate p.loops (.voice .loop id 0.0) ++ [.voice .stop id m.bank.lastFrame],
              false⟩) := by
        simp [Pass.writeBack, finished, recycle, playing, Voice.ramped]
      rw [ended]
      exact .finish active playing finished recycle
    · have ended : p.writeBack m id v =
          ({ v.ramped p with cursor := 0.0, active := false, playing := false },
            ⟨List.replicate p.loops (.voice .loop id 0.0) ++
              [.voice .stop id m.bank.lastFrame, .voice .release id 0.0], true⟩) := by
        simp [Pass.writeBack, finished, recycle, playing, active, Pool.retired, Voice.ramped]
      rw [ended]
      exact .expire active playing finished recycle

end Pool

/-- On the way a pass keeps the pool sound, and its voice as it was when the epoch was read. -/
theorem Pool.Sound.run_pass {m : Mixer} {pool : Pool} {id : VoiceId} {v w : Voice} {n : Nat}
    {strip : Array Frame} {p : Pass} (h : pool.Sound) (voice : pool.voices[id]? = some v)
    (ran : (Pass.start v).run m n #[] v = (strip, p, w)) :
    (pool.set id w).Sound ∧ (pool.set id w).voices[id]? = some w ∧ w.active = v.active ∧
      w.playing = v.playing ∧ w.epoch = p.snapshot := by
  obtain ⟨active, playing, epoch⟩ := Pass.run_flags m n #[] (.start v) v
  have snapshot := Pass.snapshot_run m n #[] (.start v) v
  rw [ran] at active playing epoch snapshot
  obtain ⟨still, rest⟩ := h.settled voice
  refine ⟨h.set voice active ⟨?_, ?_⟩, by simp [Pool.getElem?_set, voice], active, playing,
    epoch.trans snapshot.symm⟩
  · rw [active, playing]
    exact still
  · rw [epoch, rest]

/-! ### A pass that comes too late -/

/-- How often a pass over a voice starts over within `n` frames. -/
def Pass.wraps (m : Mixer) (n : Nat) (p : Pass) (v : Voice) : Nat := (p.run m n #[] v).2.1.loops

namespace Mixer

variable {sofar : Progress} {id : VoiceId} {v : Voice} {snapshot : Epoch}

/-- What comes of the end of a pass once its frames are known. -/
theorem endPass_of_run {m : Mixer} {strip strip' : Array Frame} {p p' : Pass} {w : Voice}
    (ran : p.run m (sofar.buffer.size - strip.size) strip v = (strip', p', w)) :
    m.endPass sofar id p strip v = ⟨((sofar.pool.set id w).finish m id p').2,
      overlay sofar.buffer strip', sofar.events ++ ((sofar.pool.set id w).finish m id p').1⟩ := by
  simp only [endPass, ran]

/-- What comes of a whole pass. -/
theorem passOver_of_run {m : Mixer} {strip : Array Frame} {p : Pass} {w : Voice}
    (ran : (Pass.startAt snapshot v).run m sofar.buffer.size #[] v = (strip, p, w)) :
    m.passOver snapshot sofar id v = ⟨((sofar.pool.set id w).finish m id p).2,
      overlay sofar.buffer strip, sofar.events ++ ((sofar.pool.set id w).finish m id p).1⟩ :=
  endPass_of_run ran

theorem mixVoice_of_voice (voice : sofar.pool.voices[id]? = some v) (m : Mixer) :
    m.mixVoice sofar id =
      if v.active && v.playing then m.endPass sofar id (.start v) #[] v else sofar := by
  simp only [mixVoice, voice]
  rfl

@[simp] theorem polyphony_endPass (m : Mixer) (sofar : Progress) (id : VoiceId) (p : Pass)
    (strip : Array Frame) (v : Voice) :
    (m.endPass sofar id p strip v).pool.polyphony = sofar.pool.polyphony := by
  simp [endPass]

/-- The pass over one voice neither adds nor removes voices. -/
@[simp] theorem polyphony_mixVoice (m : Mixer) (sofar : Progress) (id : VoiceId) :
    (m.mixVoice sofar id).pool.polyphony = sofar.pool.polyphony := by
  unfold mixVoice
  split
  · rfl
  · split
    · simp [passOver]
    · rfl

@[simp] theorem polyphony_foldl_mixVoice (m : Mixer) (ids : List VoiceId) (sofar : Progress) :
    (ids.foldl m.mixVoice sofar).pool.polyphony = sofar.pool.polyphony := by
  induction ids generalizing sofar with
  | nil => rfl
  | cons id ids ih => rw [List.foldl_cons, ih, polyphony_mixVoice]

/-- A mix that is held up goes on to a pass, or finds no voice to go on to. -/
theorem Held.enter_cases (m : Mixer) (taken : Nat) (h : Held) :
    h.enter m taken = h ∨ ∃ id rest v strip p w, h.waiting = id :: rest ∧
      h.sofar.pool.voices[id]? = some v ∧ v.active ∧ v.playing ∧
      (Pass.start v).run m (min taken h.sofar.buffer.size) #[] v = (strip, p, w) ∧
      h.enter m taken =
        ⟨{ h.sofar with pool := h.sofar.pool.set id w }, some (id, p, strip), rest⟩ := by
  unfold enter
  cases waiting : h.waiting with
  | nil => exact .inl rfl
  | cons id rest =>
    cases voice : h.sofar.pool.voices[id]? with
    | none => exact .inl (by simp only [voice])
    | some v =>
      cases plays : v.active && v.playing
      · exact .inl (by simp [voice, plays])
      · obtain ⟨active, playing⟩ := Bool.and_eq_true_iff.mp plays
        exact .inr ⟨id, rest, v, _, _, _, rfl, voice, active, playing, rfl,
          by simp only [voice, plays, if_true]; rfl⟩

/-- A pass whose voice has moved on since the snapshot raises no event and moves no voice in or out
of the queue. It is written back to no field of its voice; but the loops it took on the way stay
taken. So it leaves no trace exactly if the voice does not count its loops or the pass does not
start over. -/
theorem passOver_of_stale (m : Mixer) (voice : sofar.pool.voices[id]? = some v)
    (stale : v.epoch ≠ snapshot) :
    let k := (Pass.startAt snapshot v).wraps m sofar.buffer.size v
    let done := m.passOver snapshot sofar id v
    done.events = sofar.events ∧ done.pool = sofar.pool.set id (v.wrapped k) ∧
      (0 < v.loops → (v.wrapped k).loops.toInt = v.loops.toInt - k) ∧
      (done.pool = sofar.pool ↔ ¬ (0 < v.loops ∧ 0 < k)) := by
  intro k done
  obtain ⟨j, may, loops, after⟩ :=
    Pass.run_voice m sofar.buffer.size #[] (Pass.startAt snapshot v) v
  obtain rfl : k = j := loops.trans (Nat.zero_add j)
  have here : (sofar.pool.set id (v.wrapped k)).voices[id]? = some (v.wrapped k) := by
    simp [Pool.getElem?_set, voice]
  have late : (v.wrapped k).epoch ≠
      ((Pass.startAt snapshot v).run m sofar.buffer.size #[] v).2.1.snapshot := by
    rw [Pass.snapshot_run, (v.wrapped_flags k).2.2]
    exact stale
  -- The voice in the pool is not the one that the pass began with, but has the same epoch.
  have dropped : done = ⟨sofar.pool.set id (v.wrapped k), overlay sofar.buffer
      ((Pass.startAt snapshot v).run m sofar.buffer.size #[] v).1, sofar.events⟩ := by
    simp only [done, passOver_of_run rfl, after, Pool.finish_of_stale here late, List.append_nil]
  have unchanged : sofar.pool.set id (v.wrapped k) = sofar.pool ↔ v.wrapped k = v := by
    constructor
    · intro same
      rw [same, voice] at here
      exact (Option.some.inj here).symm
    · intro same
      rw [same, Pool.set_of_voice voice]
  refine ⟨by rw [dropped], by rw [dropped], fun counted => ?_, ?_⟩
  · obtain zero | forever | enough := may
    · simp [zero, Voice.wrapped_zero]
    · simp [forever, loopForever] at counted
    · exact Voice.toInt_loops_wrapped counted enough
  · rw [dropped, unchanged]
    exact Voice.wrapped_eq_self_iff may

/-- A voice that stands on its last frame with one loop to go, after one transition. -/
def lastLoop : Voice := { active := true, playing := true, loops := 1, epoch := Epoch.first.leave }

/-- A mixer of a sound of one frame. -/
def tick : Mixer := ⟨⟨#[.silence], 44100, by decide, by decide⟩, .ofCounts 1 1⟩

/-- The voice `lastLoop` alone, before one frame. -/
def beforeLast : Progress := ⟨⟨#[lastLoop], []⟩, #[.silence], []⟩

theorem passOver_of_stale_lastLoop :
    (tick.passOver .first beforeLast 0 lastLoop).pool =
      ⟨#[{ lastLoop with loops := 0 }], []⟩ := by
  have stale : lastLoop.epoch ≠ .first := by decide
  have wraps : (Pass.startAt .first lastLoop).wraps tick 1 lastLoop = 1 := by decide
  have voice : beforeLast.pool.voices[0]? = some lastLoop := rfl
  obtain ⟨-, after, -⟩ := passOver_of_stale tick voice stale
  rw [after, show beforeLast.buffer.size = 1 from rfl, wraps]
  rfl

/-- So a stale pass does leave a trace. -/
theorem not_stale_leaves_no_trace : ¬ ∀ (m : Mixer) (snapshot : Epoch) (sofar : Progress)
    (id : VoiceId) (v : Voice), sofar.pool.voices[id]? = some v → v.epoch ≠ snapshot →
      (m.passOver snapshot sofar id v).pool = sofar.pool := by
  intro unchanged
  have same := unchanged tick .first beforeLast 0 lastLoop rfl (by decide)
  have loops := congrArg (fun pool : Pool => pool.voices[0]?.map Voice.loops) same
  revert loops
  decide

end Mixer

end SamplePlayer
