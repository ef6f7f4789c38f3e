import SamplePlayer.Proofs.Pass

/-!
# The share of a voice in a buffer

What a voice contributes to a buffer, what events it raises and what becomes of it depends on the
voice alone. A pass keeps all that it needs to go on in the voice: a pass over a number of frames
and, after it was written back, another pass over further frames are together the pass over all of
these frames. The cut may lie amid a ramp, at a wrap, or behind the end of the sound.

## Main definitions

* `Share`, `Voice.share`: what comes of the pass over a voice.
* `Pass.counting`: a pass with loops behind it.

## Main results

* `Pass.run_resume`: a pass goes on from what was written back.
* `Voice.share_add`: the share in a buffer that is cut in two.
-/

namespace SamplePlayer

/-- What comes of the pass over a voice. -/
structure Share where
  /-- What it contributes to the frames, from the first one on. -/
  strip : Array Frame
  events : List Event
  /-- It went back to the free voices. -/
  freed : Bool
  /-- The voice afterwards. -/
  voice : Voice

/-- The share of a voice in a buffer of `n` frames. -/
def Voice.share (m : Mixer) (id : VoiceId) (n : Nat) (v : Voice) : Share :=
  if v.active && v.playing then
    let (strip, p, w) := (Pass.start v).run m n #[] v
    let (w, outcome) := p.writeBack m id w
    ⟨strip, outcome.events, outcome.freed, w⟩
  else ⟨#[], [], false, v⟩

theorem Pace.ofRamp_ramp (p : Pace) : ofRamp p.ramp = p := by
  obtain ⟨ramp, rate, rfl⟩ := p
  rfl

namespace Pass

variable {m : Mixer} {id : VoiceId}

/-- The pass with `k` more loops behind it. -/
def counting (k : Nat) (p : Pass) : Pass := { p with loops := k + p.loops }

/-! ### Strips -/

/-- A pass puts its frames behind those that are there. -/
theorem run_strip (n : Nat) (strip : Array Frame) (p : Pass) (v : Voice) :
    run m n strip p v = (strip ++ (run m n #[] p v).1, (run m n #[] p v).2) := by
  induction n generalizing strip p v with
  | zero => simp
  | succ n ih =>
    cases finished : p.finished
    · rw [run_succ finished, run_succ finished, ih, ih (#[].push _)]
      simp
    · simp [run_of_finished finished]

/-- The frames of a pass may be taken in two parts. -/
theorem run_add (a b : Nat) (strip : Array Frame) (p : Pass) (v : Voice) :
    run m (a + b) strip p v = run m b (run m a strip p v).1 (run m a strip p v).2.1
      (run m a strip p v).2.2 := by
  induction a generalizing strip p v with
  | zero => simp
  | succ a ih =>
    cases finished : p.finished
    · rw [Nat.add_right_comm, run_succ finished, run_succ finished, ih]
    · simp [run_of_finished finished]

/-! ### Taking up a pass again -/

theorem takeLoop_placed (v : Voice) (q : Pass) :
    (v.placed q).takeLoop = (v.takeLoop.1, v.takeLoop.2.placed q) := by
  unfold Voice.takeLoop
  by_cases counted : 0 < v.loops
  · simp [Voice.placed, Voice.ramped, counted]
  · simp only [Voice.placed, Voice.ramped, counted, if_false]
    rfl

/-- The next frame depends neither on the loops so far nor on the place that the voice stores. -/
theorem next_resume (k : Nat) (p q : Pass) (v : Voice) : ∃ frame p' w,
    p.next m (v.placed q) = (frame, p', w.placed q) ∧
      (p.counting k).next m v = (frame, p'.counting k, w) := by
  have speed : p.speed.tick (v.placed q).speed.target m.steps.speed =
      p.speed.tick v.speed.target m.steps.speed := rfl
  have cursor : (p.counting k).cursor = p.cursor := rfl
  have speed' : (p.counting k).speed = p.speed := rfl
  simp only [next, takeLoop_placed, speed, cursor, speed']
  split
  · cases v.takeLoop with
    | mk again w => cases again <;> exact ⟨_, _, w, rfl, rfl⟩
  · exact ⟨_, _, v, rfl, rfl⟩

/-- A pass goes on in the same way if its voice was written back and its loops were told. -/
theorem run_resume (n k : Nat) (strip : Array Frame) (p q : Pass) (v : Voice) : ∃ strip' p' w,
    run m n strip p (v.placed q) = (strip', p', w.placed q) ∧
      run m n strip (p.counting k) v = (strip', p'.counting k, w) := by
  -- The two passes go on in step, as one frame keeps what they have in common.
  induction n generalizing strip p v with
  | zero => exact ⟨strip, p, v, rfl, rfl⟩
  | succ n ih =>
    cases finished : p.finished
    · have unfinished : (p.counting k).finished = false := finished
      obtain ⟨frame, p', w, placed, counted⟩ := next_resume (m := m) k p q v
      rw [run_succ finished, run_succ unfinished, placed, counted]
      exact ih (strip.push frame) p' w
    · have done : (p.counting k).finished = true := finished
      rw [run_of_finished finished, run_of_finished done]
      exact ⟨strip, p, v, rfl, rfl⟩

/-- A pass that begins at a voice starts with the place that was written back to it. -/
theorem start_placed {p : Pass} {v : Voice} (unfinished : p.finished = false)
    (epoch : v.epoch = p.snapshot) : start (v.placed p) = { p with loops := 0 } := by
  have speed : Pace.ofRamp (v.placed p).speed.ramp = p.speed := p.speed.ofRamp_ramp
  have same : (v.placed p).epoch = p.snapshot := epoch
  rw [start, startAt, speed, same, ← unfinished]
  rfl

/-- A write-back replaces the place that the voice stores. -/
theorem writeBack_placed (p q : Pass) (v : Voice) :
    p.writeBack m id (v.placed q) = p.writeBack m id v := rfl

/-- The loops behind a pass are told first. -/
theorem writeBack_counting (k : Nat) (p : Pass) (v : Voice) :
    (p.counting k).writeBack m id v = ((p.writeBack m id v).1,
      ⟨List.replicate k (.voice .loop id 0.0) ++ (p.writeBack m id v).2.events,
        (p.writeBack m id v).2.freed⟩) := by
  cases finished : p.finished
  · simp [writeBack, counting, finished]
  · simp only [writeBack, counting, finished, if_true, List.replicate_add, List.append_assoc]

end Pass

namespace Voice

variable {m : Mixer} {id : VoiceId} {v : Voice}

/-- A voice that does not play has no share and is left alone. -/
theorem share_of_still (still : (v.active && v.playing) = false) (n : Nat) :
    v.share m id n = ⟨#[], [], false, v⟩ := by
  simp [share, still]

/-- The share of a voice that plays is told by its pass and the write-back of it. -/
theorem share_of_playing (playing : (v.active && v.playing) = true) {n : Nat} {w : Voice}
    {strip : Array Frame} {p : Pass} (ran : (Pass.start v).run m n #[] v = (strip, p, w)) :
    v.share m id n = ⟨strip, (p.writeBack m id w).2.events, (p.writeBack m id w).2.freed,
      (p.writeBack m id w).1⟩ := by
  simp [share, playing, ran]

/-- The share in a buffer that is cut in two: the frames and the events of the second part come
behind those of the first, and the voice comes out the same. A voice that contributes to the second
part fills the first. -/
theorem share_add (m : Mixer) (id : VoiceId) (a b : Nat) (v : Voice) :
    let first := v.share m id a
    let second := first.voice.share m id b
    v.share m id (a + b) = ⟨first.strip ++ second.strip, first.events ++ second.events,
      first.freed || second.freed, second.voice⟩ ∧ first.strip.size ≤ a ∧
        (first.strip.size = a ∨ second.strip = #[]) := by
  intro first second
  cases playing : v.active && v.playing
  · have still : first = ⟨#[], [], false, v⟩ := share_of_still playing a
    have still' : second = ⟨#[], [], false, v⟩ := by
      simp only [second, still]
      exact share_of_still playing b
    simp [still, still', share_of_still playing]
  obtain ⟨strip, p, w, ran⟩ : ∃ strip p w, (Pass.start v).run m a #[] v = (strip, p, w) :=
    ⟨_, _, _, rfl⟩
  have size := Pass.size_run m a #[] (.start v) v
  rw [ran, show (#[] : Array Frame).size = 0 from rfl, Nat.zero_add] at size
  have whole : (Pass.start v).run m (a + b) #[] v = p.run m b strip w := by
    rw [Pass.run_add, ran]
  have begun : first = ⟨strip, (p.writeBack m id w).2.events, (p.writeBack m id w).2.freed,
      (p.writeBack m id w).1⟩ := share_of_playing playing ran
  cases finished : p.finished
  · -- The pass over the second part starts where the first one arrived.
    obtain ⟨active, plays, epoch⟩ := Pass.run_flags m a #[] (.start v) v
    have snapshot := Pass.snapshot_run m a #[] (.start v) v
    rw [ran] at active plays epoch snapshot
    have goes : ((w.placed p).active && (w.placed p).playing) = true := by
      change (w.active && w.playing) = true
      rw [active, plays, playing]
    -- Nothing but the count of its loops tells the resumed pass from the one that went on.
    have resumed : Pass.start (w.placed p) = { p with loops := 0 } :=
      Pass.start_placed finished (epoch.trans snapshot.symm)
    obtain ⟨strip', p', w', placed, counted⟩ :=
      Pass.run_resume (m := m) b p.loops #[] { p with loops := 0 } p w
    have carried : first = ⟨strip, List.replicate p.loops (.voice .loop id 0.0), false,
        w.placed p⟩ := by
      rw [begun, Pass.writeBack_of_unfinished finished]
    have ended : second = ⟨strip', (p'.writeBack m id w').2.events, (p'.writeBack m id w').2.freed,
        (p'.writeBack m id w').1⟩ := by
      simp only [second, carried]
      rw [share_of_playing goes (resumed ▸ placed), Pass.writeBack_placed]
    have both : p.run m b strip w = (strip ++ strip', p'.counting p.loops, w') := by
      rw [Pass.run_strip, show p.run m b #[] w = (strip', p'.counting p.loops, w') from counted]
    have full : strip.size = a := by simpa [finished] using size.2
    refine ⟨?_, by rw [carried]; exact size.1, .inl (by rw [carried]; exact full)⟩
    rw [share_of_playing playing (whole.trans both), Pass.writeBack_counting, carried, ended]
    rfl
  · -- The sound ended in the first part, and the second part finds the voice still.
    have still : second = ⟨#[], [], false, first.voice⟩ := by
      refine share_of_still ?_ b
      rw [begun, Pass.playing_writeBack finished, Bool.and_false]
    rw [Pass.run_of_finished finished] at whole
    rw [share_of_playing playing whole]
    simp [still, begun, size.1]

/-- A voice raises events about itself only. -/
theorem voice?_share (m : Mixer) (id : VoiceId) (n : Nat) (v : Voice) :
    ∀ e ∈ (v.share m id n).events, e.voice? = some id := by
  cases playing : v.active && v.playing
  · simp [share_of_still playing]
  · rw [share_of_playing playing rfl]
    exact Pass.voice?_writeBack _ _

end Voice

end SamplePlayer
