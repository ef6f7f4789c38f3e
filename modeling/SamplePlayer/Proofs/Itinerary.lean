import SamplePlayer.Proofs.Independence
import SamplePlayer.Proofs.Reading

/-!
# The itinerary of a voice

A voice that plays at a settled speed reads the sound at one position after the other: from where it
started up to the last frame, and then once from the first frame on for every loop it has to go. In
a sound of at most `2 ^ 26` frames none of these positions is rounded, so they can be told as
rational numbers, and so can their number.

## Main definitions

* `lap`, `itinerary`: the positions of a lap and of all laps.
* `Voice.Started`: a voice that plays at a settled speed.
* `Pass.On`: a pass on its way.
* `Clip.follow`: what comes of a voice in one buffer after the other.

## Main results

* `length_itinerary`: the number of positions.
* `Pass.On.next`, `Pass.On.run`: a pass follows its itinerary.
* `Desk.Run.itinerary`: what a voice contributes, and how it ends.
-/

namespace SamplePlayer

open Number

/-! ### Positions -/

/-- The positions from `start` on, `pace` apart, that are not beyond `last`. -/
def lap (last pace start : ℚ) : List ℚ :=
  (List.range (⌊(last - start) / pace⌋₊ + 1)).map fun i : Nat => start + i * pace

/-- The lap that begins at `start`, and so many laps from the first frame on. -/
def itinerary (last pace start : ℚ) (loops : Nat) : List ℚ :=
  lap last pace start ++ (List.replicate loops (lap last pace 0)).flatten

section

variable {last pace start : ℚ} {loops : Nat}

theorem length_lap : (lap last pace start).length = ⌊(last - start) / pace⌋₊ + 1 := by
  simp [lap]

theorem length_itinerary : (itinerary last pace start loops).length =
    ⌊(last - start) / pace⌋₊ + 1 + loops * (⌊last / pace⌋₊ + 1) := by
  simp [itinerary, length_lap]

/-- A lap goes on from the next position, if this is not beyond the end. -/
theorem lap_of_le (pos : 0 < pace) (le : start + pace ≤ last) :
    lap last pace start = start :: lap last pace (start + pace) := by
  have more : (last - start) / pace = (last - (start + pace)) / pace + 1 := by
    field_simp
    ring
  have rest : 0 ≤ (last - (start + pace)) / pace := div_nonneg (by linarith) pos.le
  rw [lap, more, Nat.floor_add_one rest, List.range_succ_eq_map, List.map_cons, List.map_map, lap]
  congr 1
  · simp
  · refine List.map_congr_left fun i _ => ?_
    simp only [Function.comp_apply, Nat.succ_eq_add_one]
    push_cast
    ring

/-- A lap ends where the next position is beyond the end. -/
theorem lap_of_lt (pos : 0 < pace) (lt : last < start + pace) : lap last pace start = [start] := by
  have none : ⌊(last - start) / pace⌋₊ = 0 :=
    Nat.floor_eq_zero.mpr ((div_lt_one pos).mpr (by linarith))
  simp [lap, none]

/-- The first position is where the voice starts. -/
theorem getElem?_itinerary_zero (last pace start : ℚ) (loops : Nat) :
    (itinerary last pace start loops)[0]? = some start := by
  simp [itinerary, lap, List.range_succ_eq_map]

theorem itinerary_of_le (pos : 0 < pace) (le : start + pace ≤ last) :
    itinerary last pace start loops = start :: itinerary last pace (start + pace) loops := by
  rw [itinerary, lap_of_le pos le, List.cons_append, itinerary]

theorem itinerary_succ (pos : 0 < pace) (lt : last < start + pace) :
    itinerary last pace start (loops + 1) = start :: itinerary last pace 0 loops := by
  rw [itinerary, lap_of_lt pos lt, List.replicate_succ, List.flatten_cons, itinerary]
  rfl

theorem itinerary_zero (pos : 0 < pace) (lt : last < start + pace) :
    itinerary last pace start 0 = [start] := by
  rw [itinerary, lap_of_lt pos lt]
  rfl

end

/-! ### Sums that are exact -/

namespace Number

/-- A multiple of the smallest step that a speed can differ by. -/
def OnGrid (q : ℚ) : Prop := ∃ n : ℤ, q = n * 2 ^ (-26 : ℤ)

theorem OnGrid.add {p q : ℚ} (first : OnGrid p) (second : OnGrid q) : OnGrid (p + q) := by
  obtain ⟨n, rfl⟩ := first
  obtain ⟨k, rfl⟩ := second
  exact ⟨n + k, by push_cast; ring⟩

theorem onGrid_natCast (n : Nat) : OnGrid n :=
  ⟨n * 2 ^ 26, by push_cast; rw [mul_assoc]; norm_num⟩

/-- Such a number is not rounded in double precision, unless it is long. -/
theorem OnGrid.representable {q : ℚ} (h : OnGrid q) (small : |q| ≤ 2 ^ 27) :
    Representable .binary64 q := by
  obtain ⟨n, rfl⟩ := h
  refine ⟨n, -26, ?_, by decide, rfl⟩
  rw [abs_mul, abs_of_pos (by positivity : (0 : ℚ) < 2 ^ (-26 : ℤ)), zpow_neg,
    ← div_eq_mul_inv, div_le_iff₀ (by positivity)] at small
  have bits : |(n : ℚ)| ≤ 2 ^ 53 := small.trans (by norm_num)
  exact_mod_cast bits

/-- A speed is such a number unless it is very slow. -/
theorem Single.onGrid {x : Float32} {a : ℚ} (value : Single.toRat? x = some a)
    (fast : 1 / 8 ≤ a) : OnGrid a := by
  have canonical := Single.canonical_toModel x
  unfold Single.toRat? at value
  cases found : x.toModel.unpack with
  | infinity | notANumber =>
    rw [found] at value
    cases value
  | zero s =>
    rw [found] at value
    obtain rfl := Option.some.inj value
    norm_num at fast
  | finite s m e pos =>
    rw [found] at value canonical
    obtain rfl := Option.some.inj value
    obtain ⟨room, -, -⟩ := canonical
    -- A mantissa of 24 bits cannot make up for a smaller exponent.
    have least : -26 ≤ e := by
      by_contra small
      have unit : (2 : ℚ) ^ e ≤ 2 ^ (-27 : ℤ) := zpow_le_zpow_right₀ one_le_two (by omega)
      have bits : (m : ℚ) < 2 ^ 24 := by exact_mod_cast room
      have size : factor s * (m * 2 ^ e) ≤ |factor s * (m * 2 ^ e)| := le_abs_self _
      rw [abs_mul, abs_factor, one_mul, abs_of_nonneg (by positivity)] at size
      have product : (m : ℚ) * 2 ^ e < 2 ^ 24 * 2 ^ (-27 : ℤ) :=
        mul_lt_mul bits unit (by positivity) (by positivity)
      norm_num at product
      linarith
    obtain ⟨k, rfl⟩ : ∃ k : Nat, e = -26 + k := ⟨(e + 26).toNat, by omega⟩
    refine ⟨s.apply m * 2 ^ k, ?_⟩
    rw [Int.cast_mul, cast_apply, zpow_add₀ two_ne_zero, zpow_natCast]
    push_cast
    ring

end Number

/-! ### A pass on its way -/

namespace Pass

variable {m : Mixer} {p : Pass} {v : Voice} {pace q : ℚ} {loops n : Nat}

/-- The pass is about to read the sound at `q`, at a speed that rests, with so many loops of its
voice to go. -/
structure On (m : Mixer) (pace q : ℚ) (loops : Nat) (p : Pass) (v : Voice) : Prop where
  cursor : toRat? p.cursor = some q
  grid : OnGrid q
  nonneg : 0 ≤ q
  le_last : q ≤ m.bank.frameCount - 1
  rests : p.speed.ramp.rests v.speed.target = true
  rate : toRat? p.speed.rate = some pace
  loops : v.loops.toInt = loops
  unfinished : p.finished = false

theorem speed_tick_of_rests {p : Pace} {target : Float32} (rests : p.ramp.rests target = true)
    (steps : UInt32) : p.tick target steps = p := if_pos rests

section

variable (few : m.bank.frameCount ≤ 2 ^ 26) (grid : OnGrid pace) (pos : 0 < pace) (fast : pace ≤ 8)
include few grid pos fast

/-- The next position is not rounded. -/
theorem On.sum (h : On m pace q loops p v) :
    toRat? (p.cursor + p.speed.rate) = some (q + pace) := by
  have last : (m.bank.frameCount : ℚ) ≤ 2 ^ 26 := by exact_mod_cast few
  have nonneg := h.nonneg
  have le_last := h.le_last
  have small : |q + pace| ≤ 2 ^ 27 := abs_le.mpr ⟨by linarith, by linarith⟩
  obtain ⟨sum, value, rounds⟩ :=
    toRat?_add h.cursor h.rate (le_large (small.trans (by norm_num)))
  rw [value, rounds.eq_of_representable ((h.grid.add grid).representable small)]

/-- The next frame is the next position of the lap, or the first one of the next lap, or there is
none. -/
theorem On.next (h : On m pace q loops p v) :
    (q + pace ≤ m.bank.frameCount - 1 ∧
      On m pace (q + pace) loops (p.next m v).2.1 (p.next m v).2.2 ∧
      (p.next m v).2.1.loops = p.loops) ∨
    m.bank.frameCount - 1 < q + pace ∧
      ((∃ rest, loops = rest + 1 ∧ On m pace 0 rest (p.next m v).2.1 (p.next m v).2.2 ∧
        (p.next m v).2.1.loops = p.loops + 1) ∨
      (loops = 0 ∧ (p.next m v).2.1.finished = true ∧ (p.next m v).2.1.loops = p.loops ∧
        (p.next m v).2.2 = v)) := by
  have sum := h.sum few grid pos fast
  have past := m.bank.lastFrame_lt_iff (few.trans (by norm_num)) sum
  have first : (1 : ℚ) ≤ m.bank.frameCount := by exact_mod_cast m.bank.frames_pos
  simp only [Pass.next, speed_tick_of_rests h.rests]
  by_cases beyond : m.bank.frameCount - 1 < q + pace
  · rw [if_pos (past.mpr beyond)]
    obtain ⟨none, taken⟩ | ⟨rest, some, taken, left⟩ := Voice.takeLoop_of_counts h.loops
    · rw [taken]
      exact .inr ⟨beyond, .inr ⟨none, rfl, rfl, rfl⟩⟩
    · rw [taken]
      exact .inr ⟨beyond, .inl ⟨rest, some, ⟨toRat?_zero, onGrid_natCast 0, le_rfl, by linarith,
        h.rests, h.rate, left, h.unfinished⟩, rfl⟩⟩
  · rw [if_neg (mt past.mp beyond)]
    exact .inl ⟨not_lt.mp beyond, ⟨sum, h.grid.add grid, add_nonneg h.nonneg pos.le,
      not_lt.mp beyond, h.rests, h.rate, h.loops, h.unfinished⟩, rfl⟩

/-- A pass follows its itinerary to the end. -/
theorem On.run (h : On m pace q loops p v) (n : Nat) (strip : Array Frame) :
    let positions := itinerary (m.bank.frameCount - 1) pace q loops
    let after := p.run m n strip v
    (n < positions.length → ∃ place rest, On m pace place rest after.2.1 after.2.2 ∧
      itinerary (m.bank.frameCount - 1) pace place rest = positions.drop n ∧
      after.2.1.loops + rest = p.loops + loops) ∧
    (positions.length ≤ n → after.2.1.finished = true ∧ after.2.1.loops = p.loops + loops ∧
      after.2.2.loops.toInt = 0) := by
  induction n generalizing p v q loops strip with
  | zero =>
    refine ⟨fun _ => ⟨q, loops, h, rfl, rfl⟩, fun none => ?_⟩
    rw [length_itinerary] at none
    omega
  | succ n ih =>
    rw [run_succ h.unfinished]
    obtain ⟨le, on, same⟩ | ⟨lt, ⟨rest, rfl, on, more⟩ | ⟨rfl, finished, same, voice⟩⟩ :=
      h.next few grid pos fast
    · rw [itinerary_of_le pos le]
      have later := ih on (strip.push (p.next m v).1)
      simpa [same] using later
    · -- The sound ran out, and the next lap begins.
      rw [itinerary_succ pos lt]
      have later := ih on (strip.push (p.next m v).1)
      simpa [more, Nat.add_assoc, Nat.add_comm 1 rest] using later
    · rw [itinerary_zero pos lt, run_of_finished finished]
      refine ⟨fun inside => by simp at inside, fun _ => ⟨finished, same, ?_⟩⟩
      rw [voice]
      exact h.loops

end

end Pass

/-! ### Gains -/

namespace Voice

/-- Starting over moves no gain. -/
theorem wrapped_gains (v : Voice) (n : Nat) :
    (v.wrapped n).left = v.left ∧ (v.wrapped n).right = v.right := by
  unfold wrapped
  split <;> exact ⟨rfl, rfl⟩

theorem recycle_wrapped (v : Voice) (n : Nat) : (v.wrapped n).recycle = v.recycle := by
  unfold wrapped
  split <;> rfl

end Voice

namespace Pass

variable {m : Mixer}

/-- Frame after frame the gains move on, as long as there are frames. -/
theorem run_gains (n : Nat) (strip : Array Frame) (p : Pass) (v : Voice)
    (unfinished : (p.run m n strip v).2.1.finished = false) :
    (p.run m n strip v).2.1.left = (·.tick v.left.target m.steps.volume)^[n] p.left ∧
      (p.run m n strip v).2.1.right = (·.tick v.right.target m.steps.volume)^[n] p.right := by
  induction n generalizing strip p v with
  | zero => exact ⟨rfl, rfl⟩
  | succ n ih =>
    cases finished : p.finished
    · rw [run_succ finished] at unfinished ⊢
      obtain ⟨left, right⟩ := ih _ _ _ unfinished
      -- A frame changes no target.
      have targets : (p.next m v).2.2.left = v.left ∧ (p.next m v).2.2.right = v.right := by
        obtain ⟨-, same⟩ | ⟨again, -, taken⟩ := next_voice m p v
        · rw [same]
          exact ⟨rfl, rfl⟩
        · rw [taken, (Voice.takeLoop_of_true again).2]
          exact v.wrapped_gains 1
      have ramps : (p.next m v).2.1.left = p.left.tick v.left.target m.steps.volume ∧
          (p.next m v).2.1.right = p.right.tick v.right.target m.steps.volume := by
        simp only [next]
        split
        · cases v.takeLoop with
          | mk again w => cases again <;> exact ⟨rfl, rfl⟩
        · exact ⟨rfl, rfl⟩
      rw [left, right, targets.1, targets.2, ramps.1, ramps.2]
      exact ⟨rfl, rfl⟩
    · rw [run_of_finished finished, finished] at unfinished
      cases unfinished

end Pass

/-- The gain that a frame of a pass is scaled by. -/
def Parameter.gain (gain : Parameter) (m : Mixer) (i : Nat) : Float32 :=
  ((·.tick gain.target m.steps.volume)^[i + 1] gain.ramp).current

/-! ### Voices -/

namespace Voice

/-- The voice plays from the frame `k` on, at a speed that has settled, with so many loops to
go. -/
structure Started (m : Mixer) (v : Voice) (k : Nat) (pace : ℚ) (loops : Nat) : Prop where
  active : v.active = true
  playing : v.playing = true
  cursor : toRat? v.cursor = some (k : ℚ)
  inside : k < m.bank.frameCount
  rests : v.speed.ramp.rests v.speed.target = true
  rate : Single.toRat? v.speed.current = some pace
  slow : 1 / 8 ≤ pace
  fast : pace ≤ 8
  loops : v.loops.toInt = loops

variable {m : Mixer} {id : VoiceId} {v : Voice} {k loops : Nat} {pace : ℚ}

namespace Started

variable (h : v.Started m k pace loops)
include h

theorem plays : (v.active && v.playing) = true := by rw [h.active, h.playing, Bool.and_self]

theorem onGrid : OnGrid pace := Single.onGrid h.rate h.slow

theorem pos : 0 < pace := by linarith [h.slow]

/-- The pass over the voice is at the beginning of its itinerary. -/
theorem on : Pass.On m pace k loops (.start v) v := by
  have inside : (k : ℚ) + 1 ≤ m.bank.frameCount := by exact_mod_cast h.inside
  have size : |pace| ≤ large := by
    rw [abs_of_pos h.pos]
    exact le_large (h.fast.trans (by norm_num))
  exact ⟨h.cursor, onGrid_natCast k, Nat.cast_nonneg k, by linarith, h.rests,
    toRat?_widen h.rate size, h.loops, rfl⟩

variable (few : m.bank.frameCount ≤ 2 ^ 26)
include few

/-- The voice contributes the sound at its positions, one after the other, scaled by its gains. -/
theorem contribution {i : Nat}
    (inside : i < (itinerary (m.bank.frameCount - 1) pace k loops).length) :
    ∃ x f, toRat? x = some (itinerary (m.bank.frameCount - 1) pace k loops)[i] ∧
      m.bank.read? x = some f ∧
      v.contribution? m i = some (f.scale (v.left.gain m i) (v.right.gain m i)) := by
  obtain ⟨place, rest, on, left, -⟩ := (h.on.run few h.onGrid h.pos h.fast i #[]).1 inside
  have here : (itinerary (m.bank.frameCount - 1) pace k loops)[i] = place := by
    have first := getElem?_itinerary_zero (m.bank.frameCount - 1) pace place rest
    rw [left, List.getElem?_drop, Nat.add_zero, List.getElem?_eq_getElem inside] at first
    exact Option.some.inj first
  obtain ⟨left, right⟩ := Pass.run_gains i #[] (.start v) v on.unfinished
  obtain ⟨l, -, -, voice⟩ := Pass.run_voice m i #[] (.start v) v
  obtain ⟨f, read⟩ := Option.isSome_iff_exists.mp
    ((Bank.Within.mk on.cursor on.le_last).read?_isSome (few.trans (by norm_num)))
  refine ⟨_, f, here ▸ on.cursor, read, ?_⟩
  simp only [contribution?, h.plays, on.unfinished, Pass.sound, read, left, right, voice,
    (v.wrapped_gains l).1, (v.wrapped_gains l).2]
  simp only [Parameter.gain, Function.iterate_succ_apply']
  rfl

/-- After the last of its positions it is silent. -/
theorem silent {i : Nat} (ends : (itinerary (m.bank.frameCount - 1) pace k loops).length ≤ i) :
    v.contribution? m i = none := by
  obtain ⟨finished, -⟩ := (h.on.run few h.onGrid h.pos h.fast i #[]).2 ends
  simp [contribution?, finished]

/-- On its way it has told of the loops behind it. -/
theorem underway {n : Nat} (short : n < (itinerary (m.bank.frameCount - 1) pace k loops).length) :
    ∃ l rest, l + rest = loops ∧
      (v.share m id n).events = List.replicate l (.voice .loop id 0.0) ∧
      (v.share m id n).voice.playing = true ∧ (v.share m id n).voice.loops.toInt = rest := by
  obtain ⟨place, rest, on, -, sum⟩ := (h.on.run few h.onGrid h.pos h.fast n #[]).1 short
  obtain ⟨-, playing, -⟩ := Pass.run_flags m n #[] (.start v) v
  rw [share_of_playing h.plays rfl, Pass.writeBack_of_unfinished on.unfinished]
  exact ⟨_, rest, sum.trans (Nat.zero_add loops), rfl, playing.trans h.playing, on.loops⟩

/-- At the end it has told of every loop, and then of its stop, and it stands at the start again. -/
theorem share {n : Nat} (ends : (itinerary (m.bank.frameCount - 1) pace k loops).length ≤ n) :
    (v.share m id n).events = List.replicate loops (.voice .loop id 0.0) ++
        .voice .stop id m.bank.lastFrame :: (if v.recycle then [.voice .release id 0.0] else []) ∧
      (v.share m id n).voice.playing = false ∧ (v.share m id n).voice.active = !v.recycle ∧
      (v.share m id n).voice.cursor = 0.0 ∧ (v.share m id n).voice.loops = 0 := by
  obtain ⟨finished, counted, none⟩ := (h.on.run few h.onGrid h.pos h.fast n #[]).2 ends
  obtain ⟨active, playing, -⟩ := Pass.run_flags m n #[] (.start v) v
  obtain ⟨l, -, -, voice⟩ := Pass.run_voice m n #[] (.start v) v
  have recycle : ((Pass.start v).run m n #[] v).2.2.recycle = v.recycle := by
    rw [voice, Voice.recycle_wrapped]
  have loops : ((Pass.start v).run m n #[] v).2.2.loops = 0 := Int32.toInt_inj.mp none
  rw [share_of_playing h.plays rfl]
  rw [h.active] at active
  rw [h.playing] at playing
  have zero : (Pass.start v).loops = 0 := rfl
  rw [zero, Nat.zero_add] at counted
  simp only [Pass.writeBack, finished, playing, counted, recycle, if_true]
  cases v.recycle <;> simp [Pool.retired, active, loops]

end Started

/-- What a voice contributes behind a cut, it contributes from the state at the cut. -/
theorem contribution?_add (m : Mixer) (id : VoiceId) (v : Voice) (a i : Nat) :
    v.contribution? m (a + i) = (v.share m id a).voice.contribution? m i := by
  obtain ⟨whole, -, full⟩ := v.share_add m id a (i + 1)
  rw [← v.getElem?_share m id (show a + i < a + (i + 1) by omega), whole,
    ← (v.share m id a).voice.getElem?_share m id (Nat.lt_succ_self i)]
  dsimp only
  rw [Array.getElem?_append]
  obtain full | empty := full
  · rw [if_neg (by omega), full, Nat.add_sub_cancel_left]
  · -- A voice that did not fill the first part has nothing for the second.
    have first := (v.share_add m id a (i + 1)).2.1
    rw [if_neg (by omega), empty]
    simp

theorem share_zero (m : Mixer) (id : VoiceId) (v : Voice) :
    v.share m id 0 = ⟨#[], [], false, v⟩ := by
  cases playing : v.active && v.playing
  · exact share_of_still playing 0
  · rw [share_of_playing playing rfl]
    rfl

end Voice

namespace Clip

/-- Starting a voice that stands on a whole frame makes it play like that. -/
theorem started_start {c : Clip} {id : VoiceId} {v : Voice} {k loops : Nat} {pace : ℚ}
    (voice : c.pool.voices[id]? = some v) (active : v.active = true) (still : v.playing = false)
    (cursor : toRat? v.cursor = some (k : ℚ)) (inside : k < c.bank.frameCount)
    (target : Single.toRat? v.speed.target = some pace) (slow : 1 / 8 ≤ pace) (fast : pace ≤ 8)
    (count : v.loops.toInt = loops) :
    ∃ w, ((start id).on c).2.pool.voices[id]? = some w ∧ w.Started c.mixer k pace loops := by
  rw [on_start voice active still]
  refine ⟨v.turned { v.snap with playing := true }, ?_, active, rfl, cursor, inside, ?_, target,
    slow, fast, count⟩
  · change (c.pool.set id _).voices[id]? = some _
    simp [Pool.getElem?_set, voice]
  · have same : (v.speed.target == v.speed.target) = true :=
      (Single.beq_iff target target).mpr rfl
    simp [Voice.turned, Voice.snap, Parameter.snap, Parameter.settled, Ramp.settled, Ramp.rests,
      bne, same]

/-! ### One buffer after the other -/

/-- What a voice contributes to the frames while one buffer after the other is mixed, the events
about it, and the clip afterwards. -/
def follow (id : VoiceId) : List Nat → Clip → List (Option Frame) × List Event × Clip
  | [], c => ([], [], c)
  | count :: counts, c =>
    let (frames, events, d) := follow id counts (c.mix count).2.2
    ((List.range (count / 2)).map (fun i =>
        c.pool.voices[id]?.bind (Voice.contribution? c.mixer i)) ++ frames,
      Event.only id (c.mix count).2.1 ++ events, d)

/-- Where the buffers end makes no difference to a voice. -/
theorem follow_eq {c : Clip} {id : VoiceId} {v : Voice} (sound : c.pool.Sound)
    (voice : c.pool.voices[id]? = some v) (counts : List Nat) :
    let total := (counts.map (· / 2)).sum
    (c.follow id counts).1 = (List.range total).map (v.contribution? c.mixer) ∧
      (c.follow id counts).2.1 = (v.share c.mixer id total).events ∧
      (c.follow id counts).2.2.pool.voices[id]? = some (v.share c.mixer id total).voice := by
  induction counts generalizing c v with
  | nil =>
    simp only [List.map_nil, List.sum_nil, Voice.share_zero]
    exact ⟨rfl, rfl, voice⟩
  | cons count counts ih =>
    obtain ⟨after, events⟩ := c.mixer.mix_voice sound count id
    obtain ⟨-, -, sound', -⟩ := c.mixer.mix_spec sound (count / 2)
    rw [voice] at after events
    rw [← (c.mixer.mix_odd count c.pool).2] at sound'
    obtain ⟨frames, later, last⟩ := ih (c := (c.mix count).2.2) sound' after
    obtain ⟨whole, -⟩ := v.share_add c.mixer id (count / 2) (counts.map (· / 2)).sum
    simp only [List.map_cons, List.sum_cons, whole, List.range_add, List.map_append, List.map_map]
    refine ⟨?_, ?_, last⟩
    · -- The frames behind the first buffer are told from the voice that it leaves.
      simp only [follow, frames, voice, Option.bind_some]
      congr 1
      exact List.map_congr_left fun i _ => (v.contribution?_add c.mixer id (count / 2) i).symm
    · simp only [follow, later]
      congr 1

/-- Mixing one buffer after the other leaves a sound pool and the mixer. -/
theorem sound_follow {c : Clip} (sound : c.pool.Sound) (id : VoiceId) (counts : List Nat) :
    (c.follow id counts).2.2.pool.Sound ∧ (c.follow id counts).2.2.mixer = c.mixer := by
  induction counts generalizing c with
  | nil => exact ⟨sound, rfl⟩
  | cons count counts ih =>
    obtain ⟨-, -, sound', -⟩ := c.mixer.mix_spec sound (count / 2)
    rw [← (c.mixer.mix_odd count c.pool).2] at sound'
    exact ih (c := (c.mix count).2.2) sound'

/-- Each of the buffers is the sum of what the voices contribute to it, and the voice that is
followed contributes what it would to one long buffer. -/
theorem samples_follow {c : Clip} {id : VoiceId} {v : Voice} (sound : c.pool.Sound)
    (voice : c.pool.voices[id]? = some v) (before : List Nat) (count : Nat) :
    let b := (c.follow id before).2.2
    (b.mix count).1 = interleave ((List.range (count / 2)).map fun i =>
      .sum ((List.range b.polyphony).filterMap fun j =>
        if j = id then v.contribution? c.mixer ((before.map (· / 2)).sum + i)
        else b.pool.voices[j]?.bind (Voice.contribution? b.mixer i))) ++
      List.replicate (count % 2) .zero := by
  intro b
  obtain ⟨-, -, here⟩ := follow_eq sound voice before
  obtain ⟨sound', mixer⟩ := sound_follow sound id before
  have own (i : Nat) : b.pool.voices[id]?.bind (Voice.contribution? b.mixer i) =
      v.contribution? c.mixer ((before.map (· / 2)).sum + i) := by
    rw [show b.pool.voices[id]? = _ from here, show b.mixer = _ from mixer,
      Voice.contribution?_add c.mixer id]
    rfl
  refine (b.mixer.samples_mix sound' count).trans ?_
  simp only [← Mixer.filterMap_range]
  congr 2
  refine List.map_congr_left fun i _ => congrArg Frame.sum (List.filterMap_congr fun j _ => ?_)
  split
  · subst j
    exact own i
  · rfl

end Clip

namespace Desk

/-- However a clip with at most `2 ^ 26` frames got where it is, take a voice of it that plays from
the frame `k` on, at a settled speed, with so many loops to go, and mix any buffers with no call in
between. Every frame of a buffer is the sum of what the voices contribute to it, in the order of
their numbers. The voice contributes the sound at the positions of its itinerary, one after the
other, and is silent afterwards. On its way it tells of loops only. If the buffers are long enough,
it tells of each loop and then of its stop at the last frame, goes back to the free voices if it is
to be recycled, and ends at the start with no loops to go. -/
theorem Run.itinerary {c : Clip} {d : Desk} {n : Nat} {old : Array Frame}
    (made : Pool.make n = .ok c.pool) (run : Run (resting c old) d) {id : VoiceId} {v : Voice}
    {k loops : Nat} {pace : ℚ} (few : d.clip.bank.frameCount ≤ 2 ^ 26)
    (voice : d.clip.pool.voices[id]? = some v) (started : v.Started d.clip.mixer k pace loops)
    (counts : List Nat) :
    let last : ℚ := d.clip.bank.frameCount - 1
    let positions := SamplePlayer.itinerary last pace k loops
    let total := (counts.map (· / 2)).sum
    let (frames, events, e) := d.clip.follow id counts
    positions.length = ⌊(last - k) / pace⌋₊ + 1 + loops * (⌊last / pace⌋₊ + 1) ∧
    frames.length = total ∧
    (∀ before count rest, counts = before ++ count :: rest →
      let b := (d.clip.follow id before).2.2
      (b.mix count).1 = interleave ((List.range (count / 2)).map fun i =>
        .sum ((List.range b.polyphony).filterMap fun j =>
          if j = id then frames[(before.map (· / 2)).sum + i]?.join
          else b.pool.voices[j]?.bind (Voice.contribution? b.mixer i))) ++
        List.replicate (count % 2) .zero) ∧
    (∀ i < total, ∀ q, positions[i]? = some q → ∃ x f, toRat? x = some q ∧
      d.clip.bank.read? x = some f ∧
      frames[i]? = some (some (f.scale (v.left.gain d.clip.mixer i)
        (v.right.gain d.clip.mixer i)))) ∧
    (∀ i < total, positions.length ≤ i → frames[i]? = some none) ∧
    (total < positions.length → ∃ l rest, l + rest = loops ∧
      events = List.replicate l (.voice .loop id 0.0) ∧
      ∃ w, e.pool.voices[id]? = some w ∧ w.playing = true ∧ w.loops.toInt = rest) ∧
    (positions.length ≤ total →
      events = List.replicate loops (.voice .loop id 0.0) ++
        .voice .stop id d.clip.bank.lastFrame ::
          (if v.recycle then [.voice .release id 0.0] else []) ∧
      ∃ w, e.pool.voices[id]? = some w ∧ w.playing = false ∧ w.active = !v.recycle ∧
        w.cursor = 0.0 ∧ w.loops = 0) := by
  have sound : d.clip.pool.Sound := ((sound_resting (Pool.sound_of_make made).1 old).run run).pool
  intro last positions total
  obtain ⟨frames, events, after⟩ := Clip.follow_eq sound voice counts
  have here {i : Nat} (inside : i < total) :
      (d.clip.follow id counts).1[i]? = some (v.contribution? d.clip.mixer i) := by
    rw [frames, List.getElem?_map, List.getElem?_range inside, Option.map_some]
  refine ⟨length_itinerary, by rw [frames, List.length_map, List.length_range], ?_, ?_, ?_, ?_, ?_⟩
  · rintro before count rest rfl b
    refine (Clip.samples_follow sound voice before count).trans ?_
    congr 2
    refine List.map_congr_left fun i inside => congrArg Frame.sum ?_
    refine List.filterMap_congr fun j _ => ?_
    have within : (before.map (· / 2)).sum + i < total := by
      have short := List.mem_range.mp inside
      simp only [total, List.map_append, List.map_cons, List.sum_append, List.sum_cons]
      omega
    rw [here within]
    rfl
  · intro i inside q position
    obtain ⟨short, rfl⟩ := List.getElem?_eq_some_iff.mp position
    obtain ⟨x, f, value, read, contribution⟩ := started.contribution few short
    exact ⟨x, f, value, read, by rw [here inside, contribution]⟩
  · intro i inside ends
    rw [here inside, started.silent few ends]
  · intro short
    obtain ⟨l, rest, sum, told, going⟩ := started.underway few short
    exact ⟨l, rest, sum, events.trans told, _, after, going⟩
  · intro ends
    obtain ⟨told, ended⟩ := started.share few ends
    exact ⟨events.trans told, _, after, ended⟩

/-- A sound of five frames. -/
def stair : Bank where
  frames := #[.both .zero, .both (.ofInt16 8192), .both (.ofInt16 16384), .both (.ofInt16 24576),
    .both (.ofInt16 32767)]
  rate := 22050
  frames_pos := by decide
  rate_ne := by decide

/-- A clip of this sound, which plays from the second frame on at one and a half times the speed,
and then once more from the first. -/
def stroll : Clip :=
  [Request.obtain, .setVolume 0 1.0 1.0, .setSpeed 0 1.5, .setLoops 0 1, .seek 0 1.0,
    .start 0].foldl (fun c r => r.after c) { blip with mixer := ⟨stair, .ofCounts 1 1⟩ }

/-- The positions are 1, 5/2, 4, and then 0, 3/2, 3. Buffers of two, two and three frames are cut
amid both laps. -/
theorem itinerary_stroll :
    let done := stroll.follow 0 [4, 5, 6]
    done.1.length = 7 ∧
      (∃ x f, toRat? x = some (5 / 2) ∧ stair.read? x = some f ∧
        done.1[1]? = some (some (f.scale 1.0 1.0))) ∧
      done.1[6]? = some none ∧
      done.2.1 = [.voice .loop 0 0.0, .voice .stop 0 stair.lastFrame] := by
  have run : Run (resting { blip with mixer := ⟨stair, .ofCounts 1 1⟩ } #[]) (resting stroll #[]) :=
    run_requests ..
  obtain ⟨v, voice, recycle, left, right⟩ : ∃ v, stroll.pool.voices[0]? = some v ∧
      v.recycle = false ∧ v.left.gain stroll.mixer 1 = (1.0 : Float32) ∧
        v.right.gain stroll.mixer 1 = (1.0 : Float32) :=
    ⟨_, rfl, rfl, rfl, rfl⟩
  have pace : Single.toRat? 1.5 = some (3 / 2) := by
    change some (1 * (((3 * 2 ^ 22 : Nat) : ℚ) * 2 ^ (-23 : ℤ))) = _
    norm_num
  have started : v.Started stroll.mixer 1 (3 / 2) 1 := by
    obtain rfl := Option.some.inj (voice.symm.trans rfl)
    exact ⟨rfl, rfl, toRat?_one, by decide, by decide, pace, by norm_num, by norm_num, rfl⟩
  obtain ⟨length, total, -, sounds, silent, -, ended⟩ :=
    run.itinerary (n := 1) rfl (by decide) voice started [4, 5, 6]
  have frames : ((resting stroll #[]).clip.bank.frameCount : ℚ) - 1 = 4 := by
    change ((5 : Nat) : ℚ) - 1 = 4
    norm_num
  -- Either lap goes on for two steps from where it begins.
  have first : ⌊((4 : ℚ) - (1 : Nat)) / (3 / 2)⌋₊ = 2 := by norm_num
  have second : ⌊(4 : ℚ) / (3 / 2)⌋₊ = 2 := by norm_num
  rw [frames] at length sounds silent ended
  rw [first, second] at length
  have position : (SamplePlayer.itinerary 4 (3 / 2) (1 : Nat) 1)[1]? = some (5 / 2) := by
    rw [SamplePlayer.itinerary, lap, first]
    norm_num [List.range_succ]
  obtain ⟨x, f, value, read, heard⟩ := sounds 1 (by decide) _ position
  obtain ⟨told, -⟩ := ended (length.trans_le (by decide))
  rw [recycle] at told
  have loud : f.scale (v.left.gain stroll.mixer 1) (v.right.gain stroll.mixer 1) =
      f.scale 1.0 1.0 := by rw [left, right]
  exact ⟨total, ⟨x, f, value, read, heard.trans (congrArg (some <| some ·) loud)⟩,
    silent 6 (by decide) length.le, told⟩

end Desk

end SamplePlayer
