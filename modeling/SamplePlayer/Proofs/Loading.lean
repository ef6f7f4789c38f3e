import SamplePlayer.Proofs.Resample
import SamplePlayer.Proofs.Sides

/-!
# How many frames a loaded bank has

A recording goes into a bank as it was decoded if it has the rate that is asked for, and through the
filter otherwise. On the way its frames are interleaved and paired up again, by which nothing is
lost. So the bank has as many frames as the filter gives.

## Main results

* `Bank.ofInterleaved_interleave`: interleaved frames make a bank of just these frames.
* `Bank.load_of_rate_eq`, `Bank.load_of_rate_ne`: what loading a file comes down to.
* `Bank.frameCount_of_rate_ne`: the length of a bank at another rate than its file.
-/

namespace SamplePlayer

/-! ### Frames and interleaved samples -/

theorem length_interleave (frames : List Frame) :
    (interleave frames).length = 2 * frames.length := by
  induction frames with
  | nil => rfl
  | cons f rest ih =>
    change (interleave rest).length + 2 = 2 * (rest.length + 1)
    omega

/-- Left samples stand at even places, right samples at odd ones. -/
theorem getElem?_interleave (frames : List Frame) (i : Nat) :
    (interleave frames)[2 * i]? = frames[i]?.map Frame.left ∧
      (interleave frames)[2 * i + 1]? = frames[i]?.map Frame.right := by
  induction frames generalizing i with
  | nil => exact ⟨rfl, rfl⟩
  | cons f rest ih =>
    cases i with
    | zero => exact ⟨rfl, rfl⟩
    | succ i => exact ih i

namespace Bank

theorem pairUp_interleave (frames : Array Frame) :
    pairUp (interleave frames.toList).toArray = frames := by
  have size : (interleave frames.toList).length = 2 * frames.size := length_interleave _
  apply Array.ext
  · simp only [pairUp, Array.size_ofFn, List.size_toArray]
    omega
  · intro i before inside
    obtain ⟨left, right⟩ := getElem?_interleave frames.toList i
    have here : frames.toList[i]? = some frames[i] := by simp [inside]
    rw [here] at left right
    simp [pairUp, Array.getD_eq_getD_getElem?, left, right]

theorem ofInterleaved_interleave {frames : Array Frame} {rate : UInt32}
    (nonempty : 0 < frames.size) (positive : rate ≠ 0) :
    ofInterleaved (interleave frames.toList).toArray rate =
      .ok ⟨frames, rate, nonempty, positive⟩ := by
  have even : (interleave frames.toList).length % 2 = 0 := by
    rw [length_interleave]
    omega
  simp [ofInterleaved, pairUp_interleave, positive, even, nonempty]

/-! ### Loading -/

variable {s : Storage} {path : String} {r : Recording} {rate : UInt32}

/-- A recording without samples has no frames. -/
theorem samples_of_frames (nonempty : 0 < r.frames.size) : r.samples.isEmpty = false := by
  rw [Array.isEmpty_eq_false_iff]
  intro none
  simp [Recording.size_frames, none] at nonempty

/-- A recording at the rate that is asked for goes into the bank frame by frame. -/
theorem ofRecording_of_rate_eq (nonempty : 0 < r.frames.size) (same : r.rate = rate)
    (positive : rate ≠ 0) : ofRecording r rate = .ok ⟨r.frames, rate, nonempty, positive⟩ := by
  simp only [ofRecording, samples_of_frames nonempty, convert, same, true_or, if_true]
  change Except.mapError _ _ = _
  rw [ofInterleaved_interleave nonempty positive]
  rfl

theorem load_of_rate_eq (decoded : decodeFile s path = .ok r) (nonempty : 0 < r.frames.size)
    (same : r.rate = rate) (positive : rate ≠ 0) :
    load s path rate = .ok ⟨r.frames, rate, nonempty, positive⟩ := by
  rw [load, decoded]
  exact ofRecording_of_rate_eq nonempty same positive

/-- A file at another rate is loaded as what comes out of the filter, if anything does. -/
theorem load_of_rate_ne (decoded : decodeFile s path = .ok r) (nonempty : 0 < r.frames.size)
    (other : r.rate ≠ rate) (positive : rate ≠ 0) :
    (load s path rate).map frames =
      if (Resample.run ⟨r.rate, rate⟩ r.frames).isEmpty then .error (.bank .empty)
      else .ok (Resample.run ⟨r.rate, rate⟩ r.frames) := by
  have some : r.frames.isEmpty = false := by
    rw [Array.isEmpty_eq_false_iff]
    exact Array.size_pos_iff.mp nonempty
  rw [load, decoded]
  change Except.map _ (ofRecording r rate) = _
  simp only [ofRecording, samples_of_frames nonempty, convert, other, some, positive]
  -- What is left is to make a bank of the interleaved frames.
  change Except.map _ (Except.mapError _ _) = _
  split
  · rename_i none
    rw [Array.isEmpty_iff] at none
    rw [none]
    simp [ofInterleaved, positive]
    rfl
  · rename_i some
    rw [Array.isEmpty_iff, ← ne_eq, ← Array.size_pos_iff] at some
    rw [ofInterleaved_interleave some positive]
    rfl

open Resample in
/-- Take a sound of at least one frame, and rates that are positive and differ. At the new rate the
sound has at most its exact length, or one frame more if the rounded product of its length and the
ratio lies above the exact length, which only happens where that is the product itself. It has all
these frames unless the new rate is less than a thousandth of the old one. A bank that is loaded
from a file of these frames holds just these, and if there are none, loading fails. -/
theorem frameCount_of_rate_ne (p : Plan) (sound : Array Frame) (positive : p.Positive)
    (other : p.source ≠ p.target) (nonempty : 1 ≤ sound.size)
    (short : sound.size * p.target.toNat ≤ 2 ^ 51) :
    (run p sound).size ≤ p.exact sound.size + p.excess sound.size ∧
    p.excess sound.size ≤ 1 ∧
    (p.excess sound.size = 1 → p.source.toNat ∣ sound.size * p.target.toNat) ∧
    (p.source.toNat < 1023 * p.target.toNat →
      (run p sound).size = p.exact sound.size + p.excess sound.size) ∧
    ∀ s path r, decodeFile s path = .ok r → r.frames = sound → r.rate = p.source →
      (load s path p.target).map frames =
        if (run p sound).isEmpty then .error (.bank .empty) else .ok (run p sound) := by
  have size : (run p sound).size = p.frameCount sound.size := Array.size_ofFn
  rw [size]
  -- How many frames there are does not depend on what they are.
  refine ⟨p.frameCount_le positive nonempty short, p.excess_le_one _,
    (p.expected_eq positive nonempty short).2,
    fun near => p.frameCount_eq ⟨positive, near⟩ nonempty short, ?_⟩
  rintro s path r decoded rfl rate
  have zero : p.target ≠ 0 := by
    intro zero
    have := positive.target_pos
    simp [zero] at this
  rw [← rate] at other
  have loaded := load_of_rate_ne decoded nonempty other zero
  rwa [rate] at loaded

/-- A file with a single sample, two of which make a second. -/
def singleSample : Storage where
  files := [("a", #[
    0x52, 0x49, 0x46, 0x46, 0x28, 0, 0, 0, 0x57, 0x41, 0x56, 0x45,
    0x66, 0x6d, 0x74, 0x20, 16, 0, 0, 0, 3, 0, 1, 0, 2, 0, 0, 0, 8, 0, 0, 0, 4, 0, 32, 0,
    0x64, 0x61, 0x74, 0x61, 4, 0, 0, 0, 1, 0, 0, 0])]

/-- At three samples a second the single sample becomes two. -/
theorem frameCount_singleSample :
    decodeFile singleSample "a" = .ok ⟨#[⟨1⟩], 1, 2⟩ ∧
      ∃ bank, load singleSample "a" 3 = .ok bank ∧ bank.frameCount = 2 := by
  have found : singleSample.read "a" = .ok singleSample.files[0].2 := by cbv
  have parsed : (SoundFile.parse singleSample.files[0].2.toList).bind SoundFile.decode =
      .ok ⟨#[⟨1⟩], 1, 2⟩ := by
    decide +kernel
  have decoded : decodeFile singleSample "a" = .ok ⟨#[⟨1⟩], 1, 2⟩ := by
    rw [decodeFile, found]
    simp only [parsed]
    rfl
  have frames : (⟨#[⟨1⟩], 1, 2⟩ : Recording).frames = #[⟨⟨1⟩, ⟨1⟩⟩] := by decide
  obtain ⟨-, -, -, exact, loads⟩ := frameCount_of_rate_ne ⟨2, 3⟩ #[⟨⟨1⟩, ⟨1⟩⟩]
    ⟨by decide, by decide⟩ (by decide) (by decide) (by decide)
  have length : (Resample.run ⟨2, 3⟩ #[⟨⟨1⟩, ⟨1⟩⟩]).size = 2 := by
    rw [exact (by decide)]
    decide +kernel
  have loaded := loads singleSample "a" _ decoded frames rfl
  have some : (Resample.run ⟨2, 3⟩ #[⟨⟨1⟩, ⟨1⟩⟩]).isEmpty = false := by
    rw [Array.isEmpty, length]
    rfl
  rw [some, if_neg Bool.false_ne_true] at loaded
  refine ⟨decoded, ?_⟩
  cases found : load singleSample "a" 3 with
  | error e =>
    rw [found] at loaded
    cases loaded
  | ok bank =>
    rw [found] at loaded
    refine ⟨bank, rfl, ?_⟩
    rw [frameCount, Except.ok.inj loaded, length]

/-- The length is not always the exact one: 147 frames at 44100 a second are exactly 160 at 48000,
but 161 come out. -/
theorem not_frameCount_exact :
    ¬ ∀ (p : Resample.Plan) (sound : Array Frame), p.Positive → p.source ≠ p.target →
      1 ≤ sound.size → (Resample.run p sound).size = p.exact sound.size := by
  intro exact
  have silence := exact ⟨44100, 48000⟩ (.replicate 147 .silence) ⟨by decide, by decide⟩ (by decide)
    (by rw [Array.size_replicate]; decide)
  have moderate : Resample.Plan.Moderate ⟨44100, 48000⟩ :=
    ⟨⟨by decide, by decide⟩, by decide⟩
  rw [Resample.run, Array.size_ofFn, Array.size_replicate,
    Resample.Plan.frameCount_eq moderate (by decide) (by decide)] at silence
  have more : Resample.Plan.excess ⟨44100, 48000⟩ 147 = 1 := by decide +kernel
  omega

end Bank

end SamplePlayer
