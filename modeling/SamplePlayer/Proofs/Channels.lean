import SamplePlayer.Proofs.Loading
import SamplePlayer.Proofs.Wave.Words

/-!
# From the channels of a file to the frames of a bank

A file tells how many channels it has and at which rate before its samples come, and a header that
tells neither is refused. So whatever is decoded can be split up into groups of one sample for each
channel. At the rate of the file the groups go into the bank as they are, one frame for each of
them; only if there is no whole group there is nothing to make a bank of.

## Main definitions

* `Source.Yields`: what holds of everything that is read.
* `Description.Proper`: what every description keeps to.

## Main results

* `SoundFile.proper_of_parse`: descriptions are proper.
* `Bank.channels_of_decodeFile`: what is decoded has a channel and a rate.
* `Bank.frames_of_channels`: the frames of a bank, whatever channels its file has.
-/

namespace SamplePlayer

/-! ### What is read -/

namespace Source

variable {α β : Type} {x : Source α} {f : α → Source β} {P : α → Prop} {R : β → Prop}

/-- Whatever is read has a property. -/
def Yields (x : Source α) (P : α → Prop) : Prop :=
  ∀ bytes a rest, x.run bytes = .ok (a, rest) → P a

theorem yields_any (x : Source α) : Yields x fun _ => True := fun _ _ _ _ => trivial

theorem yields_pure {a : α} (h : P a) : Yields (pure a) P := by
  intro bytes b rest run
  cases run
  exact h

theorem yields_throw (e : ReadError) : Yields (throw e) P := by
  intro bytes a rest run
  cases run

theorem Yields.bind (first : Yields x P) (second : ∀ a, P a → Yields (f a) R) :
    Yields (x >>= f) R := by
  intro bytes b rest run
  rw [StateT.run_bind] at run
  cases result : x.run bytes with
  | error e =>
    rw [result] at run
    cases run
  | ok read =>
    rw [result] at run
    exact second read.1 (first bytes read.1 read.2 result) read.2 b rest run

theorem yields_throw_bind (e : ReadError) : Yields (throw e >>= f) R :=
  (yields_throw (P := fun _ => False) e).bind fun _ => False.elim

/-- What is made of bytes has the property. -/
theorem Yields.result {bytes : List UInt8} {a : α} (h : Yields x P)
    (run : (x.run bytes).map (·.1) = .ok a) : P a := by
  cases result : x.run bytes with
  | error e =>
    rw [result] at run
    cases run
  | ok read =>
    rw [result] at run
    obtain rfl := Except.ok.inj run
    exact h bytes read.1 read.2 result

theorem yields_take (count : Nat) : Yields (take count) fun bytes => bytes.length = count := by
  unfold take
  refine (yields_any _).bind fun left _ => ?_
  dsimp only
  split
  · exact yields_throw_bind _
  · refine (yields_any _).bind fun _ _ => yields_pure ?_
    have most := List.length_take_le count left
    omega

/-- A word is smaller than what its bytes can tell apart. -/
theorem yields_word (width : Nat) : Yields (word width) fun n => n < 256 ^ width :=
  (yields_take width).bind fun bytes length => yields_pure (length ▸ LittleEndian.decode_lt bytes)

end Source

/-! ### Descriptions -/

open Source

/-- There are channels, no more than can be told apart, and there is a rate. -/
structure Description.Proper (d : Description) : Prop where
  channels_pos : 1 ≤ d.channels
  channels_le : d.channels ≤ maxChannels
  rate_pos : 0 < d.rate
  rate_lt : d.rate < 2 ^ 32

theorem Description.yields_parse (length : Nat) : Yields (Description.parse length) Proper := by
  unfold parse
  extract_lets rest
  split
  · exact yields_throw_bind _
  · refine (yields_any _).bind fun tag _ => ?_
    refine (yields_any _).bind fun channels _ => ?_
    refine (yields_word 4).bind fun rate small => ?_
    refine (yields_any _).bind fun _ _ => ?_
    refine (yields_any _).bind fun blockAlign _ => ?_
    refine (yields_any _).bind fun bits _ => ?_
    extract_lets finish
    -- Every coding is followed by the same checks.
    have checked (coding : Coding) : Yields (finish coding) Proper := by
      simp only [finish]
      split
      · exact yields_throw_bind _
      · split
        · exact yields_throw_bind _
        · refine yields_pure ⟨?_, ?_, ?_, small⟩
          all_goals
            simp only
            omega
    split <;> exact (yields_any _).bind fun coding _ => checked coding

namespace SoundFile

variable {file : SoundFile} {bytes : List UInt8} {r : Recording}

/-- On the way to the samples a description is only ever replaced by one that was read. -/
theorem yields_parseChunks (fuel : Nat) {description : Option Description} (list : ChunkList)
    (proper : ∀ d ∈ description, d.Proper) :
    Yields (parseChunks fuel description list) fun file => ∀ d ∈ file.description, d.Proper := by
  induction fuel generalizing description list with
  | zero =>
    rw [parseChunks]
    exact (yields_any _).bind fun _ _ => yields_throw _
  | succ fuel ih =>
    rw [parseChunks]
    refine (yields_any _).bind fun next _ => ?_
    cases next with
    | none => exact yields_throw _
    | some next =>
      dsimp only
      split
      · exact (yields_any _).bind fun _ _ => yields_pure proper
      · split
        · refine (Description.yields_parse _).bind fun d described => ih _ ?_
          rintro _ ⟨⟩
          exact described
        · split
          · split
            · exact yields_throw_bind _
            · exact (yields_any _).bind fun _ _ => ih _ proper
          · split <;> exact (yields_any _).bind fun _ _ => ih _ proper

/-- If a file tells what its samples are, it tells something proper. -/
theorem proper_of_parse (parsed : parse bytes = .ok file) :
    ∀ d ∈ file.description, d.Proper := by
  unfold parse at parsed
  split at parsed
  · cases parsed
  · split at parsed
    · cases parsed
    · extract_lets body at parsed
      have proper : Yields body fun file => ∀ d ∈ file.description, d.Proper := by
        refine (yields_any _).bind fun _ _ => ?_
        refine (yields_any _).bind fun _ _ => ?_
        refine (yields_any _).bind fun form _ => ?_
        dsimp only
        split
        · exact yields_throw_bind _
        · exact yields_parseChunks _ _ (by simp)
      exact proper.result parsed

/-- The channels and the rate of a recording are those that its file tells. -/
theorem exists_description (decoded : decode file = .ok r) :
    ∃ d, file.description = some d ∧ r.channels = d.channels ∧ r.rate = d.rate.toUInt32 := by
  unfold decode at decoded
  split at decoded
  · cases decoded
  · rename_i d told
    refine ⟨d, told, ?_⟩
    dsimp only at decoded
    -- Wherever a recording is made, it is made with what the description tells.
    split at decoded
    · cases decoded
    · split at decoded
      · split at decoded
        · cases decoded
        · split at decoded
          · cases decoded
          · cases decoded
            exact ⟨rfl, rfl⟩
      · split at decoded
        · cases decoded
        · cases decoded
          exact ⟨rfl, rfl⟩
      · cases decoded
        exact ⟨rfl, rfl⟩

end SoundFile

/-! ### Banks -/

namespace Bank

variable {s : Storage} {path : String} {r : Recording}

/-- A recording from a file is decoded from what was parsed of the file. -/
theorem exists_parsed (decoded : decodeFile s path = .ok r) :
    ∃ bytes file, SoundFile.parse bytes = .ok file ∧ SoundFile.decode file = .ok r := by
  unfold decodeFile at decoded
  split at decoded
  · cases decoded
  · cases decoded
  · rename_i contents _
    cases parsed : SoundFile.parse contents.toList with
    | error e =>
      rw [parsed] at decoded
      cases decoded
    | ok file =>
      rw [parsed] at decoded
      change Except.mapError _ (SoundFile.decode file) = _ at decoded
      cases result : SoundFile.decode file with
      | error e =>
        rw [result] at decoded
        cases decoded
      | ok read =>
        rw [result] at decoded
        obtain rfl := Except.ok.inj decoded
        exact ⟨_, file, parsed, result⟩

/-- Whatever is decoded from a file has a channel and a rate. -/
theorem channels_of_decodeFile (decoded : decodeFile s path = .ok r) :
    1 ≤ r.channels ∧ r.rate ≠ 0 := by
  obtain ⟨bytes, file, parsed, result⟩ := exists_parsed decoded
  obtain ⟨d, told, channels, rate⟩ := SoundFile.exists_description result
  have proper := SoundFile.proper_of_parse parsed d told
  rw [channels, rate]
  refine ⟨proper.channels_pos, ?_⟩
  intro zero
  have value := congrArg UInt32.toNat zero
  rw [Nat.toUInt32, UInt32.toNat_ofNat_of_lt' proper.rate_lt] at value
  exact proper.rate_pos.ne' value

/-- Without a whole group there is no bank. -/
theorem ofRecording_of_few (nonempty : r.samples ≠ #[]) (few : r.samples.size < r.channels)
    (positive : r.rate ≠ 0) : ofRecording r r.rate = .error (.bank .empty) := by
  have none : r.frames = #[] := by
    rw [← Array.size_eq_zero_iff, Recording.size_frames, Nat.div_eq_of_lt few]
  have some : r.samples.isEmpty = false := Array.isEmpty_eq_false_iff.mpr nonempty
  simp only [ofRecording, some, convert, true_or, if_true, none]
  change Except.mapError _ (ofInterleaved #[] r.rate) = _
  simp [ofInterleaved, positive, pairUp]
  rfl

/-- A recording with a channel and a sample is split up into two sides, with a sample for every
whole group. At its own rate it makes a bank of just as many frames: frame number `i` has the first
sample of group number `i` on the left and the second on the right, or the first again if there is
one channel only. Without a whole group there is no bank. A file is loaded at its rate, which is
never zero, as the bank of what is decoded from it. -/
theorem frames_of_channels (channels : 1 ≤ r.channels) (nonempty : r.samples ≠ #[]) :
    r.sides.left.size = r.samples.size / r.channels ∧
    r.sides.right.size = r.samples.size / r.channels ∧
    (r.rate ≠ 0 →
      (1 ≤ r.samples.size / r.channels → ∃ bank, ofRecording r r.rate = .ok bank ∧
        bank.rate = r.rate ∧ bank.frameCount = r.samples.size / r.channels ∧
        ∀ i < bank.frameCount, ∃ f, bank.frame? i = some f ∧
          r.samples[i * r.channels]? = some f.left ∧
          r.samples[i * r.channels + min 1 (r.channels - 1)]? = some f.right) ∧
      (r.samples.size < r.channels → ofRecording r r.rate = .error (.bank .empty))) ∧
    (∀ s path, decodeFile s path = .ok r →
      r.rate ≠ 0 ∧ load s path r.rate = ofRecording r r.rate) := by
  refine ⟨Recording.size_sides.1, Recording.size_sides.2, ?_, ?_⟩
  · intro positive
    refine ⟨?_, fun few => ofRecording_of_few nonempty few positive⟩
    intro some
    have frames : 0 < r.frames.size := by rwa [Recording.size_frames]
    refine ⟨_, ofRecording_of_rate_eq frames rfl positive, rfl, Recording.size_frames, ?_⟩
    intro i inside
    exact Recording.getElem?_frames channels (Recording.size_frames ▸ inside)
  · intro s path decoded
    refine ⟨(channels_of_decodeFile decoded).2, ?_⟩
    rw [load, decoded]
    rfl

/-- Seven samples of three channels are two frames, and what is left over is dropped. -/
theorem frames_of_channels_triple :
    (⟨#[⟨1⟩, ⟨2⟩, ⟨3⟩, ⟨4⟩, ⟨5⟩, ⟨6⟩, ⟨7⟩], 3, 2⟩ : Recording).sides =
      ⟨#[⟨1⟩, ⟨4⟩], #[⟨2⟩, ⟨5⟩]⟩ ∧
    ∃ bank, ofRecording ⟨#[⟨1⟩, ⟨2⟩, ⟨3⟩, ⟨4⟩, ⟨5⟩, ⟨6⟩, ⟨7⟩], 3, 2⟩ 2 = .ok bank ∧
      bank.frameCount = 2 ∧ bank.frame? 1 = some ⟨⟨4⟩, ⟨5⟩⟩ := by
  obtain ⟨-, -, made, -⟩ := frames_of_channels
    (r := ⟨#[⟨1⟩, ⟨2⟩, ⟨3⟩, ⟨4⟩, ⟨5⟩, ⟨6⟩, ⟨7⟩], 3, 2⟩) (by decide) (by decide)
  obtain ⟨bank, loaded, -, count, frame⟩ := (made (by decide)).1 (by decide)
  refine ⟨by decide, bank, loaded, count, ?_⟩
  obtain ⟨f, found, left, right⟩ := frame 1 (by rw [count]; decide)
  obtain ⟨l, r⟩ := f
  obtain rfl : (⟨4⟩ : Sample) = l := Option.some.inj left
  obtain rfl : (⟨5⟩ : Sample) = r := Option.some.inj right
  exact found

end Bank

end SamplePlayer
