import SamplePlayer.Output.Basic
import SamplePlayer.Proofs.Pool.Sound
import SamplePlayer.Settings.Engine

/-!
# Settings that can be used

Settings are checked twice: once as a whole, by `EngineSettings.validate`, and again piece by piece,
when a format, a pool and an output are made of them. The two agree. Settings that pass the check
never let anything fail that is made of them, and settings that do not pass it are lacking one of
these pieces. So a clip is refused exactly with the verdict on its settings, and never half-way.

## Main definitions

* `EngineSettings.Usable`: everything that is made of the settings can be made.
* `Clip.Suits`: a clip is new and as the settings want it.

## Main results

* `EngineSettings.validate_eq_ok_iff`: what is checked.
* `Clip.suits_of_ofSettings`: what comes of settings that pass.
* `EngineSettings.validate_exact`: the check is exact.
-/

namespace SamplePlayer

/-! ### What is made of settings -/

theorem OutputFormat.make_eq_ok_iff {rate : UInt32} {encoding : Encoding} {bits : UInt16}
    {format : OutputFormat} :
    make rate encoding bits = .ok format ↔
      rate ≠ 0 ∧ bits = encoding.width ∧ format = ⟨rate, encoding, bits⟩ := by
  unfold make
  by_cases silent : rate = 0
  · simp [silent]
  · by_cases fits : bits = encoding.width
    · simp [silent, fits, eq_comm]
    · simp [silent, fits]

theorem Pool.exists_make_iff {n : Nat} : (∃ pool, make n = .ok pool) ↔ n ≠ 0 := by
  unfold make
  by_cases none : n = 0
  · simp [none]
  · simp [none]

/-- The kind of an output does not matter here: only a text without a word asks for none. -/
theorem Output.exists_ofText_iff {text : String} :
    (∃ output, ofText text = .ok output) ↔ Text.trim text ≠ "" := by
  unfold ofText
  by_cases blank : Text.trim text = ""
  · simp [blank]
  · by_cases marked : (Text.trim text).startsWith fileMark
    · simp [blank, marked]
    · simp [blank, marked]

/-- The format of a new clip can always be used, since a bank has a rate. Only voices can lack. -/
theorem Clip.make_eq {n : Nat} {pool : Pool} (made : Pool.make n = .ok pool) (name : String)
    (bank : Bank) :
    make name bank n = .ok {
      name, pool
      mixer := ⟨bank, default⟩
      listeners := {}
      format := ⟨bank.rate, .int, 16⟩
      bufferFrames := defaultBufferFrames } := by
  have format : OutputFormat.make bank.rate .int 16 = .ok ⟨bank.rate, .int, 16⟩ :=
    OutputFormat.make_eq_ok_iff.mpr ⟨bank.rate_ne, rfl, rfl⟩
  rw [make, made, format]
  rfl

/-- Zero is the only count below one. -/
theorem RampSteps.toNat_raise (count : UInt32) : (raise count).toNat = max 1 count.toNat := by
  unfold raise
  by_cases none : count = 0
  · simp [none]
  · have some : count.toNat ≠ 0 := fun zero => none (UInt32.toNat_inj.mp zero)
    simp only [none, if_false]
    omega

/-- A clip is new, and as the settings want it: with their voices, buffers, format and ramps. A
width that is left open is that of the encoding, and a ramp takes a step at least. -/
structure Clip.Suits (name : String) (bank : Bank) (e : EngineSettings) (c : Clip) : Prop where
  name_eq : c.name = name
  bank_eq : c.bank = bank
  pool : Pool.make e.voices = .ok c.pool
  polyphony : c.polyphony = e.voices
  bufferFrames : c.bufferFrames = e.framesPerBuffer
  format : e.outputFormat = .ok c.format
  rate : c.format.rate = e.sampleRate
  encoding : e.sampleEncoding = .ok c.format.encoding
  bits : c.format.bits = e.bits.getD c.format.encoding.width
  volume : c.mixer.steps.volume.toNat = max 1 (e.volumeSteps.getD 1024).toNat
  speed : c.mixer.steps.speed.toNat = max 1 (e.speedSteps.getD 4096).toNat

namespace EngineSettings

variable {e : EngineSettings} {format : OutputFormat} {reason : SettingsError}

/-! ### The check -/

/-- Everything that is made of the settings can be made. -/
structure Usable (e : EngineSettings) : Prop where
  output : ∃ output, Output.ofText e.deviceName = .ok output
  pool : ∃ pool, Pool.make e.voices = .ok pool
  buffer : 1 ≤ e.framesPerBuffer
  format : ∃ format, e.outputFormat = .ok format

theorem outputFormat_of_encoding {encoding : Encoding} (named : e.sampleEncoding = .ok encoding) :
    e.outputFormat =
      (OutputFormat.make e.sampleRate encoding (e.bits.getD encoding.width)).mapError
        formatFault := by
  have bits : e.sampleBits = .ok (e.bits.getD encoding.width) := by
    unfold sampleBits
    cases e.bits with
    | none =>
      rw [named]
      rfl
    | some bits => rfl
  rw [outputFormat, named, bits]
  rfl

/-- A format is made of the settings exactly if it is the one they describe, a width that is left
open being that of the encoding, and an output can be opened with it. -/
theorem outputFormat_eq_ok_iff :
    e.outputFormat = .ok format ↔
      (e.sampleRate = format.rate ∧ e.sampleEncoding = .ok format.encoding ∧
        e.bits.getD format.encoding.width = format.bits) ∧
      format.rate ≠ 0 ∧ format.bits = format.encoding.width := by
  constructor
  · intro made
    -- Without an encoding there is no format, whatever the other settings are.
    cases named : e.sampleEncoding with
    | error unknown =>
      rw [outputFormat, named] at made
      cases made
    | ok encoding =>
      rw [outputFormat_of_encoding named] at made
      cases result : OutputFormat.make e.sampleRate encoding (e.bits.getD encoding.width) with
      | error unfit =>
        rw [result] at made
        cases made
      | ok format' =>
        rw [result] at made
        obtain rfl := Except.ok.inj made
        obtain ⟨sounding, fits, rfl⟩ := OutputFormat.make_eq_ok_iff.mp result
        exact ⟨⟨rfl, rfl, rfl⟩, sounding, fits⟩
  · rintro ⟨⟨rate, named, bits⟩, sounding, fits⟩
    have made : OutputFormat.make format.rate format.encoding format.bits = .ok format :=
      OutputFormat.make_eq_ok_iff.mpr ⟨sounding, fits, rfl⟩
    rw [outputFormat_of_encoding named, rate, bits, made]
    rfl

/-- The verdict is about the first setting that cannot be used. -/
theorem validate_eq (e : EngineSettings) :
    e.validate =
      if Text.trim e.deviceName = "" then .error (.invalid "device must not be empty")
      else if e.voices = 0 then .error (.invalid "polyphony must be at least 1")
      else if e.framesPerBuffer = 0 then .error (.invalid "buffer_frames must be at least 1")
      else e.outputFormat.map fun _ => () := by
  unfold validate
  split
  · rfl
  · split
    · rfl
    · split
      · rfl
      · cases e.outputFormat <;> rfl

/-- What passes has passed all checks. -/
theorem validate_eq_ok_iff :
    e.validate = .ok () ↔
      Text.trim e.deviceName ≠ "" ∧ e.voices ≠ 0 ∧ e.framesPerBuffer ≠ 0 ∧
        ∃ format, e.outputFormat = .ok format := by
  rw [validate_eq]
  -- The cases come in the order of the checks, so that in each of them the next check decides.
  by_cases blank : Text.trim e.deviceName = ""
  · simp [blank]
  · by_cases silent : e.voices = 0
    · simp [blank, silent]
    · by_cases idle : e.framesPerBuffer = 0
      · simp [blank, silent, idle]
      · cases made : e.outputFormat with
        | error unfit => simp [blank, silent, idle, Except.map]
        | ok format => simp [blank, silent, idle, Except.map]

/-- The check is about nothing but what the pieces need. -/
theorem validate_eq_ok_iff_usable : e.validate = .ok () ↔ e.Usable := by
  rw [validate_eq_ok_iff]
  constructor
  · rintro ⟨device, voices, frames, format⟩
    exact {
      output := Output.exists_ofText_iff.mpr device
      pool := Pool.exists_make_iff.mpr voices
      buffer := Nat.one_le_iff_ne_zero.mpr frames
      format }
  · intro usable
    refine ⟨?_, ?_, ?_, usable.format⟩
    · exact Output.exists_ofText_iff.mp usable.output
    · exact Pool.exists_make_iff.mp usable.pool
    · exact Nat.one_le_iff_ne_zero.mp usable.buffer

/-! ### Clips made to settings -/

/-- What does not pass is refused with the verdict, before anything is made. -/
theorem ofSettings_of_validate_error (refused : e.validate = .error reason) (name : String)
    (bank : Bank) :
    Clip.ofSettings name bank e = .error (.settings reason) := by
  rw [Clip.ofSettings, refused]
  rfl

/-- What passes makes a clip as it is wanted. -/
theorem exists_ofSettings_of_validate_ok (passed : e.validate = .ok ()) (name : String)
    (bank : Bank) :
    ∃ c, Clip.ofSettings name bank e = .ok c ∧ c.Suits name bank e := by
  have usable : e.Usable := validate_eq_ok_iff_usable.mp passed
  obtain ⟨pool, pooled⟩ := usable.pool
  obtain ⟨format, formed⟩ := usable.format
  obtain ⟨⟨rate, encoding, bits⟩, -⟩ := outputFormat_eq_ok_iff.mp formed
  -- Every stage of making the clip is known to succeed, so the clip can be written down.
  have made : Clip.ofSettings name bank e = .ok {
      name, pool, format
      mixer := ⟨bank, e.rampSteps⟩
      listeners := {}
      bufferFrames := max e.framesPerBuffer 1 } := by
    rw [Clip.ofSettings, passed, Clip.make_eq pooled, formed]
    rfl
  refine ⟨_, made, ?_⟩
  exact {
    name_eq := rfl
    bank_eq := rfl
    pool := pooled
    polyphony := (Pool.sound_of_make pooled).2
    bufferFrames := max_eq_left usable.buffer
    format := formed
    rate := rate.symm
    encoding
    bits := bits.symm
    volume := RampSteps.toNat_raise _
    speed := RampSteps.toNat_raise _ }

/-- The check is exact. Settings pass it if and only if an output, a pool and a format can be made
of them and a buffer holds a frame. A clip is made to settings if and only if they pass, it is
refused with the verdict on them and nothing else, and if it is made it is as they want it. -/
theorem validate_exact (name : String) (bank : Bank) (e : EngineSettings) :
    (e.validate = .ok () ↔ e.Usable) ∧
    ((∃ c, Clip.ofSettings name bank e = .ok c) ↔ e.validate = .ok ()) ∧
    (∀ fault, Clip.ofSettings name bank e = .error fault ↔
      ∃ reason, e.validate = .error reason ∧ fault = .settings reason) ∧
    (∀ c, Clip.ofSettings name bank e = .ok c → c.Suits name bank e) := by
  refine ⟨validate_eq_ok_iff_usable, ?_⟩
  cases verdict : e.validate with
  | error reason =>
    have refused : Clip.ofSettings name bank e = .error (.settings reason) :=
      ofSettings_of_validate_error verdict name bank
    simp [refused, eq_comm]
  | ok =>
    obtain ⟨c, made, suits⟩ := exists_ofSettings_of_validate_ok verdict name bank
    refine ⟨?_, ?_, ?_⟩
    · simp [made]
    · simp [made]
    · intro c' made'
      obtain rfl := Except.ok.inj (made.symm.trans made')
      exact suits

/-- With the name of an encoding alone a clip gets its width, and a ramp of no steps takes one. -/
theorem validate_exact_float :
    ∃ c, Clip.ofSettings "sting" ⟨#[.silence], 48000, by decide, by decide⟩
        { encoding := some "Float", volumeSteps := some 0 } = .ok c ∧
      c.format = ⟨44100, .float, 32⟩ ∧ c.polyphony = 8 ∧ c.mixer.steps.volume.toNat = 1 := by
  obtain ⟨-, made, -, suits⟩ := validate_exact "sting" ⟨#[.silence], 48000, by decide, by decide⟩
    { encoding := some "Float", volumeSteps := some 0 }
  obtain ⟨c, clip⟩ := made.mpr (by cbv)
  refine ⟨c, clip, ?_, (suits c clip).polyphony, (suits c clip).volume⟩
  exact (Except.ok.inj (suits c clip).format).symm

end EngineSettings

end SamplePlayer
