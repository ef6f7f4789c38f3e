import SamplePlayer.Clip.Basic
import SamplePlayer.Output.Error
import SamplePlayer.Settings.File

/-!
# Engine settings

Which output to play through, in which format, and how much work the mixer does at a time. Every
setting can be left open and then has a default. Settings that cannot be used are found when they
are asked for, or all at once by `EngineSettings.validate`.

## Main definitions

* `EngineSettings`, its getters, and `EngineSettings.validate`.
* `EngineSettings.load`: the settings in a file.
* `Clip.ofSettings`: a clip made to the settings.
-/

namespace SamplePlayer

/-- Why settings cannot be used. -/
inductive SettingsError where
  /-- There is no file that can be read as settings. -/
  | unreadable
  /-- A value does not fit its field. -/
  | misfit (reason : String)
  /-- A value makes no sense. -/
  | invalid (reason : String)
deriving DecidableEq, Repr

namespace SettingsError

/-- The wording of an error. -/
def message : SettingsError → String
  | unreadable => "Config load/parse error: unreadable settings"
  | misfit reason => s!"Config load/parse error: {reason}"
  | invalid reason => s!"Invalid config: {reason}"

/-- The description of an error. -/
def describe : SettingsError → String
  | unreadable => "Load(unreadable settings)"
  | misfit reason => s!"Load({reason})"
  | invalid reason => s!"Invalid({Text.quote reason})"

end SettingsError

/-- The settings, as far as they are not left open. -/
structure EngineSettings where
  device : Option String := none
  rate : Option UInt32 := none
  /-- The name of the encoding. -/
  encoding : Option String := none
  bits : Option UInt16 := none
  bufferFrames : Option Nat := none
  polyphony : Option Nat := none
  volumeSteps : Option UInt32 := none
  speedSteps : Option UInt32 := none
deriving DecidableEq, Repr, Inhabited

namespace EngineSettings

/-! ## Making settings -/

/-- Settings for a device. -/
def forDevice (device : String) : EngineSettings := { device := some device }

/-- The settings that fields give. -/
def ofFields (f : Fields) : Except String EngineSettings := do
  return {
    device := ← f.text? "device"
    rate := (← f.count? .bits32 "sample_rate").map Nat.toUInt32
    encoding := ← f.text? "sample_format"
    bits := (← f.count? .bits16 "bits_per_sample").map Nat.toUInt16
    bufferFrames := ← f.count? .bits64 "buffer_frames"
    polyphony := ← f.count? .bits64 "polyphony"
    volumeSteps := (← f.count? .bits32 "volume_ramp_steps").map Nat.toUInt32
    speedSteps := (← f.count? .bits32 "speed_ramp_steps").map Nat.toUInt32 }

/-- The settings in a file. -/
def load (s : Storage) (path : String) : Except SettingsError EngineSettings :=
  match Fields.load? s path with
  | none => .error .unreadable
  | some f => (ofFields f).mapError .misfit

variable (e : EngineSettings)

/-- The settings with another device. -/
def withDevice (device : String) : EngineSettings := { e with device := some device }

/-- The settings with another sample rate. -/
def withRate (rate : UInt32) : EngineSettings := { e with rate := some rate }

/-- The settings with another encoding and width. -/
def withEncoding (encoding : Encoding) (bits : UInt16) : EngineSettings :=
  { e with encoding := some encoding.name, bits := some bits }

/-- The settings with another number of frames mixed at a time. -/
def withBufferFrames (frames : Nat) : EngineSettings := { e with bufferFrames := some frames }

/-- The settings with another number of voices. -/
def withPolyphony (count : Nat) : EngineSettings := { e with polyphony := some count }

/-- The settings with ramps of other lengths. -/
def withRampSteps (volume speed : UInt32) : EngineSettings :=
  { e with volumeSteps := some volume, speedSteps := some speed }

/-! ## Using settings -/

/-- The device to play through. -/
def deviceName : String := e.device.getD "default"

/-- The sample rate, to which files are resampled. -/
def sampleRate : UInt32 := e.rate.getD 44100

/-- How many frames are mixed at a time. -/
def framesPerBuffer : Nat := e.bufferFrames.getD Clip.defaultBufferFrames

/-- How many voices a clip has. -/
def voices : Nat := e.polyphony.getD 8

/-- The lengths of ramps. -/
def rampSteps : RampSteps :=
  .ofCounts (e.volumeSteps.getD (default : RampSteps).volume)
    (e.speedSteps.getD (default : RampSteps).speed)

/-- An unusable format as an error of the settings. -/
def formatFault (reason : FormatError) : SettingsError :=
  .invalid (OutputError.unsupported reason).message

/-- The encoding of samples. -/
def sampleEncoding : Except SettingsError Encoding :=
  match e.encoding with
  | some name => (Encoding.ofName name).mapError formatFault
  | none => .ok .int

/-- The width of a sample: by default that of its encoding. -/
def sampleBits : Except SettingsError UInt16 :=
  match e.bits with
  | some bits => .ok bits
  | none => e.sampleEncoding.map Encoding.width

/-- The format that outputs are opened with. -/
def outputFormat : Except SettingsError OutputFormat := do
  let encoding ← e.sampleEncoding
  let bits ← e.sampleBits
  (OutputFormat.make e.sampleRate encoding bits).mapError formatFault

/-- Finds the first setting that cannot be used, if there is one. -/
def validate : Except SettingsError Unit := do
  if Text.trim e.deviceName = "" then throw (.invalid "device must not be empty")
  if e.voices = 0 then throw (.invalid "polyphony must be at least 1")
  if e.framesPerBuffer = 0 then throw (.invalid "buffer_frames must be at least 1")
  let _ ← e.outputFormat

end EngineSettings

/-- Why a clip cannot be made to settings. -/
inductive ClipFault where
  | settings (reason : SettingsError)
  | call (reason : CallError)
deriving DecidableEq, Repr

/-- A clip made to the settings, which must be usable as a whole. -/
def Clip.ofSettings (name : String) (bank : Bank) (e : EngineSettings) : Except ClipFault Clip := do
  e.validate.mapError .settings
  let c ← (Clip.make name bank e.voices).mapError .call
  let format ← e.outputFormat.mapError .settings
  return ((c.withFormat format).withBufferFrames e.framesPerBuffer).withRampSteps e.rampSteps

end SamplePlayer
