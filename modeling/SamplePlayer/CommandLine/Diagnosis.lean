import SamplePlayer.Loader
import SamplePlayer.Session
import SamplePlayer.TimeSpan
import SamplePlayer.Tone

/-!
# Failures of commands

A command that fails ends with a line that describes the failure in full, with the names of all that
led to it.

## Main definitions

* `Failure`: why a command fails.
* `Failure.describe`.
-/

namespace SamplePlayer

/-- The name of an error of a file. -/
def StorageError.label : StorageError → String
  | notFound => "NotFound"
  | notDirectory => "NotADirectory"
  | isDirectory => "IsADirectory"
  | full => "StorageFull"

/-- The description of an error of a file. -/
def StorageError.describe (e : StorageError) : String :=
  Text.record "Os" [("code", toString e.code), ("kind", e.label), ("message", Text.quote e.reason)]

/-- The description of an error of a sound file. -/
def WaveError.describe : WaveError → String
  | storage reason => s!"IoError({reason.describe})"
  | unfinishedFrame => "UnfinishedSample"
  | unsupportedWidth => "Unsupported"
  | tooWide => "TooWide"

/-- The description of an error of an output. -/
def OutputError.describe : OutputError → String
  | deviceNotFound name => s!"DeviceNotFound({Text.quote name})"
  | unsupported reason => s!"UnsupportedFormat({Text.quote reason.message})"
  | backend reason => s!"Backend({Text.quote reason})"
  | closed => "Closed"
  | wave reason => s!"Wav({reason.describe})"

/-- The description of an error of a call. -/
def CallError.describe : CallError → String
  | outOfRange id => s!"InvalidVoiceId({id})"
  | inactive id => s!"VoiceInactive({id})"
  | alreadyPlaying id =>
    Text.record "InvalidState" [("id", toString id),
      ("reason", Text.quote "voice is already playing")]
  | seekWhilePlaying id =>
    Text.record "InvalidState" [("id", toString id),
      ("reason", Text.quote "cannot seek a playing voice")]
  | noVoices => "InvalidPolyphony"
  | alreadyOpen => "AlreadyOpen"
  | outputUnavailable reason => s!"SinkUnavailable({reason.describe})"

/-- The description of an error of a bank. -/
def BankError.describe : BankError → String
  | empty => "Empty"
  | oddSampleCount count => s!"OddSampleCount({count})"
  | invalidSampleRate => "InvalidSampleRate"

/-- The description of an error of loading. -/
def LoadError.describe : LoadError → String
  | unreadable path reason =>
    Text.record "Io" [("path", Text.quote path), ("source", reason.describe)]
  | undecodable .noTrack => "NoAudioTrack"
  | undecodable .truncated => "Decode(IoError)"
  | undecodable .malformed => "Decode(DecodeError)"
  | undecodable .unsupported => "Decode(Unsupported)"
  | undecodable .crashed => "Decode"
  | unreachableRate source target =>
    Text.record "Resample" [("from", toString source), ("to", toString target)]
  | bank reason => s!"Bank({reason.describe})"

namespace CommandLine

/-- Why a command fails. -/
inductive Failure where
  | settings (reason : SettingsError)
  | load (reason : LoadError)
  | start (reason : TimeSpanError)
  | output (reason : OutputError)
  | session (reason : SessionError)
  | tone (reason : ToneError)
deriving DecidableEq, Repr

namespace Failure

/-- Whether the command came to grief in a way that nothing accounts for. -/
def isCrash : Failure → Bool
  | load (.undecodable .crashed) | session .crashed | tone .crashed => true
  | _ => false

/-- The description of a failure. -/
def describe : Failure → String
  | settings reason => reason.describe
  | load reason => reason.describe
  | start reason => reason.describe
  | output reason => reason.describe
  | session (.call reason) => reason.describe
  | session .noFreeVoice => Text.quote "no free voice"
  | session .stopped => Text.quote "playback stopped unexpectedly"
  | session .crashed => "the output crashed"
  | tone .noLength => Text.quote "tone length must be positive"
  | tone (.storage reason) => (WaveError.storage reason).describe
  | tone .crashed => "the rate is too high"

end Failure

end CommandLine

end SamplePlayer
