import SamplePlayer.Event
import SamplePlayer.Output.Error

/-!
# Failures of calls

A call on a clip or on one of its voices that fails changes nothing that can be heard, and the clip
goes on.
-/

namespace SamplePlayer

/-- Why a call on a clip fails. -/
inductive CallError where
  /-- There is no voice with this number. -/
  | outOfRange (id : VoiceId)
  /-- The voice is not obtained. -/
  | inactive (id : VoiceId)
  /-- A voice that plays cannot be started. -/
  | alreadyPlaying (id : VoiceId)
  /-- A voice that plays cannot be moved. -/
  | seekWhilePlaying (id : VoiceId)
  /-- A clip has at least one voice. -/
  | noVoices
  /-- The clip plays to an output already. -/
  | alreadyOpen
  /-- The output cannot be opened. -/
  | outputUnavailable (reason : OutputError)
deriving DecidableEq, Repr

/-- The wording of an error. -/
def CallError.message : CallError → String
  | outOfRange id => s!"voice {id} is out of range"
  | inactive id => s!"voice {id} is not active"
  | alreadyPlaying id => s!"voice {id}: voice is already playing"
  | seekWhilePlaying id => s!"voice {id}: cannot seek a playing voice"
  | noVoices => "polyphony must be at least 1"
  | alreadyOpen => "clip is already open"
  | outputUnavailable reason => s!"output sink unavailable: {reason.message}"

end SamplePlayer
