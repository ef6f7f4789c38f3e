import SamplePlayer.OutputFormat
import SamplePlayer.Wave.Error

/-!
# Failures of outputs
-/

namespace SamplePlayer

/-- Why an output does not do what it is asked to. -/
inductive OutputError where
  /-- There is no output with this name. -/
  | deviceNotFound (name : String)
  /-- It cannot be opened with such a format. -/
  | unsupported (reason : FormatError)
  /-- The device failed. -/
  | backend (reason : String)
  /-- It is not open. -/
  | closed
  /-- The file it writes failed. -/
  | wave (reason : WaveError)
deriving DecidableEq, Repr

/-- The wording of an error. -/
def OutputError.message : OutputError → String
  | deviceNotFound name => s!"no output device found with name {name}"
  | unsupported reason => s!"unsupported sink format: {reason.message}"
  | backend reason => s!"audio backend error: {reason}"
  | closed => "sink is not open"
  | wave reason => s!"WAV error: {reason.message}"

/-- How an output answers to an operation. -/
inductive Reply where
  | done
  | failed (e : OutputError)
  /-- The operation never came to an end of its own. -/
  | crashed
deriving DecidableEq, Repr

end SamplePlayer
