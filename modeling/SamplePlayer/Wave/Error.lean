import SamplePlayer.Storage

/-!
# Failures of writing sound files
-/

namespace SamplePlayer

/-- Why a sound file cannot be written. -/
inductive WaveError where
  /-- The file itself failed. -/
  | storage (reason : StorageError)
  /-- The last frame lacks a sample. -/
  | unfinishedFrame
  /-- No such width of samples can be written. -/
  | unsupportedWidth
  /-- A sample does not fit the width. -/
  | tooWide
deriving DecidableEq, Repr

/-- The wording of an error. -/
def WaveError.message : WaveError → String
  | storage reason => reason.message
  | unfinishedFrame => "The number of samples written is not a multiple of the number of channels."
  | unsupportedWidth => "The wave format of the file is not supported."
  | tooWide => "The sample has more bits than the destination type."

end SamplePlayer
