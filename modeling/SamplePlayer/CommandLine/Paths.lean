import SamplePlayer.CommandLine.Run

/-!
# The files a command line touches

A command is run on files that were looked up before. Which ones those are is told by its arguments,
but for the file that the settings name as their device: that one is known only when the settings
are.

## Main definitions

* `Command.paths`: the paths that the arguments tell of.
* `Command.outputPath?`: the path of the sound file that is written.
-/

namespace SamplePlayer.CommandLine

/-- The paths at which the settings of a voice may be. -/
def VoiceOptions.paths (voice : VoiceOptions) : List String :=
  match voice.config with
  | some path => path :: (settingsCandidates (Storage.resolve path)).map (·.1)
  | none => []

/-- The paths that the arguments of a command tell of. -/
def Command.paths : Command → List String
  | .devices => []
  | .play file _ voice => file :: voice.paths
  | .render file output voice => file :: output :: voice.paths
  | .tone output .. => [output]

/-- The path of the sound file that a command writes. -/
def Command.outputPath? (s : Storage) : Command → Option String
  | .devices => none
  | .play _ device voice =>
    match settings voice.config s with
    | .error _ => none
    | .ok e =>
      match Output.ofText (device.getD e.deviceName) with
      | .ok (.waveFile w) => some w.path
      | _ => none
  | .render _ output _ | .tone output .. => some output

end SamplePlayer.CommandLine
