import SamplePlayer.CommandLine.Command
import SamplePlayer.CommandLine.Diagnosis

/-!
# Running a command line

A command line is run on the files that are there. What comes of it is a status, two texts, and the
files as they are then.

## Main definitions

* `Outcome`.
* `run`: runs a command line.
-/

namespace SamplePlayer.CommandLine

/-- What comes of a command line. -/
structure Outcome where
  /-- The status: zero for success. -/
  exit : Nat
  /-- What is told about success. -/
  stdout : String := ""
  /-- What is told about a failure. -/
  stderr : String := ""
  files : Storage

/-- How the program is used. -/
def usage : String :=
  "Usage: devices | play FILE | render FILE OUTPUT | tone OUTPUT\n" ++
  "Options of play and render: --config, --volume, --pan, --pan-law, --speed, --loops, " ++
  "--start;\n" ++
  "of play also --device; of tone: --frequency, --seconds, --sample-rate.\n"

/-- The version of the program. -/
def version : String := "0.1.0"

/-- The settings in a file, or the defaults; either way they must be usable. -/
def settings (path : Option String) (s : Storage) : Except Failure EngineSettings := do
  let e ←
    match path with
    | some path => (EngineSettings.load s path).mapError .settings
    | none => .ok {}
  e.validate.mapError .settings
  return e

/-- The last step of a path without its extension. -/
def stem (path : String) : String :=
  let name := (path.splitOn "/").getLast?.getD path
  match SettingsLanguage.extensionOf? name with
  | some e => (name.dropEnd (e.length + 1)).toString
  | none => name

/-- What a voice is to sound like. -/
def order (voice : VoiceOptions) : Except Failure VoiceOrder := do
  let start ←
    match voice.start with
    | some text => ((TimeSpan.parse text).map fun t => some t.micros).mapError .start
    | none => .ok none
  return {
    volume := voice.volume, pan := voice.pan, law := voice.law
    speed := voice.speed, loops := voice.loops, start }

/-- The clip of a file. -/
def clip (file : String) (e : EngineSettings) (s : Storage) : Except Failure Clip := do
  let bank ← (Bank.load s file e.sampleRate).mapError .load
  (Clip.ofSettings (stem file) bank e).mapError fun
    | .settings reason => .settings reason
    | .call reason => .session (.call reason)

/-- What a session starts from. -/
def preparation (file : String) (e : EngineSettings) (voice : VoiceOptions) (s : Storage) :
    Except Failure (Clip × VoiceOrder × Output) := do
  let c ← clip file e s
  let order ← order voice
  let output ← (Output.ofText e.deviceName).mapError .output
  return (c, order, output)

/-- Plays a file. There is no answer if that never ends. -/
def playFile (file : String) (e : EngineSettings) (voice : VoiceOptions) (s : Storage) :
    Option (Except Failure Unit × Storage) :=
  match preparation file e voice s with
  | .error failure => some (.error failure, s)
  | .ok (c, order, output) =>
    (Session.play c order output s).map fun (result, s) => (result.mapError .session, s)

/-- The status of a command that failed. -/
def Failure.status (f : Failure) : Nat := if f.isCrash then 101 else 1

/-- The outcome of a command. -/
def report (told : String) : Except Failure Unit × Storage → Outcome
  | (.ok (), files) => { exit := 0, stdout := told, files }
  | (.error f, files) => { exit := f.status, stderr := s!"Error: {f.describe}\n", files }

/-- Runs a command. There is no answer if it never ends. -/
def runCommand (s : Storage) : Command → Option Outcome
  | .devices => some { exit := 0, stdout := "No devices found.\n", files := s }
  | .play file device voice =>
    match settings voice.config s with
    | .error f => some (report "" (.error f, s))
    | .ok e =>
      let e := match device with
        | some device => e.withDevice device
        | none => e
      (playFile file e voice s).map (report "")
  | .render file output voice =>
    match settings voice.config s with
    | .error f => some (report "" (.error f, s))
    | .ok e =>
      (playFile file (e.withDevice (Output.fileMark ++ output)) voice s).map
        (report s!"Rendered {output}\n")
  | .tone output frequency seconds rate =>
    let (result, s) := Tone.write ⟨frequency, seconds, rate⟩ output s
    some (report s!"Wrote {output}\n" (result.mapError .tone, s))

/-- Runs a command line. There is no answer if it never ends. -/
def run (arguments : List String) (s : Storage) : Option Outcome :=
  match interpret arguments with
  | .run command => runCommand s command
  | .help => some { exit := 0, stdout := usage, files := s }
  | .version => some { exit := 0, stdout := version ++ "\n", files := s }
  | .misuse => some { exit := 2, stderr := usage, files := s }

end SamplePlayer.CommandLine
