import SamplePlayer.CommandLine.Argument
import SamplePlayer.Decimal.Numeral
import SamplePlayer.Pan

/-!
# Commands

The first argument names a command, or asks for help or for the version. Arguments are looked at
from left to right: a question is answered at once, even if something is missing, but not behind
something that makes no sense.

## Main definitions

* `VoiceOptions`, `Command`.
* `Verdict`: what a command line asks for.
* `interpret`: the verdict on a command line.
-/

namespace SamplePlayer.CommandLine

/-- The options of a command that plays a voice. -/
structure VoiceOptions where
  config : Option String := none
  volume : Float32 := 1.0
  pan : Float32 := 0.0
  law : PanLaw := default
  speed : Float32 := 1.0
  loops : Int32 := 0
  start : Option String := none

/-- What to do. -/
inductive Command where
  /-- Lists the devices. -/
  | devices
  /-- Plays a file through a device. -/
  | play (file : String) (device : Option String) (voice : VoiceOptions)
  /-- Plays a file into another one. -/
  | render (file output : String) (voice : VoiceOptions)
  /-- Writes a test tone. -/
  | tone (output : String) (frequency seconds : Float32) (rate : UInt32)

/-- What a command line asks for. -/
inductive Verdict where
  | run (command : Command)
  | help
  | version
  /-- It makes no sense. -/
  | misuse

/-! ## Values -/

/-- A number that is not finite, by its name in any case. -/
def specialNumber? (name : String) : Option Float32 :=
  match name.toLower with
  | "inf" | "infinity" => some (1.0 / 0.0)
  | "nan" => some (0.0 / 0.0)
  | _ => none

/-- The number that a text spells. -/
def number? (text : String) : Option Float32 :=
  let (negative, rest) := Decimal.splitSign text.toList
  match specialNumber? (.ofList rest) with
  | some x => some (if negative then -x else x)
  | none => (Decimal.Numeral.read? text.toList).map (·.toFloat32)

/-- The integer in a range that a text spells. -/
def integerIn? (least greatest : Int) (text : String) : Option Int :=
  match Decimal.integer? text.toList with
  | some n => if least ≤ n ∧ n ≤ greatest then some n else none
  | none => none

/-- The count that a text spells. -/
def count? (text : String) : Option UInt32 :=
  (integerIn? 0 4294967295 text).map fun n => n.toNat.toUInt32

/-- The number of loops that a text spells. -/
def loops? (text : String) : Option Int32 :=
  (integerIn? (-2147483648) 2147483647 text).map .ofInt

/-- The path that a text is; it must not be empty. -/
def path? (text : String) : Option String :=
  if text = "" then none else some text

/-! ## Commands under construction -/

/-- The options given and the values given so far. -/
structure Draft where
  options : List (String × String) := []
  values : List String := []

/-- What comes of reading arguments one by one. -/
inductive Progress where
  | reading (draft : Draft)
  | help
  | misuse

/-- Takes one more argument. An option must be new and its value must make sense; there must be room
for a value without a name. -/
def Draft.take (room : Nat) (accepts : String → String → Bool) (d : Draft) : Argument → Progress
  | .help => .help
  | .fault => .misuse
  | .option long value =>
    if (d.options.lookup long).isNone && accepts long value then
      .reading { d with options := (long, value) :: d.options }
    else .misuse
  | .value text =>
    if d.values.length < room ∧ text ≠ "" then .reading { d with values := d.values ++ [text] }
    else .misuse

/-- Reads arguments from left to right. -/
def draft (room : Nat) (accepts : String → String → Bool) (arguments : List Argument) : Progress :=
  arguments.foldl (fun progress argument =>
    match progress with
    | .reading d => d.take room accepts argument
    | other => other) (.reading {})

/-- The value of an option, or what holds without it. -/
def Draft.get {α : Type} (d : Draft) (long : String) (read : String → Option α)
    (otherwise : α) : α :=
  ((d.options.lookup long).bind read).getD otherwise

/-! ## Voices -/

/-- The options of a command that plays a voice. -/
def voiceForms : List OptionForm := [
  { long := "config", letter := some 'c' },
  { long := "volume" },
  { long := "pan", negative := true },
  { long := "pan-law" },
  { long := "speed" },
  { long := "loops", negative := true },
  { long := "start" }]

/-- The pan law with a name. -/
def law? (name : String) : Option PanLaw := (PanLaw.ofName name).toOption

/-- Whether a value makes sense for an option of a voice. -/
def acceptsVoice (long value : String) : Bool :=
  match long with
  | "config" => (path? value).isSome
  | "volume" | "pan" | "speed" => (number? value).isSome
  | "pan-law" => (law? value).isSome
  | "loops" => (loops? value).isSome
  | _ => true

/-- The options of a voice. -/
def Draft.voice (d : Draft) : VoiceOptions where
  config := d.options.lookup "config"
  volume := d.get "volume" number? 1.0
  pan := d.get "pan" number? 0.0
  law := d.get "pan-law" law? default
  speed := d.get "speed" number? 1.0
  loops := d.get "loops" loops? 0
  start := d.options.lookup "start"

/-! ## Tones -/

/-- The options of a tone. -/
def toneForms : List OptionForm := [
  { long := "frequency", letter := some 'f' },
  { long := "seconds", letter := some 's' },
  { long := "sample-rate" }]

/-- Whether a value makes sense for an option of a tone. -/
def acceptsTone (long value : String) : Bool :=
  if long = "sample-rate" then (count? value).isSome else (number? value).isSome

/-! ## Command lines -/

/-- The verdict on the arguments of one command. -/
def conclude (forms : List OptionForm) (room : Nat) (accepts : String → String → Bool)
    (make : Draft → Option Command) (arguments : List String) : Verdict :=
  match draft room accepts (readArguments forms none arguments) with
  | .reading d =>
    match make d with
    | some command => .run command
    | none => .misuse
  | .help => .help
  | .misuse => .misuse

/-- The verdict on a command and its arguments, if there is such a command. -/
def ofName? (name : String) (arguments : List String) : Option Verdict :=
  match name with
  | "devices" => some (conclude [] 0 (fun _ _ => false) (fun _ => some .devices) arguments)
  | "play" =>
    let make (d : Draft) : Option Command :=
      match d.values with
      | [file] => some (.play file (d.options.lookup "device") d.voice)
      | _ => none
    some (conclude ({ long := "device", letter := some 'd' } :: voiceForms) 1 acceptsVoice make
      arguments)
  | "render" =>
    let make (d : Draft) : Option Command :=
      match d.values with
      | [file, output] => some (.render file output d.voice)
      | _ => none
    some (conclude voiceForms 2 acceptsVoice make arguments)
  | "tone" =>
    let make (d : Draft) : Option Command :=
      match d.values with
      | [output] =>
        some (.tone output (d.get "frequency" number? 1000.0) (d.get "seconds" number? 1.0)
          (d.get "sample-rate" count? 44100))
      | _ => none
    some (conclude toneForms 1 acceptsTone make arguments)
  | _ => none

/-- The verdict on a question about commands; one may ask how to ask. -/
def question : List String → Verdict
  | [] | ["help"] => .help
  | [name] => if (ofName? name []).isSome then .help else .misuse
  | _ => .misuse

/-- The verdict on options in front of any command. -/
def opening (text : String) : Verdict :=
  match text.toList with
  | '-' :: 'h' :: _ => .help
  | '-' :: 'V' :: _ => .version
  | _ => if text == "--help" then .help else if text == "--version" then .version else .misuse

/-- The verdict on a command line. -/
def interpret : List String → Verdict
  | [] => .misuse
  | "help" :: rest => question rest
  | name :: rest => (ofName? name rest).getD (opening name)

end SamplePlayer.CommandLine
