import SamplePlayer.Output.Device
import SamplePlayer.Output.Memory
import SamplePlayer.Output.WaveFile
import SamplePlayer.Text.CharSet

/-!
# Outputs

An output takes buffers of encoded samples. Which one is meant is told by a text: `wav:` in front of
a path asks for a sound file, anything else names a device.

## Main definitions

* `OutputInterface`: the operations that playing to an output needs.
* `Output`, `Output.interface`.
* `Output.ofText`: the output that a text asks for.
* `ScriptedOutput`: an output that fails at a given moment.
-/

namespace SamplePlayer

/-- The operations on outputs of the kind `σ` in surroundings of the kind `ω`. -/
structure OutputInterface (σ ω : Type) where
  /-- Takes hold of the output for buffers of so many frames. -/
  opening : OutputFormat → Nat → σ → ω → Reply × σ × ω
  /-- Takes a buffer; comes back when it is accepted. -/
  write : List UInt8 → σ → ω → Reply × σ × ω
  /-- Comes back when everything written is played or kept. -/
  drain : σ → ω → Reply × σ × ω
  /-- Lets go of the output. -/
  close : σ → ω → Reply × σ × ω
  /-- The output is given up as it is. -/
  abandon : σ → ω → σ × ω

/-- An output of one of the kinds there are. -/
inductive Output where
  | memory (output : MemoryOutput)
  | waveFile (output : WaveOutput)
  | device (output : DeviceOutput)

namespace Output

/-- The text of an output. -/
def text : Output → String
  | memory m => m.text
  | waveFile w => w.text
  | device d => d.text

/-- What a path is marked with. -/
def fileMark : String := "wav:"

/-- The output that a text asks for. -/
def ofText (text : String) : Except OutputError Output :=
  let wanted := Text.trim text
  if wanted = "" then .error (.deviceNotFound "there must be an audio device specified")
  else if wanted.startsWith fileMark then
    .ok (waveFile { path := (wanted.drop fileMark.length).toString })
  else .ok (device { name := wanted })

/-- Opens an output. -/
def opening (format : OutputFormat) (bufferFrames : Nat) :
    Output → Storage → Reply × Output × Storage
  | memory m, s => let (answer, m) := m.opening format bufferFrames; (answer, memory m, s)
  | waveFile w, s => let (answer, w, s) := w.opening format s; (answer, waveFile w, s)
  | device d, s => let (answer, d) := d.opening; (answer, device d, s)

/-- Writes a buffer. A write for which nobody makes room never comes to an end. -/
def write (bytes : List UInt8) : Output → Storage → Reply × Output × Storage
  | memory m, s => let (answer, m) := m.write? bytes; (answer.getD .crashed, memory m, s)
  | waveFile w, s => let (answer, w, s) := w.write bytes s; (answer, waveFile w, s)
  | device d, s => let (answer, _, d) := d.write bytes 0; (answer.getD .crashed, device d, s)

/-- Drains an output. -/
def drain : Output → Storage → Reply × Output × Storage
  | memory m, s => let (answer, m) := m.drain; (answer, memory m, s)
  | waveFile w, s => let (answer, w, s) := w.drain s; (answer, waveFile w, s)
  | device d, s => let (answer, _, d) := d.drain 0; (answer.getD .crashed, device d, s)

/-- Closes an output. -/
def close : Output → Storage → Reply × Output × Storage
  | memory m, s => let (answer, m) := m.close; (answer, memory m, s)
  | waveFile w, s => let (answer, w, s) := w.close s; (answer, waveFile w, s)
  | device d, s => let (answer, d) := d.close; (answer, device d, s)

/-- Gives an output up: a file or a stream under way is completed. -/
def abandon : Output → Storage → Output × Storage
  | memory m, s => (memory m, s)
  | waveFile w, s => let (_, w, s) := w.close s; (waveFile w, s)
  | device d, s => (device d.close.2, s)

/-- The operations on outputs. -/
def interface : OutputInterface Output Storage :=
  ⟨opening, write, drain, close, abandon⟩

end Output

/-- An output that fails at a given moment. -/
structure ScriptedOutput where
  output : Output
  /-- The write after so many buffers fails. -/
  failAfter : Option Nat := none
  /-- The write after so many buffers never comes back. -/
  crashAfter : Option Nat := none
  /-- Draining fails after it did its work. -/
  failDrain : Bool := false
  /-- Closing fails after it did its work. -/
  failClose : Bool := false
  /-- How many buffers were accepted. -/
  accepted : Nat := 0

namespace ScriptedOutput

/-- Writes a buffer unless it is time to fail. -/
def write (bytes : List UInt8) (o : ScriptedOutput) (s : Storage) :
    Reply × ScriptedOutput × Storage :=
  if o.crashAfter = some o.accepted then (.crashed, o, s)
  else if o.failAfter = some o.accepted then (.failed (.backend "write failed"), o, s)
  else
    let (answer, output, s) := o.output.write bytes s
    (answer, { o with output, accepted := o.accepted + if answer = .done then 1 else 0 }, s)

/-- The answer of an operation that is made to fail. -/
def spoil (fails : Bool) (reason : String) (answer : Reply) : Reply :=
  if fails then .failed (.backend reason) else answer

/-- The operations on scripted outputs. -/
def interface : OutputInterface ScriptedOutput Storage where
  opening format frames o s :=
    let (answer, output, s) := o.output.opening format frames s
    (answer, { o with output }, s)
  write := write
  drain o s :=
    let (answer, output, s) := o.output.drain s
    (spoil o.failDrain "drain failed" answer, { o with output }, s)
  close o s :=
    let (answer, output, s) := o.output.close s
    (spoil o.failClose "close failed" answer, { o with output }, s)
  abandon o s :=
    let (output, s) := o.output.abandon s
    ({ o with output }, s)

end ScriptedOutput

end SamplePlayer
