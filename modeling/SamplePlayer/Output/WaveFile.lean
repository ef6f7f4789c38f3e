import SamplePlayer.Output.Error
import SamplePlayer.Wave.Writer

/-!
# Outputs into sound files

## Main definitions

* `WaveOutput`, with `WaveOutput.opening`, `WaveOutput.write`, `WaveOutput.drain` and
  `WaveOutput.close`.
-/

namespace SamplePlayer

/-- An output that goes into a sound file. -/
structure WaveOutput where
  path : String
  writer : Option WaveWriter := none

namespace WaveOutput

variable (o : WaveOutput)

/-- The text of an output. -/
def text : String := s!"{o.path} (WAV)"

/-- The answer to an action on a sound file. -/
def reply : Except WaveError Unit → Reply
  | .ok () => .done
  | .error e => .failed (.wave e)

/-- Makes the file anew. A file that is still under way is given up after that. -/
def opening (format : OutputFormat) (s : Storage) : Reply × WaveOutput × Storage :=
  match WaveWriter.create s o.path format with
  | (.ready w, s) =>
    let s := match o.writer with
      | some old => old.abandon s
      | none => s
    (.done, { o with writer := some w }, s)
  | (.refused e, s) => (.failed (.wave e), o, s)
  | (.crashed, s) => (.crashed, o, s)

/-- Runs an action on the file under way. -/
def withWriter (action : WaveWriter.Action Unit) (s : Storage) : Reply × WaveOutput × Storage :=
  match o.writer with
  | none => (.failed .closed, o, s)
  | some w =>
    let (result, s, w) := WaveWriter.run action s w
    (reply result, { o with writer := some w }, s)

/-- Writes the samples in a stream of bytes, up to the first that fails. -/
def write (bytes : List UInt8) (s : Storage) : Reply × WaveOutput × Storage :=
  match o.writer with
  | none => (.failed .closed, o, s)
  | some w => o.withWriter ((w.format.decode bytes).forM WaveWriter.writeSample) s

/-- Brings everything into the file. -/
def drain (s : Storage) : Reply × WaveOutput × Storage :=
  o.withWriter WaveWriter.flush s

/-- Completes the file. An output that is not open stays so. -/
def close (s : Storage) : Reply × WaveOutput × Storage :=
  match o.writer with
  | none => (.done, o, s)
  | some w =>
    let (result, s) := w.finish s
    (reply result, { o with writer := none }, s)

end WaveOutput

end SamplePlayer
