import SamplePlayer.Wave.Error
import SamplePlayer.Wave.Header

/-!
# Writing sound files

A writer puts the header and then sample after sample into its file. The sizes in the header are
filled in when the data is flushed, when the file is finished, and, as far as that is possible, when
the writer is given up. A file whose last frame lacks a sample is written out all the same, and the
fault is reported.

## Main definitions

* `WaveWriter`, `WaveWriter.create`.
* `WaveWriter.writeSample`, `WaveWriter.flush`, `WaveWriter.finish`, `WaveWriter.abandon`.
-/

namespace SamplePlayer

/-- A sound file under way. -/
structure WaveWriter where
  file : FileHandle
  format : OutputFormat
  /-- The size of the samples written so far. -/
  dataBytes : Nat := 0

namespace WaveWriter

/-- An action on a sound file under way. Files and writer keep what an action did before it
failed. -/
abbrev Action := ExceptT WaveError (StateM (Storage × WaveWriter))

/-- Runs an action on the file itself. -/
def onFile {α : Type} (action : FileHandle.Action α) : Action α :=
  ExceptT.mk fun (s, w) =>
    let (result, s, file) := action.run.run (s, w.file)
    (result.mapError .storage, s, { w with file })

/-- Fills in the sizes in the header. The file is left positioned behind the size of the data. -/
def updateHeader : Action Unit := do
  let (_, w) ← get
  onFile (FileHandle.seek 4)
  onFile (FileHandle.put (LittleEndian.encode 4 (w.dataBytes + WaveHeader.size w.format - 8)))
  onFile (FileHandle.seek (WaveHeader.sizeOffset w.format))
  onFile (FileHandle.put (LittleEndian.encode 4 w.dataBytes))
  if w.dataBytes / WaveHeader.bytesPerSample w.format % OutputFormat.channels ≠ 0 then
    throw .unfinishedFrame

/-- Brings everything written so far into the file, and goes on from there. -/
def flush : Action Unit := do
  let position ← onFile FileHandle.tell
  updateHeader
  onFile FileHandle.flush
  onFile (FileHandle.seek position)

/-- The bytes of a sample in the width of a file. -/
def sampleBytes (format : OutputFormat) (s : Sample) : Except WaveError (List UInt8) :=
  match format.encoding with
  | .float => if format.bits = 32 then .ok (LittleEndian.encode 4 s.bits.toNat)
    else .error .unsupportedWidth
  | .int =>
    let word := (Number.roundToInt16 (s.value * Encoding.fullScale)).toInt
    match format.bits.toNat with
    | 8 => if -128 ≤ word ∧ word ≤ 127 then .ok [(word + 128).toNat.toUInt8] else .error .tooWide
    | 16 => .ok (LittleEndian.encode 2 (LittleEndian.unsigned 16 word))
    | 24 => .ok (LittleEndian.encode 3 (LittleEndian.unsigned 24 word))
    | 32 => .ok (LittleEndian.encode 4 (LittleEndian.unsigned 32 word))
    | _ => .error .unsupportedWidth

/-- Writes one sample. -/
def writeSample (s : Sample) : Action Unit := do
  let (_, w) ← get
  onFile (FileHandle.put (← sampleBytes w.format s))
  modify fun (s, w) =>
    (s, { w with dataBytes := w.dataBytes + WaveHeader.bytesPerSample w.format })

/-- Runs an action on a writer. -/
def run {α : Type} (action : Action α) (s : Storage) (w : WaveWriter) :
    Except WaveError α × Storage × WaveWriter :=
  action.run.run (s, w)

/-- Gives up a writer: sizes and data still go into the file if they can. -/
def abandon (s : Storage) (w : WaveWriter) : Storage :=
  let (_, s, w) := run (do updateHeader; onFile FileHandle.flush) s w
  w.file.abandon s

/-- Completes a file. The writer is gone even if that fails. -/
def finish (s : Storage) (w : WaveWriter) : Except WaveError Unit × Storage :=
  let (result, s, w) := run (do updateHeader; onFile FileHandle.flush) s w
  (result, w.file.abandon s)

/-- What comes of making a file. -/
inductive Creation where
  | ready (w : WaveWriter)
  | refused (e : WaveError)
  /-- The format cannot be described in a header. -/
  | crashed

/-- The widths of samples that can be written. -/
def widths : List UInt16 := [8, 16, 24, 32]

/-- Whether a header can describe a format. -/
def describable (format : OutputFormat) : Bool :=
  (format.encoding = .int || format.bits = 32) &&
    format.rate.toNat * WaveHeader.blockAlign format < 4294967296

/-- Makes a file, in place of one that is there. A format that cannot be written leaves a file with
nothing but sizes in it. -/
def create (s : Storage) (path : String) (format : OutputFormat) : Creation × Storage :=
  match s.create path with
  | .error e => (.refused (.storage e), s)
  | .ok s =>
    let w : WaveWriter := { file := { path := Storage.resolve path }, format }
    if !widths.contains format.bits then (.refused .unsupportedWidth, w.abandon s)
    else if !describable format then (.crashed, w.abandon s)
    else
      match run (onFile (FileHandle.put (WaveHeader.bytes format))) s w with
      | (.ok _, s, w) => (.ready w, s)
      | (.error e, s, w) => (.refused e, w.abandon s)

end WaveWriter

end SamplePlayer
