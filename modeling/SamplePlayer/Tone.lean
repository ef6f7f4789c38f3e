import SamplePlayer.Number.Conversion
import SamplePlayer.Storage
import SamplePlayer.Wave.Header

/-!
# Test tones

A test tone is a sine wave in a sound file with one channel of 16-bit words.

## Main definitions

* `Tone`: frequency, length and sample rate.
* `Tone.words`: the words of a tone.
* `Tone.write`: writes a tone into a file.
-/

namespace SamplePlayer

/-- A tone. -/
structure Tone where
  frequency : Float32
  seconds : Float32
  rate : UInt32

/-- Why a tone cannot be written. -/
inductive ToneError where
  /-- It has no length. -/
  | noLength
  | storage (reason : StorageError)
  /-- The rate is too high to be described in a header. -/
  | crashed
deriving DecidableEq, Repr

namespace Tone

/-- Half a turn. -/
def pi : Float32 := .ofBits 0x40490fdb

/-- The height of the wave. -/
def amplitude : Float32 := 0.8

/-- The word of full scale. -/
def fullScale : Float32 := 32767.0

variable (t : Tone)

/-- The sample rate as a number. -/
def rateNumber : Float32 := t.rate.toFloat32

/-- How many frames the tone has. The fraction of a frame is dropped. -/
def frameCount : Nat := (t.seconds * t.rateNumber).toUInt64.toNat

/-- The word at a frame. -/
def word (frame : Nat) : Int16 :=
  let instant := frame.toUInt64.toFloat32 / t.rateNumber
  Number.toInt16 (amplitude * (2.0 * pi * t.frequency * instant).sin * fullScale)

/-- The words of the tone. -/
def words : List Int16 := (List.range t.frameCount).map t.word

/-- The bytes of a word. -/
def bytesPerWord : Nat := 2

/-- The file of the tone. -/
def file : Array UInt8 :=
  let data := t.words.toArray.flatMap fun w =>
    (LittleEndian.encode bytesPerWord w.toUInt16.toNat).toArray
  let header : List UInt8 :=
    WaveHeader.ascii "RIFF" ++ LittleEndian.encode 4 (36 + data.size) ++
      WaveHeader.ascii "WAVEfmt " ++ LittleEndian.encode 4 16 ++
      LittleEndian.encode 2 1 ++ LittleEndian.encode 2 1 ++
      LittleEndian.encode 4 t.rate.toNat ++ LittleEndian.encode 4 (t.rate.toNat * bytesPerWord) ++
      LittleEndian.encode 2 bytesPerWord ++ LittleEndian.encode 2 16 ++
      WaveHeader.ascii "data" ++ LittleEndian.encode 4 data.size
  header.toArray ++ data

/-- Writes the tone into a file. -/
def write (path : String) (s : Storage) : Except ToneError Unit × Storage :=
  if t.seconds ≤ 0.0 then (.error .noLength, s)
  else
    match s.create path with
    | .error e => (.error (.storage e), s)
    | .ok s =>
      if 4294967296 ≤ t.rate.toNat * bytesPerWord then (.error .crashed, s)
      else
        match s.writeAt (Storage.resolve path) 0 t.file with
        | .error e => (.error (.storage e), s)
        | .ok s => (.ok (), s)

end Tone

end SamplePlayer
