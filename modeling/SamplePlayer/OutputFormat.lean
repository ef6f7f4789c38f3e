import SamplePlayer.Bytes.LittleEndian
import SamplePlayer.Sample
import SamplePlayer.Text.Record

/-!
# Output formats

An output takes interleaved stereo in one of two encodings: signed 16-bit words or single precision
numbers, both little-endian. A format can be described with any width; only the two widths of the
encodings can be asked for.

## Main definitions

* `Encoding`, `OutputFormat`, with the checked constructor `OutputFormat.make`.
* `OutputFormat.encode`, `OutputFormat.decode`: samples as bytes, and back.
* `OutputFormat.encodeInto`, `OutputFormat.decodeInto`: the same with a buffer that is used again.
-/

namespace SamplePlayer

/-- How a sample is represented. -/
inductive Encoding where
  /-- A signed integer, full scale being 32767. -/
  | int
  /-- A single precision number. -/
  | float
deriving DecidableEq, Repr, Inhabited

/-- Why a format cannot be used. -/
inductive FormatError where
  /-- No encoding has this name. -/
  | unknownEncoding (name : String)
  /-- The sample rate is zero. -/
  | zeroRate
  /-- The encoding has another width. -/
  | unsupportedWidth (encoding : Encoding) (bits : UInt16)
deriving DecidableEq, Repr

namespace Encoding

/-- The name of an encoding. -/
def name : Encoding → String
  | int => "int"
  | float => "float"

/-- Reads the name of an encoding, with a small or a capital initial. -/
def ofName : String → Except FormatError Encoding
  | "float" | "Float" => .ok float
  | "int" | "Int" => .ok int
  | other => .error (.unknownEncoding other)

/-- The one width in bits that an encoding is used with. -/
def width : Encoding → UInt16
  | int => 16
  | float => 32

/-- The bytes that a sample of the encoding takes in a buffer. -/
def stride : Encoding → Nat
  | int => 2
  | float => 4

/-- Full scale of the integer encoding. -/
def fullScale : Float32 := 32767.0

/-- The integer that stands for a number: clamped to full scale, the fraction cut off. NaN gives
zero. -/
def quantize (x : Float32) : Int16 :=
  Number.toInt16 (Number.clamp32 x (-1.0) 1.0 * fullScale)

/-- The number that an integer stands for. -/
def dequantize (n : Int16) : Float32 :=
  Number.ofInt16 n / fullScale

/-- The bytes of a sample. -/
def encodeSample : Encoding → Sample → List UInt8
  | int, s => LittleEndian.encode 2 (quantize s.value).toUInt16.toNat
  | float, s => LittleEndian.encode 4 s.bits.toNat

/-- The sample in a group of `stride` bytes. -/
def decodeSample : Encoding → List UInt8 → Sample
  | int, bytes => .ofFloat32 (dequantize (.ofNat (LittleEndian.decode bytes)))
  | float, bytes => ⟨.ofNat (LittleEndian.decode bytes)⟩

end Encoding

/-- The wording of an error. -/
def FormatError.message : FormatError → String
  | unknownEncoding name => s!"unknown sample format: {name}"
  | zeroRate => "sample rate must be greater than 0"
  | unsupportedWidth encoding bits => s!"{bits}-bit {encoding.name} samples"

/-- The interleaved stereo that an output is opened with. -/
structure OutputFormat where
  rate : UInt32
  encoding : Encoding
  bits : UInt16
deriving DecidableEq, Repr

namespace OutputFormat

/-- Signed 16-bit words at 44100 frames a second. -/
instance : Inhabited OutputFormat := ⟨⟨44100, .int, 16⟩⟩

/-- The number of interleaved channels. -/
def channels : Nat := 2

/-- A format that can be used: the rate is not zero and the width is that of the encoding. -/
def make (rate : UInt32) (encoding : Encoding) (bits : UInt16) : Except FormatError OutputFormat :=
  if rate = 0 then .error .zeroRate
  else if bits = encoding.width then .ok ⟨rate, encoding, bits⟩
  else .error (.unsupportedWidth encoding bits)

variable (format : OutputFormat)

/-- The whole bytes in the width of a sample. -/
def bytesPerSample : Nat := format.bits.toNat / 8

/-- The whole bytes in the width of a frame. -/
def bytesPerFrame : Nat := format.bytesPerSample * channels

/-- The bytes of consecutive samples. -/
def encode (samples : List Sample) : List UInt8 :=
  samples.flatMap format.encoding.encodeSample

/-- The samples in a stream of bytes; a partial sample at the end is dropped. -/
def decode (bytes : List UInt8) : List Sample :=
  (LittleEndian.groups format.encoding.stride bytes).map format.encoding.decodeSample

/-- Replaces what a buffer holds by the bytes of consecutive samples. -/
def encodeInto (samples : List Sample) (buffer : List UInt8) : List UInt8 :=
  buffer.take 0 ++ format.encode samples

/-- Adds the samples in a stream of bytes to those that were decoded before. -/
def decodeInto (bytes : List UInt8) (samples : List Sample) : List Sample :=
  samples ++ format.decode bytes

/-- The text of a format. -/
def text : String :=
  s!"{format.rate}Hz {format.bits}-bit {format.encoding.name} stereo"

/-- The name of the encoding in a description. -/
def encodingLabel : String :=
  match format.encoding with
  | .int => "Int"
  | .float => "Float"

/-- A description for diagnostics. -/
def describe : String :=
  Text.record "SinkFormat" [
    ("sample_rate", toString format.rate),
    ("sample_format", format.encodingLabel),
    ("bits_per_sample", toString format.bits)]

end OutputFormat

end SamplePlayer
