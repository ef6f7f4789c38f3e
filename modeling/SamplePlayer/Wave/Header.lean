import SamplePlayer.Bytes.LittleEndian
import SamplePlayer.OutputFormat

/-!
# The header of a sound file

A sound file begins with a header that ends in the size of the data. Widths up to 16 bits have the
short form of it, wider samples the long form, which spells out the valid bits, the loudspeakers of
the channels and the encoding. Sizes are zero until they are known.

## Main definitions

* `WaveHeader.bytes`: the header for a format.
* `WaveHeader.sizeOffset`: where the size of the data stands in it.
-/

namespace SamplePlayer.WaveHeader

open LittleEndian (encode)

/-- The bytes of an ASCII text. -/
def ascii (text : String) : List UInt8 :=
  text.toList.map fun c => c.toNat.toUInt8

/-- Whether a format takes the long form. -/
def isLong (format : OutputFormat) : Bool := 16 < format.bits

/-- Where the size of the data stands. -/
def sizeOffset (format : OutputFormat) : Nat := if isLong format then 64 else 40

/-- The length of the header. -/
def size (format : OutputFormat) : Nat := sizeOffset format + 4

/-- The bytes that a sample takes in a file. -/
def bytesPerSample (format : OutputFormat) : Nat := (format.bits.toNat + 7) / 8

/-- The bytes that a frame takes in a file. -/
def blockAlign (format : OutputFormat) : Nat := bytesPerSample format * OutputFormat.channels

/-- The number of the encoding. -/
def tag : Encoding → Nat
  | .int => 1
  | .float => 3

/-- The tag of the long form, which leaves the encoding to a later field. -/
def longTag : Nat := 0xfffe

/-- The last fourteen bytes of the identifier of an encoding. -/
def identifierTail : List UInt8 :=
  [0x00, 0x00, 0x00, 0x00, 0x10, 0x00, 0x80, 0x00, 0x00, 0xaa, 0x00, 0x38, 0x9b, 0x71]

/-- The fields that both forms have in common. -/
def commonFields (format : OutputFormat) (tag : Nat) : List UInt8 :=
  encode 2 tag ++ encode 2 OutputFormat.channels ++ encode 4 format.rate.toNat ++
    encode 4 (format.rate.toNat * blockAlign format) ++ encode 2 (blockAlign format) ++
    encode 2 format.bits.toNat

/-- The description of a format. -/
def description (format : OutputFormat) : List UInt8 :=
  if isLong format then
    commonFields format longTag ++ encode 2 22 ++ encode 2 format.bits.toNat ++ encode 4 3 ++
      encode 2 (tag format.encoding) ++ identifierTail
  else commonFields format (tag format.encoding)

/-- The header for a format, with sizes of zero. -/
def bytes (format : OutputFormat) : List UInt8 :=
  ascii "RIFF" ++ encode 4 0 ++ ascii "WAVE" ++ ascii "fmt " ++
    encode 4 (description format).length ++ description format ++ ascii "data" ++ encode 4 0

end SamplePlayer.WaveHeader
