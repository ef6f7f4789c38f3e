import SamplePlayer.Sample
import SamplePlayer.Wave.Adpcm
import SamplePlayer.Wave.Header

/-!
# Reading sound files

A sound file is a list of chunks behind a marker, which may stand anywhere in the file. A chunk has
a tag and a length and is padded to an even length. One chunk describes the coding of the samples,
another holds them; that one is the last that is read. Samples are read in packets of whole blocks.
If the file ends early, what is there still counts.

## Main definitions

* `ReadError`, `Source`: reading from the front of what is left.
* `ChunkList`, `ChunkList.next`: the chunks of a list.
* `Coding`: how samples are stored.
* `SoundFile.parse`: the header of a file.
* `SoundFile.decode`: its samples.
-/

namespace SamplePlayer

/-- Why a file cannot be read. -/
inductive ReadError where
  /-- It ends in the middle of the header. -/
  | truncated
  /-- It contradicts itself. -/
  | malformed
  /-- It is of a kind that is not read. -/
  | unsupported
  /-- It has no samples that could be decoded. -/
  | noTrack
  /-- It claims a rate of zero, for which nothing can be worked out. -/
  | crashed
deriving DecidableEq, Repr

/-- Reading from the front of what is left of a file. -/
abbrev Source := StateT (List UInt8) (Except ReadError)

namespace Source

/-- Takes so many bytes. -/
def take (count : Nat) : Source (List UInt8) := do
  let left ← get
  let bytes := left.take count
  if bytes.length < count then throw .truncated
  set (left.drop count)
  return bytes

/-- Passes over so many bytes. -/
def skip (count : Nat) : Source Unit := do
  let _ ← take count

/-- Takes a word of so many bytes. -/
def word (width : Nat) : Source Nat := do
  return LittleEndian.decode (← take width)

end Source

/-- The beginning of a chunk. -/
structure ChunkHead where
  tag : List UInt8
  length : Nat

/-- A list of chunks of `length` bytes, `consumed` of which are done with. -/
structure ChunkList where
  length : Nat
  consumed : Nat := 0

namespace ChunkList

/-- The length that stands for an unknown one. -/
def endless : Nat := 0xffffffff

/-- The next chunk, if there is room for one. A chunk cannot be longer than what is left of the
list, unless both lengths are unknown. -/
def next (list : ChunkList) : Source (Option (ChunkHead × ChunkList)) := do
  if list.consumed % 2 = 1 then Source.skip 1
  let start := list.consumed + list.consumed % 2
  if list.length < start + 8 then return none
  let tag ← Source.take 4
  let length ← Source.word 4
  if list.length - (start + 8) < length ∧ ¬(list.length = length ∧ length = endless) then
    throw .malformed
  return some (⟨tag, length⟩, { list with consumed := min (start + 8 + length) endless })

/-- Passes over all chunks of a list and over the byte that pads it. -/
def skipAll (fuel : Nat) (list : ChunkList) : Source Unit := do
  match fuel, ← list.next with
  | fuel + 1, some (head, list) =>
    Source.skip head.length
    skipAll fuel list
  | _, _ =>
    Source.skip (list.length - list.consumed)
    if list.length % 2 = 1 then Source.skip 1

end ChunkList

/-- How samples are stored. -/
inductive Coding where
  /-- Unsigned bytes around 128. -/
  | unsigned8
  /-- Signed words of so many bytes. -/
  | signed (width : Nat)
  | float32
  | float64
  /-- Steps of four bits. -/
  | adpcm
  /-- Steps of four bits between predicted samples, which are not decoded. -/
  | predictive
deriving DecidableEq, Repr

/-- What the header of a file tells about its samples. -/
structure Description where
  coding : Coding
  channels : Nat
  rate : Nat
  blockAlign : Nat

namespace Description

/-- The coding of integers of a width. -/
def integerCoding (bits : Nat) : Source Coding :=
  match bits with
  | 8 => return .unsigned8
  | 16 => return .signed 2
  | 24 => return .signed 3
  | 32 => return .signed 4
  | _ => throw .malformed

/-- The coding of fractions of a width. -/
def fractionCoding (bits : Nat) : Source Coding :=
  match bits with
  | 32 => return .float32
  | 64 => return .float64
  | _ => throw .malformed

/-- The rest of the description of integers. -/
def integers (length bits : Nat) : Source Coding := do
  unless length = 16 ∨ length = 18 ∨ length = 40 do throw .malformed
  Source.skip (length - 16)
  integerCoding bits

/-- The rest of the description of fractions. -/
def fractions (length bits : Nat) : Source Coding := do
  match length with
  | 16 => pure ()
  | 18 => if (← Source.word 2) ≠ 0 then throw .malformed
  | 40 => Source.skip 24
  | _ => throw .malformed
  fractionCoding bits

/-- The rest of a description in the long form. -/
def long (length bits : Nat) : Source Coding := do
  if length < 40 then throw .malformed
  if (← Source.word 2) ≠ 22 then throw .malformed
  if bits % 8 ≠ 0 then throw .malformed
  Source.skip 6
  let tag ← Source.word 2
  let rest ← Source.take 14
  if rest ≠ WaveHeader.identifierTail then throw .unsupported
  if tag = WaveHeader.tag .int then integerCoding bits
  else if tag = WaveHeader.tag .float then fractionCoding bits
  else throw .unsupported

/-- The rest of the description of steps; `extra` tells which lengths of the last part will do. -/
def steps (coding : Coding) (extra : Nat → Bool) (length bits : Nat) : Source Coding := do
  if bits ≠ 4 then throw .malformed
  if length < 20 then throw .malformed
  let size ← Source.word 2
  unless extra size do throw .malformed
  Source.skip size
  return coding

/-- The channels that can be told apart. -/
def maxChannels : Nat := 26

/-- Reads a description of so many bytes. -/
def parse (length : Nat) : Source Description := do
  if length < 16 then throw .malformed
  let tag ← Source.word 2
  let channels ← Source.word 2
  let rate ← Source.word 4
  Source.skip 4
  let blockAlign ← Source.word 2
  let bits ← Source.word 2
  let coding ← match tag with
    | 0x0001 => integers length bits
    | 0x0002 => steps .predictive (32 ≤ ·) length bits
    | 0x0003 => fractions length bits
    | 0x0011 => steps .adpcm (· = 2) length bits
    | 0xfffe => long length bits
    | _ => throw .unsupported
  if channels = 0 ∨ maxChannels < channels then throw .malformed
  if rate = 0 then throw .crashed
  return { coding, channels, rate, blockAlign }

end Description

/-- A sound file behind its header. -/
structure SoundFile where
  /-- What the samples are, if that was told before they came. -/
  description : Option Description
  /-- How long the samples are said to be. -/
  dataLength : Nat
  /-- The file from the samples on. -/
  data : List UInt8

/-- Samples as they were decoded, those of a frame next to each other. -/
structure Recording where
  samples : Array Sample
  channels : Nat
  rate : UInt32
deriving DecidableEq

namespace SoundFile

open WaveHeader (ascii)

/-- Passes over a list of notes. -/
def skipNotes (fuel length : Nat) : Source Unit := do
  if length < 4 then throw .malformed
  let form ← Source.take 4
  if form = ascii "INFO" then ChunkList.skipAll fuel { length := length - 4 }
  else Source.skip (length - 4)

/-- Goes through the chunks of a file up to the samples. -/
def parseChunks : (fuel : Nat) → Option Description → ChunkList → Source SoundFile
  | 0, _, list => do
    let _ ← list.next
    throw .unsupported
  | fuel + 1, description, list => do
    match ← list.next with
    | none => throw .unsupported
    | some (head, list) =>
      if head.tag = ascii "data" then return ⟨description, head.length, ← get⟩
      else if head.tag = ascii "fmt " then
        parseChunks fuel (some (← Description.parse head.length)) list
      else if head.tag = ascii "fact" then
        if head.length ≠ 4 then throw .malformed
        Source.skip 4
        parseChunks fuel description list
      else if head.tag = ascii "LIST" then
        skipNotes fuel head.length
        parseChunks fuel description list
      else
        Source.skip head.length
        parseChunks fuel description list

/-- The rest of a file from its marker on. -/
def fromMarker : List UInt8 → Option (List UInt8)
  | [] => none
  | b :: rest =>
    if (b :: rest).take 4 = ascii "RIFF" then some (b :: rest) else fromMarker rest

/-- How many bytes there have to be from the marker on. -/
def leastLength : Nat := 16

/-- Reads the header of a file. -/
def parse (file : List UInt8) : Except ReadError SoundFile :=
  match fromMarker file with
  | none => .error .unsupported
  | some rest =>
    if rest.length < leastLength then .error .truncated
    else
      let body : Source SoundFile := do
        Source.skip 4
        let length ← Source.word 4
        let form ← Source.take 4
        if form ≠ ascii "WAVE" then throw .unsupported
        parseChunks rest.length none { length }
      (body.run rest).map (·.1)

/-- Cuts data into packets of at most `most` blocks of `align` bytes, as long as there are blocks
left and there is data. The packets found before are in reverse. -/
def packets (align most : Nat) (fuel blocks : Nat) (found : List (List UInt8)) (data : List UInt8) :
    List (List UInt8) :=
  match fuel with
  | 0 => found.reverse
  | fuel + 1 =>
    if blocks = 0 ∨ data.isEmpty then found.reverse
    else
      let size := min blocks most * align
      packets align most fuel (blocks - min blocks most) (data.take size :: found) (data.drop size)

/-- The most frames in a packet. -/
def packetFrames : Nat := 1152

/-- The bytes of a sample; none for a coding in steps. -/
def width : Coding → Nat
  | .unsigned8 => 1
  | .signed width => width
  | .float32 => 4
  | .float64 => 8
  | _ => 0

/-- The sample in a group of bytes. -/
def sampleOf (coding : Coding) (bytes : List UInt8) : Sample :=
  let n := LittleEndian.decode bytes
  match coding with
  | .unsigned8 => .ofFloat32 (Number.ofInt32 ((n : Int) - 128) / 128.0)
  | .signed 2 => .ofInt16 (.ofNat n)
  | .signed 3 => .ofFloat32 (Number.ofInt32 (LittleEndian.signed 24 n) / 8388608.0)
  | .signed _ => .ofFloat32 (Number.ofInt32 (LittleEndian.signed 32 n) / 2147483648.0)
  | .float64 => .ofFloat32 (Number.narrow (.ofBits n.toUInt64))
  | _ => ⟨n.toUInt32⟩

/-- The samples in a packet of whole numbers or fractions: whole frames only. -/
def plainPacket (d : Description) (packet : List UInt8) : List Sample :=
  let frameSize := d.channels * width d.coding
  let frames := min (packet.length / frameSize) packetFrames
  (LittleEndian.groups (width d.coding) (packet.take (frames * frameSize))).map (sampleOf d.coding)

/-- The samples in a packet of blocks of steps. A block that cannot be decoded spoils its packet. -/
def steppedPacket (d : Description) (packet : List UInt8) : List Sample :=
  match (LittleEndian.groups d.blockAlign packet).mapM Adpcm.decodeBlock? with
  | some blocks => blocks.flatten.map fun n => .ofInt16 (.ofInt n)
  | none => []

/-- Decodes the samples of a file. -/
def decode (file : SoundFile) : Except ReadError Recording := do
  match file.description with
  | none => throw .noTrack
  | some d =>
    if d.blockAlign = 0 then throw .malformed
    let blocks := file.dataLength / d.blockAlign
    let cut (most : Nat) := packets d.blockAlign most (file.data.length + 1) blocks [] file.data
    let finish (samples : List Sample) : Recording := ⟨samples.toArray, d.channels, d.rate.toUInt32⟩
    match d.coding with
    | .adpcm =>
      if d.blockAlign < 4 * d.channels then throw .malformed
      if d.channels ≠ 1 then throw .unsupported
      let frames := Adpcm.framesPerBlock d.blockAlign d.channels
      return finish ((cut (max frames packetFrames / frames)).flatMap (steppedPacket d))
    | .predictive =>
      if d.blockAlign ≤ file.data.length ∧ 0 < blocks then throw .unsupported
      return finish []
    | _ => return finish ((cut packetFrames).flatMap (plainPacket d))

end SoundFile

end SamplePlayer
