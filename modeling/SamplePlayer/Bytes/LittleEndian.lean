/-!
# Little-endian words and whole groups of bytes

Numbers in audio data are stored with their lowest byte first, in words of one to eight bytes. A
stream of bytes is read in groups of the width of a word; a partial group at the end is no word.

## Main definitions

* `encode`, `decode`: a number as a word of a given width, and back.
* `groups`: the whole groups of a stream.
* `signed`: a word read in two's complement.
-/

namespace SamplePlayer.LittleEndian

/-- The lowest `width` bytes of `n`, lowest first. -/
def encode : (width : Nat) → (n : Nat) → List UInt8
  | 0, _ => []
  | width + 1, n => n.toUInt8 :: encode width (n / 256)

/-- The number whose bytes are given, lowest first. -/
def decode : List UInt8 → Nat
  | [] => 0
  | b :: rest => b.toNat + 256 * decode rest

/-- Takes `count` groups of `width` bytes off a stream, after the groups found before. -/
def takeGroups (width : Nat) : Nat → List UInt8 → Array (List UInt8) → Array (List UInt8)
  | 0, _, found => found
  | count + 1, bytes, found =>
    takeGroups width count (bytes.drop width) (found.push (bytes.take width))

/-- The whole groups of `width` bytes of a stream, in order. What is left over at the end is
dropped. -/
def groups (width : Nat) (bytes : List UInt8) : List (List UInt8) :=
  (takeGroups width (bytes.length / width) bytes #[]).toList

/-- The integer that a word of `bits` bits stands for in two's complement. -/
def signed (bits n : Nat) : Int :=
  Int.bmod n (Nat.pow 2 bits)

/-- The word of `bits` bits that stands for an integer in two's complement. -/
def unsigned (bits : Nat) (n : Int) : Nat :=
  (n % (Nat.pow 2 bits : Nat)).toNat

end SamplePlayer.LittleEndian
