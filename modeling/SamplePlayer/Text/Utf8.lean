/-!
# Reading UTF-8

Bytes that do not spell characters are not refused: each longest run of bytes that begins a
character without finishing it, and each byte that begins none, is read as the replacement
character.

## Main definitions

* `Utf8.Lead`: a character under way.
* `Utf8.step`: the effect of one byte.
* `Utf8.decode`: the characters that bytes spell.
-/

namespace SamplePlayer.Text.Utf8

/-- A character under way. -/
structure Lead where
  /-- How many bytes it still lacks. -/
  owed : Nat
  /-- The least that the next byte may be. -/
  least : UInt8
  /-- The greatest that the next byte may be. -/
  greatest : UInt8
  /-- The bits read so far. -/
  bits : Nat
deriving DecidableEq, Repr

/-- The character that stands for what cannot be read. -/
def replacement : Char := '\ufffd'

/-- The character that begins with a byte. The bounds keep out encodings longer than needed,
surrogates, and what is above the last code point. -/
def Lead.ofByte? (b : UInt8) : Option Lead :=
  if 0xc2 ≤ b ∧ b ≤ 0xdf then some ⟨1, 0x80, 0xbf, b.toNat % 32⟩
  else if b = 0xe0 then some ⟨2, 0xa0, 0xbf, 0⟩
  else if b = 0xed then some ⟨2, 0x80, 0x9f, b.toNat % 16⟩
  else if 0xe1 ≤ b ∧ b ≤ 0xef then some ⟨2, 0x80, 0xbf, b.toNat % 16⟩
  else if b = 0xf0 then some ⟨3, 0x90, 0xbf, 0⟩
  else if 0xf1 ≤ b ∧ b ≤ 0xf3 then some ⟨3, 0x80, 0xbf, b.toNat % 8⟩
  else if b = 0xf4 then some ⟨3, 0x80, 0x8f, b.toNat % 8⟩
  else none

/-- The characters read, and the character under way. -/
structure Reading where
  done : Array Char := #[]
  lead : Option Lead := none

/-- The effect of a byte between two characters. -/
def start (done : Array Char) (b : UInt8) : Reading :=
  if b < 0x80 then ⟨done.push (.ofNat b.toNat), none⟩
  else
    match Lead.ofByte? b with
    | some lead => ⟨done, some lead⟩
    | none => ⟨done.push replacement, none⟩

/-- The effect of one byte. -/
def step (r : Reading) (b : UInt8) : Reading :=
  match r.lead with
  | none => start r.done b
  | some lead =>
    if lead.least ≤ b ∧ b ≤ lead.greatest then
      let bits := lead.bits * 64 + b.toNat % 64
      if lead.owed ≤ 1 then ⟨r.done.push (.ofNat bits), none⟩
      else ⟨r.done, some ⟨lead.owed - 1, 0x80, 0xbf, bits⟩⟩
    else start (r.done.push replacement) b

/-- The characters that bytes spell. -/
def decode (bytes : Array UInt8) : List Char :=
  let r := bytes.foldl step {}
  (if r.lead.isSome then r.done.push replacement else r.done).toList

/-- The bytes without the mark of byte order that may stand in front of a text. -/
def dropMark (bytes : Array UInt8) : Array UInt8 :=
  if bytes.extract 0 3 == #[0xef, 0xbb, 0xbf] then bytes.extract 3 bytes.size else bytes

end SamplePlayer.Text.Utf8
