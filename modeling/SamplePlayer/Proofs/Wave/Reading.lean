import Mathlib
import SamplePlayer.Proofs.Loading
import SamplePlayer.Proofs.Wave.Writing

/-!
# How a finished file is read

A step of reading takes certain bytes and gives a certain value, whatever comes after these bytes.
Steps that follow each other read bytes that follow each other, so a header is read field by field.
The data behind it is cut into packets; as it consists of whole frames, nothing is lost where it is
cut.

## Main definitions

* `Source.Reads`: what is read from certain bytes.
* `OutputFormat.told`: what a header tells.

## Main results

* `SoundFile.parse_filled`: the header that is written is read.
* `SoundFile.flatMap_packets`, `SoundFile.decode_told`: the samples of a file.
* `Bank.load_filled`: the bank that is loaded from a file.
-/

namespace SamplePlayer

open LittleEndian (encode decode groups)

namespace Source

variable {α β : Type} {x : Source α} {f : α → Source β} {a : α} {b : β}
  {bytes bytes' : List UInt8} {n count width : Nat}

/-- From these bytes the value `a` is read, whatever comes after them. -/
def Reads (x : Source α) (bytes : List UInt8) (a : α) : Prop :=
  ∀ rest, x.run (bytes ++ rest) = .ok (a, rest)

theorem reads_pure (a : α) : Reads (pure a) [] a := fun _ => rfl

theorem Reads.run_bind (first : Reads x bytes a) (rest : List UInt8) :
    (x >>= f).run (bytes ++ rest) = (f a).run rest := by
  rw [StateT.run_bind, first]
  rfl

theorem Reads.bind (first : Reads x bytes a) (second : Reads (f a) bytes' b) :
    Reads (x >>= f) (bytes ++ bytes') b := by
  intro rest
  rw [List.append_assoc, first.run_bind]
  exact second rest

/-- After the last bytes, what was read is put together. -/
theorem Reads.last (first : Reads x bytes a) (second : Reads (f a) [] b) :
    Reads (x >>= f) bytes b := by
  simpa using first.bind second

theorem reads_take (length : bytes.length = count) : Reads (take count) bytes bytes := by
  subst length
  intro rest
  simp [take]
  rfl

theorem reads_skip (length : bytes.length = count) : Reads (skip count) bytes () :=
  (reads_take length).last (reads_pure ())

theorem reads_word (small : n < 256 ^ width) : Reads (word width) (encode width n) n := by
  have value : Reads (pure (decode (encode width n)) : Source Nat) [] n := by
    rw [LittleEndian.decode_encode_of_lt small]
    exact reads_pure n
  exact (reads_take (LittleEndian.length_encode width n)).last value

end Source

open Source

/-- A chunk that fits into what is left of a list is the next one. -/
theorem ChunkList.reads_next {list : ChunkList} {tag : List UInt8} {n : Nat}
    (length : tag.length = 4) (small : n < 2 ^ 32) (even : list.consumed % 2 = 0)
    (room : list.consumed + 8 + n ≤ list.length) :
    Reads list.next (tag ++ encode 4 n)
      (some (⟨tag, n⟩, { list with consumed := min (list.consumed + 8 + n) endless })) := by
  have more : ¬ list.length < list.consumed + 8 := by omega
  have fits : ¬ (list.length - (list.consumed + 8) < n ∧
      ¬(list.length = n ∧ n = endless)) := by omega
  unfold next
  simp only [even, Nat.add_zero, more, if_false, Nat.zero_ne_one]
  refine (reads_take length).bind ((reads_word small).last ?_)
  rw [if_neg fits]
  exact reads_pure _

/-! ### The description of a format -/

/-- How the samples of an encoding are stored. -/
def Encoding.coding : Encoding → Coding
  | .int => .signed 2
  | .float => .float32

/-- What the header for a format tells about its samples. -/
def OutputFormat.told (format : OutputFormat) : Description :=
  ⟨format.encoding.coding, OutputFormat.channels, format.rate.toNat, WaveHeader.blockAlign format⟩

namespace Description

theorem reads_integers : Reads (integers 16 16) [] (.signed 2) := fun _ => rfl

theorem reads_long : Reads (long 40 32) (encode 2 22 ++ (encode 2 32 ++ (encode 4 3 ++
    (encode 2 (WaveHeader.tag .float) ++ WaveHeader.identifierTail)))) .float32 := by
  unfold long
  simp only [show ¬ 40 < 40 by decide, if_false]
  refine (reads_word (by decide)).bind ?_
  simp only [show (32 % 8 ≠ 0) = False by decide, if_false, not_true, ne_eq]
  rw [← List.append_assoc (encode 2 32)]
  refine (reads_skip (by decide)).bind ?_
  refine (reads_word (by decide)).bind ?_
  refine (reads_take (by decide)).last ?_
  exact fun _ => rfl

variable {format : OutputFormat}

/-- The fields that both forms of a description have in common come first. -/
theorem reads_commonFields {α : Type} {a : α} {bytes : List UInt8} {tag : Nat}
    {f : Nat → Nat → Nat → Nat → Nat → Source α} (usable : format.Renderable)
    (known : tag < 256 ^ 2) (rest : Reads (f tag OutputFormat.channels format.rate.toNat
      (WaveHeader.blockAlign format) format.bits.toNat) bytes a) :
    Reads (do
      let tag ← word 2
      let channels ← word 2
      let rate ← word 4
      skip 4
      let blockAlign ← word 2
      let bits ← word 2
      f tag channels rate blockAlign bits) (WaveHeader.commonFields format tag ++ bytes) a := by
  have rate_lt : format.rate.toNat < 256 ^ 4 := format.rate.toNat_lt
  have align : WaveHeader.blockAlign format < 256 ^ 2 :=
    Nat.lt_of_le_of_lt (WaveHeader.blockAlign_le usable) (by decide)
  simp only [WaveHeader.commonFields, List.append_assoc]
  refine (reads_word known).bind ?_
  refine (reads_word (by decide)).bind ?_
  refine (reads_word rate_lt).bind ?_
  refine (reads_skip (LittleEndian.length_encode ..)).bind ?_
  refine (reads_word align).bind ?_
  exact (reads_word format.bits.toNat_lt).bind rest

/-- The description of a format is read as what it tells. -/
theorem reads_parse (usable : format.Renderable) :
    Reads (parse (WaveHeader.description format).length) (WaveHeader.description format)
      format.told := by
  have rate_ne : format.rate.toNat ≠ 0 := by
    rw [← UInt32.toNat_zero, Ne, UInt32.toNat_inj]
    exact usable.rate_ne
  have bits_eq := usable.bits_eq
  obtain ⟨rate, encoding, bits⟩ := format
  simp only at bits_eq rate_ne
  subst bits
  rw [WaveHeader.length_description, WaveHeader.description]
  cases encoding with
  | int =>
    have short : WaveHeader.isLong ⟨rate, .int, Encoding.int.width⟩ = false := rfl
    simp only [short, Bool.false_eq_true, if_false]
    rw [← List.append_nil (WaveHeader.commonFields _ _)]
    unfold parse
    simp only [Nat.lt_irrefl, if_false]
    refine reads_commonFields usable (by decide) (reads_integers.last ?_)
    simp only [OutputFormat.channels, maxChannels, rate_ne, if_false]
    exact reads_pure _
  | float =>
    have long : WaveHeader.isLong ⟨rate, .float, Encoding.float.width⟩ = true := rfl
    simp only [long, List.append_assoc, if_true]
    unfold parse
    simp only [show ¬ 40 < 16 by decide, if_false]
    refine reads_commonFields usable (by decide) (reads_long.last ?_)
    simp only [OutputFormat.channels, maxChannels, rate_ne, if_false]
    exact reads_pure _

end Description

/-! ### The chunks of a file -/

namespace SoundFile

open WaveHeader (ascii filled size)

variable {format : OutputFormat} {data : List UInt8}

/-- What is done with the next chunk of a file: with samples the header ends, and a description is
kept for them. -/
theorem exists_parseChunks_succ (fuel : Nat) (description : Option Description)
    (list : ChunkList) : ∃ visit, parseChunks (fuel + 1) description list = list.next >>= visit ∧
      (∀ n list', visit (some (⟨ascii "data", n⟩, list')) = do return ⟨description, n, ← get⟩) ∧
      ∀ n list', visit (some (⟨ascii "fmt ", n⟩, list')) = (do
        parseChunks fuel (some (← Description.parse n)) list') := by
  rw [parseChunks]
  refine ⟨_, rfl, fun n list' => ?_, fun n list' => ?_⟩
  · exact if_pos rfl
  · have other : ¬ ascii "fmt " = ascii "data" := by decide
    exact (if_neg other).trans (if_pos rfl)

/-- The description of a format and the samples behind it are the chunks that are read. -/
theorem run_parseChunks (usable : format.Renderable) {length : Nat}
    (whole : length = (WaveHeader.description format).length + data.length + 20)
    (small : length < 2 ^ 32) (fuel : Nat) :
    (parseChunks (fuel + 2) none { length }).run
      (ascii "fmt " ++ encode 4 (WaveHeader.description format).length ++
        (WaveHeader.description format ++
          (ascii "data" ++ encode 4 data.length ++ data))) =
      .ok (⟨some format.told, data.length, data⟩, data) := by
  have even : (WaveHeader.description format).length % 2 = 0 := by
    rw [WaveHeader.length_description]
    split <;> rfl
  obtain ⟨visit, first, -, described⟩ := exists_parseChunks_succ (fuel + 1) none { length }
  rw [first, (ChunkList.reads_next rfl (by omega) rfl (by simp only; omega)).run_bind, described,
    (Description.reads_parse usable).run_bind]
  -- A description has an even length, so nothing stands between it and the next chunk.
  obtain ⟨visit, second, sampled, -⟩ := exists_parseChunks_succ fuel (some format.told) {
    length, consumed := min (0 + 8 + (WaveHeader.description format).length) ChunkList.endless }
  rw [second, (ChunkList.reads_next rfl (by omega) (by simp only [ChunkList.endless]; omega)
    (by simp only [ChunkList.endless]; omega)).run_bind, sampled]
  rfl

/-- A header with the sizes of its data is read, up to the data. -/
theorem parse_filled (usable : format.Renderable)
    (small : data.length + size format - 8 < 2 ^ 32) :
    parse (filled format (data.length + size format - 8) data.length ++ data) =
      .ok ⟨some format.told, data.length, data⟩ := by
  have header : size format = (WaveHeader.description format).length + 28 := by
    rw [WaveHeader.length_description, size, WaveHeader.sizeOffset]
    split <;> rfl
  have whole : data.length + size format - 8 =
      (WaveHeader.description format).length + data.length + 20 := by omega
  let chunks := ascii "fmt " ++ encode 4 (WaveHeader.description format).length ++
    (WaveHeader.description format ++ (ascii "data" ++ encode 4 data.length ++ data))
  have shape : filled format (data.length + size format - 8) data.length ++ data =
      ascii "RIFF" ++ (encode 4 (data.length + size format - 8) ++ (ascii "WAVE" ++ chunks)) := by
    simp only [filled, chunks, List.append_assoc]
  have marked (rest : List UInt8) :
      fromMarker (ascii "RIFF" ++ rest) = some (ascii "RIFF" ++ rest) := rfl
  have long : leastLength ≤ (ascii "RIFF" ++ (encode 4 (data.length + size format - 8) ++
      (ascii "WAVE" ++ chunks))).length := by
    rw [← shape, WaveHeader.length_filled_append, header, leastLength]
    omega
  -- There are two chunks, and more fuel than that.
  obtain ⟨fuel, count⟩ := Nat.exists_eq_add_of_le' (le_trans (by decide : 2 ≤ leastLength) long)
  rw [shape, parse, marked]
  simp only [long.not_gt, if_false]
  rw [count, (reads_skip (show (ascii "RIFF").length = 4 from rfl)).run_bind,
    (reads_word small).run_bind, (reads_take (show (ascii "WAVE").length = 4 from rfl)).run_bind]
  simp only [ne_eq, not_true, if_false]
  rw [run_parseChunks usable whole small fuel]
  rfl

/-! ### The samples of a file -/

section Packets

variable {d : Description}

/-- A packet of whole frames holds all of their samples. -/
theorem plainPacket_eq {packet : List UInt8} {frames : Nat} (few : frames ≤ packetFrames)
    (pos : 0 < d.channels * width d.coding)
    (length : packet.length = frames * (d.channels * width d.coding)) :
    plainPacket d packet = (groups (width d.coding) packet).map (sampleOf d.coding) := by
  have count : min (packet.length / (d.channels * width d.coding)) packetFrames = frames := by
    rw [length, Nat.mul_div_cancel _ pos, Nat.min_eq_left few]
  rw [plainPacket]
  simp only [count]
  rw [← length, List.take_length]

/-- The samples of the first frames come before those of the rest. -/
theorem plainPacket_take (align : d.blockAlign = d.channels * width d.coding)
    (pos : 0 < d.blockAlign) {taken : Nat} (few : taken ≤ packetFrames) {data : List UInt8}
    (inside : taken * d.blockAlign ≤ data.length) :
    plainPacket d (data.take (taken * d.blockAlign)) ++
        (groups (width d.coding) (data.drop (taken * d.blockAlign))).map (sampleOf d.coding) =
      (groups (width d.coding) data).map (sampleOf d.coding) := by
  have front : (data.take (taken * d.blockAlign)).length = taken * d.blockAlign :=
    List.length_take_of_le inside
  have words : width d.coding ∣ (data.take (taken * d.blockAlign)).length := by
    rw [front, align, ← Nat.mul_assoc]
    exact Nat.dvd_mul_left ..
  have wide : 0 < width d.coding := Nat.pos_of_mul_pos_left (align ▸ pos)
  have packet : plainPacket d (data.take (taken * d.blockAlign)) = _ :=
    plainPacket_eq few (align ▸ pos) (front.trans (by rw [align]))
  rw [packet, ← List.map_append, ← LittleEndian.groups_append wide words, List.take_append_drop]

/-- However whole frames are cut into packets, all of their samples come out. -/
theorem flatMap_packets (align : d.blockAlign = d.channels * width d.coding)
    (pos : 0 < d.blockAlign) {fuel blocks : Nat} (enough : blocks < fuel)
    (found : List (List UInt8)) {data : List UInt8} (length : data.length = blocks * d.blockAlign) :
    (packets d.blockAlign packetFrames fuel blocks found data).flatMap (plainPacket d) =
      found.reverse.flatMap (plainPacket d) ++
        (groups (width d.coding) data).map (sampleOf d.coding) := by
  induction fuel generalizing blocks found data with
  | zero => omega
  | succ fuel ih =>
    rw [packets]
    split
    · rename_i ended
      have none : data = [] := by
        rcases ended with none | none
        · simpa [none] using length
        · simpa using none
      rw [none, LittleEndian.groups_nil, List.map_nil, List.append_nil]
    · rename_i more
      have some : blocks ≠ 0 := fun none => more (.inl none)
      -- The first packet has as many blocks as it may have, and there are fewer behind it.
      let taken := min blocks packetFrames
      have least : 0 < taken := Nat.lt_min.mpr ⟨Nat.pos_of_ne_zero some, by decide⟩
      have most : taken ≤ blocks := Nat.min_le_left ..
      have inside : taken * d.blockAlign ≤ data.length := by
        rw [length]
        exact Nat.mul_le_mul_right _ most
      have back : (data.drop (taken * d.blockAlign)).length = (blocks - taken) * d.blockAlign := by
        rw [List.length_drop, length, Nat.sub_mul]
      change (packets _ _ fuel (blocks - taken) (data.take (taken * d.blockAlign) :: found)
        (data.drop (taken * d.blockAlign))).flatMap _ = _
      rw [ih (by omega) _ back, List.reverse_cons, List.flatMap_append, List.append_assoc,
        List.flatMap_singleton, plainPacket_take align pos (Nat.min_le_right ..) inside]

end Packets

theorem width_coding (encoding : Encoding) : width encoding.coding = encoding.stride := by
  cases encoding <;> rfl

/-- All samples of a file with whole frames are decoded. -/
theorem decode_told (usable : format.Renderable)
    (whole : WaveHeader.blockAlign format ∣ data.length) :
    SoundFile.decode ⟨some format.told, data.length, data⟩ =
      .ok ⟨((groups format.encoding.stride data).map (sampleOf format.encoding.coding)).toArray,
        OutputFormat.channels, format.rate⟩ := by
  have width_eq := width_coding format.encoding
  have align : format.told.blockAlign = format.told.channels * width format.told.coding := by
    change WaveHeader.blockAlign format = OutputFormat.channels * width format.encoding.coding
    rw [width_eq, WaveHeader.blockAlign_eq usable]
    rfl
  have pos : 0 < format.told.blockAlign := by
    change 0 < WaveHeader.blockAlign format
    rw [WaveHeader.blockAlign_eq usable]
    exact Nat.mul_pos (by decide) format.encoding.stride_pos
  obtain ⟨blocks, length⟩ := whole
  have count : data.length / format.told.blockAlign = blocks := by
    change data.length / WaveHeader.blockAlign format = blocks
    rw [length]
    exact Nat.mul_div_cancel_left _ pos
  have enough : blocks < data.length + 1 := by
    rw [← count]
    exact Nat.lt_succ_of_le (Nat.div_le_self ..)
  have samples := flatMap_packets align pos enough [] (length.trans (Nat.mul_comm ..))
  simp only [List.reverse_nil, List.flatMap_nil, List.nil_append] at samples
  unfold SoundFile.decode
  simp only [pos.ne', if_false, count]
  have coding : format.told.coding = format.encoding.coding := rfl
  have rate : format.told.rate.toUInt32 = format.rate := UInt32.ofNat_toNat
  rw [samples, rate, coding, width_eq]
  cases format.encoding <;> rfl

end SoundFile

/-! ### Loading -/

theorem Recording.frames_eq (samples : Array Sample) (rate : UInt32) :
    (⟨samples, OutputFormat.channels, rate⟩ : Recording).frames = Bank.pairUp samples := by
  apply Array.ext
  · rw [size_frames, Bank.pairUp, Array.size_ofFn]
    rfl
  · intro i inside _
    have found := Array.getElem?_eq_getElem inside
    rw [size_frames] at inside
    obtain ⟨f, here, left, right⟩ :=
      getElem?_frames (show 1 ≤ OutputFormat.channels by decide) inside
    obtain rfl := Option.some.inj (here.symm.trans found)
    change samples[i * 2]? = _ at left
    change samples[i * 2 + 1]? = _ at right
    simp [Bank.pairUp, Nat.mul_comm 2 i, left, right]

namespace Bank

theorem ofInterleaved_eq {samples : Array Sample} {rate : UInt32} (even : samples.size % 2 = 0)
    (some : 0 < (pairUp samples).size) (positive : rate ≠ 0) :
    ofInterleaved samples rate = .ok ⟨pairUp samples, rate, some, positive⟩ := by
  simp [ofInterleaved, positive, even, some]

theorem frames_of_ofInterleaved {samples : Array Sample} {rate : UInt32} {bank : Bank}
    (made : ofInterleaved samples rate = .ok bank) : bank.frames = pairUp samples := by
  unfold ofInterleaved at made
  split at made
  · cases made
  · split at made
    · cases made
    · split at made
      · obtain rfl := Except.ok.inj made
        rfl
      · cases made

/-- A file with whole frames behind their header is loaded at their rate as a bank of its
samples. -/
theorem load_filled {s : Storage} {path : String} {format : OutputFormat}
    {contents : Array UInt8} {data : List UInt8} (read : s.read path = .ok contents)
    (filled : contents.toList =
      WaveHeader.filled format (data.length + WaveHeader.size format - 8) data.length ++ data)
    (usable : format.Renderable)
    (small : data.length + WaveHeader.size format - 8 < 2 ^ 32)
    (whole : WaveHeader.blockAlign format ∣ data.length) (nonempty : data ≠ []) :
    ∃ bank, load s path format.rate = .ok bank ∧ ofInterleaved
      ((groups format.encoding.stride data).map
        (SoundFile.sampleOf format.encoding.coding)).toArray format.rate = .ok bank := by
  let samples := ((groups format.encoding.stride data).map
    (SoundFile.sampleOf format.encoding.coding)).toArray
  have decoded : decodeFile s path = .ok ⟨samples, OutputFormat.channels, format.rate⟩ := by
    rw [decodeFile, read]
    simp only [filled]
    rw [SoundFile.parse_filled usable small]
    change Except.mapError _ (SoundFile.decode ⟨some format.told, data.length, data⟩) = _
    rw [SoundFile.decode_told usable whole]
    rfl
  obtain ⟨frames, length⟩ := whole
  have size : samples.size = 2 * frames := by
    have count : samples.size = data.length / format.encoding.stride := by
      simp [samples, LittleEndian.length_groups]
    rw [count, length, WaveHeader.blockAlign_eq usable, Nat.mul_comm 2, Nat.mul_assoc]
    exact Nat.mul_div_cancel_left _ format.encoding.stride_pos
  have some : 0 < (pairUp samples).size := by
    have more : frames ≠ 0 := by
      rintro rfl
      exact nonempty (List.length_eq_zero_iff.mp length)
    rw [pairUp, Array.size_ofFn, size]
    omega
  have pairs := Recording.frames_eq samples format.rate
  refine ⟨⟨pairUp samples, format.rate, some, usable.rate_ne⟩, ?_,
    ofInterleaved_eq (by omega) some usable.rate_ne⟩
  have loaded := load_of_rate_eq decoded (pairs ▸ some) rfl usable.rate_ne
  simpa only [pairs] using loaded

end Bank

end SamplePlayer
