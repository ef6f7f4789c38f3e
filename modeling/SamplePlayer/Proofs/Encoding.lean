import SamplePlayer.Proofs.Number.Recovery
import SamplePlayer.Proofs.Playback.Shift
import SamplePlayer.Proofs.Wave.Words

/-!
# Samples that pass through an encoding

What has been encoded once stays as it is, however often it is decoded and encoded again. Single
precision numbers keep all their bits. A number that becomes a word is clamped and loses its
fraction, but the word that it becomes comes back from the number that stands for it. And since all
samples take the same number of bytes, a stream may be cut between samples.

## Main results

* `Encoding.encodeSample_decodeSample_encodeSample`: one sample.
* `OutputFormat.encode_decode`, `OutputFormat.decode_append`: streams of bytes.
* `OutputFormat.stable_of_make`: lists of samples in the formats that there are.
-/

namespace SamplePlayer

/-! ### One sample -/

namespace Encoding

open Number

variable {group : List UInt8}

theorem ofNat_toNat_toUInt16 (n : Int16) : Int16.ofNat n.toUInt16.toNat = n := by
  rw [← UInt16.toInt16_ofNat', UInt16.ofNat_toNat, Int16.toInt16_toUInt16]

theorem decodeSample_encodeSample_float (s : Sample) :
    decodeSample .float (encodeSample .float s) = s := by
  have bound : s.bits.toNat < 256 ^ 4 := s.bits.toNat_lt
  rw [encodeSample, decodeSample, LittleEndian.decode_encode_of_lt bound, UInt32.ofNat_toNat]

theorem decodeSample_encodeSample_int (s : Sample) :
    decodeSample .int (encodeSample .int s) = .ofFloat32 (dequantize (quantize s.value)) := by
  have bound : (quantize s.value).toUInt16.toNat < 256 ^ 2 := UInt16.toNat_lt _
  rw [encodeSample, decodeSample, LittleEndian.decode_encode_of_lt bound, ofNat_toNat_toUInt16]

/-- The number that stands for a word is encoded as that word, unless it is the lowest one. -/
theorem encodeSample_int_dequantize {n : Int16} (full : -32767 ≤ n.toInt) :
    encodeSample .int (.ofFloat32 (dequantize n)) = LittleEndian.encode 2 n.toUInt16.toNat := by
  have same : (Sample.ofFloat32 (dequantize n)).value = dequantize n := Float32.ofBits_toBits _
  rw [encodeSample, same, Single.quantize_dequantize full]

/-- A sample that was encoded once is encoded as it was. -/
theorem encodeSample_decodeSample_encodeSample (encoding : Encoding) (s : Sample) :
    encoding.encodeSample (encoding.decodeSample (encoding.encodeSample s)) =
      encoding.encodeSample s := by
  cases encoding with
  | float => rw [decodeSample_encodeSample_float]
  | int =>
    rw [decodeSample_encodeSample_int, encodeSample_int_dequantize (Single.le_quantize _)]
    rfl

theorem encodeSample_decodeSample_float (whole : group.length = 4) :
    encodeSample .float (decodeSample .float group) = group := by
  have bound : LittleEndian.decode group < 2 ^ 32 := by
    have small := LittleEndian.decode_lt group
    rw [whole] at small
    exact small
  rw [decodeSample, encodeSample, UInt32.toNat_ofNat_of_lt' bound, ← whole,
    LittleEndian.encode_decode]

theorem encodeSample_decodeSample_int (whole : group.length = 2) (other : group ≠ [0x00, 0x80]) :
    encodeSample .int (decodeSample .int group) = group := by
  have bound : LittleEndian.decode group < 2 ^ 16 := by
    have small := LittleEndian.decode_lt group
    rw [whole] at small
    exact small
  have word : (Int16.ofNat (LittleEndian.decode group)).toUInt16.toNat =
      LittleEndian.decode group := by
    rw [← UInt16.toInt16_ofNat', UInt16.toUInt16_toInt16, UInt16.toNat_ofNat_of_lt' bound]
  have same : LittleEndian.encode 2 (LittleEndian.decode group) = group := by
    rw [← whole, LittleEndian.encode_decode]
  have full : -32767 ≤ (Int16.ofNat (LittleEndian.decode group)).toInt := by
    have least := (Int16.ofNat (LittleEndian.decode group)).le_toInt
    by_contra! below
    have lowest : Int16.ofNat (LittleEndian.decode group) = -32768 := by
      rw [← Int16.toInt_inj]
      change _ = (-32768 : Int)
      omega
    rw [lowest] at word
    rw [← word] at same
    exact other same.symm
  rw [decodeSample, encodeSample_int_dequantize full, word, same]

end Encoding

/-! ### Streams -/

namespace OutputFormat

open LittleEndian

variable {rate : UInt32} {encoding : Encoding} {bits : UInt16} (format : OutputFormat)

theorem decode_encode (samples : List Sample) : format.decode (format.encode samples) =
    samples.map fun s => format.encoding.decodeSample (format.encoding.encodeSample s) := by
  rw [decode, groups_encode, List.map_map]
  rfl

/-- What has been encoded is encoded again as it is. -/
theorem encode_decode_encode (samples : List Sample) :
    format.encode (format.decode (format.encode samples)) = format.encode samples := by
  rw [decode_encode, encode, List.flatMap_map]
  simp only [Encoding.encodeSample_decodeSample_encodeSample]
  rfl

/-- A stream comes back up to the last whole sample if every one of its words does. -/
theorem encode_decode {bytes : List UInt8} (each : ∀ g ∈ groups format.encoding.stride bytes,
    format.encoding.encodeSample (format.encoding.decodeSample g) = g) :
    format.encode (format.decode bytes) =
      bytes.take (format.encoding.stride * (bytes.length / format.encoding.stride)) := by
  rw [(exists_whole_groups format.encoding.stride_pos bytes).1, encode, decode, List.flatMap_map,
    List.flatMap_congr each, List.flatMap_id']

/-- Single precision numbers keep all their bits. -/
theorem decode_encode_float (float : format.encoding = .float) (samples : List Sample) :
    format.decode (format.encode samples) = samples := by
  rw [decode_encode, float]
  simp only [Encoding.decodeSample_encodeSample_float, List.map_id']

/-- All patterns of single precision numbers come back. -/
theorem encode_decode_float (float : format.encoding = .float) (bytes : List UInt8) :
    format.encode (format.decode bytes) =
      bytes.take (format.encoding.stride * (bytes.length / format.encoding.stride)) := by
  refine format.encode_decode fun g member => ?_
  have whole := (exists_whole_groups format.encoding.stride_pos bytes).2 g member
  rw [float] at whole ⊢
  exact Encoding.encodeSample_decodeSample_float whole

/-- All words come back but the lowest, which is no encoded sample. -/
theorem encode_decode_int (int : format.encoding = .int) {bytes : List UInt8}
    (other : ∀ g ∈ groups 2 bytes, g ≠ [0x00, 0x80]) :
    format.encode (format.decode bytes) =
      bytes.take (format.encoding.stride * (bytes.length / format.encoding.stride)) := by
  refine format.encode_decode fun g member => ?_
  have whole := (exists_whole_groups format.encoding.stride_pos bytes).2 g member
  rw [int] at member whole ⊢
  exact Encoding.encodeSample_decodeSample_int whole (other g member)

theorem decode_append {first : List UInt8} (whole : format.encoding.stride ∣ first.length)
    (rest : List UInt8) :
    format.decode (first ++ rest) = format.decode first ++ format.decode rest := by
  rw [decode, groups_append format.encoding.stride_pos whole, List.map_append]
  rfl

/-! ### Buffers that are used again -/

/-- Nothing of what the buffer held before is left. -/
theorem encodeInto_eq (samples : List Sample) (held : List UInt8) :
    format.encodeInto samples held = format.encode samples := by
  rw [encodeInto, List.take_zero, List.nil_append]

theorem decodeInto_nil (bytes : List UInt8) : format.decodeInto bytes [] = format.decode bytes := by
  rw [decodeInto, List.nil_append]

variable {format}

/-- In a format that can be used, and whatever the buffers held before: every sample is encoded in
as many bytes as the format says, the bytes are decoded to as many samples, and these are encoded
in the same bytes again. Single precision numbers keep all their bits, and so does every stream of
them up to the last whole one. A stream that is cut between samples is decoded as one that is
not. -/
theorem stable_of_make (accepted : make rate encoding bits = .ok format) (samples : List Sample)
    (held : List UInt8) :
    let bytes := format.encodeInto samples held
    let decoded := format.decodeInto bytes []
    (bytes.length = format.bytesPerSample * samples.length ∧
      ∀ other, format.encodeInto samples other = bytes) ∧
    (decoded.length = samples.length ∧ ∀ other, format.encodeInto decoded other = bytes) ∧
    (format.encoding = .float → decoded = samples ∧
      ∀ stream other, format.encodeInto (format.decodeInto stream []) other =
        stream.take (format.bytesPerSample * (stream.length / format.bytesPerSample))) ∧
    ∀ first rest before, format.bytesPerSample ∣ first.length →
      format.decodeInto (first ++ rest) before =
        before ++ format.decodeInto first [] ++ format.decodeInto rest [] ∧
      format.decodeInto (first ++ rest) before =
        format.decodeInto rest (format.decodeInto first before) := by
  have width := bytesPerSample_of_make accepted
  simp only [encodeInto_eq, decodeInto_nil, width, implies_true, and_true]
  refine ⟨format.length_encode samples, ⟨?_, ?_⟩, ?_, ?_⟩
  · rw [decode_encode, List.length_map]
  · exact fun _ => format.encode_decode_encode samples
  · intro float
    exact ⟨format.decode_encode_float float samples,
      fun stream _ => format.encode_decode_float float stream⟩
  · intro first rest before whole
    have parts := format.decode_append whole rest
    simp only [decodeInto, parts, List.append_assoc, and_self]

/-- Three samples as words, the second out of range, the third no number, after a buffer that held
something else. -/
theorem stable_word :
    let format : OutputFormat := ⟨44100, .int, 16⟩
    let samples : List Sample := [⟨0x3f000000⟩, ⟨0xc0000000⟩, ⟨0x7fc00001⟩]
    format.encodeInto samples [0xaa] = [0xff, 0x3f, 0x01, 0x80, 0x00, 0x00] ∧
      format.encodeInto (format.decodeInto (format.encodeInto samples [0xaa]) []) [0xbb] =
        format.encodeInto samples [0xaa] := by
  have accepted : make 44100 .int 16 = .ok ⟨44100, .int, 16⟩ := rfl
  obtain ⟨-, ⟨-, again⟩, -⟩ :=
    stable_of_make accepted [⟨0x3f000000⟩, ⟨0xc0000000⟩, ⟨0x7fc00001⟩] [0xaa]
  exact ⟨by decide, again [0xbb]⟩

end OutputFormat

end SamplePlayer
