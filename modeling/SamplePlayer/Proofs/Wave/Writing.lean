import Mathlib
import SamplePlayer.Output.WaveFile
import SamplePlayer.Proofs.Files
import SamplePlayer.Proofs.Number.Single
import SamplePlayer.Proofs.Wave.Words

/-!
# What a writer leaves in a sound file

A writer has a header in its file, and behind it the samples that it was given, as they stood in the
stream they came from. The sizes in the header are of no concern until the file is finished. Then
they are those of the samples.

## Main definitions

* `OutputFormat.Renderable`: the formats that a file can be made for.
* `WaveHeader.filled`: a header with given sizes.
* `WaveWriter.Headed`, `WaveWriter.Carries`: what a writer has in its file.

## Main results

* `WaveWriter.sampleBytes_decodeSample`: a sample goes into a file as it stood in the stream.
* `WaveWriter.writeSamples_spec`, `WaveWriter.flush_spec`: the actions on a writer.
* `WaveWriter.create_ready`, `WaveWriter.Carries.finish`: the beginning and the end of a file.
-/

open Std.Do

namespace SamplePlayer

theorem LittleEndian.unsigned_toInt {n : Nat} (small : n < 2 ^ 16) :
    LittleEndian.unsigned 16 (Int16.ofNat n).toInt = n := by
  have word : (Int16.ofNat n).toInt = (n : Int).bmod (2 ^ 16) := Int16.toInt_ofNat'
  have residue : (n : Int) % (2 ^ 16 : Nat) = n := Int.emod_eq_of_lt (by omega) (by omega)
  rw [unsigned, word, Nat.pow_eq, Int.bmod_emod, residue, Int.toNat_natCast]

/-- A format that can be asked for, with a rate that a header can describe. -/
structure OutputFormat.Renderable (format : OutputFormat) : Prop where
  bits_eq : format.bits = format.encoding.width
  rate_ne : format.rate ≠ 0
  rate_lt : 8 * format.rate.toNat < 2 ^ 32

namespace WaveHeader

open LittleEndian (encode)

variable (format : OutputFormat)

/-- The header for a format with the sizes `riff` and `data` in it. -/
def filled (riff data : Nat) : List UInt8 :=
  ascii "RIFF" ++ encode 4 riff ++ ascii "WAVE" ++ ascii "fmt " ++
    encode 4 (description format).length ++ description format ++ ascii "data" ++ encode 4 data

theorem bytes_eq : bytes format = filled format 0 0 := rfl

theorem length_description :
    (description format).length = if isLong format then 40 else 16 := by
  unfold description
  split <;> simp [commonFields, identifierTail]

theorem length_filled (riff data : Nat) : (filled format riff data).length = size format := by
  have marks : (ascii "RIFF").length = 4 ∧ (ascii "WAVE").length = 4 ∧ (ascii "fmt ").length = 4 ∧
    (ascii "data").length = 4 := by decide
  simp only [filled, List.length_append, LittleEndian.length_encode, length_description, size,
    sizeOffset, marks]
  split <;> rfl

variable {format} {riff data : Nat} {rest : List UInt8}

theorem length_filled_append :
    (filled format riff data ++ rest).length = size format + rest.length := by
  rw [List.length_append, length_filled]

theorem patch_riff (next : Nat) :
    FileHandle.patch (filled format riff data ++ rest) 4 (encode 4 next) =
      filled format next data ++ rest := by
  have patched : FileHandle.patch (ascii "RIFF" ++ encode 4 riff ++ (ascii "WAVE" ++
      ascii "fmt " ++ encode 4 (description format).length ++ description format ++
      ascii "data" ++ encode 4 data ++ rest)) 4 (encode 4 next) = _ :=
    FileHandle.patch_middle (by decide) (by simp)
  simpa [filled] using patched

theorem patch_data (next : Nat) :
    FileHandle.patch (filled format riff data ++ rest) (sizeOffset format) (encode 4 next) =
      filled format riff next ++ rest := by
  have length := length_filled format riff data
  simp only [filled, List.length_append, LittleEndian.length_encode, size] at length
  exact FileHandle.patch_middle (by simp only [List.length_append]; simp; omega) (by simp)

/-- What is put behind the header leaves the header alone. -/
theorem patch_behind (place : Nat) (piece : List UInt8) :
    FileHandle.patch (filled format riff data ++ rest) (size format + place) piece =
      filled format riff data ++ FileHandle.patch rest place piece := by
  simp only [FileHandle.patch, ← length_filled format riff data, Nat.add_assoc,
    List.take_length_add_append, List.drop_length_add_append, List.append_assoc]

/-! ### Frames -/

theorem bytesPerSample_eq (usable : format.Renderable) :
    bytesPerSample format = format.encoding.stride := by
  rw [bytesPerSample, usable.bits_eq]
  cases format.encoding <;> rfl

theorem blockAlign_eq (usable : format.Renderable) :
    blockAlign format = 2 * format.encoding.stride := by
  rw [blockAlign, bytesPerSample_eq usable, Nat.mul_comm]
  rfl

theorem blockAlign_le (usable : format.Renderable) : blockAlign format ≤ 8 := by
  rw [blockAlign_eq usable]
  cases format.encoding <;> decide

/-- Data of whole frames has an even number of samples. -/
theorem even_of_dvd {n : Nat} (whole : blockAlign format ∣ n) :
    n / bytesPerSample format % OutputFormat.channels = 0 := by
  obtain ⟨frames, rfl⟩ := whole
  rw [blockAlign, Nat.mul_assoc]
  rcases Nat.eq_zero_or_pos (bytesPerSample format) with none | some
  · simp [none]
  · simp [Nat.mul_div_cancel_left _ some]

end WaveHeader

namespace WaveWriter

variable {path : String} {contents data : List UInt8} {place n riff size : Nat}
  {format : OutputFormat}

/-- The file of a writer for `format` has the property `P`, and the writer counts `n` bytes of
samples. -/
structure HasFile (P : Storage × FileHandle → Prop) (format : OutputFormat) (n : Nat)
    (x : Storage × WaveWriter) : Prop where
  file : P (x.1, x.2.file)
  format_eq : x.2.format = format
  dataBytes_eq : x.2.dataBytes = n

/-- A writer that is looked at is for the format, and counts the bytes, that it has. -/
theorem get_spec {P : Storage × FileHandle → Prop} :
    ⦃fun x => ⌜HasFile P format n x⌝⦄ (get : Action (Storage × WaveWriter))
    ⦃⇓ a x => ⌜(a.2.format = format ∧ a.2.dataBytes = n) ∧ HasFile P format n x⌝⦄ := by
  rw [triple_iff]
  intro x before
  exact ⟨x, x, rfl, ⟨before.format_eq, before.dataBytes_eq⟩, before⟩

theorem lift_spec {α : Type} {result : Except WaveError α} {a : α} (value : result = .ok a)
    {P : Storage × WaveWriter → Prop} : ⦃fun x => ⌜P x⌝⦄ (liftM result : Action α)
    ⦃⇓ b x => ⌜b = a ∧ P x⌝⦄ := by
  subst value
  rw [triple_iff]
  exact fun x before => ⟨a, x, rfl, rfl, before⟩

theorem run_onFile {α : Type} (action : FileHandle.Action α) (s : Storage) (w : WaveWriter) :
    (onFile action).run.run (s, w) =
      let (result, s, file) := action.run.run (s, w.file)
      (result.mapError .storage, s, { w with file }) := rfl

/-- An action on the file leaves the rest of the writer as it is. -/
theorem onFile_spec {α : Type} (format : OutputFormat) (n : Nat) {action : FileHandle.Action α}
    {P : Storage × FileHandle → Prop} {Q : α → Storage × FileHandle → Prop}
    (triple : ⦃fun x => ⌜P x⌝⦄ action ⦃⇓ a x => ⌜Q a x⌝⦄) :
    ⦃fun x => ⌜HasFile P format n x⌝⦄ onFile action ⦃⇓ a x => ⌜HasFile (Q a) format n x⌝⦄ := by
  rw [triple_iff] at triple ⊢
  rintro ⟨s, w⟩ ⟨before, rfl, rfl⟩
  obtain ⟨a, ⟨s', file⟩, run, after⟩ := triple _ before
  refine ⟨a, (s', { w with file }), ?_, after, rfl, rfl⟩
  rw [run_onFile, run]
  rfl

/-! ### Filling in the sizes -/

/-- The sizes go into the header. -/
def fillSizes : Action Unit := do
  let (_, w) ← get
  onFile (FileHandle.seek 4)
  onFile (FileHandle.put (LittleEndian.encode 4 (w.dataBytes + WaveHeader.size w.format - 8)))
  onFile (FileHandle.seek (WaveHeader.sizeOffset w.format))
  onFile (FileHandle.put (LittleEndian.encode 4 w.dataBytes))

/-- The number of samples that were written is not one of whole frames. -/
def Uneven (w : WaveWriter) : Prop :=
  w.dataBytes / WaveHeader.bytesPerSample w.format % OutputFormat.channels ≠ 0

instance (w : WaveWriter) : Decidable w.Uneven := inferInstanceAs (Decidable (_ ≠ _))

/-- The check comes after the sizes are filled in, and changes nothing. -/
theorem run_updateHeader (x : Storage × WaveWriter) : updateHeader.run.run x =
    match fillSizes.run.run x with
    | (.ok _, x') => (if x.2.Uneven then .error .unfinishedFrame else .ok (), x')
    | (.error e, x') => (.error e, x') := by
  let check : Action Unit := if x.2.Uneven then throw .unfinishedFrame else pure ()
  have parts : updateHeader.run.run x = (fillSizes >>= fun _ => check).run.run x := by
    simp only [updateHeader, fillSizes, bind_assoc]
    rfl
  have checked (x' : Storage × WaveWriter) : check.run.run x' =
      (if x.2.Uneven then .error .unfinishedFrame else .ok (), x') := by
    simp only [check]
    split <;> rfl
  rw [parts, run_bind]
  simp only [checked]
  rcases fillSizes.run.run x with ⟨_ | _, _⟩ <;> rfl

/-! ### Samples behind a header -/

/-- A writer at `path` has the samples `data` in its file, behind a header with the sizes `riff` and
`size`, and goes on at `place`. -/
def Headed (path : String) (format : OutputFormat) (data : List UInt8) (riff size place : Nat) :
    Storage × WaveWriter → Prop :=
  HasFile (FileHandle.Holds path (WaveHeader.filled format riff size ++ data) place) format
    data.length

/-- Behind some header, a writer at `path` has the samples `data` in its file, and goes on after
them. -/
def Carries (path : String) (format : OutputFormat) (data : List UInt8)
    (x : Storage × WaveWriter) : Prop :=
  ∃ riff size, Headed path format data riff size (WaveHeader.size format + data.length) x

theorem Carries.format_eq {x : Storage × WaveWriter} (h : Carries path format data x) :
    x.2.format = format := by
  obtain ⟨_, _, headed⟩ := h
  exact headed.format_eq

section Actions

variable (writable : path ≠ Storage.fullDevice)
include writable

theorem put_spec (piece : List UInt8) :
    ⦃fun x => ⌜HasFile (FileHandle.Holds path contents place) format n x⌝⦄
    onFile (FileHandle.put piece)
    ⦃⇓ _ x => ⌜HasFile (FileHandle.Holds path (FileHandle.patch contents place piece)
      (place + piece.length)) format n x⌝⦄ :=
  onFile_spec format n (FileHandle.put_spec contents place writable piece)

theorem seek_spec {next : Nat} (inside : next ≤ contents.length) :
    ⦃fun x => ⌜HasFile (FileHandle.Holds path contents place) format n x⌝⦄
    onFile (FileHandle.seek next)
    ⦃⇓ _ x => ⌜HasFile (FileHandle.Holds path contents next) format n x⌝⦄ :=
  onFile_spec format n (FileHandle.seek_spec contents place writable inside)

theorem tell_spec :
    ⦃fun x => ⌜HasFile (FileHandle.Holds path contents place) format n x⌝⦄
    onFile FileHandle.tell
    ⦃⇓ a x => ⌜a = place ∧ HasFile (FileHandle.Holds path contents place) format n x⌝⦄ := by
  have told := onFile_spec format n (FileHandle.tell_spec contents place writable)
  rw [triple_iff] at told ⊢
  intro x before
  obtain ⟨a, x', run, ⟨here, file⟩, format_eq, dataBytes_eq⟩ := told x before
  exact ⟨a, x', run, here, file, format_eq, dataBytes_eq⟩

theorem fileFlush_spec :
    ⦃fun x => ⌜HasFile (FileHandle.Holds path contents place) format n x⌝⦄
    onFile FileHandle.flush
    ⦃⇓ _ x => ⌜HasFile (FileHandle.Holds path contents place) format n x⌝⦄ := by
  have flushed := onFile_spec format n (FileHandle.flush_spec contents place writable)
  rw [triple_iff] at flushed ⊢
  intro x before
  obtain ⟨a, x', run, ⟨file, -⟩, format_eq, dataBytes_eq⟩ := flushed x before
  exact ⟨a, x', run, file, format_eq, dataBytes_eq⟩

/-- The sizes in the header become those that the writer counts. -/
theorem fillSizes_spec (behind : List UInt8) :
    ⦃fun x => ⌜HasFile (FileHandle.Holds path (WaveHeader.filled format riff size ++ behind) place)
      format n x⌝⦄ fillSizes
    ⦃⇓ _ x => ⌜HasFile (FileHandle.Holds path
      (WaveHeader.filled format (n + WaveHeader.size format - 8) n ++ behind)
      (WaveHeader.size format)) format n x⌝⦄ := by
  have inside (riff size : Nat) : 4 ≤ (WaveHeader.filled format riff size ++ behind).length ∧
      WaveHeader.sizeOffset format ≤ (WaveHeader.filled format riff size ++ behind).length := by
    rw [WaveHeader.length_filled_append, WaveHeader.size]
    omega
  refine Triple.bind _ _ get_spec fun ⟨_, w⟩ => triple_and ?_
  rintro ⟨rfl, rfl⟩
  -- Each size takes the place of the one before, so everything else stays where it is.
  refine Triple.bind _ _ (seek_spec writable (inside riff size).1) fun _ => ?_
  refine Triple.bind _ _ (put_spec writable _) fun _ => ?_
  rw [WaveHeader.patch_riff]
  refine Triple.bind _ _ (seek_spec writable (inside _ _).2) fun _ => ?_
  have last := @put_spec path
    (WaveHeader.filled w.format (w.dataBytes + WaveHeader.size w.format - 8) size ++ behind)
    (WaveHeader.sizeOffset w.format) w.dataBytes w.format writable
    (LittleEndian.encode 4 w.dataBytes)
  rw [WaveHeader.patch_data, LittleEndian.length_encode] at last
  exact last

/-- The sizes in the header become those of the samples. -/
theorem updateHeader_spec (whole : WaveHeader.blockAlign format ∣ data.length) :
    ⦃fun x => ⌜Headed path format data riff size place x⌝⦄ updateHeader
    ⦃⇓ _ x => ⌜Headed path format data (data.length + WaveHeader.size format - 8) data.length
      (WaveHeader.size format) x⌝⦄ := by
  rw [triple_iff]
  intro x before
  obtain ⟨_, x', ran, after⟩ := triple_iff.mp (fillSizes_spec writable data) x before
  have even : ¬ x.2.Uneven := by
    rw [Uneven, before.format_eq, before.dataBytes_eq]
    exact not_not.mpr (WaveHeader.even_of_dvd whole)
  refine ⟨(), x', ?_, after⟩
  rw [run_updateHeader, ran]
  simp only [if_neg even]

/-- What was written is in the file, and the writer goes on where it was. -/
theorem flush_spec (whole : WaveHeader.blockAlign format ∣ data.length) :
    ⦃fun x => ⌜Carries path format data x⌝⦄ flush ⦃⇓ _ x => ⌜Carries path format data x⌝⦄ := by
  rw [triple_iff]
  rintro x ⟨riff, size, before⟩
  have flushed : ⦃fun x => ⌜Headed path format data riff size
      (WaveHeader.size format + data.length) x⌝⦄ flush
      ⦃⇓ _ x => ⌜Headed path format data (data.length + WaveHeader.size format - 8) data.length
        (WaveHeader.size format + data.length) x⌝⦄ := by
    refine Triple.bind _ _ (tell_spec writable) fun position => triple_and ?_
    rintro rfl
    refine Triple.bind _ _ (updateHeader_spec writable whole) fun _ => ?_
    refine Triple.bind _ _ (fileFlush_spec writable) fun _ => ?_
    exact seek_spec writable WaveHeader.length_filled_append.ge
  obtain ⟨_, x', run, after⟩ := triple_iff.mp flushed x before
  exact ⟨_, x', run, _, _, after⟩

/-- A sample goes to the place that the writer is at. -/
theorem writeSample_at {sample : Sample} {piece behind : List UInt8}
    (bytes : sampleBytes format sample = .ok piece)
    (length : piece.length = WaveHeader.bytesPerSample format) :
    ⦃fun x => ⌜HasFile (FileHandle.Holds path (WaveHeader.filled format riff size ++ behind)
      (WaveHeader.size format + place)) format n x⌝⦄ writeSample sample
    ⦃⇓ _ x => ⌜HasFile (FileHandle.Holds path
      (WaveHeader.filled format riff size ++ FileHandle.patch behind place piece)
      (WaveHeader.size format + (place + piece.length))) format (n + piece.length) x⌝⦄ := by
  refine Triple.bind _ _ get_spec fun ⟨_, w⟩ => triple_and ?_
  rintro ⟨rfl, -⟩
  refine Triple.bind _ _ (lift_spec bytes) fun _ => triple_and ?_
  rintro rfl
  refine Triple.bind _ _ (put_spec writable _) fun _ => ?_
  rw [WaveHeader.patch_behind, Nat.add_assoc, triple_iff]
  rintro ⟨s, w'⟩ ⟨file, format_eq, rfl⟩
  refine ⟨_, _, rfl, file, format_eq, ?_⟩
  rw [length, ← format_eq]

theorem writeSample_spec {sample : Sample} {piece : List UInt8}
    (bytes : sampleBytes format sample = .ok piece)
    (length : piece.length = WaveHeader.bytesPerSample format) :
    ⦃fun x => ⌜Carries path format data x⌝⦄ writeSample sample
    ⦃⇓ _ x => ⌜Carries path format (data ++ piece) x⌝⦄ := by
  rw [triple_iff]
  rintro x ⟨riff, size, before⟩
  -- The writer stands at the end of its file, where a piece is added.
  obtain ⟨_, x', run, after⟩ := triple_iff.mp (writeSample_at writable bytes length) x before
  rw [FileHandle.patch_length, ← List.length_append] at after
  exact ⟨_, x', run, _, _, after⟩

/-- A file that is finished has all samples in it, and a header with their sizes. -/
theorem Carries.finish {s : Storage} {w : WaveWriter} (carries : Carries path format data (s, w))
    (whole : WaveHeader.blockAlign format ∣ data.length) :
    ∃ s' left, w.finish s = (.ok (), s') ∧ s'.find? path = some left ∧ left.toList =
      WaveHeader.filled format (data.length + WaveHeader.size format - 8) data.length ++ data := by
  obtain ⟨riff, size, before⟩ := carries
  have completed : ⦃fun x => ⌜Headed path format data riff size
      (WaveHeader.size format + data.length) x⌝⦄ (do updateHeader; onFile FileHandle.flush)
      ⦃⇓ _ x => ⌜Headed path format data (data.length + WaveHeader.size format - 8) data.length
        (WaveHeader.size format) x⌝⦄ :=
    Triple.bind _ _ (updateHeader_spec writable whole) fun _ => fileFlush_spec writable
  obtain ⟨_, ⟨s', w'⟩, ran, after⟩ := triple_iff.mp completed _ before
  obtain ⟨left, found, contents⟩ := after.file.abandon writable
  refine ⟨_, left, ?_, found, contents⟩
  rw [WaveWriter.finish, run, ran]

end Actions

/-! ### Samples -/

/-- A sample goes into a file as it stood in the stream. -/
theorem sampleBytes_decodeSample {group : List UInt8} (usable : format.Renderable)
    (length : group.length = format.encoding.stride) :
    sampleBytes format (format.encoding.decodeSample group) = .ok group := by
  have bits_eq := usable.bits_eq
  obtain ⟨rate, encoding, bits⟩ := format
  simp only at bits_eq length
  subst bits
  have small := LittleEndian.decode_lt group
  have back := LittleEndian.encode_decode group
  rw [length] at small back
  cases encoding with
  | int =>
    have value : (Encoding.int.decodeSample group).value =
        Encoding.dequantize (.ofNat (LittleEndian.decode group)) := Float32.ofBits_toBits _
    change Except.ok (LittleEndian.encode 2 (LittleEndian.unsigned 16
      (Number.roundToInt16 ((Encoding.int.decodeSample group).value * _)).toInt)) = _
    rw [value, Number.Single.roundToInt16_dequantize, LittleEndian.unsigned_toInt small]
    exact congrArg _ back
  | float =>
    have bits : (Encoding.float.decodeSample group).bits.toNat = LittleEndian.decode group :=
      UInt32.toNat_ofNat_of_lt small
    change Except.ok (LittleEndian.encode 4 (Encoding.float.decodeSample group).bits.toNat) = _
    rw [bits]
    exact congrArg _ back

/-- The samples in a stream go into the file as the stream has them. -/
theorem writeSamples_spec (writable : path ≠ Storage.fullDevice)
    (usable : format.Renderable) {bytes : List UInt8}
    (whole : format.encoding.stride ∣ bytes.length) :
    ⦃fun x => ⌜Carries path format data x⌝⦄ (format.decode bytes).forM writeSample
    ⦃⇓ _ x => ⌜Carries path format (data ++ bytes) x⌝⦄ := by
  obtain ⟨gs, rfl, each⟩ := LittleEndian.exists_groups whole
  rw [OutputFormat.decode, LittleEndian.groups_flatten_self format.encoding.stride_pos each]
  clear whole
  -- Each group is one sample, and the data grows by it before the rest is written.
  induction gs generalizing data with
  | nil =>
    rw [List.flatten_nil, List.append_nil]
    exact Triple.pure _ .rfl
  | cons group gs ih =>
    have length : group.length = format.encoding.stride := each _ List.mem_cons_self
    have rest := @ih (data ++ group) fun g inside => each g (List.mem_cons_of_mem _ inside)
    rw [List.append_assoc, ← List.flatten_cons] at rest
    refine Triple.bind _ _ (writeSample_spec writable (sampleBytes_decodeSample usable length) ?_)
      fun _ => rest
    rw [length, WaveHeader.bytesPerSample_eq usable]

/-! ### Files -/

theorem describable_of_renderable (usable : format.Renderable) :
    widths.contains format.bits = true ∧ describable format = true := by
  have rate : format.rate.toNat * WaveHeader.blockAlign format < 4294967296 := by
    have product := Nat.mul_le_mul_left format.rate.toNat (WaveHeader.blockAlign_le usable)
    have := usable.rate_lt
    omega
  rw [describable, usable.bits_eq]
  cases format.encoding <;> simp [widths, Encoding.width, rate]

/-- A file is made, with nothing but the header in it. -/
theorem create_ready {s : Storage} {file : String} (keeps : s.Keeps file)
    (usable : format.Renderable) : ∃ w s', create s file format = (.ready w, s') ∧
      Carries (Storage.resolve file) format [] (s', w) := by
  obtain ⟨wide, described⟩ := describable_of_renderable usable
  obtain ⟨s', created⟩ := keeps.creatable
  have empty := FileHandle.holds_empty (Storage.find?_create keeps created)
  have put := onFile_spec format 0
    (FileHandle.put_spec [] 0 keeps.not_full (WaveHeader.bytes format))
  obtain ⟨_, ⟨s'', w⟩, ran, after⟩ := triple_iff.mp put
    (s', { file := { path := Storage.resolve file }, format }) ⟨empty, rfl, rfl⟩
  refine ⟨w, s'', ?_, 0, 0, ?_⟩
  · simp only [create, created, wide, described, run, ran]
    rfl
  · rw [WaveHeader.bytes_eq] at after
    simpa [Headed, FileHandle.patch, WaveHeader.length_filled] using after

end WaveWriter

end SamplePlayer
