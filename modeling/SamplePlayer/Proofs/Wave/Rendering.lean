import SamplePlayer.Proofs.Wave.Reading

/-!
# What is rendered into a sound file comes back

An output into a file is opened, gets its samples in some number of writes, may be drained in
between, and is closed. The file that it leaves is loaded as a bank of just these samples, in
whatever pieces they were written.

## Main definitions

* `WaveOutput.Use`, `WaveOutput.render`: what is done with an output from its opening to its close.
* `WaveOutput.Aligned`: writes end with a sample, and the output is drained between two frames.

## Main results

* `WaveOutput.render_eq`: the file that is left.
* `WaveOutput.load_render`: what is loaded from it.
-/

open Std.Do

namespace SamplePlayer

namespace WaveOutput

/-- What is asked of an output that is open. -/
inductive Use where
  | write (bytes : List UInt8)
  | drain

/-- The bytes that are written, one write behind the other. -/
def written (uses : List Use) : List UInt8 :=
  uses.flatMap fun
    | .write bytes => bytes
    | .drain => []

/-- Does what is asked. -/
def use (o : WaveOutput) : Use → Storage → Reply × WaveOutput × Storage
  | .write bytes, s => o.write bytes s
  | .drain, s => o.drain s

/-- Does one thing after the other, up to the first that is refused. -/
def useAll (o : WaveOutput) : List Use → Storage → Reply × WaveOutput × Storage
  | [], s => (.done, o, s)
  | u :: uses, s =>
    match o.use u s with
    | (.done, o, s) => o.useAll uses s
    | refused => refused

/-- Opens an output, uses it and closes it, up to what is refused. -/
def render (o : WaveOutput) (format : OutputFormat) (uses : List Use) (s : Storage) :
    Reply × WaveOutput × Storage :=
  match o.opening format s with
  | (.done, o, s) =>
    match o.useAll uses s with
    | (.done, o, s) => o.close s
    | refused => refused
  | refused => refused

/-- After `n` bytes, every write ends with a sample, and the output is only drained when it has an
even number of samples. -/
def Aligned (encoding : Encoding) : (n : Nat) → List Use → Prop
  | _, [] => True
  | n, .write bytes :: uses =>
    encoding.stride ∣ bytes.length ∧ Aligned encoding (n + bytes.length) uses
  | n, .drain :: uses => 2 * encoding.stride ∣ n ∧ Aligned encoding n uses

/-- The output is open for `format`, and its file holds the samples `data` so far. -/
def Holds (path : String) (format : OutputFormat) (data : List UInt8) (o : WaveOutput)
    (s : Storage) : Prop :=
  ∃ w, o.writer = some w ∧ WaveWriter.Carries path format data (s, w)

variable {o : WaveOutput} {s : Storage} {path : String} {format : OutputFormat}
  {data next bytes : List UInt8}

theorem Holds.withWriter (h : o.Holds path format data s) {action : WaveWriter.Action Unit}
    (triple : ⦃fun x => ⌜WaveWriter.Carries path format data x⌝⦄ action
      ⦃⇓ _ x => ⌜WaveWriter.Carries path format next x⌝⦄) :
    ∃ o' s', o.withWriter action s = (.done, o', s') ∧ o'.Holds path format next s' := by
  obtain ⟨w, opened, carries⟩ := h
  obtain ⟨_, ⟨s', w'⟩, run, after⟩ := triple_iff.mp triple _ carries
  refine ⟨{ o with writer := some w' }, s', ?_, w', rfl, after⟩
  simp only [WaveOutput.withWriter, opened, WaveWriter.run, run]
  rfl

section Uses

variable (writable : path ≠ Storage.fullDevice) (usable : format.Renderable)
include writable usable

theorem Holds.write (h : o.Holds path format data s)
    (whole : format.encoding.stride ∣ bytes.length) :
    ∃ o' s', o.write bytes s = (.done, o', s') ∧ o'.Holds path format (data ++ bytes) s' := by
  have ⟨w, opened, carries⟩ := h
  have same : w.format = format := carries.format_eq
  have wrote : o.write bytes s =
      o.withWriter ((format.decode bytes).forM WaveWriter.writeSample) s := by
    simp only [WaveOutput.write, opened, same]
  rw [wrote]
  exact h.withWriter (WaveWriter.writeSamples_spec writable usable whole)

theorem Holds.drain (h : o.Holds path format data s)
    (whole : 2 * format.encoding.stride ∣ data.length) :
    ∃ o' s', o.drain s = (.done, o', s') ∧ o'.Holds path format data s' := by
  refine h.withWriter (WaveWriter.flush_spec writable ?_)
  rwa [WaveHeader.blockAlign_eq usable]

/-- Whatever is asked of an output is done, and its file goes on with what is written. -/
theorem Holds.useAll (h : o.Holds path format data s) {uses : List Use}
    (aligned : Aligned format.encoding data.length uses) :
    ∃ o' s', o.useAll uses s = (.done, o', s') ∧
      o'.Holds path format (data ++ written uses) s' := by
  -- What is used next finds the output with the data that was written up to there.
  induction uses generalizing o s data with
  | nil => exact ⟨o, s, rfl, by simpa [written] using h⟩
  | cons u uses ih =>
    cases u with
    | write bytes =>
      obtain ⟨whole, aligned⟩ := aligned
      obtain ⟨o', s', wrote, h'⟩ := h.write writable usable whole
      rw [← List.length_append] at aligned
      obtain ⟨o'', s'', used, h''⟩ := ih h' aligned
      refine ⟨o'', s'', ?_, by simpa [written] using h''⟩
      simp only [WaveOutput.useAll, use, wrote, used]
    | drain =>
      obtain ⟨whole, aligned⟩ := aligned
      obtain ⟨o', s', drained, h'⟩ := h.drain writable usable whole
      obtain ⟨o'', s'', used, h''⟩ := ih h' aligned
      refine ⟨o'', s'', ?_, by simpa [written] using h''⟩
      simp only [WaveOutput.useAll, use, drained, used]

theorem Holds.close (h : o.Holds path format data s)
    (whole : 2 * format.encoding.stride ∣ data.length) :
    ∃ o' s' left, o.close s = (.done, o', s') ∧ s'.find? path = some left ∧ left.toList =
      WaveHeader.filled format (data.length + WaveHeader.size format - 8) data.length ++ data := by
  obtain ⟨w, opened, carries⟩ := h
  rw [← WaveHeader.blockAlign_eq usable] at whole
  obtain ⟨s', left, finished, found, contents⟩ := carries.finish writable whole
  refine ⟨{ o with writer := none }, s', left, ?_, found, contents⟩
  simp only [WaveOutput.close, opened, finished]
  rfl

end Uses

/-- An output that is opened has no samples yet. -/
theorem holds_opening (closed : o.writer = none) (keeps : s.Keeps o.path)
    (usable : format.Renderable) : ∃ o' s', o.opening format s = (.done, o', s') ∧
      o'.Holds (Storage.resolve o.path) format [] s' := by
  obtain ⟨w, s', ready, carries⟩ := WaveWriter.create_ready keeps usable
  refine ⟨{ o with writer := some w }, s', ?_, w, rfl, carries⟩
  simp only [opening, ready, closed]

/-- An output that is closed has all that was written in its file, behind a header that tells its
sizes. -/
theorem render_eq (closed : o.writer = none) (keeps : s.Keeps o.path)
    (usable : format.Renderable) {uses : List Use} (aligned : Aligned format.encoding 0 uses)
    (whole : 2 * format.encoding.stride ∣ (written uses).length) :
    ∃ o' s' contents, o.render format uses s = (.done, o', s') ∧ s'.read o.path = .ok contents ∧
      contents.toList = WaveHeader.filled format
        ((written uses).length + WaveHeader.size format - 8) (written uses).length ++
        written uses := by
  obtain ⟨o₁, s₁, opened, h₁⟩ := holds_opening closed keeps usable
  obtain ⟨o₂, s₂, used, h₂⟩ := h₁.useAll keeps.not_full usable aligned
  rw [List.nil_append] at h₂
  obtain ⟨o₃, s₃, contents, ended, found, filled⟩ := h₂.close keeps.not_full usable whole
  refine ⟨o₃, s₃, contents, ?_, keeps.read_of_find? found, filled⟩
  simp only [render, opened, used, ended]

/-- A number that is written is read again. -/
theorem sampleOf_encodeSample (s : Sample) :
    SoundFile.sampleOf .float32 (Encoding.float.encodeSample s) = s := by
  have word : LittleEndian.decode (LittleEndian.encode 4 s.bits.toNat) = s.bits.toNat :=
    LittleEndian.decode_encode_of_lt s.bits.toNat_lt
  change (⟨(LittleEndian.decode (LittleEndian.encode 4 s.bits.toNat)).toUInt32⟩ : Sample) = s
  rw [word]
  exact congrArg Sample.mk UInt32.ofNat_toNat

/-- The words of 16 bits in a stream. -/
def words (bytes : List UInt8) : Array Int16 :=
  ((LittleEndian.groups 2 bytes).map fun group => .ofNat (LittleEndian.decode group)).toArray

/-- Frames that are rendered into a file are loaded from it again, as long as the 32 bits for it in
the header can tell the size of the file. However the bytes of their samples are cut into writes,
and wherever the output is drained between two frames, all of it is done, and at the rate of the
file there is a bank of just as many frames. Its samples are the ones that were written, bit for
bit, if they were written as numbers, and those of the words in the bytes if they were written as
words. -/
theorem load_render (closed : o.writer = none) (keeps : s.Keeps o.path)
    (usable : format.Renderable) {frames : List Frame} (nonempty : frames ≠ [])
    {uses : List Use} (aligned : Aligned format.encoding 0 uses)
    (all : written uses = format.encode (interleave frames))
    (small : (written uses).length + WaveHeader.size format - 8 < 2 ^ 32) :
    ∃ o' s' bank, o.render format uses s = (.done, o', s') ∧
      Bank.load s' o.path format.rate = .ok bank ∧ bank.frameCount = frames.length ∧
      (format.encoding = .float → bank.samples = interleave frames) ∧
      (format.encoding = .int → Bank.ofInt16 (words (written uses)) format.rate = .ok bank) := by
  have length : (written uses).length = 2 * format.encoding.stride * frames.length := by
    rw [all, OutputFormat.length_encode, length_interleave]
    ring
  have some : written uses ≠ [] := by
    have most := List.length_pos_iff.mpr nonempty
    have wide := format.encoding.stride_pos
    rw [← List.length_pos_iff, length]
    positivity
  obtain ⟨o', s', contents, rendered, read, filled⟩ :=
    render_eq closed keeps usable aligned ⟨_, length⟩
  have whole : WaveHeader.blockAlign format ∣ (written uses).length := by
    rw [WaveHeader.blockAlign_eq usable]
    exact ⟨_, length⟩
  obtain ⟨bank, loaded, made⟩ :=
    Bank.load_filled read filled usable small whole some
  refine ⟨o', s', bank, rendered, loaded, ?_, ?_, ?_⟩
  · have count : (written uses).length / format.encoding.stride = 2 * frames.length := by
      rw [length, Nat.mul_comm 2, Nat.mul_assoc]
      exact Nat.mul_div_cancel_left _ format.encoding.stride_pos
    rw [Bank.frameCount, Bank.frames_of_ofInterleaved made, Bank.pairUp, Array.size_ofFn,
      List.size_toArray, List.length_map, LittleEndian.length_groups, count]
    omega
  · intro numbers
    have samples : (LittleEndian.groups format.encoding.stride (written uses)).map
        (SoundFile.sampleOf format.encoding.coding) = interleave frames := by
      rw [all, OutputFormat.groups_encode, List.map_map, numbers]
      exact (List.map_congr_left fun s _ => sampleOf_encodeSample s).trans (List.map_id _)
    have frames_eq := Bank.frames_of_ofInterleaved made
    rw [samples, Bank.pairUp_interleave frames.toArray] at frames_eq
    rw [Bank.samples, frames_eq]
  · intro integers
    rw [← made, Bank.ofInt16, words, List.map_toArray, List.map_map, integers]
    rfl

/-- A frame that is written in two halves. -/
theorem load_render_halves : ∃ o s bank,
    ({ path := "a" } : WaveOutput).render ⟨1, .float, 32⟩
      [.write [1, 0, 0, 0], .write [2, 0, 0, 0], .drain] {} = (.done, o, s) ∧
    Bank.load s "a" 1 = .ok bank ∧ bank.samples = [⟨1⟩, ⟨2⟩] := by
  have place : Storage.resolve "a" = "a" := by cbv
  have created : ({} : Storage).create "a" = .ok { files := [("a", #[])] } := by cbv
  have keeps : ({} : Storage).Keeps "a" :=
    ⟨⟨_, created⟩, by rw [place]; decide, by rw [place]; decide⟩
  have usable : OutputFormat.Renderable ⟨1, .float, 32⟩ := ⟨rfl, by decide, by decide⟩
  have aligned : Aligned .float 0 [.write [1, 0, 0, 0], .write [2, 0, 0, 0], .drain] :=
    ⟨by decide, by decide, by decide, trivial⟩
  have all : written [.write [1, 0, 0, 0], .write [2, 0, 0, 0], .drain] =
      OutputFormat.encode ⟨1, .float, 32⟩ (interleave [⟨⟨1⟩, ⟨2⟩⟩]) := by decide
  obtain ⟨o, s, bank, rendered, loaded, -, samples, -⟩ :=
    load_render (o := { path := "a" }) rfl keeps usable (by decide) aligned all (by decide)
  exact ⟨o, s, bank, rendered, loaded, samples rfl⟩

end WaveOutput

end SamplePlayer
