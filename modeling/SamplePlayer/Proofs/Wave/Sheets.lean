import SamplePlayer.Proofs.Wave.Abandonment
import SamplePlayer.Proofs.Wave.Rendering

/-!
# What a session has in its file

Where a session stands in its file is told by a sheet. Samples go one behind the other, over what is
there, but for a drain in the middle of a frame: it fails and leaves the writer at the first sample.
A session that is opened while the one before is not closed starts from a file that has been
emptied and got what remained of that one.

## Main definitions

* `Sheet`: the data of a sound file under way.
* `WaveOutput.Holding`: an output is open, and its file has the data that a sheet tells.
* `WaveOutput.remains`: what an output would leave of its last session.

## Main results

* `WaveWriter.stored_decode`: the bytes that come into the file.
* `WaveOutput.holding_opening`, `WaveOutput.Holding.use`, `WaveOutput.Holding.close`: a session.
-/

open Std.Do

namespace SamplePlayer

/-! ### Sheets -/

/-- The data of a sound file under way: what stands behind the header, where the next sample goes,
and how many bytes of samples the writer counts. -/
@[ext]
structure Sheet where
  behind : List UInt8
  place : Nat
  counted : Nat
  inside : place ≤ behind.length

namespace Sheet

variable {format : OutputFormat}

/-- No sample yet, before what is behind the header already. -/
def blank (behind : List UInt8) : Sheet := ⟨behind, 0, 0, Nat.zero_le _⟩

/-- A piece goes to the place. -/
def put (sheet : Sheet) (piece : List UInt8) : Sheet where
  behind := FileHandle.patch sheet.behind sheet.place piece
  place := sheet.place + piece.length
  counted := sheet.counted + piece.length
  inside := by
    rw [FileHandle.length_patch sheet.inside]
    omega

/-- The samples written so far do not make up whole frames. -/
def Uneven (format : OutputFormat) (sheet : Sheet) : Prop :=
  sheet.counted / WaveHeader.bytesPerSample format % OutputFormat.channels ≠ 0

instance (sheet : Sheet) : Decidable (sheet.Uneven format) := inferInstanceAs (Decidable (_ ≠ _))

/-- A drain in the middle of a frame goes back to the first sample. -/
def drained (format : OutputFormat) (sheet : Sheet) : Sheet :=
  if sheet.Uneven format then { sheet with place := 0, inside := Nat.zero_le _ } else sheet

/-- The finished file. -/
def file (format : OutputFormat) (sheet : Sheet) : List UInt8 :=
  WaveHeader.filled format (sheet.counted + WaveHeader.size format - 8) sheet.counted ++
    sheet.behind

theorem put_nil (sheet : Sheet) : sheet.put [] = sheet :=
  Sheet.ext (FileHandle.patch_nil ..) rfl rfl

/-- Pieces one behind the other are one piece. -/
theorem put_put (sheet : Sheet) (first second : List UInt8) :
    (sheet.put first).put second = sheet.put (first ++ second) := by
  refine Sheet.ext (FileHandle.patch_patch _ first second sheet.inside) ?_ ?_
  · simp [put, Nat.add_assoc]
  · simp [put, Nat.add_assoc]

theorem counted_put_blank (behind piece : List UInt8) :
    ((blank behind).put piece).counted = piece.length := Nat.zero_add _

theorem behind_put_blank (behind piece : List UInt8) :
    ((blank behind).put piece).behind = piece ++ behind.drop piece.length := by
  change FileHandle.patch behind 0 piece = _
  rw [FileHandle.patch, List.take_zero, List.nil_append, Nat.zero_add]

end Sheet

/-! ### Writers -/

namespace WaveWriter

variable {path : String} {format : OutputFormat} {sheet : Sheet} {x : Storage × WaveWriter}

/-- Behind some header, a writer for `format` has the data that the sheet tells in the file at
`path`. -/
def Inks (path : String) (format : OutputFormat) (sheet : Sheet)
    (x : Storage × WaveWriter) : Prop :=
  ∃ riff size, HasFile (FileHandle.Holds path (WaveHeader.filled format riff size ++ sheet.behind)
    (WaveHeader.size format + sheet.place)) format sheet.counted x

/-- The bytes of the samples up to the first that cannot be written. -/
def stored (format : OutputFormat) : List Sample → List UInt8
  | [] => []
  | s :: rest =>
    match sampleBytes format s with
    | .ok piece => piece ++ stored format rest
    | .error _ => []

/-- A sample has the same width in every file of a format. -/
theorem length_of_sampleBytes {s : Sample} {piece : List UInt8}
    (bytes : sampleBytes format s = .ok piece) :
    piece.length = WaveHeader.bytesPerSample format := by
  unfold sampleBytes at bytes
  unfold WaveHeader.bytesPerSample
  cases kind : format.encoding with
  | float =>
    simp only [kind] at bytes
    split at bytes
    · rename_i wide
      cases bytes
      rw [wide, LittleEndian.length_encode]
      rfl
    · cases bytes
  | int =>
    simp only [kind] at bytes
    split at bytes
    case h_1 wide =>
      rw [wide]
      split at bytes <;> cases bytes
      rfl
    case h_2 wide | h_3 wide | h_4 wide =>
      cases bytes
      rw [wide, LittleEndian.length_encode]
    case h_5 => cases bytes

/-- A sample that cannot be written changes nothing. -/
theorem run_writeSample_of_error {s : Sample} {e : WaveError}
    (bytes : sampleBytes x.2.format s = .error e) : (writeSample s).run.run x = (.error e, x) := by
  have looked : (get : Action (Storage × WaveWriter)).run.run x = (.ok x, x) := rfl
  have failed : (liftM (sampleBytes x.2.format s) : Action (List UInt8)).run.run x =
      (.error e, x) := by
    rw [bytes]
    rfl
  rw [writeSample, run_bind, looked]
  simp only
  rw [run_bind, failed]

/-- In a format that can be asked for, the whole samples of a stream come into the file as they
stand in the stream. -/
theorem stored_decode (usable : format.Renderable) (bytes : List UInt8) :
    stored format (format.decode bytes) =
      bytes.take (format.encoding.stride * (bytes.length / format.encoding.stride)) := by
  obtain ⟨whole, each⟩ := LittleEndian.exists_whole_groups format.encoding.stride_pos bytes
  rw [whole, OutputFormat.decode]
  generalize LittleEndian.groups format.encoding.stride bytes = groups at each
  clear whole
  induction groups with
  | nil => rfl
  | cons group groups ih =>
    rw [List.forall_mem_cons] at each
    rw [List.map_cons, stored, sampleBytes_decodeSample usable each.1, List.flatten_cons]
    exact congrArg (group ++ ·) (ih each.2)

theorem uneven_iff {P : Storage × FileHandle → Prop} (h : HasFile P format sheet.counted x) :
    x.2.Uneven ↔ sheet.Uneven format := by
  rw [WaveWriter.Uneven, h.format_eq, h.dataBytes_eq]
  rfl

section Actions

variable (writable : path ≠ Storage.fullDevice)
include writable

/-- The samples go into the file up to the first that cannot be written. -/
theorem Inks.writeSamples (h : Inks path format sheet x) (samples : List Sample) :
    ∃ answer x', (samples.forM writeSample).run.run x = (answer, x') ∧
      Inks path format (sheet.put (stored format samples)) x' := by
  induction samples generalizing sheet x with
  | nil => exact ⟨.ok (), x, rfl, by rwa [stored, Sheet.put_nil]⟩
  | cons s samples ih =>
    obtain ⟨riff, size, before⟩ := h
    have first : ((s :: samples).forM writeSample).run.run x =
        (writeSample s >>= fun _ => samples.forM writeSample).run.run x := rfl
    rw [first, run_bind, stored]
    cases bytes : sampleBytes format s with
    | error e =>
      rw [run_writeSample_of_error (before.format_eq.symm ▸ bytes)]
      exact ⟨_, x, rfl, riff, size, by rwa [Sheet.put_nil]⟩
    | ok piece =>
      obtain ⟨_, x', ran, after⟩ :=
        triple_iff.mp (writeSample_at writable bytes (length_of_sampleBytes bytes)) x before
      rw [ran, ← Sheet.put_put]
      exact ih ⟨riff, size, after⟩

/-- What a drain does. -/
theorem Inks.flush (h : Inks path format sheet x) : ∃ x', WaveWriter.flush.run.run x =
    (if sheet.Uneven format then .error .unfinishedFrame else .ok (), x') ∧
      Inks path format (sheet.drained format) x' := by
  obtain ⟨riff, size, before⟩ := h
  have inside : WaveHeader.size format + sheet.place ≤ (WaveHeader.filled format
      (sheet.counted + WaveHeader.size format - 8) sheet.counted ++ sheet.behind).length := by
    rw [WaveHeader.length_filled_append]
    exact Nat.add_le_add_left sheet.inside _
  obtain ⟨_, y, told, rfl, here⟩ := triple_iff.mp (tell_spec writable) x before
  obtain ⟨_, z, sized, there⟩ := triple_iff.mp (fillSizes_spec writable sheet.behind) y here
  rw [WaveWriter.flush, run_bind, told]
  simp only
  rw [run_bind, run_updateHeader, sized]
  simp only [uneven_iff here]
  by_cases odd : sheet.Uneven format
  · -- The size of the data stands at the end of the header, so the first sample comes next.
    simp only [odd, if_true, Sheet.drained]
    exact ⟨z, rfl, _, _, there⟩
  · simp only [odd, if_false, Sheet.drained]
    obtain ⟨_, u, flushed, still⟩ := triple_iff.mp (fileFlush_spec writable) z there
    obtain ⟨_, x', moved, after⟩ := triple_iff.mp (seek_spec writable inside) u still
    rw [run_bind, flushed]
    exact ⟨x', moved, _, _, after⟩

/-- What a writer answers that is finished. -/
theorem Inks.finish {s : Storage} {w : WaveWriter} (h : Inks path format sheet (s, w)) :
    (w.finish s).1 = if sheet.Uneven format then .error .unfinishedFrame else .ok () := by
  obtain ⟨riff, size, before⟩ := h
  obtain ⟨_, x, sized, after⟩ := triple_iff.mp (fillSizes_spec writable sheet.behind) (s, w) before
  have done : (w.finish s).1 =
      ((updateHeader >>= fun _ => onFile FileHandle.flush).run.run (s, w)).1 := rfl
  rw [done, run_bind, run_updateHeader, sized]
  simp only [uneven_iff before]
  by_cases odd : sheet.Uneven format
  · simp only [odd, if_true]
  · obtain ⟨_, y, flushed, -⟩ := triple_iff.mp (fileFlush_spec writable) x after
    simp only [odd, if_false, flushed]

/-- A writer that is given up, or finished, leaves the whole file. -/
theorem Inks.abandon {s : Storage} {w : WaveWriter} (h : Inks path format sheet (s, w)) :
    ∃ left, (w.abandon s).find? path = some left ∧ left.toList = sheet.file format := by
  obtain ⟨riff, size, before⟩ := h
  obtain ⟨_, x', sized, after⟩ := triple_iff.mp (fillSizes_spec writable sheet.behind) (s, w) before
  obtain ⟨left, found, contents⟩ := after.file.abandon writable
  refine ⟨left, ?_, contents⟩
  rw [abandon_eq, sized]
  exact found

end Actions

theorem length_bytes_le (format : OutputFormat) :
    (WaveHeader.bytes format).length ≤ FileHandle.capacity := by
  rw [WaveHeader.bytes_eq, WaveHeader.length_filled, WaveHeader.size, WaveHeader.sizeOffset]
  split <;> decide

/-- A file that was made is empty as long as its header waits in the buffer. -/
theorem stands_of_ready {s s' : Storage} {w : WaveWriter} {file : String}
    (writable : Storage.resolve file ≠ Storage.fullDevice)
    (regular : Storage.resolve file ≠ Storage.nullDevice)
    (ready : create s file format = (.ready w, s')) : s.Keeps file ∧
      HasFile (FileHandle.Stands (Storage.resolve file) #[] 0 (WaveHeader.bytes format).toArray)
        format 0 (s', w) := by
  cases made : s.create file with
  | error e =>
    simp only [create, made] at ready
    cases ready
  | ok s₁ =>
    have keeps : s.Keeps file := ⟨⟨s₁, made⟩, writable, regular⟩
    have empty := Storage.find?_create keeps made
    obtain ⟨_, ⟨s₂, w₂⟩, ran, after⟩ := triple_iff.mp
      (onFile_spec format 0 (FileHandle.put_stands writable #[] 0 (length_bytes_le format)))
      (s₁, { file := { path := Storage.resolve file }, format }) ⟨⟨empty, rfl, rfl, rfl⟩, rfl, rfl⟩
    simp only [create, made, run, ran] at ready
    split at ready
    · cases ready
    · split at ready
      · cases ready
      · cases ready
        exact ⟨keeps, after⟩

end WaveWriter

/-! ### Outputs -/

namespace WaveOutput

variable {o : WaveOutput} {s : Storage} {w : WaveWriter} {path : String} {format : OutputFormat}
  {sheet : Sheet}

/-- The output is open for `format`, and its file has the data that the sheet tells. -/
def Holding (path : String) (format : OutputFormat) (sheet : Sheet) (o : WaveOutput)
    (s : Storage) : Prop :=
  ∃ w, o.writer = some w ∧ WaveWriter.Inks path format sheet (s, w)

/-- What the output would leave of its last session in an empty file, if that is not closed yet. -/
def remains (o : WaveOutput) : List UInt8 :=
  match o.writer with
  | none => []
  | some w => w.remains

/-- The bytes of the whole samples that are written. -/
def Use.whole (format : OutputFormat) : Use → List UInt8
  | .write bytes =>
    bytes.take (format.encoding.stride * (bytes.length / format.encoding.stride))
  | .drain => []

/-- The bytes that come into the file for the samples that are written. -/
def Use.stored (format : OutputFormat) : Use → List UInt8
  | .write bytes => WaveWriter.stored format (format.decode bytes)
  | .drain => []

theorem Use.stored_eq_whole (usable : format.Renderable) (u : Use) :
    u.stored format = u.whole format := by
  cases u with
  | write bytes => exact WaveWriter.stored_decode usable bytes
  | drain => rfl

/-- What a use makes of a sheet. -/
def Use.inked (format : OutputFormat) (sheet : Sheet) : Use → Sheet
  | .write bytes => sheet.put (Use.stored format (.write bytes))
  | .drain => sheet.drained format

theorem holding_withWriter {next : Sheet} (opened : o.writer = some w)
    {action : WaveWriter.Action Unit} {answer : Except WaveError Unit} {x : Storage × WaveWriter}
    (ran : action.run.run (s, w) = (answer, x)) (inks : WaveWriter.Inks path format next x) :
    (o.withWriter action s).2.1.path = o.path ∧
      (o.withWriter action s).2.1.Holding path format next (o.withWriter action s).2.2 := by
  simp only [WaveOutput.withWriter, opened, WaveWriter.run, ran]
  exact ⟨trivial, x.2, rfl, inks⟩

section

variable (writable : path ≠ Storage.fullDevice)
include writable

/-- An output that is open takes whatever is asked of it as its sheet does. -/
theorem Holding.use (h : o.Holding path format sheet s) (u : Use) :
    (o.use u s).2.1.path = o.path ∧
      (o.use u s).2.1.Holding path format (u.inked format sheet) (o.use u s).2.2 := by
  obtain ⟨w, opened, inks⟩ := h
  cases u with
  | write bytes =>
    have same : w.format = format := by
      obtain ⟨_, _, before⟩ := inks
      exact before.format_eq
    have written : o.use (.write bytes) s =
        o.withWriter ((format.decode bytes).forM WaveWriter.writeSample) s := by
      simp only [WaveOutput.use, write, opened, same]
    obtain ⟨answer, x, ran, inks⟩ := inks.writeSamples writable (format.decode bytes)
    rw [written]
    exact holding_withWriter opened ran inks
  | drain =>
    obtain ⟨x, ran, inks⟩ := inks.flush writable
    exact holding_withWriter opened ran inks

/-- An output that is closed leaves the whole file, also if the last frame is not finished. -/
theorem Holding.close (h : o.Holding path format sheet s) :
    (o.close s).1 = reply (if sheet.Uneven format then .error .unfinishedFrame else .ok ()) ∧
      (o.close s).2.1 = { o with writer := none } ∧
      ∃ left, (o.close s).2.2.find? path = some left ∧ left.toList = sheet.file format := by
  obtain ⟨w, opened, inks⟩ := h
  have closed : o.close s =
      (reply (w.finish s).1, { o with writer := none }, w.abandon s) := by
    simp only [WaveOutput.close, opened]
    rfl
  rw [closed]
  exact ⟨congrArg reply (inks.finish writable), rfl, inks.abandon writable⟩

end

/-- An empty file has in it what remains of the last session once its writer is given up. -/
theorem find?_given_up (writable : Storage.resolve o.path ≠ Storage.fullDevice)
    (same : ∀ w, o.writer = some w → w.file.path = Storage.resolve o.path)
    (empty : s.find? (Storage.resolve o.path) = some #[]) :
    ∃ left, (match o.writer with
      | some old => old.abandon s
      | none => s).find? (Storage.resolve o.path) = some left ∧ left.toList = o.remains := by
  cases kept : o.writer with
  | none => exact ⟨#[], empty, by rw [remains, kept]⟩
  | some w =>
    have here := same w kept
    rw [← here] at writable empty ⊢
    rw [remains, kept]
    exact WaveWriter.find?_abandon writable empty

/-- The header goes over what is in the file. -/
theorem patch_header (left : List UInt8) : FileHandle.patch left 0 (WaveHeader.bytes format) =
    WaveHeader.filled format 0 0 ++ left.drop (WaveHeader.size format) := by
  rw [FileHandle.patch, WaveHeader.bytes_eq, WaveHeader.length_filled]
  simp

/-- An output that is opened has the header of its file over what remains of the last session. -/
theorem holding_opening (writable : Storage.resolve o.path ≠ Storage.fullDevice)
    (regular : Storage.resolve o.path ≠ Storage.nullDevice)
    (same : ∀ w, o.writer = some w → w.file.path = Storage.resolve o.path)
    (done : (o.opening format s).1 = .done) : s.Keeps o.path ∧
      (o.opening format s).2.1.path = o.path ∧
      (o.opening format s).2.1.Holding (Storage.resolve o.path) format
        (.blank (o.remains.drop (WaveHeader.size format))) (o.opening format s).2.2 := by
  rcases made : WaveWriter.create s o.path format with ⟨w | e | _, s₁⟩
  · obtain ⟨keeps, stands⟩ := WaveWriter.stands_of_ready writable regular made
    obtain ⟨left, found, contents⟩ := find?_given_up writable same stands.file.found
    simp only [opening, made]
    refine ⟨keeps, trivial, w, rfl, 0, 0, ⟨stands.file.path_eq, ?_, left, found, ?_, ?_⟩,
      stands.format_eq, stands.dataBytes_eq⟩
    · rw [stands.file.position_eq, stands.file.pending_eq, List.size_toArray, WaveHeader.bytes_eq,
        WaveHeader.length_filled, Nat.zero_add]
      rfl
    · rw [stands.file.position_eq]
      exact Nat.zero_le _
    · rw [stands.file.position_eq, stands.file.pending_eq, contents, patch_header]
      rfl
  · simp only [opening, made] at done
    cases done
  · simp only [opening, made] at done
    cases done

end WaveOutput

end SamplePlayer
