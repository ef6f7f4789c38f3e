import SamplePlayer.Proofs.Wave.Writing

/-!
# What a writer that is given up leaves behind

A writer that is given up fills in the sizes in its header and brings its buffer into the file, each
at the place in the file that it had been at. That is so even if the file has been emptied in the
meantime: the bytes then stand where they belonged, with zeros in front of those that were in the
file before.

## Main definitions

* `FileHandle.Stands`: a handle on a file that may be shorter than the place that it is at.
* `WaveWriter.fillSizes`: the sizes of a header, without the check of the last frame.
* `WaveWriter.remains`: what a writer leaves in an empty file.

## Main results

* `WaveWriter.run_updateHeader`, `WaveWriter.abandon_eq`: filling in the sizes, and the end.
* `WaveWriter.find?_abandon`: what is in the emptied file after a writer was given up.
* `WaveWriter.length_remains`: how much that is.
-/

open Std.Do

set_option mvcgen.warning false

namespace SamplePlayer

/-! ### Handles -/

namespace FileHandle

/-- The file at `path` holds `old`, and a handle on it has `pending` for the place `position`, which
may be beyond the end. -/
structure Stands (path : String) (old : Array UInt8) (position : Nat) (pending : Array UInt8)
    (x : Storage × FileHandle) : Prop where
  found : x.1.find? path = some old
  path_eq : x.2.path = path
  position_eq : x.2.position = position
  pending_eq : x.2.pending = pending

/-- The contents after the buffer was brought into the file. -/
def laid (old : Array UInt8) (position : Nat) (pending : Array UInt8) : Array UInt8 :=
  if pending.isEmpty then old else Storage.overwrite old position pending

theorem size_laid (old pending : Array UInt8) (position : Nat) : (laid old position pending).size =
    if pending.isEmpty then old.size else max old.size (position + pending.size) := by
  unfold laid
  split
  · rfl
  · exact size_overwrite old pending position

section

variable {path : String} (writable : path ≠ Storage.fullDevice) (old : Array UInt8)
  (position : Nat) (pending : Array UInt8)
include writable

theorem flush_stands : ⦃fun x => ⌜Stands path old position pending x⌝⦄ flush
    ⦃⇓ _ x => ⌜Stands path (laid old position pending) (position + pending.size) #[] x⌝⦄ := by
  rw [triple_iff]
  rintro ⟨s, h⟩ ⟨found, rfl, rfl, rfl⟩
  obtain ⟨s', wrote, after⟩ := Storage.find?_writeAt h.position h.pending writable found
  have run := run_flush s h
  rw [wrote] at run
  exact ⟨(), _, run, after, rfl, rfl, rfl⟩

theorem seek_stands (next : Nat) :
    ⦃fun x => ⌜Stands path old position pending x⌝⦄ seek next
    ⦃⇓ _ x => ⌜Stands path (laid old position pending) next #[] x⌝⦄ := by
  have flushed := flush_stands writable old position pending
  mvcgen [seek, flushed]
  rename_i stands _
  exact ⟨stands.found, stands.path_eq, rfl, stands.pending_eq⟩

/-- A piece goes into an empty buffer. -/
theorem put_stands {piece : List UInt8} (room : piece.length ≤ capacity) :
    ⦃fun x => ⌜Stands path old position #[] x⌝⦄ put piece
    ⦃⇓ _ x => ⌜Stands path old position piece.toArray x⌝⦄ := by
  have flushed := flush_stands writable old position #[]
  mvcgen [put, flushed]
  · rename_i stands _ crowded _ _ _ _
    rw [stands.pending_eq, Array.size_empty] at crowded
    omega
  · rename_i stands _ _ _
    have filled (held : Array UInt8) (empty : held = #[]) : held ++ piece = piece.toArray := by
      subst empty
      exact Array.ext' (by simp)
    exact ⟨stands.found, stands.path_eq, stands.position_eq, filled _ stands.pending_eq⟩

/-- A handle that is given up brings its buffer to where it belongs. -/
theorem Stands.abandon {x : Storage × FileHandle} (h : Stands path old position pending x) :
    (FileHandle.abandon x.1 x.2).find? path = some (laid old position pending) := by
  obtain ⟨_, x', run, after⟩ := triple_iff.mp (flush_stands writable old position pending) x h
  rw [FileHandle.abandon, run]
  exact after.found

end

/-- Giving up a handle after its buffer was brought into the file changes nothing more. -/
theorem abandon_run_flush (s : Storage) (h : FileHandle) :
    abandon (flush.run.run (s, h)).2.1 (flush.run.run (s, h)).2.2 = abandon s h := by
  have again := run_flush s h
  cases wrote : s.writeAt h.path h.position h.pending with
  | error e =>
    rw [wrote] at again
    rw [again]
  | ok s' =>
    rw [wrote] at again
    rw [abandon, abandon, again, run_flush]
    rfl

end FileHandle

namespace WaveWriter

open LittleEndian (encode)

variable {path : String} {format : OutputFormat} {n : Nat}

/-- A writer that is given up fills in the sizes and gives up its file. -/
theorem abandon_eq (s : Storage) (w : WaveWriter) : w.abandon s =
    (fillSizes.run.run (s, w)).2.2.file.abandon (fillSizes.run.run (s, w)).2.1 := by
  have done : w.abandon s =
      ((updateHeader >>= fun _ => onFile FileHandle.flush).run.run (s, w)).2.2.file.abandon
        ((updateHeader >>= fun _ => onFile FileHandle.flush).run.run (s, w)).2.1 := rfl
  rw [done, run_bind, run_updateHeader]
  rcases fillSizes.run.run (s, w) with ⟨e | _, s', w'⟩
  · rfl
  · by_cases uneven : w.Uneven
    · simp only [uneven, if_true]
    · simp only [uneven, if_false]
      exact FileHandle.abandon_run_flush s' w'.file

/-- What a writer leaves in an empty file: its buffer and the two sizes, where they belong. -/
def remains (w : WaveWriter) : List UInt8 :=
  let data := FileHandle.laid #[] w.file.position w.file.pending
  let riff := FileHandle.laid data 4 (encode 4 (w.dataBytes + WaveHeader.size w.format - 8)).toArray
  (FileHandle.laid riff (WaveHeader.sizeOffset w.format) (encode 4 w.dataBytes).toArray).toList

/-- A size fits into the buffer. -/
theorem length_word (k : Nat) : (encode 4 k).length ≤ FileHandle.capacity := by
  rw [LittleEndian.length_encode]
  decide

/-- Where the sizes go in a file that may be shorter than that. -/
theorem fillSizes_stands (writable : path ≠ Storage.fullDevice) (old : Array UInt8) (position : Nat)
    (pending : Array UInt8) :
    ⦃fun x => ⌜HasFile (FileHandle.Stands path old position pending) format n x⌝⦄ fillSizes
    ⦃⇓ _ x => ⌜HasFile (FileHandle.Stands path
      (FileHandle.laid (FileHandle.laid old position pending) 4
        (encode 4 (n + WaveHeader.size format - 8)).toArray)
      (WaveHeader.sizeOffset format) (encode 4 n).toArray) format n x⌝⦄ := by
  refine Triple.bind _ _ get_spec fun ⟨_, w⟩ => triple_and ?_
  rintro ⟨rfl, rfl⟩
  have seek (old pending : Array UInt8) (position next : Nat) := onFile_spec w.format w.dataBytes
    (FileHandle.seek_stands writable old position pending next)
  have put (old : Array UInt8) (position k : Nat) := onFile_spec w.format w.dataBytes
    (FileHandle.put_stands writable old position (length_word k))
  refine Triple.bind _ _ (seek _ _ _ _) fun _ => ?_
  refine Triple.bind _ _ (put _ _ _) fun _ => ?_
  exact Triple.bind _ _ (seek _ _ _ _) fun _ => put _ _ _

/-- A writer that is given up leaves what it had for the file in it if the file has been emptied. -/
theorem find?_abandon {s : Storage} {w : WaveWriter} (writable : w.file.path ≠ Storage.fullDevice)
    (empty : s.find? w.file.path = some #[]) :
    ∃ left, (w.abandon s).find? w.file.path = some left ∧ left.toList = w.remains := by
  obtain ⟨_, x', ran, after⟩ := triple_iff.mp (fillSizes_stands writable _ _ _) (s, w)
    ⟨⟨empty, rfl, rfl, rfl⟩, rfl, rfl⟩
  refine ⟨_, ?_, rfl⟩
  rw [abandon_eq, ran]
  exact after.file.abandon writable _ _ _

/-! ### How much remains -/

/-- What remains reaches as far as the last of the buffer, and at least to the end of a header. -/
theorem length_remains (w : WaveWriter) : w.remains.length = max (WaveHeader.size w.format)
    (if w.file.pending.isEmpty then 0 else w.file.position + w.file.pending.size) := by
  have size (k : Nat) : (encode 4 k).toArray.size = 4 := LittleEndian.length_encode 4 k
  have full (k : Nat) : (encode 4 k).toArray.isEmpty = false := by
    rw [Array.isEmpty, size]
    rfl
  have behind : 40 ≤ WaveHeader.sizeOffset w.format := by
    unfold WaveHeader.sizeOffset
    split <;> decide
  simp only [remains, Array.length_toList, FileHandle.size_laid, size, full, WaveHeader.size,
    Array.size_empty, Bool.false_eq_true, if_false]
  by_cases empty : w.file.pending.isEmpty
  · simp only [empty, if_true]
    omega
  · simp only [empty, if_false, Bool.false_eq_true]
    omega

end WaveWriter

end SamplePlayer
