import Mathlib
import SamplePlayer.Storage

/-!
# Files that are written through a handle

A handle keeps a part of what was written in its buffer. With this part put where it belongs, the
file has certain contents, and the next piece goes to a certain place in them. The actions on a
handle are told by what they do to the contents and to the place; when the buffer is brought into
the file does not matter.

## Main definitions

* `Storage.Keeps`: files can be written at a path.
* `FileHandle.patch`: bytes put over others.
* `FileHandle.Holds`: what a handle has in its file, and where it goes on.

## Main results

* `triple_iff`: what a triple tells about a run.
* `FileHandle.flush_spec`, `FileHandle.put_spec`, `FileHandle.seek_spec`, `FileHandle.tell_spec`:
  the actions on a handle.
* `FileHandle.Holds.abandon`: a handle that is given up leaves what it has in the file.
-/

open Std.Do

set_option mvcgen.warning false

namespace SamplePlayer

/-! ### Actions -/

/-- A triple that allows for no error tells that an action comes to its end, and where. -/
theorem triple_iff {ε σ α : Type} {x : ExceptT ε (StateM σ) α} {P : σ → Prop}
    {Q : α → σ → Prop} : ⦃fun st => ⌜P st⌝⦄ x ⦃⇓ a st => ⌜Q a st⌝⦄ ↔
      ∀ st, P st → ∃ a st', x.run.run st = (.ok a, st') ∧ Q a st' := by
  let post : PostCond (Except ε α) (.arg σ .pure) := PostCond.noThrow fun
    | .ok a => fun st => ⌜Q a st⌝
    | .error _ => fun _ => ⌜False⌝
  have meaning (st : σ) : (wp⟦x⟧ (PostCond.noThrow fun a st => ⌜Q a st⌝) st).down ↔
      ∃ a st', x.run.run st = (.ok a, st') ∧ Q a st' := by
    have inside : wp⟦x⟧ (PostCond.noThrow fun a st => ⌜Q a st⌝) st = wp⟦x.run⟧ post st := by
      rw [WP.ExceptT_run]
      rfl
    have outcome : wp⟦x.run⟧ post st = post.1 (x.run.run st).1 (x.run.run st).2 := rfl
    -- Where the action fails, neither side holds.
    rw [inside, outcome]
    rcases x.run.run st with ⟨e | a, st'⟩
    · exact ⟨False.elim, fun ⟨a, _, h, _⟩ => nomatch (Prod.mk.inj h).1⟩
    · refine ⟨fun h => ⟨a, st', rfl, h⟩, ?_⟩
      rintro ⟨b, st'', same, h⟩
      obtain ⟨result, rfl⟩ := Prod.mk.inj same
      obtain rfl := Except.ok.inj result
      exact h
  constructor
  · intro triple st pre
    exact (meaning st).mp (triple st pre)
  · intro runs st pre
    exact (meaning st).mpr (runs st pre)

/-- Of two actions the second begins where the first one ended, unless that failed. -/
theorem run_bind {ε σ α β : Type} (first : ExceptT ε (StateM σ) α)
    (next : α → ExceptT ε (StateM σ) β) (st : σ) :
    (first >>= next).run.run st = match first.run.run st with
      | (.ok a, st') => (next a).run.run st'
      | (.error e, st') => (.error e, st') := by
  simp only [ExceptT.run_bind, StateT.run_bind]
  rcases StateT.run first.run st with ⟨answer, st'⟩
  cases answer <;> rfl

/-- What does not depend on the state can be assumed once and for all. -/
theorem triple_and {ε σ α : Type} {x : ExceptT ε (StateM σ) α} {p : Prop} {P : σ → Prop}
    {Q : α → σ → Prop} (triple : p → ⦃fun st => ⌜P st⌝⦄ x ⦃⇓ a st => ⌜Q a st⌝⦄) :
    ⦃fun st => ⌜p ∧ P st⌝⦄ x ⦃⇓ a st => ⌜Q a st⌝⦄ := by
  rw [triple_iff]
  rintro st ⟨fact, pre⟩
  exact triple_iff.mp (triple fact) st pre

namespace Storage

variable {s : Storage} {path : String} {old : Array UInt8}

/-- The files stand under the paths that they stood under. -/
theorem find?_map {f : String × Array UInt8 → String × Array UInt8}
    (kept : ∀ file, (f file).1 = file.1) :
    ({ s with files := s.files.map f } : Storage).find? path =
      (s.files.find? (·.1 == path)).map fun file => (f file).2 := by
  have key : ((·.1 == path) ∘ f) = (·.1 == path) := by
    funext file
    simp [kept]
  rw [find?, List.find?_map, key, Option.map_map]
  rfl

theorem find?_store (s : Storage) (path : String) (contents : Array UInt8) :
    (s.store path contents).find? path = some contents := by
  unfold store
  split
  · rename_i here
    rw [find?_map fun file => by by_cases same : file.1 = path <;> simp [same]]
    obtain ⟨file, found⟩ := Option.isSome_iff_exists.mp
      (List.find?_isSome.mpr (List.any_eq_true.mp here))
    have path_eq : file.1 = path := by simpa using List.find?_some found
    simp [found, path_eq]
  · rename_i absent
    have none : s.files.find? (·.1 == path) = none := by
      rw [List.any_eq_true] at absent
      exact List.find?_eq_none.mpr fun file inside found => absent ⟨file, inside, found⟩
    simp [find?, none]

/-- A file can be made at a path, and it keeps what is written to it. -/
structure Keeps (s : Storage) (path : String) : Prop where
  creatable : ∃ s', s.create path = .ok s'
  not_full : resolve path ≠ fullDevice
  not_null : resolve path ≠ nullDevice

theorem find?_create {s' : Storage} (keeps : s.Keeps path) (created : s.create path = .ok s') :
    s'.find? (resolve path) = some #[] := by
  unfold create at created
  simp only [keeps.not_full, keeps.not_null, or_self, if_false] at created
  split at created
  · cases created
  · split at created
    · cases created
    · split at created
      · obtain rfl := Except.ok.inj created
        exact find?_store s _ #[]
      · cases created

theorem Keeps.read_of_find? {contents : Array UInt8} (keeps : s.Keeps path) {s' : Storage}
    (found : s'.find? (resolve path) = some contents) : s'.read path = .ok contents := by
  have named : path ≠ "" := by
    obtain ⟨_, created⟩ := keeps.creatable
    rintro rfl
    simp [create] at created
  simp [read, named, keeps.not_null, found]

theorem find?_writeAt (position : Nat) (bytes : Array UInt8) (writable : path ≠ fullDevice)
    (found : s.find? path = some old) :
    ∃ s', s.writeAt path position bytes = .ok s' ∧ s'.find? path =
      some (if bytes.isEmpty then old else overwrite old position bytes) := by
  -- Nothing to write leaves the files alone, whether they can be written or not.
  by_cases empty : bytes.isEmpty
  · exact ⟨s, by simp [writeAt, empty], by simp [found, empty]⟩
  · refine ⟨_, by simp only [writeAt, empty, writable, if_false, Bool.false_eq_true]; rfl, ?_⟩
    rw [find?, Option.map_eq_some_iff] at found
    obtain ⟨file, found, rfl⟩ := found
    have path_eq : file.1 = path := by simpa using List.find?_some found
    rw [find?_map fun file => by by_cases same : file.1 = path <;> simp [same]]
    simp [found, empty, path_eq]

end Storage

namespace FileHandle

variable {xs ys zs : List UInt8} {n : Nat}

/-! ### Contents -/

/-- The contents `xs` with `ys` put over them from `place` on. -/
def patch (xs : List UInt8) (place : Nat) (ys : List UInt8) : List UInt8 :=
  xs.take place ++ ys ++ xs.drop (place + ys.length)

@[simp] theorem patch_nil (xs : List UInt8) (place : Nat) : patch xs place [] = xs := by
  simp [patch]

theorem length_patch (inside : n ≤ xs.length) :
    (patch xs n ys).length = max xs.length (n + ys.length) := by
  simp only [patch, List.length_append, List.length_take, List.length_drop]
  omega

/-- At the end of the contents a piece is added to them. -/
@[simp] theorem patch_length (xs ys : List UInt8) : patch xs xs.length ys = xs ++ ys := by
  simp [patch]

/-- Two pieces one behind the other are one piece. -/
theorem patch_patch (xs ys zs : List UInt8) (inside : n ≤ xs.length) :
    patch (patch xs n ys) (n + ys.length) zs = patch xs n (ys ++ zs) := by
  have before : (xs.take n ++ ys).length = n + ys.length := by simp [inside]
  have first : (patch xs n ys).take (n + ys.length) = xs.take n ++ ys := by
    rw [patch, List.take_append_of_le_length before.ge, ← before, List.take_length]
  have last : (patch xs n ys).drop (n + ys.length + zs.length) =
      xs.drop (n + (ys ++ zs).length) := by
    have behind : n + ys.length + zs.length = (xs.take n ++ ys).length + zs.length := by rw [before]
    rw [patch, behind, List.drop_length_add_append, List.drop_drop, List.length_append,
      Nat.add_assoc]
  rw [patch, first, last, patch, List.append_assoc (xs.take n)]

/-- A piece takes the place of one of the same length. -/
theorem patch_middle {new : List UInt8} (before : xs.length = n)
    (same : new.length = ys.length) : patch (xs ++ ys ++ zs) n new = xs ++ new ++ zs := by
  subst n
  simp [patch, same]

theorem toList_overwrite {old : Array UInt8} (bytes : Array UInt8) (inside : n ≤ old.size) :
    (Storage.overwrite old n bytes).toList = patch old.toList n bytes.toList := by
  rw [Storage.overwrite]
  split
  · rename_i atEnd
    subst n
    simp [← Array.length_toList]
  · rename_i before
    have less : n < old.size := by omega
    simp [less, patch]

theorem size_overwrite (old bytes : Array UInt8) (place : Nat) :
    (Storage.overwrite old place bytes).size = max old.size (place + bytes.size) := by
  unfold Storage.overwrite
  split
  · subst place
    rw [Array.size_append]
    omega
  · split <;> simp <;> omega

/-- With what waits in its buffer, a handle has `contents` in the file at `path`, and it goes on at
`place`. -/
structure Holds (path : String) (contents : List UInt8) (place : Nat) (x : Storage × FileHandle) :
    Prop where
  path_eq : x.2.path = path
  place_eq : x.2.position + x.2.pending.size = place
  stored : ∃ old, x.1.find? path = some old ∧ x.2.position ≤ old.size ∧
    patch old.toList x.2.position x.2.pending.toList = contents

variable {path : String} {contents : List UInt8} {place : Nat} {x : Storage × FileHandle}

/-- A handle starts with an empty file. -/
theorem holds_empty {s : Storage} (found : s.find? path = some #[]) :
    Holds path [] 0 (s, { path }) :=
  ⟨rfl, rfl, #[], found, Nat.le_refl 0, rfl⟩

/-- A piece goes into the buffer. -/
theorem Holds.append (h : Holds path contents place x) (piece : List UInt8) :
    Holds path (patch contents place piece) (place + piece.length)
      (x.1, { x.2 with pending := x.2.pending ++ piece }) := by
  obtain ⟨old, found, inside, rfl⟩ := h.stored
  refine ⟨h.path_eq, ?_, old, found, inside, ?_⟩
  · have size : (x.2.pending ++ piece).size = x.2.pending.size + piece.length := by
      rw [← Array.length_toList, Array.toList_appendList, List.length_append, Array.length_toList]
    rw [size, ← Nat.add_assoc, h.place_eq]
  · have joined := patch_patch old.toList x.2.pending.toList piece inside
    rw [Array.length_toList, h.place_eq] at joined
    simp [joined]

/-- With an empty buffer the file has everything. -/
theorem Holds.of_pending (h : Holds path contents place x) (drained : x.2.pending = #[]) :
    (∃ old, x.1.find? path = some old ∧ old.toList = contents) ∧ x.2.position = place := by
  obtain ⟨old, found, -, same⟩ := h.stored
  have here := h.place_eq
  simp only [drained, Array.toList_empty, patch_nil] at same
  simp only [drained, Array.size_empty, Nat.add_zero] at here
  exact ⟨⟨old, found, same⟩, here⟩

/-- With an empty buffer the place can be another one. -/
theorem Holds.moved (h : Holds path contents place x) (drained : x.2.pending = #[]) {next : Nat}
    (inside : next ≤ contents.length) :
    Holds path contents next (x.1, { x.2 with position := next }) := by
  obtain ⟨⟨old, found, rfl⟩, -⟩ := h.of_pending drained
  exact ⟨h.path_eq, by simp [drained], old, found, inside, by simp [drained]⟩

/-! ### Actions on a handle -/

theorem run_flush (s : Storage) (h : FileHandle) : flush.run.run (s, h) =
    match s.writeAt h.path h.position h.pending with
    | .ok s => (.ok (), s, { h with position := h.position + h.pending.size, pending := #[] })
    | .error e => (.error e, s, h) := by
  let action : Action Unit := do
    let s ← s.writeAt h.path h.position h.pending
    set (s, { h with position := h.position + h.pending.size, pending := #[] })
  change action.run.run (s, h) = _
  simp only [action]
  cases s.writeAt h.path h.position h.pending <;> rfl

section Actions

variable (writable : path ≠ Storage.fullDevice) (contents place)
include writable

theorem flush_spec : ⦃fun x => ⌜Holds path contents place x⌝⦄ flush
    ⦃⇓ _ x => ⌜Holds path contents place x ∧ x.2.pending = #[]⌝⦄ := by
  rw [triple_iff]
  rintro ⟨s, h⟩ holds
  obtain ⟨old, found, inside, rfl⟩ := holds.stored
  obtain rfl := holds.path_eq
  simp only at found inside writable
  obtain ⟨s', wrote, after⟩ :=
    Storage.find?_writeAt h.position h.pending writable found
  have run := run_flush s h
  rw [wrote] at run
  refine ⟨(), _, run, ⟨rfl, holds.place_eq, _, after, ?_⟩, rfl⟩
  split
  · rename_i empty
    rw [Array.isEmpty_iff] at empty
    simp [empty, inside]
  · have size := size_overwrite old h.pending h.position
    simp only [toList_overwrite h.pending inside, patch_nil, and_true]
    omega

theorem put_spec (piece : List UInt8) : ⦃fun x => ⌜Holds path contents place x⌝⦄ put piece
    ⦃⇓ _ x => ⌜Holds path (patch contents place piece) (place + piece.length) x⌝⦄ := by
  have flushed := flush_spec contents place writable
  mvcgen [put, flushed]
  · rename_i holds _
    exact holds.1.append piece
  · rename_i holds _ _ _
    exact holds.append piece

theorem seek_spec {next : Nat} (inside : next ≤ contents.length) :
    ⦃fun x => ⌜Holds path contents place x⌝⦄ seek next
    ⦃⇓ _ x => ⌜Holds path contents next x⌝⦄ := by
  have flushed := flush_spec contents place writable
  mvcgen [seek, flushed]
  rename_i holds _
  exact holds.1.moved holds.2 inside

theorem tell_spec : ⦃fun x => ⌜Holds path contents place x⌝⦄ tell
    ⦃⇓ result x => ⌜result = place ∧ Holds path contents place x⌝⦄ := by
  have flushed := flush_spec contents place writable
  mvcgen [tell, flushed]
  rename_i holds
  exact ⟨(holds.1.of_pending holds.2).2, holds.1⟩

end Actions

/-- A handle that is given up leaves what it has in the file. -/
theorem Holds.abandon (writable : path ≠ Storage.fullDevice) (h : Holds path contents place x) :
    ∃ left, (FileHandle.abandon x.1 x.2).find? path = some left ∧ left.toList = contents := by
  obtain ⟨_, x', run, holds, drained⟩ := triple_iff.mp (flush_spec contents place writable) x h
  have same : FileHandle.abandon x.1 x.2 = x'.1 := by rw [FileHandle.abandon, run]
  rw [same]
  exact (holds.of_pending drained).1

end FileHandle

end SamplePlayer
