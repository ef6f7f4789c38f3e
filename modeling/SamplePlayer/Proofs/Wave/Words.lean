import Mathlib
import SamplePlayer.OutputFormat

/-!
# Words and groups of bytes

A number that fits into a word is read back from it, and every word is that of some number. A stream
that is put together from groups of one width is cut into these groups again.

## Main results

* `LittleEndian.decode_encode`, `LittleEndian.encode_decode`: numbers as words, and back.
* `LittleEndian.exists_groups`, `LittleEndian.groups_append`, `LittleEndian.groups_flatMap`: streams
  of whole groups.
* `LittleEndian.exists_whole_groups`: the groups of any stream.
* `OutputFormat.length_encode`: what samples take in a buffer.
-/

namespace SamplePlayer

namespace LittleEndian

variable {w n : Nat} {bytes group rest : List UInt8}

/-! ### Words -/

@[simp] theorem length_encode (w n : Nat) : (encode w n).length = w := by
  induction w generalizing n with
  | zero => rfl
  | succ w ih => rw [encode, List.length_cons, ih]

theorem decode_encode (w n : Nat) : decode (encode w n) = n % 256 ^ w := by
  induction w generalizing n with
  | zero => simp [encode, decode, Nat.mod_one]
  | succ w ih =>
    have low : n.toUInt8.toNat = n % 256 := by simp
    rw [encode, decode, ih, low, Nat.pow_succ', Nat.mod_mul]

theorem decode_encode_of_lt (small : n < 256 ^ w) : decode (encode w n) = n := by
  rw [decode_encode, Nat.mod_eq_of_lt small]

theorem encode_decode (bytes : List UInt8) : encode bytes.length (decode bytes) = bytes := by
  induction bytes with
  | nil => rfl
  | cons b rest ih =>
    have bound := b.toNat_lt
    have low : (decode (b :: rest)).toUInt8 = b := by
      rw [← UInt8.toNat_inj]
      simp [decode]
    have high : decode (b :: rest) / 256 = decode rest := by
      rw [decode]
      omega
    rw [List.length_cons, encode, low, high, ih]

theorem decode_lt (bytes : List UInt8) : decode bytes < 256 ^ bytes.length := by
  have same := congrArg decode (encode_decode bytes)
  rw [decode_encode] at same
  rw [← same]
  exact Nat.mod_lt _ (by positivity)

/-! ### Groups -/

/-- The groups found before come first. -/
theorem toList_takeGroups (w count : Nat) (bytes : List UInt8) (found : Array (List UInt8)) :
    (takeGroups w count bytes found).toList =
      found.toList ++ (takeGroups w count bytes #[]).toList := by
  induction count generalizing bytes found with
  | zero => simp [takeGroups]
  | succ count ih =>
    rw [takeGroups, ih, takeGroups, ih _ (#[].push _)]
    simp

theorem size_takeGroups (w count : Nat) (bytes : List UInt8) (found : Array (List UInt8)) :
    (takeGroups w count bytes found).size = found.size + count := by
  induction count generalizing bytes found with
  | zero => rfl
  | succ count ih =>
    rw [takeGroups, ih, Array.size_push]
    omega

theorem length_groups (w : Nat) (bytes : List UInt8) :
    (groups w bytes).length = bytes.length / w := by
  rw [groups, Array.length_toList, size_takeGroups, Array.size_empty, Nat.zero_add]

theorem groups_nil : groups w [] = [] := by
  rw [groups, List.length_nil, Nat.zero_div, takeGroups]

theorem groups_cons (pos : 0 < w) (whole : group.length = w) :
    groups w (group ++ rest) = group :: groups w rest := by
  have count : (group ++ rest).length / w = rest.length / w + 1 := by
    rw [List.length_append, whole, Nat.add_div_left _ pos]
  have first : (group ++ rest).take w = group := List.take_left' whole
  have others : (group ++ rest).drop w = rest := List.drop_left' whole
  rw [groups, count, takeGroups, toList_takeGroups, first, others, groups]
  simp

/-- A stream without a rest is put together from groups. -/
theorem exists_groups (whole : w ∣ bytes.length) :
    ∃ gs : List (List UInt8), bytes = gs.flatten ∧ ∀ g ∈ gs, g.length = w := by
  obtain ⟨count, length⟩ := whole
  induction count generalizing bytes with
  | zero => exact ⟨[], List.length_eq_zero_iff.mp length, by simp⟩
  | succ count ih =>
    rw [Nat.mul_succ] at length
    have first : (bytes.take w).length = w := by
      rw [List.length_take]
      omega
    have others : (bytes.drop w).length = w * count := by
      rw [List.length_drop]
      omega
    obtain ⟨gs, flatten, each⟩ := ih others
    refine ⟨bytes.take w :: gs, ?_, by simpa [first] using each⟩
    rw [List.flatten_cons, ← flatten, List.take_append_drop]

/-- The groups that a stream begins with are found in it. -/
theorem groups_flatten (pos : 0 < w) {gs : List (List UInt8)} (each : ∀ g ∈ gs, g.length = w)
    (rest : List UInt8) : groups w (gs.flatten ++ rest) = gs ++ groups w rest := by
  induction gs with
  | nil => rfl
  | cons g gs ih =>
    rw [List.forall_mem_cons] at each
    rw [List.flatten_cons, List.append_assoc, groups_cons pos each.1, ih each.2, List.cons_append]

theorem groups_flatten_self (pos : 0 < w) {gs : List (List UInt8)}
    (each : ∀ g ∈ gs, g.length = w) : groups w gs.flatten = gs := by
  have all := groups_flatten pos each []
  rwa [groups_nil, List.append_nil, List.append_nil] at all

theorem groups_append (pos : 0 < w) (whole : w ∣ bytes.length) (rest : List UInt8) :
    groups w (bytes ++ rest) = groups w bytes ++ groups w rest := by
  obtain ⟨gs, rfl, each⟩ := exists_groups whole
  rw [groups_flatten pos each, groups_flatten_self pos each]

theorem groups_flatMap {α : Type} {f : α → List UInt8} (pos : 0 < w)
    (whole : ∀ x, (f x).length = w) (xs : List α) : groups w (xs.flatMap f) = xs.map f := by
  rw [List.flatMap_def]
  exact groups_flatten_self pos (by simp [whole])

/-- Too few bytes make no group. -/
theorem groups_of_lt (short : bytes.length < w) : groups w bytes = [] := by
  rw [← List.length_eq_zero_iff, length_groups, Nat.div_eq_of_lt short]

/-- The groups are those of the longest beginning of the stream that is whole, and make it up. -/
theorem exists_whole_groups (pos : 0 < w) (bytes : List UInt8) :
    bytes.take (w * (bytes.length / w)) = (groups w bytes).flatten ∧
      ∀ g ∈ groups w bytes, g.length = w := by
  have first : (bytes.take (w * (bytes.length / w))).length = w * (bytes.length / w) := by
    rw [List.length_take, Nat.min_eq_left (Nat.mul_div_le bytes.length w)]
  have rest : (bytes.drop (w * (bytes.length / w))).length < w := by
    have parts := Nat.div_add_mod bytes.length w
    have left := Nat.mod_lt bytes.length pos
    rw [List.length_drop]
    omega
  have whole : w ∣ (bytes.take (w * (bytes.length / w))).length := ⟨_, first⟩
  have found := groups_append pos whole (bytes.drop (w * (bytes.length / w)))
  rw [List.take_append_drop, groups_of_lt rest, List.append_nil] at found
  obtain ⟨gs, flatten, each⟩ := exists_groups whole
  rw [flatten, groups_flatten_self pos each] at found
  rw [flatten, found]
  exact ⟨rfl, each⟩

end LittleEndian

/-! ### Samples -/

namespace Encoding

variable (encoding : Encoding)

theorem stride_pos : 0 < encoding.stride := by
  cases encoding <;> decide

@[simp] theorem length_encodeSample (s : Sample) :
    (encoding.encodeSample s).length = encoding.stride := by
  cases encoding <;> exact LittleEndian.length_encode ..

end Encoding

namespace OutputFormat

variable (format : OutputFormat)

theorem length_encode (samples : List Sample) :
    (format.encode samples).length = format.encoding.stride * samples.length := by
  induction samples with
  | nil => rfl
  | cons s samples ih =>
    have rest : (format.encode (s :: samples)).length =
        (format.encoding.encodeSample s).length + (format.encode samples).length :=
      List.length_append
    rw [rest, ih, Encoding.length_encodeSample, List.length_cons]
    ring

theorem groups_encode (samples : List Sample) :
    LittleEndian.groups format.encoding.stride (format.encode samples) =
      samples.map format.encoding.encodeSample :=
  LittleEndian.groups_flatMap format.encoding.stride_pos format.encoding.length_encodeSample samples

end OutputFormat

end SamplePlayer
