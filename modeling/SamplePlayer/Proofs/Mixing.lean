import Mathlib.Data.List.Nodup
import SamplePlayer.Proofs.Share

/-!
# The mix as a sum of shares

Mixing a buffer adds up the shares of the voices, each of which depends on its own voice only. So a
buffer may be cut anywhere: mixed in two parts, it holds the same samples, every voice comes out the
same and raises the same events. Only the events of different voices come in another order, and so
do the voices that went back to the queue.

## Main definitions

* `Event.only`: the events about one voice.
* `Pool.share`: the share of the voice with a number.
* `Mixer.layers`: the buffer that shares add up to.

## Main results

* `Mixer.mix_spec`: a mix is made of the shares.
* `Mixer.mix_add`: a mix may be cut in two.
-/

namespace SamplePlayer

/-- The events about a voice, in order. -/
def Event.only (id : VoiceId) (events : List Event) : List Event :=
  events.filter fun e => e.voice? = some id

theorem Event.only_append (id : VoiceId) (xs ys : List Event) :
    only id (xs ++ ys) = only id xs ++ only id ys :=
  List.filter_append ..

/-- Of events that come voice by voice, those about one voice are the part of that voice. -/
theorem Event.only_flatMap {ids : List VoiceId} (distinct : ids.Nodup)
    {part : VoiceId → List Event} (own : ∀ id, ∀ e ∈ part id, e.voice? = some id) (j : VoiceId) :
    only j (ids.flatMap part) = if j ∈ ids then part j else [] := by
  induction ids with
  | nil => rfl
  | cons id ids ih =>
    obtain ⟨new, distinct⟩ := List.nodup_cons.mp distinct
    have rest := ih distinct
    unfold only at rest ⊢
    rw [List.flatMap_cons, List.filter_append, rest]
    by_cases same : j = id
    · subst j
      have all : (part id).filter (fun e => e.voice? = some id) = part id :=
        List.filter_eq_self.mpr fun e member => by simpa using own id e member
      simp [all, new]
    · have none : (part id).filter (fun e => e.voice? = some j) = [] :=
        List.filter_eq_nil_iff.mpr fun e member => by
          simpa [own id e member] using Ne.symm same
      simp [none, same]

namespace Pool

variable {m : Mixer} {pool : Pool} {id : VoiceId} {v : Voice}

/-- The share of a voice in a buffer of `n` frames. -/
def share (m : Mixer) (n : Nat) (pool : Pool) (id : VoiceId) : Share :=
  (pool.voices[id]?.getD {}).share m id n

theorem share_of_voice (voice : pool.voices[id]? = some v) (n : Nat) :
    pool.share m n id = v.share m id n := by
  simp [share, voice]

theorem share_of_none (missing : pool.voices[id]? = none) (n : Nat) :
    pool.share m n id = ⟨#[], [], false, {}⟩ := by
  simp [share, missing, Voice.share]

/-- The pool after the pass over a voice. -/
def settle (pool : Pool) (id : VoiceId) (s : Share) : Pool :=
  if s.freed then (pool.set id s.voice).giveBack id else pool.set id s.voice

@[simp] theorem voices_settle (s : Share) : (pool.settle id s).voices =
    (pool.set id s.voice).voices := by
  unfold settle
  split <;> simp

end Pool

namespace Mixer

variable {m : Mixer} {sofar : Progress} {id : VoiceId} {v : Voice}

@[simp] theorem overlay_empty (buffer : Array Frame) : overlay buffer #[] = buffer := by
  apply Array.ext <;> simp [overlay]

@[simp] theorem size_overlay (buffer strip : Array Frame) :
    (overlay buffer strip).size = buffer.size := by
  simp [overlay]

/-- The pass over a voice adds its share. -/
theorem mixVoice_eq (sound : sofar.pool.Sound) (voice : sofar.pool.voices[id]? = some v) :
    let s := v.share m id sofar.buffer.size
    m.mixVoice sofar id =
      ⟨sofar.pool.settle id s, overlay sofar.buffer s.strip, sofar.events ++ s.events⟩ := by
  intro s
  cases playing : v.active && v.playing
  · -- The empty share of a voice that stands still changes nothing.
    have still : s = ⟨#[], [], false, v⟩ := Voice.share_of_still playing _
    simp [mixVoice, voice, playing, still, Pool.settle, Pool.set_of_voice voice]
  · obtain ⟨strip, p, w, ran⟩ : ∃ strip p w,
        (Pass.start v).run m sofar.buffer.size #[] v = (strip, p, w) := ⟨_, _, _, rfl⟩
    obtain ⟨during, here, -, -, current⟩ := sound.run_pass voice ran
    have share : s = ⟨strip, (p.writeBack m id w).2.events, (p.writeBack m id w).2.freed,
        (p.writeBack m id w).1⟩ := Voice.share_of_playing playing ran
    change (Pass.startAt v.epoch v).run m _ _ _ = _ at ran
    -- Nobody else is at the pool, so no transition came in and the pass is written back.
    simp only [mixVoice, voice, playing, if_true, passOver_of_run ran, share, Pool.settle]
    rw [Pool.finish_of_current here (during.settled here).at_rest current, Pool.set_set]

/-- The pass over a voice keeps the pool sound. -/
theorem sound_mixVoice (sound : sofar.pool.Sound) (id : VoiceId) :
    (m.mixVoice sofar id).pool.Sound := by
  unfold mixVoice
  split
  · exact sound
  · rename_i v voice
    split
    · rename_i plays
      obtain ⟨active, playing⟩ := Bool.and_eq_true_iff.mp plays
      obtain ⟨strip, p, w, ran⟩ : ∃ strip p w,
          (Pass.start v).run m sofar.buffer.size #[] v = (strip, p, w) := ⟨_, _, _, rfl⟩
      obtain ⟨during, here, active', playing', current⟩ := sound.run_pass voice ran
      change (Pass.startAt v.epoch v).run m _ _ _ = _ at ran
      rw [passOver_of_run ran]
      exact during.change here (.of_finish here (active'.trans active) (playing'.trans playing)
        (during.settled here).at_rest current)
    · exact sound

/-- The pass over a voice adds its share to the mix, and replaces no other voice. -/
theorem mixVoice_spec (sound : sofar.pool.Sound) (id : VoiceId) :
    let s := sofar.pool.share m sofar.buffer.size id
    (m.mixVoice sofar id).buffer = overlay sofar.buffer s.strip ∧
      (m.mixVoice sofar id).events = sofar.events ++ s.events ∧
      ∀ j, (m.mixVoice sofar id).pool.voices[j]? =
        if j = id then sofar.pool.voices[j]?.map fun _ => s.voice else sofar.pool.voices[j]? := by
  cases voice : sofar.pool.voices[id]? with
  | none =>
    rw [Pool.share_of_none voice]
    refine ⟨by simp [mixVoice, voice], by simp [mixVoice, voice], fun j => ?_⟩
    split
    · subst j
      simp [mixVoice, voice]
    · simp [mixVoice, voice]
  | some v =>
    rw [Pool.share_of_voice voice, mixVoice_eq sound voice]
    refine ⟨rfl, rfl, fun j => ?_⟩
    simp only [Pool.voices_settle, Pool.getElem?_set, eq_comm (a := id)]

/-- The frames to which strips add up over a buffer, one after the other. -/
def layers (strips : VoiceId → Array Frame) (ids : List VoiceId) (buffer : Array Frame) :
    Array Frame :=
  ids.foldl (fun buffer id => overlay buffer (strips id)) buffer

/-- The mix of some voices is made of their shares. -/
theorem foldl_mixVoice {ids : List VoiceId} (distinct : ids.Nodup) (sound : sofar.pool.Sound) :
    let shares := sofar.pool.share m sofar.buffer.size
    let done := ids.foldl m.mixVoice sofar
    done.pool.Sound ∧
      done.buffer = layers (fun id => (shares id).strip) ids sofar.buffer ∧
      done.events = sofar.events ++ ids.flatMap (fun id => (shares id).events) ∧
      ∀ j, done.pool.voices[j]? =
        if j ∈ ids then sofar.pool.voices[j]?.map fun _ => (shares j).voice
        else sofar.pool.voices[j]? := by
  induction ids generalizing sofar with
  | nil => simpa [layers] using sound
  | cons id ids ih =>
    intro shares done
    obtain ⟨new, distinct⟩ := List.nodup_cons.mp distinct
    obtain ⟨buffer, events, voices⟩ := mixVoice_spec (m := m) sound id
    obtain ⟨sound', buffer', events', voices'⟩ := ih distinct (sound_mixVoice (m := m) sound id)
    -- The later voices are those of the beginning, and so are their shares.
    have others : ∀ j, j ≠ id →
        (m.mixVoice sofar id).pool.share m (m.mixVoice sofar id).buffer.size j = shares j := by
      intro j other
      have size : (m.mixVoice sofar id).buffer.size = sofar.buffer.size := by
        rw [buffer, size_overlay]
      simp only [shares, Pool.share, size, voices j, if_neg other]
    have later : ∀ j ∈ ids, j ≠ id := by
      rintro j member rfl
      exact new member
    refine ⟨sound', ?_, ?_, fun j => ?_⟩
    · change (ids.foldl m.mixVoice (m.mixVoice sofar id)).buffer =
        layers (fun id => (shares id).strip) ids (overlay sofar.buffer (shares id).strip)
      rw [buffer', ← buffer]
      exact List.foldl_ext _ _ _ fun _ j member => by
        simp only [others j (later j member)]
    · change (ids.foldl m.mixVoice (m.mixVoice sofar id)).events = _
      rw [events', events, List.flatMap_cons, List.append_assoc]
      congr 2
      exact List.flatMap_congr fun j member => by simp only [others j (later j member)]
    · change (ids.foldl m.mixVoice (m.mixVoice sofar id)).pool.voices[j]? = _
      rw [voices', voices]
      by_cases same : j = id
      · subst j
        simp [new, shares]
      · simp [same, others j same]

/-! ### Mixes that are held up -/

/-- A pass that was begun ends as if it had not been held up. -/
theorem endPass_of_begun {n : Nat} (within : n ≤ sofar.buffer.size) {strip : Array Frame} {p : Pass}
    {w : Voice} (ran : (Pass.start v).run m n #[] v = (strip, p, w)) :
    m.endPass { sofar with pool := sofar.pool.set id w } id p strip w =
      m.endPass sofar id (.start v) #[] v := by
  obtain ⟨-, size⟩ := Pass.size_run m n #[] (.start v) v
  have whole := Pass.run_add (m := m) n (sofar.buffer.size - n) #[] (.start v) v
  rw [ran, Nat.add_sub_of_le within] at whole
  rw [ran] at size
  -- A pass that came to its end takes no more frames, however many are missing.
  have same : p.run m (sofar.buffer.size - strip.size) strip w =
      p.run m (sofar.buffer.size - n) strip w := by
    obtain size | finished := size
    · rw [size, show (#[] : Array Frame).size = 0 from rfl, Nat.zero_add]
    · rw [Pass.run_of_finished finished, Pass.run_of_finished finished]
  simp only [endPass, same, Array.size_empty, Nat.sub_zero, whole, Pool.set_set]

/-- A mix that goes on as it was held up is the mix of the whole buffer. -/
theorem resume_hold (m : Mixer) (pool : Pool) (frames : Nat) (j : Juncture) :
    m.resume (m.hold pool frames j) = m.mixVoices pool frames (List.range pool.polyphony) := by
  have before (k : Nat) : m.resume ⟨m.mixVoices pool frames ((List.range pool.polyphony).take k),
      none, (List.range pool.polyphony).drop k⟩ =
        m.mixVoices pool frames (List.range pool.polyphony) := by
    rw [resume, mixVoices, ← List.foldl_append, List.take_append_drop]
    rfl
  cases j with
  | before id => exact before id
  | amid id taken =>
    refine Eq.trans ?_ (before id)
    rw [hold]
    dsimp only
    generalize (List.range pool.polyphony).drop id = waiting
    generalize m.mixVoices pool frames ((List.range pool.polyphony).take id) = sofar
    obtain same | ⟨id, rest, v, strip, p, w, rfl, voice, active, playing, ran, entered⟩ :=
      Held.enter_cases m taken ⟨sofar, none, waiting⟩
    · rw [same]
    · have plays : (v.active && v.playing) = true := Bool.and_eq_true_iff.mpr ⟨active, playing⟩
      have here : (sofar.pool.set id w).voices[id]? = some w := by
        rw [Pool.getElem?_set, if_pos rfl, voice]
        rfl
      rw [entered]
      simp only [resume, here, List.foldl_cons, mixVoice_of_voice voice, if_pos plays,
        endPass_of_begun (Nat.min_le_right ..) ran]

/-! ### Cutting a buffer -/

/-- What a voice adds to the second part of a buffer comes behind a first part that it fills. -/
theorem overlay_append {x y s t : Array Frame} (short : s.size ≤ x.size)
    (fills : s.size = x.size ∨ t = #[]) :
    overlay (x ++ y) (s ++ t) = overlay x s ++ overlay y t := by
  have first : ∀ i < x.size, (s ++ t)[i]? = s[i]? := by
    intro i inside
    obtain full | rfl := fills
    · exact Array.getElem?_append_left (full ▸ inside)
    · rw [Array.append_empty]
  -- A strip that does not fill the first part ends there.
  have second : ∀ i, (s ++ t)[i + x.size]? = t[i]? := by
    intro i
    obtain full | rfl := fills
    · rw [← full, Array.getElem?_append_right (Nat.le_add_left _ _), Nat.add_sub_cancel]
    · simp only [Array.append_empty, Array.getElem?_empty]
      exact Array.getElem?_eq_none (short.trans (Nat.le_add_left _ _))
  simp only [overlay, Array.mapIdx_append, second]
  congr 1
  refine Array.ext (by simp) fun i inside _ => ?_
  simp [first i (by simpa using inside)]

theorem layers_append {s t : VoiceId → Array Frame} {ids : List VoiceId} {x y : Array Frame}
    (parts : ∀ id ∈ ids, (s id).size ≤ x.size ∧ ((s id).size = x.size ∨ t id = #[])) :
    layers (fun id => s id ++ t id) ids (x ++ y) = layers s ids x ++ layers t ids y := by
  induction ids generalizing x y with
  | nil => rfl
  | cons id ids ih =>
    obtain ⟨short, fills⟩ := parts id List.mem_cons_self
    -- Adding a strip keeps the length of a buffer, so the cut stays where it is.
    have rest := ih (x := overlay x (s id)) (y := overlay y (t id)) fun j member => by
      simpa using parts j (List.mem_cons_of_mem id member)
    simpa only [layers, List.foldl_cons, overlay_append short fills] using rest

/-- A mix is made of the shares of all voices. -/
theorem mix_spec (m : Mixer) {pool : Pool} (sound : pool.Sound) (n : Nat) :
    let shares := pool.share m n
    let ids := List.range pool.polyphony
    (m.mix (2 * n) pool).1 = interleave
        (layers (fun id => (shares id).strip) ids (Array.replicate n .silence)).toList ∧
      (m.mix (2 * n) pool).2.1 = ids.flatMap (fun id => (shares id).events) ∧
      (m.mix (2 * n) pool).2.2.Sound ∧
      ∀ j : VoiceId, (m.mix (2 * n) pool).2.2.voices[j]? =
        pool.voices[j]?.map fun _ => (shares j).voice := by
  intro shares ids
  have start : (⟨pool, Array.replicate n .silence, []⟩ : Progress).pool.Sound := sound
  have mixed := foldl_mixVoice (m := m) (List.nodup_range (n := pool.polyphony)) start
  simp only [Array.size_replicate, List.nil_append, List.mem_range] at mixed
  obtain ⟨sound', buffer, events, voices⟩ := mixed
  have frames : 2 * n / 2 = n := Nat.mul_div_cancel_left n Nat.two_pos
  have even : 2 * n % 2 = 0 := Nat.mul_mod_right 2 n
  simp only [mix, mixVoices, frames, spread, even, List.replicate_zero, List.append_nil]
  refine ⟨by rw [buffer], by rw [events], sound', fun j => ?_⟩
  rw [voices j]
  split
  · rfl
  · -- There is no voice behind the last one, before the mix or after it.
    rename_i outside
    have missing : pool.voices[j]? = none := Array.getElem?_eq_none (Nat.le_of_not_lt outside)
    simp [missing]

@[simp] theorem polyphony_mix (m : Mixer) (n : Nat) (pool : Pool) :
    (m.mix n pool).2.2.polyphony = pool.polyphony := by
  have each (ids : List VoiceId) (sofar : Progress) :
      (ids.foldl m.mixVoice sofar).pool.polyphony = sofar.pool.polyphony := by
    induction ids generalizing sofar with
    | nil => rfl
    | cons id ids ih => rw [List.foldl_cons, ih, polyphony_mixVoice]
  exact each _ _

/-- The share of a voice after a mix is that of the voice that the mix left. -/
theorem share_mix (m : Mixer) {pool : Pool} (sound : pool.Sound) (a b : Nat) (id : VoiceId) :
    (m.mix (2 * a) pool).2.2.share m b id = (pool.share m a id).voice.share m id b := by
  obtain ⟨-, -, -, voices⟩ := m.mix_spec sound a
  rw [Pool.share, voices id]
  cases voice : pool.voices[id]? with
  | none => simp [Pool.share_of_none voice]
  | some v => simp

/-- A buffer may be mixed in two parts. -/
theorem mix_add (m : Mixer) {pool : Pool} (sound : pool.Sound) (a b : Nat) :
    let first := m.mix (2 * a) pool
    let second := m.mix (2 * b) first.2.2
    let whole := m.mix (2 * (a + b)) pool
    whole.1 = first.1 ++ second.1 ∧ whole.2.2.voices = second.2.2.voices ∧
      whole.2.2.free.Perm second.2.2.free ∧
      ∀ id, Event.only id whole.2.1 = Event.only id (first.2.1 ++ second.2.1) := by
  intro first second whole
  obtain ⟨samples₁, events₁, sound₁, voices₁⟩ := m.mix_spec sound a
  obtain ⟨samples₂, events₂, sound₂, voices₂⟩ := m.mix_spec sound₁ b
  obtain ⟨samples, events, sound', voices⟩ := m.mix_spec sound (a + b)
  simp only [polyphony_mix, share_mix m sound] at samples₂ events₂ voices₂
  have cut (id : VoiceId) := (pool.voices[id]?.getD {}).share_add m id a b
  -- Voice by voice the share in the whole buffer is made of the shares in the two parts.
  have parts : pool.share m (a + b) = fun id =>
      ⟨(pool.share m a id).strip ++ ((pool.share m a id).voice.share m id b).strip,
        (pool.share m a id).events ++ ((pool.share m a id).voice.share m id b).events,
        (pool.share m a id).freed || ((pool.share m a id).voice.share m id b).freed,
        ((pool.share m a id).voice.share m id b).voice⟩ :=
    funext fun id => (cut id).1
  rw [parts] at samples events voices
  have same : whole.2.2.voices = second.2.2.voices := by
    refine Array.ext_getElem? fun j => ?_
    rw [voices j, voices₂ j, voices₁ j, Option.map_map]
    rfl
  -- Which voices are free can be told from the voices.
  refine ⟨?_, same, sound'.free_perm_of_voices_eq sound₂ same, fun id => ?_⟩
  · simp only [whole, first, second, samples, samples₁, samples₂]
    rw [← Array.replicate_append_replicate, layers_append fun id _ => ?_]
    · simp [interleave]
    · rw [Array.size_replicate]
      exact (cut id).2
  · have only (part : VoiceId → List Event) (own : ∀ id, ∀ e ∈ part id, e.voice? = some id) :=
      Event.only_flatMap (List.nodup_range (n := pool.polyphony)) own id
    have own₁ (j : VoiceId) : ∀ e ∈ (pool.share m a j).events, e.voice? = some j :=
      Voice.voice?_share m j a _
    have own₂ (j : VoiceId) := Voice.voice?_share m j b (pool.share m a j).voice
    have own (j : VoiceId) : ∀ e ∈ (pool.share m a j).events ++
        ((pool.share m a j).voice.share m j b).events, e.voice? = some j := fun e member =>
      (List.mem_append.mp member).elim (own₁ j e) (own₂ j e)
    simp only [whole, first, second, events, events₁, events₂]
    rw [Event.only_append, only _ own, only _ own₁, only _ own₂]
    split
    · rfl
    · rfl

end Mixer

end SamplePlayer
