import SamplePlayer.Proofs.Pool.Sound

/-!
# Events as a trace of the voices

A voice is free, stopped or playing, and the events about it are the edges of an automaton on these
three conditions. A voice is obtained when it is free and started when it is stopped. It wraps
around and stops only while it plays, and it can be released as long as it is not free. No other
event is possible. Every change of a sound pool moves each voice along the events that the change
raises about it.

## Main definitions

* `Condition`, `Condition.next?`, `Condition.run?`: the automaton.
* `Event.occurrences`: the events about one voice.
* `Voice.condition`, `Pool.condition`: the condition that the flags of a voice tell.

## Main results

* `Pool.Change.run?_condition`, `Pool.Changes.run?_condition`.
-/

namespace SamplePlayer

/-- What a voice can be doing. -/
inductive Condition where
  /-- It can be obtained. -/
  | free
  /-- It is obtained and stands still. -/
  | stopped
  /-- It takes part in the mix. -/
  | playing
deriving DecidableEq, Repr

namespace Condition

/-- The condition after an event, if the event is possible. -/
def next? : Condition → Occurrence → Option Condition
  | free, .obtain => some stopped
  | stopped, .start => some playing
  | playing, .loop => some playing
  | playing, .stop => some stopped
  | stopped, .release => some free
  | playing, .release => some free
  | _, _ => none

/-- The condition after a sequence of events, if they are possible one after the other. -/
def run? (q : Condition) (occurrences : List Occurrence) : Option Condition :=
  occurrences.foldlM next? q

/-- Whether a voice in a condition is active, and whether it is playing. -/
def flags : Condition → Bool × Bool
  | free => (false, false)
  | stopped => (true, false)
  | playing => (true, true)

variable (q : Condition)

@[simp] theorem run?_nil : q.run? [] = some q := rfl

@[simp] theorem run?_cons (o : Occurrence) (os : List Occurrence) :
    q.run? (o :: os) = (q.next? o).bind (·.run? os) := rfl

theorem run?_append (xs ys : List Occurrence) :
    q.run? (xs ++ ys) = (q.run? xs).bind (·.run? ys) := by
  simp only [run?, List.foldlM_append]
  rfl

/-- A voice that plays may wrap around as often as it likes. -/
@[simp] theorem run?_replicate_loop (n : Nat) :
    playing.run? (List.replicate n .loop) = some playing := by
  induction n with
  | zero => rfl
  | succ n ih => simpa [List.replicate_succ, next?] using ih

end Condition

namespace Event

/-- What an event tells of the voice `id`, if it is about that voice. -/
def about? (id : VoiceId) : Event → Option Occurrence
  | voice what j _ => if j = id then some what else none
  | _ => none

/-- What a sequence of events tells of the voice `id`, in order. -/
def occurrences (id : VoiceId) (events : List Event) : List Occurrence :=
  events.filterMap (about? id)

variable (id j : VoiceId)

@[simp] theorem occurrences_nil : occurrences id [] = [] := rfl

@[simp] theorem occurrences_cons_self (what : Occurrence) (place : Float) (events : List Event) :
    occurrences id (voice what id place :: events) = what :: occurrences id events := by
  simp [occurrences, about?]

@[simp] theorem occurrences_append (xs ys : List Event) :
    occurrences id (xs ++ ys) = occurrences id xs ++ occurrences id ys :=
  List.filterMap_append ..

@[simp] theorem occurrences_replicate_self (n : Nat) (what : Occurrence) (place : Float) :
    occurrences id (List.replicate n (voice what id place)) = List.replicate n what := by
  induction n with
  | zero => rfl
  | succ n ih => simp [List.replicate_succ, ih]

/-- Events about one voice tell nothing of another. -/
theorem occurrences_eq_nil {events : List Event} (other : j ≠ id)
    (own : ∀ e ∈ events, e.voice? = some id) : occurrences j events = [] := by
  refine List.filterMap_eq_nil_iff.mpr fun e member => ?_
  have about := own e member
  cases e with
  | voice what i place =>
    obtain rfl : i = id := by simpa [Event.voice?] using about
    simp [about?, Ne.symm other]
  | opened => rfl
  | closed => rfl

end Event

/-- The condition that the flags of a voice tell. -/
def Voice.condition (v : Voice) : Condition :=
  if v.active then if v.playing then .playing else .stopped else .free

namespace Voice

variable {v : Voice}

theorem condition_eq_free (idle : v.active = false) : v.condition = .free := by
  simp [condition, idle]

theorem condition_eq_stopped (active : v.active) (still : v.playing = false) :
    v.condition = .stopped := by
  simp [condition, active, still]

theorem condition_eq_playing (active : v.active) (playing : v.playing) :
    v.condition = .playing := by
  simp [condition, active, playing]

/-- The condition of a settled voice tells both flags. -/
theorem Settled.flags_condition (h : v.Settled) :
    v.condition.flags = (v.active, v.playing) := by
  have still := h.active_of_playing
  cases active : v.active <;> cases playing : v.playing <;>
    simp_all [condition, Condition.flags]

end Voice

namespace Pool

variable {m : Mixer} {pool pool' : Pool} {id : VoiceId} {v : Voice}

/-- The condition of the voice `id`; a voice that does not exist counts as free. -/
def condition (pool : Pool) (id : VoiceId) : Condition :=
  (pool.voices[id]?.map Voice.condition).getD .free

@[simp] theorem condition_giveBack (j : VoiceId) :
    (pool.giveBack id).condition j = pool.condition j := by
  simp [condition]

theorem condition_of_voice (voice : pool.voices[id]? = some v) :
    pool.condition id = v.condition := by
  simp [condition, voice]

/-- In a new pool every voice is free. -/
theorem condition_of_make {n : Nat} (made : make n = .ok pool) (id : VoiceId) :
    pool.condition id = .free := by
  obtain rfl := eq_of_make made
  simp only [condition, Array.getElem?_replicate]
  split <;> rfl

theorem condition_set_self {w : Voice} (voice : pool.voices[id]? = some v) :
    (pool.set id w).condition id = w.condition := by
  simp [condition, getElem?_set, voice]

/-- A change raises no event about another voice. -/
theorem Change.occurrences_of_ne {n : Nat} {es : List Event} (c : Change m pool id v n es pool')
    {j : VoiceId} (other : j ≠ id) : Event.occurrences j es = [] := by
  refine Event.occurrences_eq_nil id j other ?_
  cases c <;> simp [Event.voice?, or_imp, forall_and]

/-- The voice that changes moves along the events that the change raises. -/
theorem Change.run?_condition_self {n : Nat} {es : List Event} (h : pool.Sound)
    (voice : pool.voices[id]? = some v) (c : Change m pool id v n es pool') :
    v.condition.run? (Event.occurrences id es) = some (pool'.condition id) := by
  cases c with
  | adjust a active =>
    rw [condition_set_self voice]
    simp [Voice.condition]
  | obtain next =>
    -- The queue is sound, so the voice at its front was free.
    have idle : v.active = false := by
      rw [← h.mem_free_iff_of_voice voice, next]
      exact List.mem_cons_self
    change v.condition.run? _ = some ((pool.set id _).condition id)
    rw [condition_set_self voice, Voice.condition_eq_free idle]
    simp [Voice.condition, Voice.turned, Voice.reset, Condition.next?]
  | release active =>
    -- A release is possible from both conditions of a voice in use.
    rw [condition_giveBack, condition_set_self voice]
    cases playing : v.playing
    · rw [Voice.condition_eq_stopped active playing]
      simp [Voice.condition, Voice.turned, Condition.next?]
    · rw [Voice.condition_eq_playing active playing]
      simp [Voice.condition, Voice.turned, Condition.next?]
  | idle =>
    rw [condition_set_self voice]
    rfl
  | start active still =>
    rw [condition_set_self voice, Voice.condition_eq_stopped active still]
    simp [Voice.condition, Voice.turned, Voice.snap, active, Condition.next?]
  | stop active playing =>
    rw [condition_set_self voice, Voice.condition_eq_playing active playing]
    simp [Voice.condition, Voice.turned, active, Condition.next?]
  | seek place active still =>
    rw [condition_set_self voice]
    rfl
  | takeLoop =>
    rw [condition_set_self voice]
    simp [Voice.condition]
  | carry active playing unfinished =>
    rw [condition_set_self voice, Voice.condition_eq_playing active playing]
    simp [Voice.condition, Voice.placed, Voice.ramped, active, playing]
  | finish active playing finished keep =>
    rw [condition_set_self voice, Voice.condition_eq_playing active playing]
    simp [Voice.condition, Voice.ramped, active, Condition.run?_append, Condition.next?]
  | expire active playing finished recycle =>
    rw [condition_giveBack, condition_set_self voice, Voice.condition_eq_playing active playing]
    simp [Voice.condition, Condition.run?_append, Condition.next?]

/-- Every voice moves along the events about it, and stays where it is if there are none. -/
theorem Change.run?_condition {n : Nat} {es : List Event} (h : pool.Sound)
    (voice : pool.voices[id]? = some v) (c : Change m pool id v n es pool') (j : VoiceId) :
    (pool.condition j).run? (Event.occurrences j es) = some (pool'.condition j) := by
  by_cases same : j = id
  · subst j
    rw [condition_of_voice voice]
    exact c.run?_condition_self h voice
  · -- Nothing is told of a voice that is left alone.
    simp [condition, c.occurrences_of_ne same, c.getElem?_of_ne same]

theorem Changes.run?_condition {events : List Event} (h : pool.Sound)
    (c : Changes m pool events pool') (j : VoiceId) :
    (pool.condition j).run? (Event.occurrences j events) = some (pool'.condition j) := by
  induction c with
  | none => rfl
  | snoc before voice last ih =>
    rw [Event.occurrences_append, Condition.run?_append, ih]
    exact last.run?_condition (h.changes before) voice j

end Pool

end SamplePlayer
