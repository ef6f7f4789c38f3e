import Mathlib.Data.List.Forall2
import Mathlib.Logic.Relation
import SamplePlayer.Output.Device
import SamplePlayer.Proofs.Ring

/-!
# The way to the device

A caller writes to a stream and drains it, one call after the other, while the device takes samples
on its own time and may fail at any moment. A write decodes its bytes and then goes around: it looks
whether the device failed, puts as much as there is room for into the ring, and waits. Draining goes
around as well, until it finds the ring empty or the device failed. Between any two of these steps
the device can take theirs.

What was played and what is in the ring are together what has entered the ring. It only ever grows,
by the samples of the write under way in their order.

## Main definitions

* `Duty`, `Delivery`: what the caller is doing, and a stream with it.
* `Delivery.Step`, `Delivery.Run`: single steps, and any number of them.
* `Delivery.Kept`: the invariant of runs.

## Main results

* `Delivery.run_write`, `Delivery.run_drain`: `Stream.write` and `Stream.drain` are runs.
* `Delivery.Run.conservation`: nothing is lost, repeated or moved on the way.
-/

namespace SamplePlayer

/-- A call on a stream that was answered. -/
inductive Answered where
  | write (bytes : List UInt8) (answer : Reply)
  | drain (answer : Reply)

/-- What the caller of a stream is doing. -/
inductive Duty where
  | idle
  /-- A write with some of its samples left is about to look whether the device failed. -/
  | writing (bytes : List UInt8) (rest : List Sample)
  /-- It did not, and what there is room for can go into the ring. -/
  | pushing (bytes : List UInt8) (rest : List Sample)
  /-- A drain is about to look whether the ring is empty. -/
  | draining
  /-- It was not, and the drain is about to look whether the device failed. -/
  | lingering

/-- The samples that a call which was answered has put into the ring: all of them if it was a write
that succeeded, and some from the front if it failed. -/
def Answered.Gave (format : OutputFormat) : Answered → List Sample → Prop
  | write bytes .done, given => given = format.decode bytes
  | write bytes _, given => given <+: format.decode bytes
  | drain _, given => given = []

/-- The samples that the call under way has put into the ring. -/
def Duty.Gave (format : OutputFormat) : Duty → List Sample → Prop
  | writing bytes rest, given | pushing bytes rest, given => given ++ rest = format.decode bytes
  | idle, given | draining, given | lingering, given => given = []

/-- A write is under way. -/
def Duty.writes : Duty → Bool
  | writing .. | pushing .. => true
  | idle | draining | lingering => false

/-- A stream with its device and its caller. -/
structure Delivery where
  stream : Stream
  duty : Duty
  /-- The calls that were answered, in order. -/
  calls : List Answered
  /-- The samples that the device took, in order. -/
  played : List Sample

namespace Delivery

/-- A stream that was just opened. -/
def opened (s : Stream) : Delivery := ⟨s, .idle, [], []⟩

/-- The caller has got an answer. -/
def answered (d : Delivery) (call : Answered) : Delivery :=
  { d with duty := .idle, calls := d.calls ++ [call] }

/-- All samples that have entered the ring so far. -/
def entered (d : Delivery) : List Sample := d.played ++ d.stream.ring.contents

/-- A single step, of the device or of the caller. -/
inductive Step : Delivery → Delivery → Prop
  -- Steps of the device, which are possible at any time.
  | take {d : Delivery} {sample : Sample} {ring : Ring}
      (popped : d.stream.ring.pop = some (sample, ring)) :
    Step d { d with stream := { d.stream with ring }, played := d.played ++ [sample] }
  | fail (d : Delivery) : Step d { d with stream := { d.stream with failed := true } }
  -- Steps of a write.
  | write {d : Delivery} (bytes : List UInt8) (idle : d.duty = .idle) :
    Step d { d with duty := .writing bytes (d.stream.format.decode bytes) }
  | written {d : Delivery} {bytes : List UInt8} (writing : d.duty = .writing bytes []) :
    Step d (d.answered (.write bytes .done))
  | refuse {d : Delivery} {bytes : List UInt8} {rest : List Sample}
      (writing : d.duty = .writing bytes rest) (more : rest ≠ []) (failed : d.stream.failed) :
    Step d (d.answered (.write bytes (.failed Stream.failure)))
  | clear {d : Delivery} {bytes : List UInt8} {rest : List Sample}
      (writing : d.duty = .writing bytes rest) (more : rest ≠ [])
      (sane : d.stream.failed = false) :
    Step d { d with duty := .pushing bytes rest }
  | push {d : Delivery} {bytes : List UInt8} {rest : List Sample}
      (pushing : d.duty = .pushing bytes rest) :
    Step d { d with
      stream := { d.stream with ring := (d.stream.ring.push rest).2 }
      duty := .writing bytes (rest.drop (d.stream.ring.push rest).1) }
  -- Steps of a drain.
  | drain {d : Delivery} (idle : d.duty = .idle) : Step d { d with duty := .draining }
  | drained {d : Delivery} (draining : d.duty = .draining)
      (empty : d.stream.ring.available = 0) : Step d (d.answered (.drain .done))
  | linger {d : Delivery} (draining : d.duty = .draining)
      (some : d.stream.ring.available ≠ 0) : Step d { d with duty := .lingering }
  | despair {d : Delivery} (lingering : d.duty = .lingering) (failed : d.stream.failed) :
    Step d (d.answered (.drain (.failed Stream.failure)))
  | wait {d : Delivery} (lingering : d.duty = .lingering) (sane : d.stream.failed = false) :
    Step d { d with duty := .draining }

/-- Any number of steps. -/
def Run : Delivery → Delivery → Prop := Relation.ReflTransGen Step

variable {d d' : Delivery} {s : Stream} {bytes : List UInt8} {rest played : List Sample}
  {calls : List Answered} {answer : Reply} {takes n : Nat}

/-! ### What enters the ring -/

theorem Step.format_eq (t : Step d d') : d'.stream.format = d.stream.format := by
  cases t <;> rfl

theorem Run.format_eq (r : Run d d') : d'.stream.format = d.stream.format := by
  induction r with
  | refl => rfl
  | tail _ last ih => rw [last.format_eq, ih]

/-- Samples enter the ring only from a write that has found the device sane, first come first. -/
theorem Step.entered_eq (t : Step d d') : d'.entered = d.entered ∨
    ∃ bytes offered rest, d.duty = .pushing bytes (offered ++ rest) ∧
      d'.duty = .writing bytes rest ∧ d'.entered = d.entered ++ offered := by
  cases t with
  | take popped =>
    left
    simp [entered, (Ring.contents_of_pop popped).1]
  | @push bytes rest pushing =>
    right
    have whole := d.stream.ring.take_append_drop_push rest
    refine ⟨bytes, rest.take d.stream.ring.space, _, pushing.trans (by rw [whole]), rfl, ?_⟩
    simp only [entered, Ring.contents_push, List.append_assoc]
  | fail | write | written | refuse | clear | drain | drained | linger | despair | wait =>
    exact .inl rfl

/-- What has entered the ring is what the calls have put there, one after the other. -/
def Kept (d : Delivery) : Prop :=
  ∃ given part, List.Forall₂ (Answered.Gave d.stream.format) d.calls given ∧
    d.duty.Gave d.stream.format part ∧ d.entered = given.flatten ++ part

/-- The call under way may be answered if what it has put into the ring fits the answer. -/
theorem Kept.answered {call : Answered} (h : d.Kept)
    (fits : ∀ part, d.duty.Gave d.stream.format part → call.Gave d.stream.format part) :
    (d.answered call).Kept := by
  obtain ⟨given, part, gave, during, entered⟩ := h
  refine ⟨given ++ [part], [], List.rel_append gave (.cons (fits part during) .nil), rfl, ?_⟩
  simpa [Delivery.answered, Delivery.entered] using entered

/-- The caller may go on as long as that does not matter to what the call has put into the ring. -/
theorem Kept.turn {duty : Duty} (h : d.Kept)
    (fits : ∀ part, d.duty.Gave d.stream.format part → duty.Gave d.stream.format part) :
    Kept { d with duty } := by
  obtain ⟨given, part, gave, during, entered⟩ := h
  exact ⟨given, part, gave, fits part during, entered⟩

theorem kept_opened (empty : s.ring.contents = []) : (opened s).Kept :=
  ⟨[], [], .nil, rfl, empty⟩

/-- Every step keeps the invariant. -/
theorem Kept.step (h : d.Kept) (t : Step d d') : d'.Kept := by
  have moves := t.entered_eq
  cases t with
  | take | fail =>
    obtain ⟨given, part, gave, during, entered⟩ := h
    obtain same | ⟨_, _, _, pushing, after, -⟩ := moves
    · exact ⟨given, part, gave, during, same.trans entered⟩
    · exact absurd (pushing.symm.trans after) nofun
  | @push bytes rest pushing =>
    -- What there is room for goes over from the rest to what was put into the ring.
    obtain ⟨given, part, gave, during, entered⟩ := h
    rw [pushing] at during
    refine ⟨given, part ++ rest.take d.stream.ring.space, gave, ?_, ?_⟩
    · change _ ++ rest.drop _ = d.stream.format.decode bytes
      rw [List.append_assoc, Ring.take_append_drop_push]
      exact during
    · rw [← List.append_assoc, ← entered]
      simp only [Delivery.entered, Ring.contents_push, List.append_assoc]
  | write bytes idle =>
    refine h.turn fun part none => ?_
    rw [idle] at none
    subst none
    rfl
  | written writing =>
    refine h.answered fun part all => ?_
    rw [writing] at all
    simpa [Duty.Gave, Answered.Gave] using all
  | refuse writing more failed =>
    refine h.answered fun part some => ?_
    rw [writing] at some
    exact ⟨_, some⟩
  | clear writing more sane =>
    refine h.turn fun part some => ?_
    rwa [writing] at some
  | drain idle =>
    refine h.turn fun part none => ?_
    rwa [idle] at none
  | drained draining empty =>
    refine h.answered fun part none => ?_
    rwa [draining] at none
  | linger draining some =>
    refine h.turn fun part none => ?_
    rwa [draining] at none
  | despair lingering failed =>
    refine h.answered fun part none => ?_
    rwa [lingering] at none
  | wait lingering sane =>
    refine h.turn fun part none => ?_
    rwa [lingering] at none

theorem Kept.run (h : d.Kept) (r : Run d d') : d'.Kept := by
  induction r with
  | refl => exact h
  | tail _ last ih => exact ih.step last

/-! ### After a failure -/

/-- A failure stays, and nothing enters the ring after it but from a write that had begun. -/
theorem Step.of_failed (t : Step d d') (failed : d.stream.failed = true)
    (calm : ∀ bytes rest, d.duty ≠ .pushing bytes rest) :
    d'.stream.failed = true ∧ (∀ bytes rest, d'.duty ≠ .pushing bytes rest) ∧
      d'.entered = d.entered := by
  have same : d'.entered = d.entered := by
    obtain same | ⟨bytes, offered, rest, pushing, -⟩ := t.entered_eq
    · exact same
    · exact absurd pushing (calm bytes _)
  cases t with
  | take | fail => exact ⟨by simp [failed], calm, same⟩
  | clear writing more sane => simp [failed] at sane
  | push pushing => exact absurd pushing (calm _ _)
  | write | written | refuse | drain | drained | linger | despair | wait =>
    exact ⟨failed, nofun, same⟩

theorem Run.of_failed (r : Run d d') (failed : d.stream.failed = true)
    (calm : ∀ bytes rest, d.duty ≠ .pushing bytes rest) :
    d'.stream.failed = true ∧ (∀ bytes rest, d'.duty ≠ .pushing bytes rest) ∧
      d'.entered = d.entered := by
  induction r with
  | refl => exact ⟨failed, calm, rfl⟩
  | tail _ last ih =>
    obtain ⟨failed', calm', same⟩ := ih
    obtain ⟨failed'', calm'', same'⟩ := last.of_failed failed' calm'
    exact ⟨failed'', calm'', same'.trans same⟩

/-! ### Whole calls -/

/-- The device takes several samples. -/
theorem run_take (n : Nat) (s : Stream) (duty : Duty) (calls : List Answered)
    (played : List Sample) : Run ⟨s, duty, calls, played⟩
      ⟨(s.take n).2, duty, calls, played ++ (s.take n).1⟩ := by
  induction n generalizing s played with
  | zero => simpa [Stream.take, Ring.popMany] using .refl
  | succ n ih =>
    simp only [Stream.take, Ring.popMany]
    split
    · simpa using .refl
    · rename_i sample ring popped
      have rest := ih { s with ring } (played ++ [sample])
      simp only [Stream.take, List.append_assoc, List.singleton_append] at rest
      exact .head (.take popped) rest

theorem writeTurns_of_failed {sample : Sample} {fuel : Nat} {taken : List Sample}
    (failed : s.failed = true) : s.writeTurns (fuel + 1) (sample :: rest) taken takes =
      (some (.failed Stream.failure), taken, takes, s) := by
  simp [Stream.writeTurns, Stream.offer, failed]

theorem writeTurns_of_sane {sample : Sample} {fuel : Nat} {taken : List Sample}
    (sane : s.failed = false) : s.writeTurns (fuel + 1) (sample :: rest) taken takes =
      let t := { s with ring := (s.ring.push (sample :: rest)).2 }
      let left := (sample :: rest).drop (s.ring.push (sample :: rest)).1
      if left = [] then (some .done, taken, takes, t)
      else if takes = 0 then (none, taken, takes, t)
      else (t.take 1).2.writeTurns fuel left (taken ++ (t.take 1).1) (takes - 1) := by
  simp only [Stream.writeTurns, Stream.offer, sane, Bool.false_eq_true, if_false]
  cases left : (sample :: rest).drop (s.ring.push (sample :: rest)).1 <;> simp

/-- The turns of a write, if it comes to its end. -/
theorem run_writeTurns (bytes : List UInt8) (calls : List Answered) (played taken : List Sample)
    {fuel : Nat} (ends : (s.writeTurns fuel rest taken takes).1 = some answer) :
    Run ⟨s, .writing bytes rest, calls, played ++ taken⟩
      ⟨(s.writeTurns fuel rest taken takes).2.2.2, .idle, calls ++ [.write bytes answer],
        played ++ (s.writeTurns fuel rest taken takes).2.1⟩ := by
  have written (s : Stream) (taken : List Sample) (ends : some Reply.done = some answer) :
      Run ⟨s, .writing bytes [], calls, played ++ taken⟩
        ⟨s, .idle, calls ++ [.write bytes answer], played ++ taken⟩ := by
    obtain rfl := Option.some.inj ends
    exact .single (.written rfl)
  induction fuel generalizing s rest taken takes with
  | zero =>
    cases rest with
    | nil => exact written s taken ends
    | cons => simp [Stream.writeTurns] at ends
  | succ fuel ih =>
    cases rest with
    | nil => exact written s taken ends
    | cons sample rest =>
      cases failed : s.failed
      · have pushed : Run ⟨s, .writing bytes (sample :: rest), calls, played ++ taken⟩
            ⟨{ s with ring := (s.ring.push (sample :: rest)).2 },
              .writing bytes ((sample :: rest).drop (s.ring.push (sample :: rest)).1), calls,
              played ++ taken⟩ :=
          .tail (.single (.clear rfl (List.cons_ne_nil _ _) failed)) (.push rfl)
        refine pushed.trans ?_
        rw [writeTurns_of_sane failed] at ends ⊢
        dsimp only at ends ⊢
        split at ends
        · rename_i none
          rw [if_pos none, none]
          exact written _ taken ends
        · rename_i some
          split at ends
          · cases ends
          · rename_i more
            rw [if_neg some, if_neg more]
            -- The write waits until the device has taken a sample.
            refine .trans (run_take 1 ..) ?_
            rw [List.append_assoc]
            exact ih _ ends
      · rw [writeTurns_of_failed failed] at ends ⊢
        obtain rfl := Option.some.inj ends
        exact .single (.refuse rfl (List.cons_ne_nil _ _) failed)

/-- A write that comes to its end is a run. -/
theorem run_write (ends : (s.write bytes takes).1 = some answer) :
    Run ⟨s, .idle, calls, played⟩ ⟨(s.write bytes takes).2.2, .idle,
      calls ++ [.write bytes answer], played ++ (s.write bytes takes).2.1⟩ := by
  have turns := run_writeTurns bytes calls played [] ends
  rw [List.append_nil] at turns
  refine .head (.write bytes rfl) (turns.trans ?_)
  simp only [Stream.write, ← List.append_assoc]
  exact run_take ..

/-- A drain that comes to its end is a run. -/
theorem run_drain (ends : (s.drain takes).1 = some answer) :
    Run ⟨s, .idle, calls, played⟩ ⟨(s.drain takes).2.2, .idle, calls ++ [.drain answer],
      played ++ (s.drain takes).2.1⟩ := by
  refine .head (.drain rfl) ?_
  simp only [Stream.drain] at ends ⊢
  split at ends
  · rename_i empty
    obtain rfl := Option.some.inj ends
    rw [if_pos empty]
    exact .head (.drained rfl empty) (run_take ..)
  · rename_i some
    rw [if_neg some]
    split at ends
    · rename_i failed
      obtain rfl := Option.some.inj ends
      rw [if_pos failed]
      exact .head (.linger rfl some) (.head (.despair rfl failed) (run_take ..))
    · rename_i sane
      rw [if_neg sane]
      split at ends
      · cases ends
      · rename_i enough
        obtain rfl := Option.some.inj ends
        rw [if_neg enough]
        -- The device has taken all there was when the caller looks again.
        have empty : (s.take takes).2.ring.available = 0 := by
          rw [← Ring.contents_eq_nil_iff]
          change (Ring.popMany takes s.ring).2.contents = []
          rw [(Ring.popMany_eq takes s.ring).2, List.drop_eq_nil_iff, Ring.length_contents]
          omega
        exact (run_take ..).tail (.drained rfl empty)

/-! ### What the device plays -/

/-- An answer ends a call. A write succeeds only with nothing left, and a drain only when the ring
is empty. -/
theorem Step.of_answered {call : Answered} (t : Step d d') (more : d'.calls = d.calls ++ [call]) :
    d' = d.answered call ∧ (∀ bytes, call = .write bytes .done → d.duty = .writing bytes []) ∧
      (call = .drain .done → d.stream.ring.available = 0) := by
  cases t with
  | take | fail | write | clear | push | drain | linger | wait => simp at more
  | refuse | despair =>
    obtain rfl := List.singleton_inj.mp (List.append_cancel_left more)
    exact ⟨rfl, nofun, nofun⟩
  | written writing =>
    obtain rfl := List.singleton_inj.mp (List.append_cancel_left more)
    refine ⟨rfl, fun bytes same => ?_, nofun⟩
    cases same
    exact writing
  | drained draining empty =>
    obtain rfl := List.singleton_inj.mp (List.append_cancel_left more)
    exact ⟨rfl, nofun, fun _ => empty⟩

/-- Take any run of a stream that was opened with an empty ring. What was played, followed by what
is in the ring, is at every moment what the calls gave, one after the other: all its samples for a
write that succeeded, some from the front for one that failed or is under way, and nothing for a
drain.

A write succeeds only with all its samples in the ring, behind everything else, and a drain only
with the ring empty. After a failure no write adds a sample but the one that was under way. -/
theorem Run.conservation {capacity : Nat} {format : OutputFormat} {collapses : Bool}
    (run : Run (opened { ring := .make capacity, format, collapses }) d) :
    (∃ given part, List.Forall₂ (Answered.Gave format) d.calls given ∧ d.duty.Gave format part ∧
      d.entered = given.flatten ++ part) ∧
    (∀ bytes d', Step d d' → d'.calls = d.calls ++ [.write bytes .done] →
      format.decode bytes <:+ d'.entered) ∧
    (∀ d', Step d d' → d'.calls = d.calls ++ [.drain .done] → d'.stream.ring.contents = []) ∧
    (d.stream.failed = true → d.duty.writes = false → ∀ d', Run d d' →
      d'.entered = d.entered) := by
  have kept := (kept_opened (Ring.contents_make capacity)).run run
  have formats : d.stream.format = format := run.format_eq
  refine ⟨?_, fun bytes d' t more => ?_, fun d' t more => ?_, fun failed calm d' rest => ?_⟩
  · rw [Kept, formats] at kept
    exact kept
  · -- A write with nothing left has given all its samples, after everything else.
    obtain ⟨rfl, writing, -⟩ := t.of_answered more
    obtain ⟨given, part, -, during, entered⟩ := kept
    rw [writing bytes rfl, formats] at during
    obtain rfl : part = format.decode bytes := by simpa [Duty.Gave] using during
    exact ⟨given.flatten, entered.symm⟩
  · obtain ⟨rfl, -, empty⟩ := t.of_answered more
    exact Ring.contents_eq_nil_iff.mpr (empty rfl)
  · refine (rest.of_failed failed fun bytes left pushing => ?_).2.2
    rw [pushing] at calm
    cases calm

/-- Two samples and a part of a third pass through a ring with room for one. -/
theorem conservation_narrow :
    let s : Stream := { ring := .make 2, format := ⟨44100, .float, 32⟩ }
    let bytes : List UInt8 := [1, 0, 0, 0, 2, 0, 0, 0, 3]
    ∃ d, Run (opened s) d ∧ d.calls = [.write bytes .done] ∧ d.entered = [⟨1⟩, ⟨2⟩] := by
  intro s bytes
  have ends : (s.write bytes 1).1 = some .done := by decide
  have run : Run (opened s) _ := run_write ends
  obtain ⟨⟨given, part, gave, none, entered⟩, -⟩ := Run.conservation run
  refine ⟨_, run, rfl, ?_⟩
  obtain _ | ⟨all, _ | _⟩ := gave
  obtain rfl : part = [] := none
  rw [entered, all]
  decide

end Delivery

end SamplePlayer
