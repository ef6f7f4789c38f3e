import SamplePlayer.Proofs.Loading
import SamplePlayer.Proofs.Playback.Sessions
import SamplePlayer.Proofs.Stream
import SamplePlayer.Proofs.Wave.Words

/-!
# The shift of a worker

A worker looks whether it is to go on, mixes a buffer, hands out the events and writes the buffer,
over and over. Between any two of these steps a caller may make requests, listeners may come and
go, and the worker may be told to stop, which it sees when it looks the next time. Any call on the
output may fail. A run is any sequence of such steps; an operation that never comes back leaves the
worker where it is.

## Main definitions

* `Use`: a call on the output with its answer.
* `Shift`, `Shift.start`: a worker at one point of its work, and at the first.
* `Shift.Work`, `Shift.Aside`, `Shift.Run`: steps of the worker, of others, and any number of them.
* `Shift.Served`: the calls of a whole shift.

## Main results

* `Shift.Run.contract`: what the output and the listeners can rely on.
* `Shift.run_ending`: once it has left the loop the worker comes to its end.
* `Playback.run_opening`, `Playback.run_pump`, `Playback.run_close`: playing a clip is such a run.
-/

namespace SamplePlayer

/-! ### What mailboxes take in -/

namespace Listeners

/-- Mailboxes were only added to: each took in more events, if any. -/
def Grows (l m : Listeners) : Prop :=
  ∀ (w : ListenerId) (box : Mailbox), l.mailboxes[w]? = some box →
    ∃ more : List Event, m.mailboxes[w]? = some (more.foldl Mailbox.hear box)

variable {l m n : Listeners}

theorem Grows.refl (l : Listeners) : l.Grows l := fun _ _ found => ⟨[], found⟩

theorem Grows.trans (first : l.Grows m) (second : m.Grows n) : l.Grows n := by
  intro w box found
  obtain ⟨more, found⟩ := first w box found
  obtain ⟨rest, found⟩ := second w _ found
  exact ⟨more ++ rest, by rw [found, List.foldl_append]⟩

/-- However often a listener is registered, its mailbox takes in events of the queue only. -/
theorem grows_deliver (l : Listeners) : l.Grows l.deliver := by
  suffices announced : ∀ (events : List Event) (mailboxes : Array Mailbox) (w : ListenerId)
      (box : Mailbox), mailboxes[w]? = some box → ∃ more : List Event,
        (events.foldl (announce · l.registered) mailboxes)[w]? =
          some (more.foldl Mailbox.hear box) from announced l.pending l.mailboxes
  intro events
  induction events with
  | nil => exact fun _ _ _ found => ⟨[], found⟩
  | cons e events ih =>
    intro mailboxes w box found
    have once := getElem?_announce mailboxes l.registered e (w := w)
    rw [found, Option.map_some] at once
    obtain ⟨more, found⟩ := ih _ w _ once
    refine ⟨List.replicate (l.registered.count w) e ++ more, ?_⟩
    have rounds (k : Nat) (box : Mailbox) :
        (List.replicate k e).foldl Mailbox.hear box = (Mailbox.hear · e)^[k] box := by
      induction k generalizing box with
      | zero => rfl
      | succ k ih => rw [List.replicate_succ, List.foldl_cons, ih, Function.iterate_succ_apply]
    rw [List.foldl_cons, found, List.foldl_append, rounds]

theorem Voiced.grows (h : l.Voiced m) : l.Grows m := by
  induction h with
  | refl => exact .refl l
  | post _ _ ih => exact ih
  | deliver _ ih => exact ih.trans (grows_deliver _)

theorem grows_add (l : Listeners) (box : Mailbox) : l.Grows (l.add box).2 := by
  intro w own found
  have inside : w < l.mailboxes.size := (Array.getElem?_eq_some_iff.mp found).1
  refine ⟨[], ?_⟩
  change (l.mailboxes.push box)[w]? = some own
  rw [Array.getElem?_push, if_neg inside.ne, found]

/-- The queue and the events behind it are handed out. -/
theorem mailbox_deliver_postAll {w : ListenerId} (once : l.registered.count w = 1) {box : Mailbox}
    (found : l.mailboxes[w]? = some box) (events : List Event) :
    (l.postAll events).deliver.mailboxes[w]? =
      some ((l.pending ++ events).foldl Mailbox.hear box) := by
  change ((l.pending ++ events).foldl (announce · l.registered) l.mailboxes)[w]? = _
  rw [getElem?_foldl_announce once, found, Option.map_some]

end Listeners

theorem Request.grows_after (r : Request) (c : Clip) : c.listeners.Grows (r.after c).listeners := by
  have grows := (r.voiced_call c).grows
  cases r <;> simpa only [call, after, on_quietly] using grows

/-! ### The length of buffers -/

namespace Mixer

variable {m : Mixer}

theorem size_mixVoice (sofar : Progress) (id : VoiceId) :
    (m.mixVoice sofar id).buffer.size = sofar.buffer.size := by
  unfold mixVoice
  split
  · rfl
  · split
    · exact size_overlay ..
    · rfl

/-- A mix has as many samples as were asked for. -/
theorem length_mix (m : Mixer) (count : Nat) (pool : Pool) :
    (m.mix count pool).1.length = count := by
  have size (ids : List VoiceId) (sofar : Progress) :
      (ids.foldl m.mixVoice sofar).buffer.size = sofar.buffer.size := by
    induction ids generalizing sofar with
    | nil => rfl
    | cons id ids ih => rw [List.foldl_cons, ih, size_mixVoice]
  rw [mix, spread, List.length_append, length_interleave, Array.length_toList, mixVoices, size,
    Array.size_replicate, List.length_replicate]
  omega

end Mixer

namespace OutputFormat

variable {rate : UInt32} {encoding : Encoding} {bits : UInt16} {format : OutputFormat}

/-- The width of a format that was accepted is that of its samples in a buffer. -/
theorem bytesPerSample_of_make (accepted : make rate encoding bits = .ok format) :
    format.bytesPerSample = format.encoding.stride := by
  unfold make at accepted
  split at accepted
  · cases accepted
  · split at accepted
    · rename_i width
      cases accepted
      rw [bytesPerSample, width]
      cases encoding <;> simp [Encoding.width, Encoding.stride]
    · cases accepted

/-- A buffer of so many frames takes as many bytes as the format says. -/
theorem length_encode_mix (accepted : make rate encoding bits = .ok format) (m : Mixer)
    (frames : Nat) (pool : Pool) :
    (format.encode (m.mix (frames * channels) pool).1).length = frames * format.bytesPerFrame := by
  rw [length_encode, m.length_mix, bytesPerFrame, bytesPerSample_of_make accepted]
  ring

end OutputFormat

/-! ### The worker -/

/-- A call on the output, with its answer. -/
inductive Use where
  | opening (format : OutputFormat) (frames : Nat) (answer : Reply)
  | write (buffer : List UInt8) (answer : Reply)
  | drain (answer : Reply)
  | close (answer : Reply)
deriving DecidableEq, Repr

/-- Where a worker is. -/
inductive Shift.Stage where
  /-- It looks whether it is to go on. -/
  | looking
  /-- It is about to write a buffer, the mix of the clip as it was `before`. -/
  | holding (before : Clip) (buffer : List UInt8)
  /-- It has left the loop. -/
  | left
  /-- It is about to let go of the output. -/
  | closing
  /-- It is about to hand out the events that are left. -/
  | closed
  /-- It is gone. -/
  | ended

/-- A clip, and a worker that plays it to an output of the kind `σ`. -/
structure Shift (σ ω : Type) where
  clip : Clip
  /-- What the output was opened for. -/
  format : OutputFormat
  frames : Nat
  output : σ
  surroundings : ω
  /-- The worker was not told to stop. -/
  running : Bool := true
  /-- A write failed. -/
  faulted : Bool := false
  stage : Shift.Stage := .looking
  /-- The calls on the output so far. -/
  uses : List Use

namespace Shift

variable {σ ω : Type} {io : OutputInterface σ ω} {s s' : Shift σ ω}

/-- Takes hold of an output and begins, if the output can be had. -/
def start (io : OutputInterface σ ω) (c : Clip) (output : σ) (surroundings : ω) :
    Option (Shift σ ω) :=
  match io.opening c.format c.bufferFrames output surroundings with
  | (.done, output, surroundings) => some {
    clip := c, format := c.format, frames := c.bufferFrames, output, surroundings
    uses := [.opening c.format c.bufferFrames .done] }
  | _ => none

/-- What can be said of the worker. -/
def state (s : Shift σ ω) : WorkerState :=
  if s.faulted then .faulted else if s.running then .running else .stopped

/-- How many samples are mixed at a time. -/
def count (s : Shift σ ω) : Nat := s.frames * OutputFormat.channels

/-- A step of the worker. -/
inductive Work (io : OutputInterface σ ω) (s : Shift σ ω) : Shift σ ω → Prop
  -- The loop.
  | mix (looking : s.stage = .looking) (running : s.running = true) : Work io s { s with
      clip := (s.clip.changed (s.clip.mix s.count).2.2.pool (s.clip.mix s.count).2.1).delivered
      stage := .holding s.clip (s.format.encode (s.clip.mix s.count).1) }
  | write {before : Clip} {buffer : List UInt8} {output : σ} {surroundings : ω}
      (holding : s.stage = .holding before buffer)
      (wrote : io.write buffer s.output s.surroundings = (.done, output, surroundings)) :
    Work io s { s with
      output, surroundings, stage := .looking, uses := s.uses ++ [.write buffer .done] }
  | fail {before : Clip} {buffer : List UInt8} {e : OutputError} {output : σ} {surroundings : ω}
      (holding : s.stage = .holding before buffer)
      (failed : io.write buffer s.output s.surroundings = (.failed e, output, surroundings)) :
    Work io s { s with
      output, surroundings, faulted := true, stage := .left
      uses := s.uses ++ [.write buffer (.failed e)] }
  | leave (looking : s.stage = .looking) (stopped : s.running = false) :
    Work io s { s with stage := .left }
  -- The way out.
  | drain {answer : Reply} {output : σ} {surroundings : ω} (left : s.stage = .left)
      (sane : s.faulted = false) (back : answer ≠ .crashed)
      (drained : io.drain s.output s.surroundings = (answer, output, surroundings)) :
    Work io s { s with
      output, surroundings, stage := .closing, uses := s.uses ++ [.drain answer] }
  | skip (left : s.stage = .left) (faulted : s.faulted = true) :
    Work io s { s with stage := .closing }
  | close {answer : Reply} {output : σ} {surroundings : ω} (closing : s.stage = .closing)
      (back : answer ≠ .crashed)
      (closed : io.close s.output s.surroundings = (answer, output, surroundings)) :
    Work io s { s with
      output, surroundings, stage := .closed, uses := s.uses ++ [.close answer] }
  | finish (closed : s.stage = .closed) :
    Work io s { s with clip := s.clip.delivered, running := false, stage := .ended }

/-- A step of somebody else. -/
inductive Aside (s : Shift σ ω) : Shift σ ω → Prop
  | request (r : Request) : Aside s { s with clip := r.after s.clip }
  | emit (e : Event) :
    Aside s { s with clip := { s.clip with listeners := s.clip.listeners.emit e } }
  | addListener (box : Mailbox) : Aside s { s with clip := (s.clip.addListener box).2 }
  | removeListener (id : ListenerId) : Aside s { s with clip := (s.clip.removeListener id).2 }
  | stop : Aside s { s with running := false }

/-- A step while the worker is there. -/
inductive Step (io : OutputInterface σ ω) (s s' : Shift σ ω) : Prop
  | work (work : Work io s s')
  | aside (there : s.stage ≠ .ended) (aside : Aside s s')

/-- Any number of steps. -/
def Run (io : OutputInterface σ ω) : Shift σ ω → Shift σ ω → Prop :=
  Relation.ReflTransGen (Step io)

/-- The calls of a whole shift: the opening, writes of whole buffers, and then the drain and the
close, or, after a write that failed, the close alone. -/
inductive Served (format : OutputFormat) (frames : Nat) : List Use → Prop
  | stopped (written : List (List UInt8))
      (whole : ∀ buffer ∈ written, buffer.length = frames * format.bytesPerFrame)
      (drained closed : Reply) :
    Served format frames (.opening format frames .done :: written.map (.write · .done) ++
      [.drain drained, .close closed])
  | faulted (written : List (List UInt8)) (lost : List UInt8)
      (whole : ∀ buffer ∈ written ++ [lost], buffer.length = frames * format.bytesPerFrame)
      (e : OutputError) (closed : Reply) :
    Served format frames (.opening format frames .done :: written.map (.write · .done) ++
      [.write lost (.failed e), .close closed])

theorem Served.of_fits {format : OutputFormat} {frames : Nat} {written : List (List UInt8)}
    {lost : List UInt8} (whole : ∀ buffer ∈ written, buffer.length = frames * format.bytesPerFrame)
    (fits : lost.length = frames * format.bytesPerFrame) (e : OutputError) (closed : Reply) :
    Served format frames (.opening format frames .done :: written.map (.write · .done) ++
      [.write lost (.failed e), .close closed]) :=
  .faulted written lost
    (List.forall_mem_append.mpr ⟨whole, List.forall_mem_singleton.mpr fits⟩) e closed

/-- The buffer that the worker holds is the mix of the clip as it was `before`, and whoever was
registered was told the events of this mix, behind those that waited. -/
structure Held (s : Shift σ ω) (before : Clip) (buffer : List UInt8) : Prop where
  buffer_eq : buffer = s.format.encode (before.mix s.count).1
  length_eq : buffer.length = s.frames * s.format.bytesPerFrame
  told : ∀ w box, before.listeners.registered.count w = 1 →
    before.listeners.mailboxes[w]? = some box → ∃ more, s.clip.listeners.mailboxes[w]? =
      some ((before.listeners.pending ++ (before.mix s.count).2.1 ++ more).foldl Mailbox.hear box)

/-! ### What a run keeps -/

/-- The calls behind the writes that went through, when the worker is where it is. -/
inductive Tail (size : Nat) : Stage → (faulted : Bool) → List Use → Prop
  | looking : Tail size .looking false []
  | holding {before : Clip} {buffer : List UInt8} : Tail size (.holding before buffer) false []
  | left : Tail size .left false []
  | closing (drained : Reply) : Tail size .closing false [.drain drained]
  | closed (drained closed : Reply) : Tail size .closed false [.drain drained, .close closed]
  | ended (drained closed : Reply) : Tail size .ended false [.drain drained, .close closed]
  -- After a write that failed.
  | faultedLeft {lost : List UInt8} (whole : lost.length = size) (e : OutputError) :
    Tail size .left true [.write lost (.failed e)]
  | faultedClosing {lost : List UInt8} (whole : lost.length = size) (e : OutputError) :
    Tail size .closing true [.write lost (.failed e)]
  | faultedClosed {lost : List UInt8} (whole : lost.length = size) (e : OutputError)
      (closed : Reply) : Tail size .closed true [.write lost (.failed e), .close closed]
  | faultedEnded {lost : List UInt8} (whole : lost.length = size) (e : OutputError)
      (closed : Reply) : Tail size .ended true [.write lost (.failed e), .close closed]

/-- The calls are in order. -/
def Ordered (s : Shift σ ω) : Prop :=
  ∃ (written : List (List UInt8)) (tail : List Use),
    (∀ buffer ∈ written, buffer.length = s.frames * s.format.bytesPerFrame) ∧
    s.uses = .opening s.format s.frames .done :: written.map (.write · .done) ++ tail ∧
    Tail (s.frames * s.format.bytesPerFrame) s.stage s.faulted tail

/-- What every run of a worker keeps. -/
structure Kept (s : Shift σ ω) : Prop where
  ordered : s.Ordered
  held : ∀ before buffer, s.stage = .holding before buffer → s.Held before buffer
  ended : s.stage = .ended → s.running = false ∧ s.clip.listeners.pending = []

variable {rate : UInt32} {encoding : Encoding} {bits : UInt16}

theorem Ordered.aside (h : s.Ordered) (step : Aside s s') : s'.Ordered := by
  cases step <;> exact h

/-- A step of the worker adds the call that it makes. -/
theorem Ordered.work (h : s.Ordered) (held : ∀ before buffer, s.stage = .holding before buffer →
    s.Held before buffer) (step : Work io s s') : s'.Ordered := by
  obtain ⟨written, tail, whole, uses, place⟩ := h
  obtain ⟨clip, format, frames, output, surroundings, running, faulted, stage, calls⟩ := s
  cases step with
  | mix looking running =>
    cases looking
    cases place
    exact ⟨written, [], whole, uses, .holding⟩
  | @write before buffer output surroundings holding wrote =>
    -- The buffer joins those that went through.
    cases holding
    cases place
    refine ⟨written ++ [buffer], [], ?_, ?_, .looking⟩
    · exact List.forall_mem_append.mpr
        ⟨whole, List.forall_mem_singleton.mpr (held before buffer rfl).length_eq⟩
    · simp only at uses
      simp [uses]
  | @fail before buffer e output surroundings holding failed =>
    cases holding
    cases place
    refine ⟨written, _, whole, ?_, .faultedLeft (held before buffer rfl).length_eq e⟩
    simp only at uses
    simp [uses]
  | leave looking stopped =>
    cases looking
    cases place
    exact ⟨written, [], whole, uses, .left⟩
  | @drain answer output surroundings left sane back drained =>
    cases left
    cases sane
    cases place
    refine ⟨written, _, whole, ?_, .closing answer⟩
    simp only at uses
    simp [uses]
  | skip left faulted =>
    cases left
    cases faulted
    cases place with
    | faultedLeft fits e => exact ⟨written, _, whole, uses, .faultedClosing fits e⟩
  | @close answer output surroundings closing back closed =>
    cases closing
    simp only at uses
    cases place with
    | closing drained => exact ⟨written, _, whole, by simp [uses], .closed drained answer⟩
    | faultedClosing fits e =>
      exact ⟨written, _, whole, by simp [uses], .faultedClosed fits e answer⟩
  | finish closed =>
    cases closed
    cases place with
    | closed drained closed => exact ⟨written, _, whole, uses, .ended drained closed⟩
    | faultedClosed fits e closed => exact ⟨written, _, whole, uses, .faultedEnded fits e closed⟩

/-- What was told stays told, whatever else mailboxes take in. -/
theorem Held.grows {before : Clip} {buffer : List UInt8} (h : s.Held before buffer)
    (format : s'.format = s.format) (frames : s'.frames = s.frames)
    (grows : s.clip.listeners.Grows s'.clip.listeners) : s'.Held before buffer := by
  have count : s'.count = s.count := by rw [Shift.count, frames, Shift.count]
  refine ⟨by rw [h.buffer_eq, format, count], by rw [h.length_eq, format, frames], ?_⟩
  intro w box once found
  obtain ⟨more, told⟩ := h.told w box once found
  obtain ⟨rest, grown⟩ := grows w _ told
  refine ⟨more ++ rest, ?_⟩
  rw [grown, ← List.foldl_append, count, List.append_assoc _ more]

theorem Aside.grows (step : Aside s s') : s.clip.listeners.Grows s'.clip.listeners := by
  cases step with
  | request r => exact r.grows_after s.clip
  | emit e => exact (s.clip.listeners.post e).grows_deliver
  | addListener box => exact s.clip.listeners.grows_add box
  | removeListener | stop => exact .refl _

namespace Kept

theorem aside (h : s.Kept) (there : s.stage ≠ .ended) (step : Aside s s') : s'.Kept where
  ordered := h.ordered.aside step
  held before buffer holding := by
    have grows := step.grows
    cases step <;> exact (h.held before buffer holding).grows rfl rfl grows
  ended := by cases step <;> exact fun ended => absurd ended there

theorem work (accepted : OutputFormat.make rate encoding bits = .ok s.format) (h : s.Kept)
    (step : Work io s s') : s'.Kept where
  ordered := h.ordered.work h.held step
  held before buffer holding := by
    cases step with
    | mix looking running =>
      cases holding
      refine ⟨rfl, s.format.length_encode_mix accepted .., fun w box once found => ⟨[], ?_⟩⟩
      rw [List.append_nil]
      exact Listeners.mailbox_deliver_postAll once found _
    | write | fail | leave | drain | skip | close | finish => cases holding
  ended ended := by
    cases step with
    | finish => exact ⟨rfl, rfl⟩
    | mix | write | fail | leave | drain | skip | close => cases ended

theorem run (accepted : OutputFormat.make rate encoding bits = .ok s.format) (h : s.Kept)
    (r : Run io s s') : s'.Kept ∧ s'.format = s.format ∧ s'.frames = s.frames := by
  induction r with
  | refl => exact ⟨h, rfl, rfl⟩
  | tail _ last ih =>
    obtain ⟨kept, format, frames⟩ := ih
    cases last with
    | work work =>
      refine ⟨kept.work (format ▸ accepted) work, ?_, ?_⟩ <;> cases work <;> assumption
    | aside there aside =>
      refine ⟨kept.aside there aside, ?_, ?_⟩ <;> cases aside <;> assumption

end Kept

/-- The calls so far are the beginning of those of a whole shift. -/
theorem Ordered.prefix_served (h : s.Ordered) :
    ∃ all, Served s.format s.frames all ∧ s.uses <+: all := by
  obtain ⟨written, tail, whole, uses, place⟩ := h
  rw [uses]
  generalize s.stage = stage, s.faulted = faulted at place
  cases place with
  | looking | holding | left =>
    exact ⟨_, .stopped written whole .done .done,
      (List.prefix_append_right_inj _).mpr List.nil_prefix⟩
  | closing drained =>
    exact ⟨_, .stopped written whole drained .done, (List.prefix_append_right_inj _).mpr ⟨_, rfl⟩⟩
  | closed drained closed | ended drained closed =>
    exact ⟨_, .stopped written whole drained closed, List.prefix_rfl⟩
  | faultedLeft fits e | faultedClosing fits e =>
    exact ⟨_, .of_fits whole fits e .done, (List.prefix_append_right_inj _).mpr ⟨_, rfl⟩⟩
  | faultedClosed fits e closed | faultedEnded fits e closed =>
    exact ⟨_, .of_fits whole fits e closed, List.prefix_rfl⟩

/-- At the end the calls are those of a whole shift, and they tell whether the worker faulted. -/
theorem Ordered.served (h : s.Ordered) (ended : s.stage = .ended) :
    Served s.format s.frames s.uses ∧
      (s.faulted = true ↔ ∃ buffer e, Use.write buffer (.failed e) ∈ s.uses) := by
  obtain ⟨written, tail, whole, uses, place⟩ := h
  rw [uses]
  generalize s.faulted = faulted at place ⊢
  rw [ended] at place
  cases place with
  | ended drained closed =>
    exact ⟨.stopped written whole drained closed, by simp⟩
  | @faultedEnded lost fits e closed =>
    exact ⟨.of_fits whole fits e closed, by simp⟩

theorem kept_start {c : Clip} {output : σ} {surroundings : ω}
    (begun : start io c output surroundings = some s) :
    s.Kept ∧ s.clip = c ∧ s.format = c.format ∧ s.frames = c.bufferFrames := by
  unfold start at begun
  split at begun
  · cases begun
    exact ⟨⟨⟨[], [], by simp, rfl, .looking⟩, nofun, nofun⟩, rfl, rfl, rfl⟩
  · cases begun

/-- Take a worker that was started on any clip, with a format that can be used, and whatever the
output answers, callers do and the moment is at which it is told to stop. The calls on the output
are those of a whole shift, or their beginning as long as the worker is there. When a buffer is
about to be written, the events of its mix were handed out to everybody who was registered. At the
end no event waits, and the worker faulted if a write failed and is stopped otherwise. -/
theorem Run.contract {c : Clip} {output : σ} {surroundings : ω} {s₀ : Shift σ ω}
    (accepted : OutputFormat.make rate encoding bits = .ok c.format)
    (begun : start io c output surroundings = some s₀) (run : Run io s₀ s) :
    (∃ all, Served c.format c.bufferFrames all ∧ s.uses <+: all) ∧
    (∀ before buffer, s.stage = .holding before buffer → s.Held before buffer) ∧
    (s.stage = .ended → Served c.format c.bufferFrames s.uses ∧ s.clip.listeners.pending = [] ∧
      (s.state = .faulted ↔ ∃ buffer e, Use.write buffer (.failed e) ∈ s.uses) ∧
      (s.state = .stopped ↔ ¬ ∃ buffer e, Use.write buffer (.failed e) ∈ s.uses)) := by
  obtain ⟨kept, -, format, frames⟩ := kept_start begun
  obtain ⟨kept, format', frames'⟩ := kept.run (format ▸ accepted) run
  rw [← format, ← frames, ← format', ← frames']
  refine ⟨kept.ordered.prefix_served, kept.held, fun ended => ?_⟩
  obtain ⟨served, faulted⟩ := kept.ordered.served ended
  obtain ⟨stopped, handed⟩ := kept.ended ended
  rw [← faulted, state, stopped]
  refine ⟨served, handed, ?_⟩
  cases s.faulted <;> simp

/-! ### The way out -/

/-- Outputs of a kind on which draining and closing come back, with or without success. -/
structure Returns (io : OutputInterface σ ω) (kind : σ → Prop) : Prop where
  write : ∀ buffer output surroundings, kind output →
    kind (io.write buffer output surroundings).2.1
  drain : ∀ output surroundings, kind output → (io.drain output surroundings).1 ≠ .crashed ∧
    kind (io.drain output surroundings).2.1
  close : ∀ output surroundings, kind output → (io.close output surroundings).1 ≠ .crashed

variable {kind : σ → Prop}

/-- Once it has left the loop the worker comes to its end, and has handed out the events that were
left. -/
theorem run_ending (back : Returns io kind) (fits : kind s.output) (left : s.stage = .left) :
    ∃ s', Run io s s' ∧ s'.stage = .ended ∧ s'.faulted = s.faulted ∧
      s'.clip = s.clip.delivered := by
  -- The output is closed in the same way, whether it was drained before or not.
  have closing {r : Shift σ ω} (fits : kind r.output) (closing : r.stage = .closing) :
      ∃ r', Run io r r' ∧ r'.stage = .ended ∧ r'.faulted = r.faulted ∧
        r'.clip = r.clip.delivered := by
    rcases closed : io.close r.output r.surroundings with ⟨answer, output, surroundings⟩
    have close : answer ≠ .crashed := by
      simpa [closed] using back.close r.output r.surroundings fits
    have first : Run io r _ := .single (.work (.close closing close closed))
    exact ⟨_, first.tail (.work (.finish rfl)), rfl, rfl, rfl⟩
  cases faulted : s.faulted
  · rcases drained : io.drain s.output s.surroundings with ⟨answer, output, surroundings⟩
    obtain ⟨drain, still⟩ := back.drain s.output s.surroundings fits
    rw [drained] at drain still
    obtain ⟨s', run, ended, same, clip⟩ := closing (r := { s with
      output, surroundings, stage := .closing, uses := s.uses ++ [.drain answer] }) still rfl
    exact ⟨s', .head (.work (.drain left faulted drain drained)) run, ended,
      same.trans faulted, clip⟩
  · obtain ⟨s', run, ended, same, clip⟩ := closing (r := { s with stage := .closing }) fits rfl
    exact ⟨s', .head (.work (.skip left faulted)) run, ended, same.trans faulted, clip⟩

end Shift

/-! ### Playing a clip -/

namespace Playback

variable {σ ω : Type} {io : OutputInterface σ ω} {kind : σ → Prop} {p q : Playback σ ω}
  {s : Shift σ ω} {buffer : List UInt8}

/-- The worker of a shift in its loop is the one that plays the clip. -/
structure Beside (p : Playback σ ω) (s : Shift σ ω) : Prop where
  clip : s.clip = p.clip
  format : s.format = p.clip.format
  frames : s.frames = p.clip.bufferFrames
  output : p.output = some s.output
  surroundings : s.surroundings = p.surroundings
  running : s.running = true
  faulted : s.faulted = false

/-- It is about to write the buffer that waits. -/
structure Writes (p : Playback σ ω) (s : Shift σ ω) (buffer : List UInt8) : Prop
    extends p.Beside s where
  worker : p.worker = some (.writing buffer)
  stage : ∃ before, s.stage = .holding before buffer

/-- Mixing the next buffer is a step. -/
theorem Beside.mixNext (h : p.Beside s) (looking : s.stage = .looking) :
    ∃ s' buffer, Shift.Work io s s' ∧ p.mixNext.Writes s' buffer := by
  refine ⟨_, _, .mix looking h.running,
    ⟨?_, ?_, ?_, h.output, h.surroundings, h.running, h.faulted⟩, ?_, _, rfl⟩
  all_goals
    simp only [Shift.count, h.clip, h.format, h.frames]
    rfl

/-- What comes of a write that is accepted. -/
theorem Writes.write (h : p.Writes s buffer) {output : σ} {surroundings : ω}
    (wrote : io.write buffer s.output s.surroundings = (.done, output, surroundings)) :
    ∃ s', Shift.Work io s s' ∧ s'.stage = .looking ∧ s'.output = output ∧
      ∃ q, p.writeBuffer io buffer = (true, q) ∧ q.Beside s' := by
  obtain ⟨before, holding⟩ := h.stage
  refine ⟨_, .write holding wrote, rfl, rfl, { p with output := some output, surroundings }, ?_,
    h.clip, h.format, h.frames, rfl, rfl, h.running, h.faulted⟩
  simp only [writeBuffer, onOutput, h.output, ← h.surroundings, wrote]

/-- What comes of a write that fails. -/
theorem Writes.fail (back : Shift.Returns io kind) (fits : kind s.output) (h : p.Writes s buffer)
    {e : OutputError} {output : σ} {surroundings : ω}
    (failed : io.write buffer s.output s.surroundings = (.failed e, output, surroundings)) :
    ∃ s', Shift.Run io s s' ∧ s'.stage = .ended ∧ s'.faulted = true ∧
      ∃ q, p.writeBuffer io buffer = (false, q) ∧ q.worker = some .faulted ∧ q.clip = s'.clip := by
  obtain ⟨before, holding⟩ := h.stage
  have still := back.write buffer s.output s.surroundings fits
  rw [failed] at still
  obtain ⟨s', run, ended, faulted, clip⟩ := Shift.run_ending (s := { s with
    output, surroundings, faulted := true, stage := .left
    uses := s.uses ++ [.write buffer (.failed e)] }) back still rfl
  let q : Playback σ ω := { p with output := some output, surroundings }
  refine ⟨s', .head (.work (.fail holding failed)) run, ended, faulted,
    { q.finishWorker io with worker := some .faulted }, ?_, rfl, ?_⟩
  · simp only [writeBuffer, onOutput, h.output, ← h.surroundings, failed, q]
  · rw [clip, h.clip]
    rfl

/-- Opening a clip begins a shift, and the worker goes on to its first write. -/
theorem run_opening {output : σ} (opened : p.opening io output = (.done, q)) :
    ∃ s s' buffer, Shift.start io p.clip output p.surroundings = some s ∧ Shift.Run io s s' ∧
      q.Writes s' buffer := by
  unfold opening at opened
  split at opened
  · cases opened
  · simp only at opened
    split at opened
    · rename_i output' surroundings' taken
      obtain rfl := (Prod.mk.inj opened).2
      -- The listeners are told of the opening before the first buffer is mixed.
      let s : Shift σ ω := {
        clip := p.clip, format := p.clip.format, frames := p.clip.bufferFrames, output := output'
        surroundings := surroundings'
        uses := [.opening p.clip.format p.clip.bufferFrames .done] }
      have told : Shift.Run io s _ := .single (.aside (by simp [s]) (.emit .opened))
      have beside : (emit { p with
          output := some output', surroundings := surroundings', worker := some (.writing []) }
          .opened).Beside { s with
          clip := { s.clip with listeners := s.clip.listeners.emit .opened } } :=
        ⟨rfl, rfl, rfl, rfl, rfl, rfl, rfl⟩
      obtain ⟨s', buffer, work, writes⟩ := beside.mixNext rfl
      refine ⟨s, s', buffer, ?_, told.tail (.work work), writes⟩
      simp only [Shift.start, taken, s]
    · cases opened
    · cases opened

/-- Letting one write go through is a part of a shift, to the next write or to its end. -/
theorem run_pump (back : Shift.Returns io kind) (fits : kind s.output) (h : p.Writes s buffer)
    (survives : (io.write buffer s.output s.surroundings).1 ≠ .crashed) :
    ∃ s', Shift.Run io s s' ∧
      ((∃ next, (p.pump io).1 = some buffer ∧ (p.pump io).2.Writes s' next) ∨
        ((p.pump io).1 = none ∧ s'.stage = .ended ∧ s'.state = (p.pump io).2.state ∧
          (p.pump io).2.clip = s'.clip)) := by
  rcases answer : io.write buffer s.output s.surroundings with ⟨_ | e | _, output, surroundings⟩
  · obtain ⟨s₁, write, looking, -, q, wrote, beside⟩ := h.write answer
    obtain ⟨s', next, mix, writes⟩ := beside.mixNext looking
    refine ⟨s', .tail (.single (.work write)) (.work mix), .inl ⟨next, ?_⟩⟩
    simpa only [pump, h.worker, wrote, true_and] using writes
  · obtain ⟨s', run, ended, faulted, q, failed, worker, clip⟩ := h.fail back fits answer
    refine ⟨s', run, .inr ?_⟩
    simp [pump, h.worker, failed, ended, clip, Shift.state, faulted, state, worker, Worker.state]
  · simp [answer] at survives

/-- Closing a clip ends the shift, after the write of the buffer that waits. -/
theorem run_close (back : Shift.Returns io kind) (fits : kind s.output) (h : p.Writes s buffer)
    (survives : (io.write buffer s.output s.surroundings).1 ≠ .crashed) :
    ∃ s', Shift.Run io s s' ∧ s'.stage = .ended ∧ (p.close io).2.clip =
      { s'.clip with listeners := s'.clip.listeners.emit .closed } := by
  rcases answer : io.write buffer s.output s.surroundings with ⟨_ | e | _, output, surroundings⟩
  · obtain ⟨s₁, write, looking, after, q, wrote, beside⟩ := h.write answer
    have still := back.write buffer s.output s.surroundings fits
    rw [answer, ← after] at still
    -- The worker is told to stop before it looks again.
    have first : Shift.Run io s _ := .single (.work write)
    have told := first.tail (.aside (by simp [looking]) .stop)
    have leaves := told.tail (.work (.leave looking rfl))
    obtain ⟨s', run, ended, -, clip⟩ := Shift.run_ending back (s := { s₁ with
      running := false, stage := .left }) still rfl
    refine ⟨s', leaves.trans run, ended, ?_⟩
    have kept : ((q.onOutput io.drain).2.onOutput io.close).2.clip = s₁.clip := by
      rw [clip_onOutput, clip_onOutput, beside.clip]
    simp only [close, h.worker, wrote, emit, withClip, finishWorker, deliver, kept, clip]
    rfl
  · obtain ⟨s', run, ended, faulted, q, failed, worker, clip⟩ := h.fail back fits answer
    refine ⟨s', run, ended, ?_⟩
    simp only [close, h.worker, failed, emit, withClip, clip]
  · simp [answer] at survives

/-- Outputs without a device come back, even if they are made to fail. -/
theorem returns_memory : Shift.Returns ScriptedOutput.interface (∃ m, ·.output = .memory m) where
  write buffer output surroundings memory := by
    obtain ⟨m, memory⟩ := memory
    simp only [ScriptedOutput.interface, ScriptedOutput.write]
    split
    · exact ⟨m, memory⟩
    · split
      · exact ⟨m, memory⟩
      · exact ⟨(m.write? buffer).2, by simp [memory, Output.write]⟩
  drain output surroundings memory := by
    obtain ⟨m, memory⟩ := memory
    refine ⟨?_, m.drain.2, by simp [ScriptedOutput.interface, memory, Output.drain]⟩
    cases fails : output.failDrain <;>
      simp [ScriptedOutput.interface, ScriptedOutput.spoil, memory, Output.drain, fails,
        MemoryOutput.drain]
  close output surroundings memory := by
    obtain ⟨m, memory⟩ := memory
    cases fails : output.failClose <;>
      simp [ScriptedOutput.interface, ScriptedOutput.spoil, memory, Output.close, fails,
        MemoryOutput.close]

/-- The shift of a worker whose output fails at the first write. -/
theorem contract_tape : ∃ s₀ s : Shift ScriptedOutput Storage,
    Shift.start ScriptedOutput.interface ready.clip (tape (some 0)) {} = some s₀ ∧
      Shift.Run ScriptedOutput.interface s₀ s ∧ s.stage = .ended ∧
      Shift.Served default 2 s.uses ∧ s.state = .faulted := by
  have accepted : OutputFormat.make 44100 .int 16 = .ok ready.clip.format := by decide
  have opened : ready.opening ScriptedOutput.interface (tape (some 0)) = (.done, _) := rfl
  obtain ⟨s₀, s, buffer, begun, first, writes⟩ := run_opening opened
  have output : s.output = _ := Option.some.inj (writes.output.symm.trans rfl)
  have lost : (ScriptedOutput.interface.write buffer s.output s.surroundings).1 =
      .failed (.backend "write failed") := by
    rw [output]
    rfl
  obtain ⟨s', rest, ⟨next, went, -⟩ | ⟨-, ended, state, -⟩⟩ :=
    run_pump returns_memory ⟨_, by rw [output]⟩ writes (by simp [lost])
  · cases went
  · obtain ⟨-, -, last⟩ := Shift.Run.contract accepted begun (first.trans rest)
    exact ⟨s₀, s', begun, first.trans rest, ended, (last ended).1, state⟩

end Playback

end SamplePlayer
