import SamplePlayer.Proofs.Lifecycle
import SamplePlayer.Proofs.Playback.Deeds

/-!
# Sessions, as a listener hears of them

A session begins when a clip is opened and ends when it is closed. Both are told to the listeners
before the call returns. Whatever else is done to a clip, by requests, by mixing or by its worker,
tells them of voices only.

One end of a session is not told. If an output failed, its worker stays until the clip is closed or
opened again; and opening it again clears the worker away without a word. So a listener can hear of
a beginning twice in a row, or hear last of the beginning of a session that is over. It cannot hear
of an end without a beginning.

## Main definitions

* `Milestone`, `Event.milestones`: the beginnings and ends of sessions among events.
* `Listeners.heardBy`, `Playback.heard`: what a listener heard, and which milestones of it.
* `Listeners.Voiced`: listeners who were told of voices only.
* `Playback.Orderly`: the milestones alternate, and tell whether there is a worker.

## Main results

* `Request.voiced_call`, `Mixer.voice?_mix`: what only ever tells of voices.
* `Playback.sessions`: what a listener hears of sessions, and when that is in order.
-/

namespace SamplePlayer

/-- One of the two ends of a session. -/
inductive Milestone where
  | opened
  | closed
deriving DecidableEq, Repr

namespace Event

/-- The end of a session that an event tells of. -/
def milestone? : Event → Option Milestone
  | opened => some .opened
  | closed => some .closed
  | voice .. => none

/-- The beginnings and ends of sessions among events, in order. -/
def milestones (events : List Event) : List Milestone := events.filterMap milestone?

@[simp] theorem milestones_append (xs ys : List Event) :
    milestones (xs ++ ys) = milestones xs ++ milestones ys :=
  List.filterMap_append ..

theorem milestones_eq_nil {events : List Event} (about : ∀ e ∈ events, e.voice?.isSome) :
    milestones events = [] := by
  rw [milestones, List.filterMap_eq_nil_iff]
  intro e member
  have voiced := about e member
  cases e with
  | opened | closed => simp [voice?] at voiced
  | voice what id place => rfl

end Event

/-! ### What listeners are told -/

namespace Listeners

/-- The events that a listener heard, in order. -/
def heardBy (l : Listeners) (w : ListenerId) : List Event :=
  (l.mailboxes[w]?.map fun box => box.heard.toList).getD []

/-- Nothing but events about voices was queued, and the queue was handed out now and then. -/
inductive Voiced (l : Listeners) : Listeners → Prop
  | refl : Voiced l l
  | post {m : Listeners} {events : List Event} (before : Voiced l m)
      (about : ∀ e ∈ events, e.voice?.isSome) : Voiced l (m.postAll events)
  | deliver {m : Listeners} (before : Voiced l m) : Voiced l m.deliver

/-- The listener `w` hears everything, and these milestones are all that there were. -/
structure Told (l : Listeners) (w : ListenerId) (ms : List Milestone) : Prop where
  recording : l.Recording w
  heard : Event.milestones (l.heardBy w) = ms
  pending : Event.milestones l.pending = []

variable {l m n : Listeners} {w : ListenerId} {ms : List Milestone}

theorem Voiced.trans (first : l.Voiced m) (second : m.Voiced n) : l.Voiced n := by
  induction second with
  | refl => exact first
  | post _ about ih => exact ih.post about
  | deliver _ ih => exact ih.deliver

/-- Handing out the queue puts it behind what the listener heard before. -/
theorem Recording.heardBy_deliver (h : l.Recording w) :
    l.deliver.heardBy w = l.heardBy w ++ l.pending := by
  obtain ⟨box, found, -, after⟩ := h.mailbox_deliver
  simp [heardBy, found, after]

namespace Told

theorem post {events : List Event} (h : l.Told w ms) (about : ∀ e ∈ events, e.voice?.isSome) :
    (l.postAll events).Told w ms where
  recording := h.recording.postAll events
  heard := h.heard
  pending := by
    change Event.milestones (l.pending ++ events) = []
    rw [Event.milestones_append, h.pending, Event.milestones_eq_nil about, List.append_nil]

theorem deliver (h : l.Told w ms) : l.deliver.Told w ms where
  recording := h.recording.deliver
  heard := by
    rw [h.recording.heardBy_deliver, Event.milestones_append, h.heard, h.pending, List.append_nil]
  pending := rfl

theorem voiced (h : l.Told w ms) (between : l.Voiced m) : m.Told w ms := by
  induction between with
  | refl => exact h
  | post _ about ih => exact ih.post about
  | deliver _ ih => exact ih.deliver

/-- A milestone is told at once. -/
theorem emit {e : Event} {k : Milestone} (h : l.Told w ms) (milestone : e.milestone? = some k) :
    (l.emit e).Told w (ms ++ [k]) where
  recording := (h.recording.postAll [e]).deliver
  heard := by
    have all : (l.emit e).heardBy w = l.heardBy w ++ (l.pending ++ [e]) :=
      (h.recording.postAll [e]).heardBy_deliver
    rw [all, Event.milestones_append, Event.milestones_append, h.heard, h.pending, List.nil_append]
    simp [Event.milestones, milestone]
  pending := rfl

/-- Another listener makes no difference. -/
theorem add (h : l.Told w ms) (box : Mailbox) : (l.add box).2.Told w ms := by
  obtain ⟨own, found, opened⟩ := h.recording.kept
  have inside : w < l.mailboxes.size := (Array.getElem?_eq_some_iff.mp found).1
  have same : (l.mailboxes.push box)[w]? = l.mailboxes[w]? := by
    rw [Array.getElem?_push, if_neg inside.ne]
  refine ⟨⟨?_, own, same.trans found, opened⟩, ?_, h.pending⟩
  · simp [Listeners.add, h.recording.once, inside.ne']
  · rw [← h.heard]
    simp only [heardBy, Listeners.add, same]

theorem remove (h : l.Told w ms) {id : ListenerId} (other : id ≠ w) :
    (l.remove id).2.Told w ms where
  recording := by
    refine ⟨?_, h.recording.kept⟩
    simp only [Listeners.remove]
    rw [List.count_filter (by simpa using Ne.symm other), h.recording.once]
  heard := h.heard
  pending := h.pending

end Told

end Listeners

/-! ### What tells of voices only -/

/-- A call that tells the listeners of voices only. -/
def Call.Voiced {α : Type} (x : Call α) : Prop :=
  ∀ c : Clip, c.listeners.Voiced (x.on c).2.listeners

namespace Call

variable {α β : Type}

theorem voiced_pure (a : α) : Voiced (pure a) := fun _ => .refl

theorem Voiced.bind {x : Call α} {f : α → Call β} (first : x.Voiced) (second : ∀ a, (f a).Voiced) :
    (x >>= f).Voiced :=
  fun c => rel_bind (R := fun c d => c.listeners.Voiced d.listeners) .trans (first c) second

theorem Voiced.quietly {x : Call Unit} (h : x.Voiced) : (Request.call.quietly x).Voiced :=
  h.bind fun _ => voiced_pure none

end Call

namespace Clip

variable {c : Clip} {id : VoiceId}

theorem voiced_changed (c : Clip) (pool : Pool) {events : List Event}
    (about : ∀ e ∈ events, e.voice?.isSome) :
    c.listeners.Voiced (c.changed pool events).listeners :=
  Listeners.Voiced.refl.post about

/-- A change of a voice tells of that voice, if of anything. -/
theorem voiced_changed_singleton (c : Clip) (pool : Pool) (what : Occurrence) (id : VoiceId)
    (place : Float) : c.listeners.Voiced (c.changed pool [.voice what id place]).listeners :=
  c.voiced_changed pool (by simp [Event.voice?])

theorem voiced_changed_nil (c : Clip) (pool : Pool) :
    c.listeners.Voiced (c.changed pool []).listeners :=
  c.voiced_changed pool (by simp)

theorem voiced_obtain : Call.Voiced obtain := by
  intro c
  simp only [obtain, Call.on_bind, Call.on_get]
  cases c.pool.obtain with
  | none => exact .refl
  | some taken => exact (c.voiced_changed_singleton taken.2 .obtain taken.1 0.0).deliver

theorem voiced_release : Call.Voiced (release id) := by
  intro c
  cases voice : c.pool.voices[id]? with
  | none =>
    rw [on_release_of_none voice]
    exact .refl
  | some v =>
    cases active : v.active
    · rw [on_release_of_idle voice active]
      exact (c.voiced_changed_nil _).deliver
    · rw [on_release voice active]
      exact (c.voiced_changed_singleton ..).deliver

theorem voiced_adjust (f : Voice → Voice) : Call.Voiced (adjust id f) := by
  intro c
  obtain ⟨v, voice, active⟩ | ⟨-, e, refused⟩ := c.pool.active_or_refused id
  · rw [on_adjust voice active]
    exact .refl
  · rw [on_adjust_of_error refused]
    exact .refl

theorem voiced_start : Call.Voiced (start id) := by
  intro c
  obtain ⟨v, voice, active⟩ | ⟨-, e, refused⟩ := c.pool.active_or_refused id
  · cases playing : v.playing
    · rw [on_start voice active playing]
      exact (c.voiced_changed_singleton ..).deliver
    · rw [on_start_of_playing voice active playing]
      exact c.voiced_changed_nil _
  · rw [on_start_of_error refused]
    exact .refl

theorem voiced_stop : Call.Voiced (stop id) := by
  intro c
  obtain ⟨v, voice, active⟩ | ⟨-, e, refused⟩ := c.pool.active_or_refused id
  · cases playing : v.playing
    · rw [on_stop_of_still voice active playing]
      exact (c.voiced_changed_nil _).deliver
    · rw [on_stop voice active playing]
      exact (c.voiced_changed_singleton ..).deliver
  · rw [on_stop_of_error refused]
    exact .refl

theorem voiced_seek (place : Float) : Call.Voiced (seek id place) := by
  intro c
  obtain ⟨v, voice, active⟩ | ⟨-, e, refused⟩ := c.pool.active_or_refused id
  · cases playing : v.playing
    · rw [on_seek voice active playing]
      exact c.voiced_changed_nil _
    · rw [on_seek_of_playing voice active playing]
      exact c.voiced_changed_nil _
  · rw [on_seek_of_error refused]
    exact .refl

theorem voiced_play (left right speed : Float32) (loops : Int32) :
    Call.Voiced (play left right speed loops) := by
  refine voiced_obtain.bind fun found => ?_
  cases found with
  | none => exact Call.voiced_pure none
  | some id =>
    exact (voiced_adjust _).bind fun _ => (voiced_adjust _).bind fun _ =>
      (voiced_adjust _).bind fun _ => (voiced_adjust _).bind fun _ =>
      voiced_start.bind fun _ => Call.voiced_pure (some id)

end Clip

/-- A request tells the listeners of voices only. -/
theorem Request.voiced_call (r : Request) : r.call.Voiced := by
  cases r with
  | obtain => exact Clip.voiced_obtain
  | play left right speed loops => exact Clip.voiced_play left right speed loops
  | release => exact Clip.voiced_release.quietly
  | start => exact Clip.voiced_start.quietly
  | stop => exact Clip.voiced_stop.quietly
  | seek _ place => exact (Clip.voiced_seek place).quietly
  | seekMicros id micros =>
    refine Call.Voiced.quietly fun c => ?_
    rw [Clip.on_seekMicros]
    exact Clip.voiced_seek _ c
  | seekFraction id fraction =>
    refine Call.Voiced.quietly fun c => ?_
    rw [Clip.on_seekFraction]
    exact Clip.voiced_seek _ c
  | setVolume | setPan | setSpeed | setLoops | setRecycle =>
    exact (Clip.voiced_adjust _).quietly

namespace Mixer

variable {m : Mixer}

/-- The end of a pass raises events about voices only. -/
theorem voice?_finish (m : Mixer) (id : VoiceId) (p : Pass) (pool : Pool) :
    ∀ e ∈ (pool.finish m id p).1, e.voice?.isSome := by
  cases voice : pool.voices[id]? with
  | none => simp [Pool.finish, voice]
  | some v =>
    by_cases stale : p.snapshot.busy ∨ v.epoch ≠ p.snapshot
    · simp [Pool.finish, voice, Voice.commit_writeBack, stale]
    · intro e member
      simp only [Pool.finish, voice, Voice.commit_writeBack, if_neg stale] at member
      rw [p.voice?_writeBack _ e member]
      rfl

/-- So does mixing. -/
theorem voice?_mix (m : Mixer) (count : Nat) (pool : Pool) :
    ∀ e ∈ (m.mix count pool).2.1, e.voice?.isSome := by
  suffices voices : ∀ (ids : List VoiceId) (sofar : Progress),
      (∀ e ∈ sofar.events, e.voice?.isSome) →
        ∀ e ∈ (ids.foldl m.mixVoice sofar).events, e.voice?.isSome from
    voices _ _ (by simp)
  intro ids
  induction ids with
  | nil => exact fun _ before => before
  | cons id ids ih =>
    intro sofar before
    refine ih _ ?_
    unfold mixVoice
    split
    · exact before
    · split
      · intro e member
        obtain old | new := List.mem_append.mp member
        · exact before e old
        · exact voice?_finish m id _ _ e new
      · exact before

end Mixer

/-- Mixing leaves the listeners to the request that comes in meanwhile. -/
theorem Clip.voiced_mixDuring {α : Type} (c : Clip) {x : Call α} (voiced : x.Voiced)
    (count : Nat) (j : Mixer.Juncture) :
    c.listeners.Voiced (c.mixDuring count x.on j).2.2.2.listeners :=
  voiced { c with pool := (c.mixer.hold c.pool (count / 2) j).sofar.pool }

/-! ### Beginnings and ends -/

namespace Milestone

/-- The milestones alternate, from a beginning on, and the last one tells whether there is a
worker. -/
def Orderly (held : Bool) (ms : List Milestone) : Prop :=
  (closed :: ms).IsChain (· ≠ ·) ∧ (ms.getLast? = some opened ↔ held)

/-- An end comes only right after a beginning, and while there is a worker a beginning came last. -/
def Paired (held : Bool) (ms : List Milestone) : Prop :=
  (closed :: ms).IsChain (fun a b => b = closed → a = opened) ∧
    (held → ms.getLast? = some opened)

variable {ms new : List Milestone} {reaps before after : Bool}

theorem isChain_concat {R : Milestone → Milestone → Prop} (k : Milestone) :
    (closed :: (ms ++ [k])).IsChain R ↔
      (closed :: ms).IsChain R ∧ R (ms.getLast?.getD closed) k := by
  rw [← List.cons_append, List.isChain_append, List.getLast?_cons]
  simp

/-- What becomes of the worker, which may have been there before and after, and what is told of it.
Only what clears a worker away in silence `reaps` it. -/
inductive Turn : (reaps before after : Bool) → (new : List Milestone) → Prop
  | goesOn {held : Bool} : Turn false held held []
  | opens : Turn false false true [opened]
  | closes : Turn false true false [closed]
  | replaces : Turn true true true [opened]
  | clears : Turn true true false []

theorem Turn.paired (turn : Turn reaps before after new) (h : Paired before ms) :
    Paired after (ms ++ new) := by
  obtain ⟨pairs, last⟩ := h
  cases turn with
  | goesOn => simpa using ⟨pairs, last⟩
  | clears => exact ⟨by simpa using pairs, by simp⟩
  | opens | replaces => exact ⟨(isChain_concat opened).mpr ⟨pairs, by simp⟩, by simp⟩
  | closes =>
    refine ⟨(isChain_concat closed).mpr ⟨pairs, fun _ => ?_⟩, by simp⟩
    rw [last rfl, Option.getD_some]

/-- What is orderly stays so unless a worker is reaped. -/
theorem Turn.orderly_iff (turn : Turn reaps before after new) (h : Orderly before ms) :
    Orderly after (ms ++ new) ↔ reaps = false := by
  obtain ⟨alternate, last⟩ := h
  cases turn with
  | goesOn => simpa using ⟨alternate, last⟩
  | opens =>
    have idle : ms.getLast?.getD closed = closed := by
      cases found : ms.getLast? with
      | none => rfl
      | some k => cases k <;> simp_all
    simp [Orderly, isChain_concat, alternate, idle]
  | closes =>
    have held : ms.getLast? = some opened := last.mpr rfl
    simp [Orderly, isChain_concat, alternate, held]
  | replaces =>
    have held : ms.getLast? = some opened := last.mpr rfl
    simp [Orderly, isChain_concat, held]
  | clears =>
    have held : ms.getLast? = some opened := last.mpr rfl
    simp [Orderly, held]

end Milestone

/-! ### The worker -/

namespace Playback

variable {σ ω : Type} {io : OutputInterface σ ω} {p q r : Playback σ ω} {w : ListenerId}
  {ms : List Milestone}

/-- The milestones that a listener heard of, in order. -/
def heard (w : ListenerId) (p : Playback σ ω) : List Milestone :=
  Event.milestones (p.clip.listeners.heardBy w)

/-- The session goes on, and the listeners were told of voices only. -/
structure GoesOn (p q : Playback σ ω) : Prop where
  voiced : p.clip.listeners.Voiced q.clip.listeners
  worker_eq : q.worker.isSome = p.worker.isSome

theorem GoesOn.refl (p : Playback σ ω) : GoesOn p p := ⟨.refl, rfl⟩

theorem GoesOn.trans (first : GoesOn p q) (second : GoesOn q r) : GoesOn p r :=
  ⟨first.voiced.trans second.voiced, second.worker_eq.trans first.worker_eq⟩

/-- One worker may take the place of another. -/
theorem GoesOn.withWorker (h : GoesOn p q) (held : p.worker.isSome) (worker : Worker) :
    GoesOn p { q with worker := some worker } :=
  ⟨h.voiced, by rw [held]; rfl⟩

theorem goesOn_onOutput (p : Playback σ ω) (operation : σ → ω → Reply × σ × ω) :
    GoesOn p (p.onOutput operation).2 := by
  unfold onOutput
  cases p.output <;> exact ⟨.refl, rfl⟩

theorem goesOn_finishWorker (io : OutputInterface σ ω) (p : Playback σ ω) :
    GoesOn p (p.finishWorker io) :=
  (p.goesOn_onOutput io.close).trans ⟨Listeners.Voiced.refl.deliver, rfl⟩

theorem goesOn_writeBuffer (io : OutputInterface σ ω) (held : p.worker.isSome)
    (buffer : List UInt8) : GoesOn p (p.writeBuffer io buffer).2 := by
  have wrote := p.goesOn_onOutput (io.write buffer)
  unfold writeBuffer
  rcases done : p.onOutput (io.write buffer) with ⟨answer, q⟩
  rw [done] at wrote
  cases answer with
  | done => exact wrote
  | failed e => exact (wrote.trans (q.goesOn_finishWorker io)).withWorker held _
  | crashed => exact (wrote.trans (q.goesOn_onOutput _)).withWorker held _

theorem voiced_mixNext (p : Playback σ ω) : p.clip.listeners.Voiced p.mixNext.clip.listeners :=
  (Listeners.Voiced.refl.post (p.clip.mixer.voice?_mix _ p.clip.pool)).deliver

theorem goesOn_pump (io : OutputInterface σ ω) (p : Playback σ ω) : GoesOn p (p.pump io).2 := by
  rcases worker : p.worker with _ | buffer | _ | _
  case some.writing =>
    have held : p.worker.isSome := by rw [worker]; rfl
    have wrote := goesOn_writeBuffer io held buffer
    simp only [pump, worker]
    rcases done : p.writeBuffer io buffer with ⟨accepted, q⟩
    rw [done] at wrote
    cases accepted with
    | true => exact wrote.trans ⟨q.voiced_mixNext, by rw [wrote.worker_eq, held]; rfl⟩
    | false => exact wrote
  all_goals
    simp only [pump, worker]
    exact .refl p

/-- Whatever becomes of the buffer that waits, a session that is closed ends with one event. -/
theorem close_of_held (io : OutputInterface σ ω) (held : p.worker.isSome) :
    ∃ q : Playback σ ω, p.clip.listeners.Voiced q.clip.listeners ∧
      (p.close io).2 = { q with worker := none }.emit .closed := by
  rcases worker : p.worker with _ | buffer | _ | _
  case none =>
    rw [worker] at held
    contradiction
  case some.writing =>
    have wrote := goesOn_writeBuffer io held buffer
    simp only [close, worker]
    rcases done : p.writeBuffer io buffer with ⟨accepted, q⟩
    rw [done] at wrote
    cases accepted with
    | true =>
      have ended := (q.goesOn_onOutput io.drain).trans (goesOn_finishWorker io _)
      exact ⟨_, wrote.voiced.trans ended.voiced, rfl⟩
    | false => exact ⟨q, wrote.voiced, rfl⟩
  all_goals
    simp only [close, worker]
    exact ⟨p, .refl, rfl⟩

/-- A close is heard of if there is a worker to be stopped. -/
theorem heard_close (io : OutputInterface σ ω) (told : p.clip.listeners.Told w ms) :
    p.worker = none ∧ (p.close io).2 = p ∨
      p.worker.isSome ∧ (p.close io).2.clip.listeners.Told w (ms ++ [.closed]) ∧
        (p.close io).2.worker = none := by
  cases held : p.worker.isSome
  · have none : p.worker = none := by simpa using held
    exact .inl ⟨none, by simp only [close, none]⟩
  · obtain ⟨last, voiced, closed⟩ := close_of_held io held
    rw [closed]
    exact .inr ⟨rfl, (told.voiced voiced).emit rfl, rfl⟩

/-- An opening is refused while a worker runs. Otherwise it clears away what is left of one, and is
heard of if it succeeds. -/
theorem heard_opening (io : OutputInterface σ ω) (told : p.clip.listeners.Told w ms) (output : σ) :
    p.state = .running ∧ p.opening io output = (.failed .alreadyOpen, p.giveUp io output) ∨
      p.state ≠ .running ∧
        ((p.opening io output).1 = .done ∧
            (p.opening io output).2.clip.listeners.Told w (ms ++ [.opened]) ∧
            (p.opening io output).2.worker.isSome ∨
          (p.opening io output).1 ≠ .done ∧ (p.opening io output).2.clip.listeners.Told w ms ∧
            (p.opening io output).2.worker = none) := by
  by_cases running : p.state = .running
  · exact .inl ⟨running, by simp only [opening, running, if_true]⟩
  · refine .inr ⟨running, ?_⟩
    simp only [opening, if_neg running]
    rcases io.opening p.clip.format p.clip.bufferFrames output p.surroundings with
      ⟨answer, output', surroundings⟩
    cases answer with
    | done =>
      let ready : Playback σ ω := ⟨p.clip, some (.writing []), some output', surroundings⟩
      have heard : (ready.emit .opened).clip.listeners.Told w (ms ++ [.opened]) := told.emit rfl
      exact .inl ⟨rfl, heard.voiced (voiced_mixNext (ready.emit .opened)), rfl⟩
    | failed e => exact .inr ⟨nofun, told, rfl⟩
    | crashed => exact .inr ⟨nofun, told, rfl⟩

/-- Nothing runs if there is no worker or its output failed. -/
theorem state_cases (p : Playback σ ω) : p.state = .running ∧ p.worker.isSome ∨
    p.state = .stopped ∧ p.worker = none ∨ p.state = .faulted ∧ p.worker.isSome := by
  rcases worker : p.worker with _ | buffer | _ | _ <;> simp [state, worker, Worker.state]

end Playback

/-- A deed that clears a worker away whose output failed: an opening, and not a close. -/
def Deed.reaps {σ ω : Type} (p : Playback σ ω) : Deed σ → Bool
  | opening _ => p.state = .faulted
  | _ => false

/-- What a deed makes of the session, and what the listener hears of it. -/
theorem Deed.turn {σ ω : Type} (io : OutputInterface σ ω) {p : Playback σ ω} {w : ListenerId}
    {ms : List Milestone} (deed : Deed σ) (told : p.clip.listeners.Told w ms)
    (kept : deed ≠ .removeListener w) :
    let q := (deed.perform io p).2
    ∃ new, q.clip.listeners.Told w (ms ++ new) ∧
      Milestone.Turn (deed.reaps p) p.worker.isSome q.worker.isSome new := by
  intro q
  have goesOn (quiet : deed.reaps p = false) (still : p.GoesOn q) :
      ∃ new, q.clip.listeners.Told w (ms ++ new) ∧
        Milestone.Turn (deed.reaps p) p.worker.isSome q.worker.isSome new := by
    refine ⟨[], by rw [List.append_nil]; exact told.voiced still.voiced, ?_⟩
    rw [quiet, still.worker_eq]
    exact .goesOn
  cases deed with
  | opening output =>
    obtain ⟨running, refused⟩ | ⟨idle, outcome⟩ := Playback.heard_opening io told output
    · have same : q = p.giveUp io output := congrArg Prod.snd refused
      exact goesOn (by simp [reaps, running]) (same ▸ ⟨.refl, rfl⟩)
    · -- There is a worker to be reaped exactly if there is one at all.
      have left : reaps p (.opening output) = p.worker.isSome := by
        obtain ⟨state, -⟩ | ⟨state, none⟩ | ⟨state, held⟩ := p.state_cases
        · exact absurd state idle
        · simp [reaps, state, none]
        · simp [reaps, state, held]
      rw [left]
      obtain ⟨-, heard, held⟩ | ⟨-, heard, none⟩ := outcome
      · refine ⟨[.opened], heard, ?_⟩
        change Milestone.Turn _ _ (p.opening io output).2.worker.isSome _
        rw [held]
        cases p.worker.isSome
        · exact .opens
        · exact .replaces
      · refine ⟨[], by rwa [List.append_nil], ?_⟩
        change Milestone.Turn _ _ (p.opening io output).2.worker.isSome _
        rw [none]
        cases p.worker.isSome
        · exact .goesOn
        · exact .clears
  | close =>
    obtain ⟨-, same⟩ | ⟨held, heard, none⟩ := Playback.heard_close io told
    · have same : q = p := same
      exact goesOn rfl (same ▸ .refl p)
    · refine ⟨[.closed], heard, ?_⟩
      change Milestone.Turn _ _ (p.close io).2.worker.isSome _
      rw [held, none]
      exact .closes
  | pump => exact goesOn rfl (p.goesOn_pump io)
  | request r => exact goesOn rfl ⟨r.voiced_call p.clip, rfl⟩
  | mix count => exact goesOn rfl ⟨.refl, rfl⟩
  | mixDuring count r j =>
    exact goesOn rfl ⟨p.clip.voiced_mixDuring r.voiced_call count j, rfl⟩
  | addListener box =>
    exact ⟨[], by rw [List.append_nil]; exact told.add box, .goesOn⟩
  | removeListener id =>
    have other : id ≠ w := fun same => kept (congrArg Deed.removeListener same)
    exact ⟨[], by rw [List.append_nil]; exact told.remove other, .goesOn⟩
  | query question => exact goesOn rfl (.refl p)

namespace Playback

variable {σ ω : Type} {io : OutputInterface σ ω} {p : Playback σ ω} {w : ListenerId}
  {ms : List Milestone}

/-- The milestones that a listener heard of alternate, from a beginning on, and the last one tells
whether the clip holds a worker. -/
def Orderly (w : ListenerId) (p : Playback σ ω) : Prop :=
  Milestone.Orderly p.worker.isSome (p.heard w)

/-- One more deed at the end. -/
theorem perform_concat (deeds : List (Deed σ)) (deed : Deed σ) :
    (p.perform io (deeds ++ [deed])).2 = (deed.perform io (p.perform io deeds).2).2 := by
  rw [perform_append]
  rfl

/-- Whatever is done, the listener hears on. -/
theorem told_perform (io : OutputInterface σ ω) (told : p.clip.listeners.Told w ms)
    (pairs : Milestone.Paired p.worker.isSome ms) {deeds : List (Deed σ)}
    (kept : Deed.removeListener w ∉ deeds) :
    ∃ all, (p.perform io deeds).2.clip.listeners.Told w all ∧
      Milestone.Paired (p.perform io deeds).2.worker.isSome all := by
  induction deeds using List.reverseRecOn with
  | nil => exact ⟨ms, told, pairs⟩
  | append_singleton deeds deed ih =>
    rw [List.mem_append, List.mem_singleton, not_or] at kept
    obtain ⟨all, told', pairs'⟩ := ih kept.1
    obtain ⟨new, after, turn⟩ := deed.turn io told' (Ne.symm kept.2)
    rw [perform_concat]
    exact ⟨all ++ new, after, turn.paired pairs'⟩

/-- Everything is in order, all the time, exactly if no worker is ever reaped. -/
theorem orderly_iff_not_reaps (told : p.clip.listeners.Told w []) (stopped : p.worker = none)
    {deeds : List (Deed σ)} (kept : Deed.removeListener w ∉ deeds) :
    (∀ before, before <+: deeds → (p.perform io before).2.Orderly w) ↔
      ∀ before deed, before ++ [deed] <+: deeds →
        deed.reaps (p.perform io before).2 = false := by
  have pairs : Milestone.Paired p.worker.isSome [] := by simp [Milestone.Paired, stopped]
  induction deeds using List.reverseRecOn with
  | nil =>
    have start : p.Orderly w := by simp [Orderly, Milestone.Orderly, heard, told.heard, stopped]
    simpa [perform] using start
  | append_singleton deeds deed ih =>
    rw [List.mem_append, List.mem_singleton, not_or] at kept
    specialize ih kept.1
    obtain ⟨all, told', -⟩ := told_perform io told pairs kept.1
    obtain ⟨new, after, turn⟩ := deed.turn io told' (Ne.symm kept.2)
    -- The deeds before the last one decide whether it finds everything in order.
    have last (orderly : (p.perform io deeds).2.Orderly w) :
        (p.perform io (deeds ++ [deed])).2.Orderly w ↔
          deed.reaps (p.perform io deeds).2 = false := by
      rw [perform_concat]
      unfold Orderly heard at orderly ⊢
      rw [told'.heard] at orderly
      rw [after.heard]
      exact turn.orderly_iff orderly
    simp only [List.prefix_concat_iff]
    constructor
    · intro orderly before d
      rintro (same | within)
      · obtain ⟨rfl, rfl⟩ := List.append_singleton_inj.mp same
        exact (last (orderly _ (.inr List.prefix_rfl))).mp (orderly _ (.inl rfl))
      · exact ih.mp (fun before within => orderly before (.inr within)) before d within
    · intro spared before
      have earlier := ih.mpr fun before d within => spared before d (.inr within)
      rintro (rfl | within)
      · exact (last (earlier deeds List.prefix_rfl)).mpr (spared deeds deed (.inl rfl))
      · exact earlier before within

/-- A listener that hears everything from the start on, and is kept, hears of the sessions of a clip
as follows, whatever outputs it is played to and whenever they fail. An end comes only right after a
beginning, and while there is a worker a beginning was heard last. An opening while a worker runs is
refused: the output that was offered is given up, and nothing else is touched. Any other opening is
heard of if it succeeds, and not if it does not. A close is heard of if there is a worker to be
stopped.

So beginnings and ends alternate, and the last one tells at any time whether there is a worker,
exactly if no opening ever finds a worker whose output failed: such a worker is cleared away with no
event. -/
theorem sessions (io : OutputInterface σ ω) (recording : p.clip.listeners.Recording w)
    (silent : p.clip.listeners.record w = []) (stopped : p.worker = none) {deeds : List (Deed σ)}
    (kept : Deed.removeListener w ∉ deeds) :
    let q := (p.perform io deeds).2
    Milestone.Paired q.worker.isSome (q.heard w) ∧
      (∀ output, let (answer, after) := q.opening io output
        (q.state = .running →
          answer = .failed .alreadyOpen ∧ after = { q with
            surroundings := (io.abandon output q.surroundings).2 }) ∧
        (answer = .done → after.heard w = q.heard w ++ [.opened] ∧ after.worker.isSome) ∧
        (answer ≠ .done → after.heard w = q.heard w)) ∧
      (q.close io).2.heard w = q.heard w ++ (if q.worker.isSome then [.closed] else []) ∧
      (q.close io).2.worker = none ∧
      ((∀ before, before <+: deeds → (p.perform io before).2.Orderly w) ↔
        ∀ before output, before ++ [.opening output] <+: deeds →
          (p.perform io before).2.state ≠ .faulted) := by
  intro q
  obtain ⟨nothing, empty⟩ := List.append_eq_nil_iff.mp silent
  have start : p.clip.listeners.Told w [] := by
    refine ⟨recording, ?_, by rw [empty]; rfl⟩
    rw [Listeners.heardBy, nothing]
    rfl
  have none : Milestone.Paired p.worker.isSome [] := by simp [Milestone.Paired, stopped]
  obtain ⟨all, (told : q.clip.listeners.Told w all), pairs⟩ :=
    told_perform io start none kept
  have heard : q.heard w = all := told.heard
  refine ⟨heard ▸ pairs, fun output => ?_, ?_, ?_, ?_⟩
  · obtain ⟨running, refused⟩ | ⟨idle, outcome⟩ := heard_opening io told output
    · rw [refused]
      exact ⟨fun _ => ⟨rfl, rfl⟩, nofun, fun _ => rfl⟩
    · refine ⟨fun running => absurd running idle, ?_⟩
      obtain ⟨done, after, held⟩ | ⟨failed, after, -⟩ := outcome
      · exact ⟨fun _ => ⟨heard ▸ after.heard, held⟩, fun failed => absurd done failed⟩
      · exact ⟨fun done => absurd done failed, fun _ => heard ▸ after.heard⟩
  · obtain ⟨none, same⟩ | ⟨held, after, -⟩ := heard_close io told
    · simp [same, none]
    · rw [if_pos held, heard]
      exact after.heard
  · obtain ⟨none, same⟩ | ⟨-, -, none⟩ := heard_close io told
    · rw [same, none]
    · exact none
  · rw [orderly_iff_not_reaps start stopped kept]
    constructor
    · intro spared before output within faulted
      have reaped := spared before _ within
      simp [Deed.reaps, faulted] at reaped
    · intro spared before deed within
      cases deed with
      | opening output => simpa [Deed.reaps] using spared before output within
      | _ => rfl

/-- A clip with a listener, ready to be played. -/
def ready : Playback ScriptedOutput Storage := { clip := Desk.blip, surroundings := {} }

/-- An output that keeps what it is given, unless its first write is made to fail. -/
def tape (failAfter : Option Nat) : ScriptedOutput where
  output := .memory { name := "tape", destination := .recording #[] }
  failAfter

/-- The clip is opened, its output fails at once, and it is opened again. -/
def reopening : List (Deed ScriptedOutput) :=
  [.opening (tape (some 0)), .pump, .opening (tape none)]

theorem recording_ready : ready.clip.listeners.Recording 0 := ⟨by decide, _, rfl, rfl, rfl, rfl⟩

theorem sessions_reopening :
    (ready.perform ScriptedOutput.interface reopening).2.heard 0 = [.opened, .opened] ∧
      ¬ ∀ before, before <+: reopening →
        (ready.perform ScriptedOutput.interface before).2.Orderly 0 := by
  have kept : Deed.removeListener 0 ∉ reopening := by simp [reopening]
  obtain ⟨-, -, -, -, law⟩ :=
    sessions ScriptedOutput.interface recording_ready rfl rfl kept
  refine ⟨by decide, fun orderly => ?_⟩
  exact law.mp orderly [.opening (tape (some 0)), .pump] (tape none) List.prefix_rfl (by decide)

/-- So a listener may hear of two beginnings in a row. -/
theorem not_sessions_alternate : ¬ ∀ (p : Playback ScriptedOutput Storage) (w : ListenerId)
    (deeds : List (Deed ScriptedOutput)), p.clip.listeners.Recording w →
      p.clip.listeners.record w = [] → p.worker = none → Deed.removeListener w ∉ deeds →
        (p.perform ScriptedOutput.interface deeds).2.Orderly w := by
  intro always
  obtain ⟨alternate, -⟩ := always ready 0 reopening recording_ready rfl rfl (by simp [reopening])
  have twice : (ready.perform ScriptedOutput.interface reopening).2.heard 0 = [.opened, .opened] :=
    by decide
  rw [twice] at alternate
  revert alternate
  decide

end Playback

end SamplePlayer
