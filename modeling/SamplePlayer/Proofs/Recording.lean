import Mathlib.Data.List.Count
import Mathlib.Logic.Function.Iterate
import SamplePlayer.Listeners

/-!
# What is queued, as a listener hears it

A listener that is registered once and whose mailbox has room for everything hears every event that
is handed out. What it heard, with what still waits in the queue behind it, is therefore the record
of everything that was queued since it was registered, however the queue was handed out in between.

## Main definitions

* `Mailbox.Open`, `Listeners.Recording`: a listener that hears everything.
* `Listeners.record`: what such a listener heard and will hear.

## Main results

* `Listeners.record_postAll`, `Listeners.record_deliver`: queueing extends the record, and handing
  out leaves it alone.
-/

namespace SamplePlayer

namespace Mailbox

/-- The mailbox keeps whatever comes in. -/
structure Open (box : Mailbox) : Prop where
  unbounded : box.capacity = none
  attended : box.attended = true
  unselective : box.voicesOnly = false

variable {box : Mailbox}

theorem Open.hear (h : box.Open) (e : Event) :
    box.hear e = { box with heard := box.heard.push e } := by
  simp [Mailbox.hear, hasRoom, h.unbounded, h.attended, h.unselective]

/-- An open mailbox keeps all of the events that come in, in order. -/
theorem Open.foldl_hear (h : box.Open) (events : List Event) :
    events.foldl Mailbox.hear box = { box with heard := box.heard ++ events.toArray } := by
  induction events generalizing box with
  | nil => simp
  | cons e events ih =>
    -- What a mailbox holds does not decide whether it takes more.
    have still : ({ box with heard := box.heard.push e } : Mailbox).Open := ⟨h.1, h.2, h.3⟩
    have joined : box.heard.push e ++ events.toArray = box.heard ++ (e :: events).toArray :=
      Array.ext' (by simp)
    rw [List.foldl_cons, h.hear, ih still, ← joined]

end Mailbox

namespace Listeners

/-- The listener `w` is registered once and hears everything that is handed out. -/
structure Recording (l : Listeners) (w : ListenerId) : Prop where
  once : l.registered.count w = 1
  kept : ∃ box, l.mailboxes[w]? = some box ∧ box.Open

/-- The events that the listener `w` heard and those in the queue, in order. -/
def record (l : Listeners) (w : ListenerId) : List Event :=
  (l.mailboxes[w]?.map fun box => box.heard.toList).getD [] ++ l.pending

variable {l : Listeners} {w : ListenerId}

/-- The mailbox of a listener takes in an event once for each time it is registered. -/
theorem getElem?_announce (mailboxes : Array Mailbox) (registered : List ListenerId) (e : Event) :
    (announce mailboxes registered e)[w]? =
      mailboxes[w]?.map (fun box => (Mailbox.hear · e)^[registered.count w] box) := by
  induction registered generalizing mailboxes with
  | nil => simp [announce]
  | cons id registered ih =>
    change (announce _ registered e)[w]? = _
    rw [ih, Array.getElem?_modify]
    -- Every entry of the register is one more round of the event through the mailbox.
    by_cases same : id = w
    · subst id
      simp [Function.comp_def]
    · simp [same]

/-- A listener that is registered once takes in the queued events one by one. -/
theorem getElem?_foldl_announce {registered : List ListenerId} (once : registered.count w = 1)
    (events : List Event) (mailboxes : Array Mailbox) :
    (events.foldl (announce · registered) mailboxes)[w]? =
      mailboxes[w]?.map (events.foldl Mailbox.hear) := by
  induction events generalizing mailboxes with
  | nil => simp
  | cons e events ih =>
    rw [List.foldl_cons, ih, getElem?_announce, once]
    simp [Function.comp_def]

theorem Recording.postAll (h : l.Recording w) (events : List Event) :
    (l.postAll events).Recording w := ⟨h.1, h.2⟩

/-- Handing out the queue puts all of it into the mailbox of the listener. -/
theorem Recording.mailbox_deliver (h : l.Recording w) :
    ∃ box, l.mailboxes[w]? = some box ∧ box.Open ∧
      l.deliver.mailboxes[w]? = some { box with heard := box.heard ++ l.pending.toArray } := by
  obtain ⟨box, found, opened⟩ := h.kept
  refine ⟨box, found, opened, ?_⟩
  rw [deliver, getElem?_foldl_announce h.once, found, Option.map_some, opened.foldl_hear]

theorem Recording.deliver (h : l.Recording w) : l.deliver.Recording w := by
  obtain ⟨box, -, opened, after⟩ := h.mailbox_deliver
  exact ⟨h.once, _, after, opened.1, opened.2, opened.3⟩

theorem record_postAll (events : List Event) :
    (l.postAll events).record w = l.record w ++ events :=
  (List.append_assoc ..).symm

/-- Handing out the queue moves it into the mailbox and leaves the record as it is. -/
theorem record_deliver (h : l.Recording w) : l.deliver.record w = l.record w := by
  obtain ⟨box, found, -, after⟩ := h.mailbox_deliver
  have empty : l.deliver.pending = [] := rfl
  simp [record, after, found, empty]

end Listeners

end SamplePlayer
