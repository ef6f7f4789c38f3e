import SamplePlayer.Event

/-!
# Listeners

Events are queued at the moment of the change they tell of, and handed out later, in the order of
the queue. Every event goes to each listener registered at that time, in the order of registration.
A listener is a mailbox; numbers of listeners are never given out twice, and a mailbox keeps what it
heard when its listener is removed.

## Main definitions

* `Mailbox`, `Mailbox.hear`.
* `Listeners`, with `Listeners.add` and `Listeners.remove`.
* `Listeners.post`, `Listeners.deliver`, `Listeners.tryDeliver`, `Listeners.emit`: queueing and
  handing out.
-/

namespace SamplePlayer

/-- Where the events that a listener heard wait to be read. -/
structure Mailbox where
  /-- How many events may wait, if there is a bound. -/
  capacity : Option Nat := none
  /-- Only events about a voice are kept. -/
  voicesOnly : Bool := false
  /-- Somebody still reads it. -/
  attended : Bool := true
  /-- The events that wait, oldest first. -/
  heard : Array Event := #[]
deriving Inhabited

namespace Mailbox

/-- Whether there is room for an event. -/
def hasRoom (box : Mailbox) : Bool :=
  match box.capacity with
  | none => true
  | some bound => box.heard.size < bound

/-- Takes in an event. One that nobody reads, that is not wanted or that finds no room is lost. -/
def hear (box : Mailbox) (e : Event) : Mailbox :=
  if box.attended && box.hasRoom && (!box.voicesOnly || e.voice?.isSome) then
    { box with heard := box.heard.push e }
  else box

end Mailbox

/-- The number of a listener. -/
abbrev ListenerId := Nat

/-- The listeners of a clip and the queue of events for them. -/
structure Listeners where
  /-- The mailbox of every listener there ever was, by number. -/
  mailboxes : Array Mailbox := #[]
  /-- The registered listeners, the earliest first. -/
  registered : List ListenerId := []
  /-- The events not handed out yet, oldest first. -/
  pending : List Event := []
deriving Inhabited

namespace Listeners

variable (l : Listeners)

/-- Registers a listener. -/
def add (box : Mailbox) : ListenerId × Listeners :=
  (l.mailboxes.size,
    { l with
      mailboxes := l.mailboxes.push box
      registered := l.registered ++ [l.mailboxes.size] })

/-- Takes a listener off the register; the answer is whether it was there. -/
def remove (id : ListenerId) : Bool × Listeners :=
  (l.registered.contains id, { l with registered := l.registered.filter (· != id) })

/-- Puts an event at the end of the queue. -/
def post (e : Event) : Listeners :=
  { l with pending := l.pending ++ [e] }

/-- Puts events at the end of the queue. -/
def postAll (events : List Event) : Listeners :=
  { l with pending := l.pending ++ events }

/-- Hands one event to every registered listener. -/
def announce (mailboxes : Array Mailbox) (registered : List ListenerId) (e : Event) :
    Array Mailbox :=
  registered.foldl (fun boxes id => boxes.modify id (·.hear e)) mailboxes

/-- Hands out all events in the queue. -/
def deliver : Listeners :=
  { l with
    mailboxes := l.pending.foldl (announce · l.registered) l.mailboxes
    pending := [] }

/-- Hands out the queue unless somebody else is about it, who will hand out what is left. -/
def tryDeliver (busy : Bool) : Listeners :=
  if busy then l else l.deliver

/-- Queues an event and hands out the queue. -/
def emit (e : Event) : Listeners :=
  (l.post e).deliver

/-- Empties a mailbox: the events in it, or nothing if it is not attended any more. -/
def collect (id : ListenerId) : Option (List Event) × Listeners :=
  match l.mailboxes[id]? with
  | some box =>
    if box.attended then
      (some box.heard.toList,
        { l with mailboxes := l.mailboxes.modify id fun box => { box with heard := #[] } })
    else (none, l)
  | none => (none, l)

/-- Leaves a mailbox unattended. -/
def forsake (id : ListenerId) : Listeners :=
  { l with mailboxes := l.mailboxes.modify id fun box => { box with attended := false } }

end Listeners

end SamplePlayer
