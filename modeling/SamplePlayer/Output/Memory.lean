import SamplePlayer.Output.Error

/-!
# Outputs without a device

Outputs that play nothing: one keeps every buffer, one hands them to a reader through a queue, and
one stands for a device that is not there. All of them keep a record of what was done to them.

## Main definitions

* `Destination`, `MemoryOutput`.
* `MemoryOutput.opening`, `MemoryOutput.write?`, `MemoryOutput.drain`, `MemoryOutput.close`.
* `MemoryOutput.receive`: the reader's side of a queue.
-/

namespace SamplePlayer

/-- Where the buffers of an output without a device go. -/
inductive Destination where
  /-- They are kept, oldest first. -/
  | recording (buffers : Array (List UInt8))
  /-- They wait for a reader, at most `capacity` at a time; without a reader they are lost. -/
  | queue (capacity : Nat) (waiting : List (List UInt8)) (attended : Bool)
  /-- The output cannot be opened. -/
  | absent

/-- An output without a device, and what was done to it. -/
structure MemoryOutput where
  name : String
  destination : Destination
  opened : Bool := false
  drained : Bool := false
  closed : Bool := false
  /-- How many buffers it took. -/
  writes : Nat := 0
  /-- The format it was last opened with. -/
  format : Option OutputFormat := none
  /-- The frames in a buffer it was last opened for. -/
  bufferFrames : Nat := 0

namespace MemoryOutput

/-- An output that keeps every buffer. -/
def recording (name : String) : MemoryOutput := { name, destination := .recording #[] }

/-- An output whose reader lets at most `capacity` buffers wait. -/
def queued (name : String) (capacity : Nat) : MemoryOutput :=
  { name, destination := .queue capacity [] true }

/-- An output that cannot be opened. -/
def absent (name : String) : MemoryOutput := { name, destination := .absent }

variable (m : MemoryOutput)

/-- The text of an output. -/
def text : String := s!"{m.name} (Mock)"

/-- The buffers it kept. -/
def recorded : List (List UInt8) :=
  match m.destination with
  | .recording buffers => buffers.toList
  | _ => []

/-- Opens the output. -/
def opening (format : OutputFormat) (bufferFrames : Nat) : Reply × MemoryOutput :=
  match m.destination with
  | .absent => (.failed (.deviceNotFound m.name), m)
  | _ => (.done, { m with format := some format, bufferFrames, closed := false, opened := true })

/-- Takes a buffer. A write to a full queue has no answer until the reader makes room. -/
def write? (bytes : List UInt8) : Option Reply × MemoryOutput :=
  if !m.opened || m.closed then (some (.failed .closed), m)
  else
    let counted := { m with writes := m.writes + 1 }
    match m.destination with
    | .recording buffers =>
      (some .done, { counted with destination := .recording (buffers.push bytes) })
    | .queue capacity waiting true =>
      if waiting.length < capacity then
        (some .done, { counted with destination := .queue capacity (waiting ++ [bytes]) true })
      else (none, m)
    | .queue _ _ false => (some .done, counted)
    | .absent => (some (.failed .closed), m)

/-- Waits until everything is played, which is at once. -/
def drain : Reply × MemoryOutput := (.done, { m with drained := true })

/-- Closes the output. -/
def close : Reply × MemoryOutput := (.done, { m with closed := true })

/-- The reader takes the oldest buffer, if one waits. -/
def receive : Option (List UInt8) × MemoryOutput :=
  match m.destination with
  | .queue capacity (bytes :: waiting) true =>
    (some bytes, { m with destination := .queue capacity waiting true })
  | _ => (none, m)

/-- The reader goes away. -/
def leaveUnattended : MemoryOutput :=
  match m.destination with
  | .queue capacity waiting _ => { m with destination := .queue capacity waiting false }
  | _ => m

end MemoryOutput

end SamplePlayer
