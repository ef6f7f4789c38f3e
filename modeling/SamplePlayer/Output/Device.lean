import SamplePlayer.Output.Error
import SamplePlayer.Ring

/-!
# Device outputs

A device takes samples one by one from the ring of its stream, on its own time. A write puts its
samples into the ring and waits for room as often as it has to; draining waits until the ring is
empty. Once the device has reported a failure, whoever would have to go on gets an error.

## Main definitions

* `Stream`: the stream of an open device.
* `Stream.offer`: one turn of a write, between two waits.
* `Stream.write`, `Stream.drain`: a whole write and drain, with the device taking samples meanwhile.
* `DeviceOutput`: an output that names a device.
-/

namespace SamplePlayer

/-- The stream of an open device. -/
structure Stream where
  ring : Ring
  format : OutputFormat
  /-- The device reported a failure. -/
  failed : Bool := false
  /-- The thread that keeps the device going dies when it is told to end. -/
  collapses : Bool := false

namespace Stream

/-- The answer of a stream whose device failed. -/
def failure : OutputError := .backend "output stream failed"

/-- One turn of a write that has `samples` left: as many as there is room for go into the ring. What
is left has to wait. -/
def offer (s : Stream) (samples : List Sample) : Except OutputError (List Sample × Stream) :=
  if s.failed then .error failure
  else
    let (count, ring) := s.ring.push samples
    .ok (samples.drop count, { s with ring })

/-- The device takes up to `count` samples. -/
def take (s : Stream) (count : Nat) : List Sample × Stream :=
  let (samples, ring) := s.ring.popMany count
  (samples, { s with ring })

/-- The turns of a write, with the device taking one sample at each wait while it has `takes` left.
The result is the answer, the samples taken, how many the device may still take, and the stream. A
write that waits for a device that takes nothing has no answer. -/
def writeTurns (fuel : Nat) (s : Stream) (samples taken : List Sample) (takes : Nat) :
    Option Reply × List Sample × Nat × Stream :=
  match fuel, samples with
  | _, [] => (some .done, taken, takes, s)
  | 0, _ => (none, taken, takes, s)
  | fuel + 1, samples =>
    match s.offer samples with
    | .error e => (some (.failed e), taken, takes, s)
    | .ok ([], s) => (some .done, taken, takes, s)
    | .ok (rest, s) =>
      if takes = 0 then (none, taken, takes, s)
      else
        let (popped, s) := s.take 1
        writeTurns fuel s rest (taken ++ popped) (takes - 1)

/-- Writes bytes while the device takes up to `takes` samples. -/
def write (s : Stream) (bytes : List UInt8) (takes : Nat) :
    Option Reply × List Sample × Stream :=
  let samples := s.format.decode bytes
  let (answer, taken, takes, s) := s.writeTurns (samples.length + 1) samples [] takes
  let (rest, s) := s.take takes
  (answer, taken ++ rest, s)

/-- Waits until the ring is empty while the device takes up to `takes` samples. -/
def drain (s : Stream) (takes : Nat) : Option Reply × List Sample × Stream :=
  let waiting := s.ring.available
  let (taken, t) := s.take takes
  if waiting = 0 then (some .done, taken, t)
  else if s.failed then (some (.failed failure), taken, t)
  else if takes < waiting then (none, taken, t)
  else (some .done, taken, t)

end Stream

/-- An output that plays on a device. -/
structure DeviceOutput where
  name : String
  stream : Option Stream := none

namespace DeviceOutput

/-- The name of whatever device the system prefers. -/
def preferred : String := "default"

/-- The text of an output. -/
def text (d : DeviceOutput) : String := s!"{d.name} (CPAL)"

/-- Ends the stream, if there is one. It is gone even if its thread died. -/
def close (d : DeviceOutput) : Reply × DeviceOutput :=
  match d.stream with
  | some s =>
    (if s.collapses then .failed (.backend "output thread panicked") else .done,
      { d with stream := none })
  | none => (.done, d)

/-- Looks the device up. There is none on this system; the preferred one is found but cannot be
used. -/
def find (d : DeviceOutput) : OutputError :=
  if d.name = preferred then .backend "no usable device" else .deviceNotFound d.name

/-- Opens the device, after closing a stream that is there. -/
def opening (d : DeviceOutput) : Reply × DeviceOutput :=
  match d.stream with
  | none => (.failed d.find, d)
  | some _ =>
    match d.close with
    | (.done, d) => (.failed d.find, d)
    | (answer, d) => (answer, d)

/-- Writes bytes while the device takes up to `takes` samples. -/
def write (d : DeviceOutput) (bytes : List UInt8) (takes : Nat) :
    Option Reply × List Sample × DeviceOutput :=
  match d.stream with
  | none => (some (.failed .closed), [], d)
  | some s =>
    let (answer, taken, s) := s.write bytes takes
    (answer, taken, { d with stream := some s })

/-- Waits until everything is played while the device takes up to `takes` samples. -/
def drain (d : DeviceOutput) (takes : Nat) : Option Reply × List Sample × DeviceOutput :=
  match d.stream with
  | none => (some (.failed .closed), [], d)
  | some s =>
    let (answer, taken, s) := s.drain takes
    (answer, taken, { d with stream := some s })

end DeviceOutput

/-- A device that can be listed. -/
structure DeviceInfo where
  name : String
  maxChannels : UInt16
  host : String

/-- The text of a device in a list. -/
def DeviceInfo.text (d : DeviceInfo) : String :=
  s!"{d.name} (Channels={d.maxChannels}) ({d.host})"

end SamplePlayer
