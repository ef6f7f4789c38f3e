import SamplePlayer.Decimal.Layout

/-!
# Events

What happens to a clip and to its voices is told to listeners as events. An event about a voice
carries the voice and the position at which it happened.
-/

namespace SamplePlayer

/-- The number of a voice in its clip. -/
abbrev VoiceId := Nat

/-- What can happen to a voice. -/
inductive Occurrence where
  /-- It was taken from the free voices. -/
  | obtain
  /-- It went back to the free voices. -/
  | release
  /-- It began to play. -/
  | start
  /-- It ceased to play. -/
  | stop
  /-- It wrapped around to the beginning. -/
  | loop
deriving DecidableEq, Repr

/-- The word for an occurrence. -/
def Occurrence.word : Occurrence → String
  | obtain => "obtain"
  | release => "release"
  | start => "start"
  | stop => "stop"
  | loop => "loop"

/-- Something a clip tells its listeners. -/
inductive Event where
  /-- Playback to an output began. -/
  | opened
  /-- Playback to an output ended. -/
  | closed
  /-- Something happened to a voice at a position. -/
  | voice (what : Occurrence) (id : VoiceId) (position : Float)

namespace Event

/-- The voice an event is about. -/
def voice? : Event → Option VoiceId
  | voice _ id _ => some id
  | _ => none

/-- Two events are the same if all they carry compares equal, positions as numbers. -/
protected def beq : Event → Event → Bool
  | opened, opened => true
  | closed, closed => true
  | voice w i p, voice w' i' p' => w == w' && i == i' && p == p'
  | _, _ => false

instance : BEq Event := ⟨Event.beq⟩

/-- The text of an event. -/
def text : Event → String
  | opened => "open"
  | closed => "close"
  | voice what id position => s!"{what.word} {id} @ {Decimal.Layout.plain.write position}"

end Event

end SamplePlayer
