/-!
# Epochs

An epoch is a counter that guards the fields of a voice. It is odd while somebody is changing them.
A transition, a change that a caller asks for, waits until it is even, makes it odd, and leaves it
two higher than it was. A mixing pass reads the epoch before it starts and may write its results
back only if it finds the very same even value; it then leaves the epoch as it was. So a pass that
any transition overtook is not written back.

## Main definitions

* `Epoch`, `Epoch.busy`.
* `Epoch.enter?`, `Epoch.leave`: the two ends of a transition.
* `Epoch.claim?`, `Epoch.yield`: the two ends of a write-back.
-/

namespace SamplePlayer

/-- The counter of a voice; it wraps around. -/
structure Epoch where
  count : UInt32
deriving DecidableEq, Repr, Inhabited

namespace Epoch

/-- The epoch of a voice that was never used. -/
def first : Epoch := ⟨0⟩

/-- Somebody is changing the voice. -/
def busy (e : Epoch) : Bool := e.count % 2 = 1

/-- The epoch with the mark that somebody is changing the voice. -/
def marked (e : Epoch) : Epoch := ⟨e.count ||| 1⟩

/-- The epoch at the start of a transition, which has to wait while another change is under way. -/
def enter? (e : Epoch) : Option Epoch :=
  if e.busy then none else some e.marked

/-- The epoch after a transition that started at `before`. -/
def leave (before : Epoch) : Epoch := ⟨before.count + 2⟩

/-- The epoch at the start of a write-back by a pass that began at `snapshot`, if nothing was under
way then and nothing has happened since. -/
def claim? (snapshot now : Epoch) : Option Epoch :=
  if snapshot.busy ∨ now ≠ snapshot then none else some now.marked

/-- The epoch after a write-back by a pass that began at `snapshot`. -/
def yield (snapshot : Epoch) : Epoch := snapshot

end Epoch

end SamplePlayer
