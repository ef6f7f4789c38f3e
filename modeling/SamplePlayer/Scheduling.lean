import SamplePlayer.Decimal.Numeral

/-!
# Scheduling of the worker

The thread that mixes asks for a high priority, and for real-time scheduling unless that is turned
off. Both are read from settings that may be missing or make no sense.

## Main definitions

* `Scheduling.workerPriority`, `Scheduling.acceptable`.
* `Scheduling.realTime`.
-/

namespace SamplePlayer.Scheduling

/-- The priority if none is set. -/
def defaultPriority : Nat := 70

/-- Whether threads can have a priority. -/
def acceptable (priority : Nat) : Bool := priority < 100

/-- The priority that a setting asks for: the number it spells, if that is one. -/
def workerPriority (setting : Option String) : Nat :=
  ((setting.bind fun text => Decimal.unsigned? text.toList).filter acceptable).getD defaultPriority

/-- Whether a setting spells consent. -/
def affirms (text : String) : Bool :=
  text == "1" || ["true", "yes", "on"].contains (text.map Char.toLower)

/-- Whether real-time scheduling is asked for, given the setting that turns it off. -/
def realTime (disabled : Option String) : Bool :=
  !disabled.any affirms

end SamplePlayer.Scheduling
