import SamplePlayer.Decimal.Numeral
import SamplePlayer.Text.Numeric

/-!
# Spans of time

A span is written as numbers with units, such as `1s500ms`; the numbers add up. White space does not
count.

## Main definitions

* `TimeSpan`: a span, in nanoseconds.
* `TimeSpan.parse`: the span that a text spells.
* `TimeSpan.micros`: whole microseconds.
-/

namespace SamplePlayer

/-- A span of time. -/
structure TimeSpan where
  nanos : Nat
deriving DecidableEq, Repr

/-- Why a text is no number. -/
inductive CountFault where
  | empty
  | invalidDigit
  | tooLarge
deriving DecidableEq, Repr

/-- The description of a fault. -/
def CountFault.describe : CountFault → String
  | empty => "ParseIntError \x7b kind: Empty \x7d"
  | invalidDigit => "ParseIntError \x7b kind: InvalidDigit \x7d"
  | tooLarge => "ParseIntError \x7b kind: PosOverflow \x7d"

/-- Why a text is no span of time. -/
inductive TimeSpanError where
  /-- There is no such unit, or nothing at all. -/
  | form
  /-- It is longer than what can be told. -/
  | overflow
  /-- Something that should be a number is none. -/
  | count (fault : CountFault)
deriving DecidableEq, Repr

/-- The description of an error. -/
def TimeSpanError.describe : TimeSpanError → String
  | form => "Format"
  | overflow => "Overflow"
  | count fault => s!"ParseInt({fault.describe})"

namespace TimeSpan

/-- The greatest count of any unit, and of seconds in a span. -/
def maxCount : Nat := 18446744073709551615

/-- The nanoseconds in a second. -/
def second : Nat := 1000000000

/-- The longest span. -/
def longest : Nat := maxCount * second + (second - 1)

/-- The nanoseconds in a unit. -/
def unit? (name : String) : Option Nat :=
  match name with
  | "ns" => some 1
  | "us" => some 1000
  | "ms" => some 1000000
  | "s" => some second
  | "m" => some (60 * second)
  | "h" => some (3600 * second)
  | "d" => some (86400 * second)
  | "w" => some (604800 * second)
  | "y" => some (31556926 * second)
  | _ => none

/-- The number that digits spell. The first character that goes wrong decides the fault. -/
def count (text : List Char) : Except CountFault Nat :=
  if text.isEmpty then .error .empty
  else text.foldlM (fun n c =>
    if !c.isDigit then .error .invalidDigit
    else
      let n := 10 * n + Decimal.digitValue c
      if n ≤ maxCount then .ok n else .error .tooLarge) 0

/-- Splits a text into numbers, each with the unit that follows it. -/
def groups : (fuel : Nat) → List Char → List (List Char × List Char)
  | 0, _ => []
  | _, [] => []
  | fuel + 1, text =>
    let number := text.takeWhile Text.numeric.contains
    let rest := text.drop number.length
    let unit := rest.takeWhile (!Text.numeric.contains ·)
    (number, unit) :: groups fuel (rest.drop unit.length)

/-- The sum of spans so far and a number with its unit. -/
def addGroup (total : Nat) (group : List Char × List Char) : Except TimeSpanError Nat := do
  let n ← (count group.1).mapError .count
  match unit? (.ofList group.2) with
  | none => throw .form
  | some nanos =>
    let total := total + n * nanos
    if total ≤ longest then return total else throw .overflow

/-- The span that a text spells. -/
def parse (text : String) : Except TimeSpanError TimeSpan :=
  let text := text.toList.filter (!Text.blank.contains ·)
  match groups text.length text with
  | [] => .error .form
  | all => (all.foldlM addGroup 0).map (⟨·⟩)

/-- The whole microseconds in a span, as far as they can be told. -/
def micros (t : TimeSpan) : UInt64 :=
  (min (t.nanos / 1000) maxCount).toUInt64

end TimeSpan

end SamplePlayer
