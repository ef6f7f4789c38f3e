import SamplePlayer.Json
import SamplePlayer.Number.Conversion
import SamplePlayer.Settings.Value

/-!
# Settings in JSON

A number in a JSON file that is not a whole number in range is taken with a single rounding of its
leading digits and a single multiplication or division by a power of ten, which is exact for
numerals of ordinary length.

## Main definitions

* `Json.approximate?`: the number of a numeral.
* `Json.setting?`: the setting that a value is.
* `Json.entries?`: the entries of a settings file.
-/

namespace SamplePlayer.Json

/-- The greatest coefficient that is kept whole. -/
def maxCoefficient : Nat := 18446744073709551615

/-- The greatest power of ten that is a number. -/
def maxPower : Nat := 308

/-- Drops digits of a coefficient until it can be kept, and counts them. -/
def shorten : (fuel coefficient dropped : Nat) → Nat × Nat
  | 0, coefficient, dropped => (coefficient, dropped)
  | fuel + 1, coefficient, dropped =>
    if coefficient ≤ maxCoefficient then (coefficient, dropped)
    else shorten fuel (coefficient / 10) (dropped + 1)

/-- A power of ten as a number. -/
def powerOfTen (exponent : Nat) : Float := .ofScientific 1 false exponent

/-- Scales a number by a power of ten, in several steps if it is a very small one. There is no
number for a result that is too large. -/
def scale? : (fuel : Nat) → Float → Int → Option Float
  | 0, _, _ => none
  | fuel + 1, x, exponent =>
    if exponent.natAbs ≤ maxPower then
      if 0 ≤ exponent then
        let y := x * powerOfTen exponent.natAbs
        if y.isInf then none else some y
      else some (x / powerOfTen exponent.natAbs)
    else if x == 0.0 then some x
    else if 0 ≤ exponent then none
    else scale? fuel (x / powerOfTen maxPower) (exponent + maxPower)

/-- The number that a numeral is taken for. -/
def approximate? (n : Decimal.Numeral) : Option Float :=
  let digits := (Nat.toDigits 10 n.coefficient).length
  let (coefficient, dropped) := shorten digits n.coefficient 0
  let exponent := n.exponent + dropped
  (scale? (exponent.natAbs + 1) (Number.ofCount coefficient) exponent).map fun x =>
    if n.negative then -x else x

/-- The setting that a number is. -/
def numberSetting? (n : Decimal.Numeral) (whole : Bool) : Option Setting :=
  let integer := if whole && !(n.negative && n.coefficient == 0) then n.toInt? else none
  match integer.bind Setting.whole? with
  | some s => some s
  | none => (approximate? n).map .number

/-- The setting that a value is. -/
def setting? : Json → Option Setting
  | .null => some .unset
  | .bool b => some (.flag b)
  | .number n whole => numberSetting? n whole
  | .text t => some (.text t)
  | .list items => (settings? items).map .sequence
  | .object members => (memberSettings? members).map .table
where
  /-- The settings that values are. -/
  settings? : List Json → Option (List Setting)
    | [] => some []
    | j :: rest => do return (← setting? j) :: (← settings? rest)
  /-- The entries that members are. -/
  memberSettings? : List (String × Json) → Option Entries
    | [] => some []
    | (key, j) :: rest => do return (key, ← setting? j) :: (← memberSettings? rest)

/-- The entries of a settings file. -/
def entries? (text : List Char) : Option Entries := do
  match ← setting? (← read? (.ofList text)) with
  | .table entries => some entries
  | _ => none

end SamplePlayer.Json
