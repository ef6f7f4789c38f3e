/-!
# The shortest decimal that reads back

A binary number stands for every real number that rounds to it. Among the decimals in that interval
the shortest is chosen, and among those the nearest to the number itself. Everything is computed on
natural numbers: the number is `m · 2 ^ e`, a decimal is `c · 10 ^ p`, and both are compared after
clearing the negative exponents.

## Main definitions

* `Digits`: a decimal given by its digits and the place of its point.
* `Interval`: the reals that round to a binary number, in quarters of its last binary digit.
* `shortest`: the digits chosen for a finite number.
-/

namespace SamplePlayer.Decimal

open Float.Model

/-- The decimal `0.d₁d₂… · 10 ^ point`, where `d₁d₂…` are the digits of `coefficient`. -/
structure Digits where
  /-- The digits, read as a natural number with no zero at its end. -/
  coefficient : Nat
  /-- How many digits stand in front of the decimal point; not positive when zeros follow it. -/
  point : Int
deriving DecidableEq, Repr

/-- The number of decimal digits of `n`; zero has one. -/
def digitCount (n : Nat) : Nat :=
  (Nat.toDigits 10 n).length

/-- Removes the zeros at the end of a coefficient, which a decimal point makes redundant. The fuel
is the number of digits. -/
def dropZeros : Nat → Nat → Nat
  | 0, c => c
  | fuel + 1, c => if c % 10 = 0 ∧ c ≠ 0 then dropZeros fuel (c / 10) else c

/-- The real numbers that round to `value · 2 ^ exponent`, the ends included when `closed`. -/
structure Interval where
  low : Nat
  value : Nat
  high : Nat
  exponent : Int
  closed : Bool

/-- The interval of `m · 2 ^ e` in the format `spec`: half a unit of the last binary digit on either
side, but only a quarter below a power of two, where the spacing halves. The ends round to the even
mantissa. -/
def Interval.of (spec : Format) (m : Nat) (e : Int) : Interval where
  low := if m = Nat.pow 2 spec.mantissaBitsWithoutImplicit ∧ spec.minExponent < e then 4 * m - 1
    else 4 * m - 2
  value := 4 * m
  high := 4 * m + 2
  exponent := e - 2
  closed := m % 2 = 0

/-- The number of digits in front of the decimal point of `m · 2 ^ e`. -/
def pointOf (m : Nat) (e : Int) : Int :=
  if 0 ≤ e then digitCount (m * Nat.pow 2 e.toNat)
  else (digitCount (m * Nat.pow 5 (-e).toNat) : Int) + e

/-- The coefficient at the decimal place `p` that lies in the interval, if one of the two
neighbours of the value on that grid does. Of two the nearer is taken, the upper one at a tie. -/
def Interval.coefficient? (v : Interval) (p : Int) : Option Nat :=
  let unit := Nat.pow 10 p.toNat * Nat.pow 2 (-v.exponent).toNat
  let scale := Nat.pow 2 v.exponent.toNat * Nat.pow 10 (-p).toNat
  let below := v.value * scale / unit
  let above := below + 1
  let fits (a b : Nat) : Bool := if v.closed then a ≤ b else a < b
  let down := fits (v.low * scale) (below * unit)
  let up := fits (above * unit) (v.high * scale)
  if up && (!down || unit ≤ 2 * (v.value * scale - below * unit)) then some above
  else if down then some below
  else none

/-- The digits of the positive number `m · 2 ^ e` of the format `spec`: the first grid, from one
digit on, that meets the interval. Seventeen digits always suffice for the formats in use. -/
def shortest (spec : Format) (m : Nat) (e : Int) : Digits :=
  let v := Interval.of spec m e
  let point := pointOf m e
  let attempt (n : Nat) : Option Digits :=
    (v.coefficient? (point - (n + 1 : Nat))).map fun c =>
      ⟨dropZeros (digitCount c) c, point - (n + 1 : Nat) + digitCount c⟩
  ((List.range 17).findSome? attempt).getD ⟨m, point⟩

end SamplePlayer.Decimal
