/-!
# Decimal numerals

A numeral in a settings file or on a command line is an integer scaled by a power of ten. It is kept
that way until it is known what number it is to become, so that it is rounded once only.

## Main definitions

* `Numeral`: a sign, a coefficient and an exponent.
* `Numeral.read?`: the numeral that a text spells.
* `Numeral.toFloat`, `Numeral.toFloat32`, `Numeral.toInt?`: the number it stands for.
-/

namespace SamplePlayer.Decimal

/-- The number `± coefficient · 10 ^ exponent`. -/
structure Numeral where
  negative : Bool
  coefficient : Nat
  exponent : Int
deriving DecidableEq, Repr, Inhabited

/-- The value of a digit. -/
def digitValue (c : Char) : Nat := c.toNat - '0'.toNat

/-- The number that decimal digits spell, read on from the number `start`. -/
def ofDigits (start : Nat) (digits : List Char) : Nat :=
  digits.foldl (fun n c => 10 * n + digitValue c) start

/-- The number that a text of decimal digits alone spells. -/
def natural? (text : List Char) : Option Nat :=
  if text ≠ [] ∧ text.all Char.isDigit then some (ofDigits 0 text) else none

/-- Splits off a sign. -/
def splitSign : List Char → Bool × List Char
  | '-' :: rest => (true, rest)
  | '+' :: rest => (false, rest)
  | rest => (false, rest)

/-- The number that digits behind an optional sign spell. -/
def integer? (text : List Char) : Option Int :=
  let (negative, digits) := splitSign text
  (natural? digits).map fun n => if negative then -n else n

/-- The number that digits behind an optional plus sign spell. -/
def unsigned? : List Char → Option Nat
  | '+' :: digits => natural? digits
  | digits => natural? digits

namespace Numeral

/-- The exponent that a text spells: nothing, or a marker, an optional sign and digits. -/
def exponent? : List Char → Option Int
  | [] => some 0
  | c :: rest => if c = 'e' ∨ c = 'E' then integer? rest else none

/-- Reads a numeral: an optional sign, digits with a point before, between or after them, and an
optional exponent. -/
def read? (text : List Char) : Option Numeral :=
  let (negative, rest) := splitSign text
  let whole := rest.takeWhile Char.isDigit
  let rest := rest.drop whole.length
  let (fraction, rest) :=
    match rest with
    | '.' :: after =>
      let fraction := after.takeWhile Char.isDigit
      (fraction, after.drop fraction.length)
    | _ => ([], rest)
  if whole = [] ∧ fraction = [] then none
  else (exponent? rest).map fun exponent =>
    ⟨negative, ofDigits (ofDigits 0 whole) fraction, exponent - fraction.length⟩

/-- The decimal exponent beyond which every number overflows and below whose opposite every number
vanishes. -/
def extent : Int := 400

/-- How the size of a numeral compares with the numbers in use. -/
inductive Size where
  | vanishing
  | ordinary
  | overflowing

/-- The size of a numeral, judged by the place of its leading digit. -/
def size (n : Numeral) : Size :=
  let leading := n.exponent + (Nat.toDigits 10 n.coefficient).length
  if n.coefficient = 0 ∨ leading < -extent then .vanishing
  else if extent < leading then .overflowing
  else .ordinary

/-- The nearest double precision number. Zero takes the sign of the numeral. -/
def toFloat (n : Numeral) : Float :=
  let magnitude : Float :=
    match n.size with
    | .vanishing => 0.0
    | .ordinary => .ofScientific n.coefficient (n.exponent < 0) n.exponent.natAbs
    | .overflowing => 1.0 / 0.0
  if n.negative then -magnitude else magnitude

/-- The nearest single precision number. Zero takes the sign of the numeral. -/
def toFloat32 (n : Numeral) : Float32 :=
  let magnitude : Float32 :=
    match n.size with
    | .vanishing => 0.0
    | .ordinary => .ofScientific n.coefficient (n.exponent < 0) n.exponent.natAbs
    | .overflowing => 1.0 / 0.0
  if n.negative then -magnitude else magnitude

/-- The integer a numeral without a fraction stands for. -/
def toInt? (n : Numeral) : Option Int :=
  if n.exponent < 0 then none
  else
    let magnitude : Int := n.coefficient * Nat.pow 10 n.exponent.toNat
    some (if n.negative then -magnitude else magnitude)

end Numeral

end SamplePlayer.Decimal
