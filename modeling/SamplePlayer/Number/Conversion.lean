/-!
# Conversions between number formats

Samples and gains are single precision numbers; positions are double precision numbers. A value
moves from one format to the other by the rule every arithmetic operation follows: the nearest
representable number, ties to the even mantissa. Integral parts are taken exactly, on the mantissa
and exponent of the number, so no rounding enters there.

## Main definitions

* `widen`, `narrow`: between single and double precision.
* `toInt16`, `roundToInt16`, `ofInt16`, `toCount`, `ofCount`: saturating conversions to and from
  integers.
* `floor`, `ceil`, `roundHalfAway`: integral parts of a double precision number.
* `clamp`, `clamp32`, `lesser32`: selections by comparison, with the treatment of NaN they need.
-/

namespace SamplePlayer.Number

open Float.Model

/-- The nearest number of the format `spec`, ties to even. Zeros, infinities and NaN keep their
kind. -/
def reround (spec : Format) : UnpackedFloat → UnpackedFloat
  | .finite s m e _ => .round spec s m e
  | other => other

/-- A single precision number as a double precision number. Nothing is lost: the wider format
holds every number of the narrower one. -/
def widen (x : Float32) : Float :=
  .ofModel (.pack (reround .binary64 x.toModel.unpack))

/-- The nearest single precision number. -/
def narrow (x : Float) : Float32 :=
  .ofModel (.pack (reround .binary32 x.toModel.unpack))

/-- A double precision number that holds the integer `n`, rounded if it is too wide. -/
def ofInt (n : Int) : Float :=
  .ofModel (.ofInt n)

/-- The single precision number nearest to the integer `n`. -/
def ofInt32 (n : Int) : Float32 :=
  .ofModel (.ofInt n)

/-- The 16-bit word nearest to an integer. -/
def saturate16 (n : Int) : Int16 :=
  if n < -32768 then -32768 else if 32767 < n then 32767 else .ofInt n

/-- The 16-bit word that `magnitude` gives for a number without its sign, with the sign put back.
NaN counts as positive. -/
def signed16 (magnitude : Float32 → Nat) (x : Float32) : Int16 :=
  if x < 0.0 then saturate16 (-(magnitude (-x) : Int)) else saturate16 (magnitude x)

/-- The integer part of a positive single precision number, which is limited to 32 bits. NaN gives
zero. -/
def truncated (x : Float32) : Nat := x.toUInt32.toNat

/-- The integer nearest to a positive single precision number, a half going up, which is limited as
the integer part is. -/
def nearest (x : Float32) : Nat :=
  let whole := x.toUInt32
  if 0.5 ≤ x - whole.toFloat32 then whole.toNat + 1 else whole.toNat

/-- The integer part of a single precision number as a 16-bit word. Numbers out of range go to the
nearest word and NaN goes to zero. -/
def toInt16 (x : Float32) : Int16 := signed16 truncated x

/-- The 16-bit word nearest to a single precision number, a half going away from zero. NaN goes to
zero. -/
def roundToInt16 (x : Float32) : Int16 := signed16 nearest x

/-- A 16-bit word as a single precision number, exactly. -/
def ofInt16 (n : Int16) : Float32 :=
  let magnitude := n.toInt.natAbs.toUInt32.toFloat32
  if n < 0 then -magnitude else magnitude

/-- The integer part of a double precision number as a count, at most `2 ^ 64 - 1`. Negative
numbers and NaN give zero. -/
def toCount (x : Float) : Nat :=
  x.toUInt64.toNat

/-- A count below `2 ^ 64` as the nearest double precision number. -/
def ofCount (n : Nat) : Float :=
  n.toUInt64.toFloat

/-- The integer below `± m · 2 ^ (-k)`. -/
def floorQuotient (s : UnpackedFloat.Sign) (m k : Nat) : Int :=
  (s.apply m).fdiv (Nat.pow 2 k)

/-- The integer nearest to `± m · 2 ^ (-k)`, a half going away from zero. -/
def nearestAway (s : UnpackedFloat.Sign) (m k : Nat) : Int :=
  s.apply ((2 * m + Nat.pow 2 k) / Nat.pow 2 (k + 1))

/-- Replaces a number with a fraction by the integer that `pick` chooses for its sign, mantissa and
negated exponent. A number with no fraction bits, an infinity and NaN are left alone; an integer
zero comes without a sign. -/
def toIntegral (pick : UnpackedFloat.Sign → Nat → Nat → Int) (x : Float) : Float :=
  match x.toModel.unpack with
  | .finite s m e _ =>
    if 0 ≤ e then x else ofInt (pick s m (-e).toNat)
  | _ => x

/-- The bound below which the integer part of a positive double precision number is a count that
double precision holds exactly. -/
def countable : Float := 9007199254740992.0

/-- The largest integer that is not above the number. Numbers whose integer part is a count take the
short way. -/
def floor (x : Float) : Float :=
  if 0.0 < x ∧ x < countable then ofCount (toCount x) else toIntegral floorQuotient x

/-- The smallest integer that is not below the number. -/
def ceil (x : Float) : Float :=
  -floor (-x)

/-- The nearest integer, a half going away from zero. -/
def roundHalfAway (x : Float) : Float :=
  toIntegral nearestAway x

/-- Moves a number into `[lo, hi]`. NaN is neither below nor above and stays, and so does a negative
zero at a bound of zero. -/
def clamp (x lo hi : Float) : Float :=
  if x < lo then lo else if hi < x then hi else x

/-- Moves a single precision number into `[lo, hi]`; NaN stays. -/
def clamp32 (x lo hi : Float32) : Float32 :=
  if x < lo then lo else if hi < x then hi else x

/-- The smaller of two numbers, or the one that is a number if the other is NaN. -/
def lesser32 (x y : Float32) : Float32 :=
  if x.isNaN then y else if y < x then y else x

end SamplePlayer.Number
