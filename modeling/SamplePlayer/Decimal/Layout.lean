import SamplePlayer.Decimal.Shortest

/-!
# How numbers are written

A number is written with the fewest digits that read back. Two layouts are in use: the plain one
for messages and settings, always positional, and the annotated one for descriptions of values,
where a whole number keeps a fraction and very large or small numbers take an exponent.

## Main definitions

* `Layout`: the choices a layout makes.
* `Layout.plain`, `Layout.annotated`: the two layouts.
* `Layout.write`, `Layout.write32`: the text of a number.
-/

namespace SamplePlayer.Decimal

open Float.Model

/-- The choices left open by the digits themselves. -/
structure Layout where
  /-- Whole numbers in positional notation end in `.0`. -/
  wholeMark : Bool
  /-- The decimal exponents that are written positionally, if not all are. -/
  positional : Option (Int × Int)

/-- Positional, and a whole number is written as an integer. -/
def Layout.plain : Layout := ⟨false, none⟩

/-- A fraction is always shown, and exponents below -4 or from 16 on are written out. -/
def Layout.annotated : Layout := ⟨true, some (-4, 15)⟩

/-- `n` zeros. -/
def zeros (n : Nat) : String :=
  String.ofList (List.replicate n '0')

/-- Positional notation of a decimal. -/
def Layout.writePositional (layout : Layout) (d : Digits) : String :=
  let text := toString d.coefficient
  let mark := if layout.wholeMark then ".0" else ""
  if d.point ≤ 0 then "0." ++ zeros (-d.point).toNat ++ text
  else if text.length ≤ d.point.toNat then text ++ zeros (d.point.toNat - text.length) ++ mark
  else String.ofList (text.toList.take d.point.toNat) ++ "." ++
    String.ofList (text.toList.drop d.point.toNat)

/-- Exponent notation of a decimal: one digit in front of the point. -/
def writeExponent (d : Digits) : String :=
  let exponent := toString (d.point - 1)
  match (toString d.coefficient).toList with
  | [] => ""
  | [c] => String.singleton c ++ "e" ++ exponent
  | c :: rest => String.singleton c ++ "." ++ String.ofList rest ++ "e" ++ exponent

/-- The text of a positive decimal. -/
def Layout.writeDigits (layout : Layout) (d : Digits) : String :=
  match layout.positional with
  | none => layout.writePositional d
  | some (least, greatest) =>
    if least ≤ d.point - 1 ∧ d.point - 1 ≤ greatest then layout.writePositional d
    else writeExponent d

/-- The text of a sign. -/
def signText : UnpackedFloat.Sign → String
  | .negative => "-"
  | .positive => ""

/-- The text of a number of the format `spec`. Zero keeps its sign. -/
def Layout.writeUnpacked (layout : Layout) (spec : Format) : UnpackedFloat → String
  | .notANumber => "NaN"
  | .infinity s => signText s ++ "inf"
  | .zero s => signText s ++ (if layout.wholeMark then "0.0" else "0")
  | .finite s m e _ => signText s ++ layout.writeDigits (shortest spec m e)

/-- The text of a double precision number. -/
def Layout.write (layout : Layout) (x : Float) : String :=
  layout.writeUnpacked .binary64 x.toModel.unpack

/-- The text of a single precision number. -/
def Layout.write32 (layout : Layout) (x : Float32) : String :=
  layout.writeUnpacked .binary32 x.toModel.unpack

end SamplePlayer.Decimal
