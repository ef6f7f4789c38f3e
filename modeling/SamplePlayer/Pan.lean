import SamplePlayer.Number.Conversion

/-!
# Pan laws

A pan law turns a volume and a place in the stereo field into the gains of the two channels.

## Main definitions

* `PanLaw`, `PanLaw.ofName?`, `PanLaw.name`.
* `PanLaw.gains`.
-/

namespace SamplePlayer

/-- How gains depend on the place in the field. -/
inductive PanLaw where
  /-- Gains fall linearly across the field; the centre has half the volume on each side. -/
  | linear
  /-- The centre has full volume on both sides; panning only lowers the far side. -/
  | centerLinear
  /-- The squares of the gains add up to the same power everywhere. -/
  | constantPower
deriving DecidableEq, Repr

namespace PanLaw

instance : Inhabited PanLaw := ⟨centerLinear⟩

/-- A quarter of the half turn, the angle of the centre. -/
def quarterPi : Float32 := .ofBits 0x3f490fdb

/-- The left and right gains for a place between -1, hard left, and 1, hard right. Places outside
are moved to the end of the field; NaN stays and spoils whatever depends on it. -/
def gains (law : PanLaw) (volume pan : Float32) : Float32 × Float32 :=
  let pan := Number.clamp32 pan (-1.0) 1.0
  let (left, right) :=
    match law with
    | linear => ((1.0 - pan) / 2.0, (1.0 + pan) / 2.0)
    | centerLinear => (Number.lesser32 (1.0 - pan) 1.0, Number.lesser32 (1.0 + pan) 1.0)
    | constantPower =>
      let angle := (pan + 1.0) * quarterPi
      (angle.cos, angle.sin)
  (left * volume, right * volume)

/-- The name of a law. -/
def name : PanLaw → String
  | linear => "linear"
  | centerLinear => "center-linear"
  | constantPower => "constant-power"

/-- Reads the name of a law, in ASCII letters of either case; two laws have a short name too. An
unknown name is returned in lower case. -/
def ofName (text : String) : Except String PanLaw :=
  let lower := text.map Char.toLower
  match lower with
  | "linear" => .ok linear
  | "center" | "center-linear" => .ok centerLinear
  | "power" | "constant-power" => .ok constantPower
  | _ => .error lower

/-- The wording of a failure to read a name. -/
def unknownMessage (name : String) : String :=
  s!"unknown pan law {name}"

end PanLaw

end SamplePlayer
