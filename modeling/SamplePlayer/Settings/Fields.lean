import SamplePlayer.Decimal.Layout
import SamplePlayer.Decimal.Numeral
import SamplePlayer.Number.Conversion
import SamplePlayer.Settings.Value
import SamplePlayer.Text.Quoted

/-!
# From settings to fields

A key may be a path: names with dots, and indices in square brackets. What such a key says is put
into the table or the sequence of that name. A field is then read from what is under its name, with
some leniency: a number may be given as a text, a text as a number, and either as a truth value.

## Main definitions

* `KeyPath.ofKey`: the path that a key is.
* `Fields.ofEntries`: what is under the top level names.
* `Fields.count?`, `Fields.text?`: the value of a field.
-/

namespace SamplePlayer

/-! ## Keys -/

/-- A step of a path behind the name it starts with. -/
inductive KeyStep where
  | name (key : String)
  | index (place : Int)
deriving DecidableEq

/-- A path into the settings. -/
structure KeyPath where
  root : String
  steps : List KeyStep := []

namespace KeyPath

/-- Whether a character may stand in a name on a path. -/
def isNameChar (c : Char) : Bool := c.isAlphanum || c == '_' || c == '-'

/-- The steps that a text spells. -/
def steps? : (fuel : Nat) → List Char → Option (List KeyStep)
  | 0, _ => none
  | _ + 1, [] => some []
  | fuel + 1, '.' :: rest =>
    let name := rest.takeWhile isNameChar
    if name.isEmpty then none
    else (steps? fuel (rest.drop name.length)).map (.name (.ofList name) :: ·)
  | fuel + 1, '[' :: rest => do
    let inside := rest.takeWhile (· != ']')
    let place := ((inside.dropWhile (· == ' ')).reverse.dropWhile (· == ' ')).reverse
    let index ← if place.head? == some '+' then none else Decimal.integer? place
    if rest.length = inside.length then none
    return .index index :: (← steps? fuel (rest.drop (inside.length + 1)))
  | _, _ => none

/-- The path that a key is. A key that spells no path is a name as a whole. -/
def ofKey (key : String) : KeyPath :=
  let text := key.toList
  let name := text.takeWhile isNameChar
  match steps? (text.length + 1) (text.drop name.length) with
  | some steps => if name.isEmpty then ⟨key, []⟩ else ⟨.ofList name, steps⟩
  | none => ⟨key, []⟩

end KeyPath

/-! ## Fields -/

/-- What is under a name. -/
structure FieldValue where
  setting : Setting
  /-- Whether it stands in the file as it is, so that messages name the file. -/
  located : Bool

namespace FieldValue

/-- What a key says about the name at the start of its path. Tables are put together from all that
is said about them, and so are never located. -/
def ofStatement (steps : List KeyStep) (s : Setting) : FieldValue :=
  match steps with
  | .name _ :: _ => ⟨.table [], false⟩
  | .index _ :: _ => ⟨.sequence [], false⟩
  | [] =>
    match s with
    | .table _ => ⟨s, false⟩
    | _ => ⟨s, true⟩

end FieldValue

/-- What is under the top level names, later statements first, and the file that says it. -/
structure Fields where
  file : String
  values : List (String × FieldValue)

/-- How wide a field of counts is. -/
inductive FieldWidth where
  | bits16
  | bits32
  | bits64
deriving DecidableEq, Repr

/-- The number of values of a field. -/
def FieldWidth.bound : FieldWidth → Nat
  | bits16 => 65536
  | bits32 => 4294967296
  | bits64 => 18446744073709551616

/-- The width in bits. -/
def FieldWidth.bits : FieldWidth → Nat
  | bits16 => 16
  | bits32 => 32
  | bits64 => 64

namespace Fields

/-- The fields that entries give. -/
def ofEntries (file : String) (entries : Entries) : Fields where
  file
  values := entries.reverse.map fun (key, s) =>
    let path := KeyPath.ofKey key
    (path.root, .ofStatement path.steps s)

variable (f : Fields)

/-- What is under a name; nothing if it is left open. -/
def find? (key : String) : Option FieldValue :=
  match f.values.lookup key with
  | some ⟨.unset, _⟩ => none
  | other => other

/-- The wording of an error: what was found and what was expected instead. -/
def misfit (found expected : String) : String :=
  s!"invalid type: {found}, expected {expected}"

/-- The name of a field, for a message. -/
def forKey (key : String) : String :=
  " for key \x60" ++ key ++ "\x60"

/-- Where a value stands, for a message. -/
def origin (located : Bool) : String :=
  if located then " in " ++ f.file else ""

/-- How a message names a whole number. -/
def shownWhole (kind : String) (n : Int) : String :=
  s!"64-bit {kind} \x60{n}\x60"

/-- The greatest count that a text is taken for. -/
def maxCount : Nat := 18446744073709551615

/-- The count that a number is taken for: the nearest one. -/
def nearestCount (x : Float) : Nat :=
  Number.toCount (Number.roundHalfAway x)

/-- The count that a text is taken for. -/
def textCount? (text : String) : Option Nat :=
  match text.toLower with
  | "true" | "on" | "yes" => some 1
  | "false" | "off" | "no" => some 0
  | _ =>
    match Decimal.unsigned? text.toList with
    | some n => if n ≤ maxCount then some n else none
    | none => none

/-- The count that a setting is taken for, or what was found and expected instead. -/
def countOf (s : Setting) : Except (String × String) Nat :=
  match s with
  | .unset => .error ("unit value", "an integer")
  | .flag b => .ok b.toNat
  | .whole n =>
    if 0 ≤ n then .ok n.toNat
    else .error (shownWhole "integer" n, "an unsigned 64 bit or less integer")
  | .number x => .ok (nearestCount x)
  | .text t =>
    match textCount? t with
    | some n => .ok n
    | none => .error ("string " ++ Text.quote t, "an integer")
  | .sequence _ => .error ("sequence", "an integer")
  | .table _ => .error ("map", "an integer")

/-- The text that a setting is taken for, or what was found and expected instead. -/
def textOf (s : Setting) : Except (String × String) String :=
  match s with
  | .unset => .error ("unit value", "a string")
  | .flag b => .ok (toString b)
  | .whole n => .ok (toString n)
  | .number x => .ok (Decimal.Layout.plain.write x)
  | .text t => .ok t
  | .sequence _ => .error ("sequence", "a string")
  | .table _ => .error ("map", "a string")

/-- The count in a field of some width, if the field is set. -/
def count? (width : FieldWidth) (key : String) : Except String (Option Nat) :=
  match f.find? key with
  | none => .ok none
  | some v =>
    match countOf v.setting with
    | .error (found, expected) => .error (misfit found expected ++ forKey key ++ f.origin v.located)
    | .ok n =>
      if n < width.bound then .ok (some n)
      else
        let expected := s!"an unsigned {width.bits} bit integer"
        .error (misfit (shownWhole "unsigned integer" n) expected ++ forKey key)

/-- The text in a field, if the field is set. -/
def text? (key : String) : Except String (Option String) :=
  match f.find? key with
  | none => .ok none
  | some v =>
    match textOf v.setting with
    | .error (found, expected) => .error (misfit found expected ++ forKey key ++ f.origin v.located)
    | .ok t => .ok (some t)

end Fields

end SamplePlayer
