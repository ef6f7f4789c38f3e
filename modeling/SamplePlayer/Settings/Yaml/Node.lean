import SamplePlayer.Decimal.Numeral
import SamplePlayer.Settings.Value

/-!
# Nodes of a YAML document

What a plain scalar means is told from its spelling, unless a tag says it.

## Main definitions

* `Node`: a value in a document.
* `Node.ofPlain`, `Node.ofTagged`: the meaning of a plain scalar.
* `Node.setting?`: the setting that a node is.
-/

namespace SamplePlayer.Yaml

/-- A value in a document. A number that is not whole keeps its spelling. -/
inductive Node where
  | null
  /-- A scalar that is not what its tag says. -/
  | invalid
  | flag (value : Bool)
  | whole (value : Int)
  | real (spelling : String)
  | text (value : String)
  | sequence (items : List Node)
  | mapping (entries : List (Node × Node))
deriving BEq, Inhabited

/-- The value of digits to a base up to 16, with an optional sign in front. -/
def basedInteger? (base : Nat) (text : List Char) : Option Int := do
  let (negative, digits) := Decimal.splitSign text
  let value (c : Char) : Option Nat :=
    let n :=
      if c.isDigit then c.toNat - '0'.toNat
      else if 'a' ≤ c ∧ c ≤ 'f' then c.toNat - 'a'.toNat + 10
      else if 'A' ≤ c ∧ c ≤ 'F' then c.toNat - 'A'.toNat + 10
      else base
    if n < base then some n else none
  if digits.isEmpty then none
  let n ← digits.foldlM (fun n c => (value c).map (base * n + ·)) 0
  return if negative then -(n : Int) else n

/-- A whole number, if it is in range. -/
def wholeNode? (n : Int) : Option Node :=
  match Setting.whole? n with
  | some (.whole n) => some (.whole n)
  | _ => none

/-- The whole number that a spelling in some base is. -/
def based? : List Char → Option Node
  | '0' :: 'x' :: digits => (basedInteger? 16 digits).bind wholeNode?
  | '0' :: 'o' :: digits => (basedInteger? 8 digits).bind wholeNode?
  | '+' :: digits => (Decimal.integer? digits).bind wholeNode?
  | _ => none

/-- The spellings of infinities, and of what is not a number. -/
def unboundedSpellings : List String :=
  [".inf", ".Inf", ".INF", "+.inf", "+.Inf", "+.INF", "-.inf", "-.Inf", "-.INF",
    ".nan", ".NaN", ".NAN"]

/-- Whether a spelling is that of a number. -/
def isReal (spelling : String) : Bool :=
  unboundedSpellings.contains spelling || (Decimal.Numeral.read? spelling.toList).isSome

namespace Node

/-- What a plain scalar means. -/
def ofPlain (spelling : String) : Node :=
  match based? spelling.toList with
  | some n => n
  | none =>
    match spelling with
    | "~" | "null" => .null
    | "true" | "True" | "TRUE" => .flag true
    | "false" | "False" | "FALSE" => .flag false
    | _ =>
      match (Decimal.integer? spelling.toList).bind wholeNode? with
      | some n => n
      | none => if isReal spelling then .real spelling else .text spelling

/-- What a plain scalar means under one of the tags that everyone knows. -/
def ofTagged (tag spelling : String) : Node :=
  match tag with
  | "bool" =>
    match spelling with
    | "true" => .flag true
    | "false" => .flag false
    | _ => .invalid
  | "int" => ((Decimal.integer? spelling.toList).bind wholeNode?).getD .invalid
  | "float" => if isReal spelling then .real spelling else .invalid
  | "null" => if spelling == "~" || spelling == "null" then .null else .invalid
  | _ => .text spelling

/-- The text of a node that serves as a key. -/
def keyText? : Node → Option String
  | .text t => some t
  | .whole n => some (toString n)
  | .flag b => some (toString b)
  | .real spelling => some spelling
  | _ => none

/-- The setting that a node is. Infinities and the like are none. -/
def setting? : Node → Option Setting
  | .null | .invalid => some .unset
  | .flag b => some (.flag b)
  | .whole n => some (.whole n)
  | .real spelling => (Decimal.Numeral.read? spelling.toList).map (.number ·.toFloat)
  | .text t => some (.text t)
  | .sequence items => (settings? items).map .sequence
  | .mapping entries => (entries? entries).map .table
where
  /-- The settings that nodes are. -/
  settings? : List Node → Option (List Setting)
    | [] => some []
    | n :: rest => do return (← setting? n) :: (← settings? rest)
  /-- The entries that pairs of nodes are. -/
  entries? : List (Node × Node) → Option Entries
    | [] => some []
    | (key, n) :: rest => do return (← key.keyText?, ← setting? n) :: (← entries? rest)

end Node

end SamplePlayer.Yaml
