import SamplePlayer.Settings.Yaml.Node
import SamplePlayer.Settings.Yaml.Tokens

/-!
# The grammar of YAML tokens

Every step of the reading uses up a token or is the last of a construct, so a bound that is a small
multiple of the number of tokens is never reached.

## Main definitions

* `Parser`, the state, and `Parse`, a step on it that can fail.
* `Parse.node`: a node with everything in it.
* `Parse.documents`: the documents of a text.
* `read?`: the entries of a settings file.
-/

namespace SamplePlayer.Yaml

/-- The state of the reading of tokens. -/
structure Parser where
  rest : List Token
  /-- The tag handles that the document declares. -/
  handles : List (String × String) := []
  /-- The numbers of the anchors under their names, the latest first. -/
  anchors : List (String × Nat) := []
  /-- The nodes at the anchors. -/
  nodes : List (Nat × Node) := []

/-- A step of the reading. -/
abbrev Parse := StateT Parser Option

namespace Parse

/-- The next token. -/
def peek? : Parse (Option Token) := return (← get).rest.head?

/-- Goes past a token. -/
def pass : Parse Unit := modify fun p => { p with rest := p.rest.tail }

/-! ## Properties of nodes -/

/-- What stands for the handle of the tags that everyone knows. -/
def coreTags : String := "tag:yaml.org,2002:"

/-- What a tag says: `some` name if it is one of those that everyone knows. A handle with a name of
its own must be declared. -/
def resolveTag (handle suffix : String) : Parse (Option String) := do
  let target :=
    match (← get).handles.lookup (if handle == "" && suffix == "!" then "" else handle) with
    | some target => some target
    | none =>
      if handle == "!!" then some coreTags
      else if handle.length ≥ 2 ∧ handle.startsWith "!" ∧ handle.endsWith "!" then none
      else some handle
  match target with
  | some target => return if target == coreTags then some suffix else none
  | none => failure

/-- Gives a name to the node to come. -/
def registerAnchor (name : String) : Parse Nat := do
  let p ← get
  let number := p.anchors.length
  set { p with anchors := (name, number) :: p.anchors }
  return number

/-- The node with a name. While it is still being read it counts as null. -/
def anchored (name : String) : Parse Node := do
  let p ← get
  let number ← (p.anchors.lookup name : Option Nat)
  return (p.nodes.lookup number).getD .null

/-- An anchor, if there is one here. -/
def anchor? : Parse (Option Nat) := do
  match ← peek? with
  | some (.anchor name) =>
    pass
    return some (← registerAnchor name)
  | _ => return none

/-- A tag, if there is one here. -/
def tag? : Parse (Option (Option String)) := do
  match ← peek? with
  | some (.tag handle suffix) =>
    pass
    return some (← resolveTag handle suffix)
  | _ => return none

/-- An anchor and a tag in either order, as far as they are here. -/
def properties : Parse (Option Nat × Option (Option String)) := do
  match ← anchor? with
  | some number => return (some number, ← tag?)
  | none =>
    match ← tag? with
    | some tag => return (← anchor?, some tag)
    | none => return (none, none)

/-- The node of a scalar. -/
def scalarNode (plain : Bool) (tag : Option (Option String)) (text : String) : Node :=
  if plain then
    match tag with
    | none => .ofPlain text
    | some (some name) => .ofTagged name text
    | some none => .text text
  else .text text

/-- The entries of a mapping with one more, whose key must be new. -/
def addEntry (entries : List (Node × Node)) (key value : Node) : Parse (List (Node × Node)) :=
  match key with
  | .invalid => failure
  | _ => if entries.any (·.1 == key) then failure else pure (entries ++ [(key, value)])

/-! ## Nodes -/

/-- Whether a token ends a value in a block, so that there is none. -/
def endsBlockValue : Option Token → Bool
  | some .key | some .value | some .blockEnd => true
  | _ => false

/-- Whether a token ends an item of a block sequence. -/
def endsItem : Option Token → Bool
  | some .blockEntry | some .blockEnd => true
  | _ => false

/-- Whether a token ends a value between brackets. -/
def endsFlowValue : Option Token → Bool
  | some .flowEntry | some .flowSequenceEnd | some .flowMappingEnd => true
  | _ => false

mutual

/-- Reads a node. Blocks count only if `block`; `bare` says that a sequence may stand at the
indentation of the mapping around it. -/
def node : (fuel : Nat) → (block bare : Bool) → Parse Node
  | 0, _, _ => failure
  | fuel + 1, block, bare => do
    match ← peek? with
    | some (.alias name) =>
      pass
      anchored name
    | _ =>
      let (number, tag) ← properties
      let n ← content fuel block bare tag (number.isSome || tag.isSome)
      match number with
      | some number => modify fun p => { p with nodes := (number, n) :: p.nodes }
      | none => pure ()
      return n

/-- Reads a node behind its properties. -/
def content :
    (fuel : Nat) → (block bare : Bool) → Option (Option String) → (marked : Bool) → Parse Node
  | 0, _, _, _, _ => failure
  | fuel + 1, block, bare, tag, marked => do
    match ← peek? with
    | some (.scalar plain text) =>
      pass
      return scalarNode plain tag text
    | some .flowSequenceStart =>
      pass
      flowSequence fuel true []
    | some .flowMappingStart =>
      pass
      flowMapping fuel true []
    | other =>
      if bare && other == some .blockEntry then bareSequence fuel []
      else if block && other == some .blockSequenceStart then
        pass
        blockSequence fuel []
      else if block && other == some .blockMappingStart then
        pass
        blockMapping fuel []
      else if marked then return scalarNode true tag ""
      else failure

/-- Reads a node unless there is none. -/
def optionalNode : (fuel : Nat) → (absent block bare : Bool) → Parse Node
  | 0, _, _, _ => failure
  | fuel + 1, absent, block, bare => if absent then return .null else node fuel block bare

/-- Reads the value behind a colon, if there is one. -/
def optionalValue : (fuel : Nat) → (ends : Option Token → Bool) → (block : Bool) → Parse Node
  | 0, _, _ => failure
  | fuel + 1, ends, block => do
    if (← peek?) == some .value then
      pass
      optionalNode fuel (ends (← peek?)) block block
    else return .null

/-- Reads the rest of a block sequence. -/
def blockSequence : (fuel : Nat) → (items : List Node) → Parse Node
  | 0, _ => failure
  | fuel + 1, items => do
    match ← peek? with
    | some .blockEnd =>
      pass
      return .sequence items.reverse
    | some .blockEntry =>
      pass
      let n ← optionalNode fuel (endsItem (← peek?)) true false
      blockSequence fuel (n :: items)
    | _ => failure

/-- Reads the rest of a sequence without a block of its own. -/
def bareSequence : (fuel : Nat) → (items : List Node) → Parse Node
  | 0, _ => failure
  | fuel + 1, items => do
    if (← peek?) == some .blockEntry then
      pass
      let next ← peek?
      let n ← optionalNode fuel (endsItem next || endsBlockValue next) true false
      bareSequence fuel (n :: items)
    else return .sequence items.reverse

/-- Reads the rest of a block mapping. -/
def blockMapping : (fuel : Nat) → (entries : List (Node × Node)) → Parse Node
  | 0, _ => failure
  | fuel + 1, entries => do
    match ← peek? with
    | some .blockEnd =>
      pass
      return .mapping entries
    | some .key =>
      pass
      let key ← optionalNode fuel (endsBlockValue (← peek?)) true true
      let value ← optionalValue fuel endsBlockValue true
      blockMapping fuel (← addEntry entries key value)
    | some .value =>
      let value ← optionalValue fuel endsBlockValue true
      blockMapping fuel (← addEntry entries .null value)
    | _ => failure

/-- Reads the rest of a sequence between brackets. -/
def flowSequence : (fuel : Nat) → (first : Bool) → (items : List Node) → Parse Node
  | 0, _, _ => failure
  | fuel + 1, first, items => do
    let next ← peek?
    if next == some .flowSequenceEnd then
      pass
      return .sequence items.reverse
    else
      if !first then if next == some .flowEntry then pass else failure
      match ← peek? with
      | some .flowSequenceEnd =>
        pass
        return .sequence items.reverse
      | some .key =>
        pass
        let next ← peek?
        let key ← optionalNode fuel (next == some .value || endsFlowValue next) false false
        let value ← optionalValue fuel endsFlowValue false
        flowSequence fuel false (.mapping [(key, value)] :: items)
      | some .value =>
        let value ← optionalValue fuel endsFlowValue false
        flowSequence fuel false (.mapping [(.null, value)] :: items)
      | _ =>
        let n ← node fuel false false
        flowSequence fuel false (n :: items)

/-- Reads the rest of a mapping between brackets. -/
def flowMapping : (fuel : Nat) → (first : Bool) → (entries : List (Node × Node)) → Parse Node
  | 0, _, _ => failure
  | fuel + 1, first, entries => do
    let next ← peek?
    if next == some .flowMappingEnd then
      pass
      return .mapping entries
    else
      if !first then if next == some .flowEntry then pass else failure
      match ← peek? with
      | some .flowMappingEnd =>
        pass
        return .mapping entries
      | some .key =>
        pass
        let next ← peek?
        let key ← optionalNode fuel (next == some .value || endsFlowValue next) false false
        let value ← optionalValue fuel endsFlowValue false
        flowMapping fuel false (← addEntry entries key value)
      | some .value =>
        let value ← optionalValue fuel endsFlowValue false
        flowMapping fuel false (← addEntry entries .null value)
      | _ =>
        let key ← node fuel false false
        flowMapping fuel false (← addEntry entries key .null)

end

/-! ## Documents -/

/-- Reads the directives in front of a document. -/
def directives : (fuel : Nat) → Parse Unit
  | 0 => failure
  | fuel + 1 => do
    match ← peek? with
    | some (.directive declared) =>
      pass
      modify fun p => { p with handles := declared.toList ++ p.handles }
      directives fuel
    | _ => pure ()

/-- Whether a token is outside of all documents. -/
def isOutside : Option Token → Bool
  | none | some (.directive _) | some .documentStart | some .documentEnd => true
  | _ => false

/-- Reads the documents from here on. The first one needs no line that introduces it, nor does one
behind a line that ends a document. -/
def documents : (fuel : Nat) → (implicit : Bool) → (done : List Node) → Parse (List Node)
  | 0, _, _ => failure
  | fuel + 1, implicit, done => do
    let next ← peek?
    if next == none then return done.reverse
    else if next == some .documentEnd then
      pass
      documents fuel true done
    else
      modify fun p => { p with handles := [] }
      directives (fuel + 1)
      let introduced := (← peek?) == some .documentStart
      if introduced then pass
      else if !implicit || isOutside next then failure
      let root ←
        if introduced && isOutside (← peek?) then pure .null
        else node (4 * (fuel + 4)) true false
      match ← peek? with
      | some (.directive _) => failure
      | _ => documents fuel false (root :: done)

end Parse

/-- The documents of a text. -/
def documents? (text : List Char) : Option (List Node) := do
  let tokens ← tokens? text
  ((Parse.documents (tokens.length + 1) true []).run { rest := tokens }).map (·.1)

/-- The entries of a settings file: a mapping in the only document, or no document. -/
def read? (text : List Char) : Option Entries := do
  match ← documents? text with
  | [] => some []
  | [root] =>
    match ← root.setting? with
    | .table entries => some entries
    | _ => none
  | _ => none

end SamplePlayer.Yaml
