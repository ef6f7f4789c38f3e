import SamplePlayer.Settings.Yaml.Scalar

/-!
# Splitting a YAML text into tokens

One step of the pass reads the token that the next character calls for, or ends the text. A step
moves on by a character at least, so as many steps as there are characters are enough.

## Main definitions

* `Scan.fetch`: one step.
* `tokens?`: the tokens of a text.
-/

namespace SamplePlayer.Yaml

/-- Whether a character can be part of the name of a tag handle. -/
def isHandleChar (ch : Char) : Bool := ch.isAlphanum || ch == '_' || ch == '-'

/-- Whether a character can be part of a tag. -/
def isTagChar (ch : Char) : Bool :=
  isHandleChar ch || "#;/?:@&=+$.~*()%".contains ch || ch == singleQuote

/-- Whether a character can be part of the name of an anchor. -/
def isAnchorChar (ch : Char) : Bool :=
  !endsWord ch && !isFlow ch && ch != '\ufeff'

/-- How many brackets may be open at a time. -/
def depthLimit : Nat := 255

namespace Scan

/-- Adds the token of an anchor or a tag that stands at a column. -/
def emitProperty (column : Nat) (t : Token) : Scan Unit := do
  emit t
  modify fun s => { s with property := some column }

/-- Gets ready for a line that belongs to no block. -/
def leaveBlocks : Scan Unit := do
  unroll (-1)
  removeCandidate
  allowKey false

/-- Ends the text. -/
def finish : Scan Unit := do
  let s ← get
  ensure !(s.candidates.any fun k => k.possible && k.required)
  let candidates := s.candidates.map fun k => { k with possible := false }
  set { s with candidates }
  leaveBlocks

/-! ## Lines around documents -/

/-- Reads the handle of a tag: a word between exclamation marks, of which the second may be
missing. -/
def handle : Scan String := do
  let c ← cursor
  ensure (c.here == '!')
  let name := (c.skip 1).run isHandleChar
  let c := c.skip (1 + name.length)
  if c.here == '!' then
    goTo (c.skip 1)
    return "!" ++ .ofList name ++ "!"
  else
    goTo c
    return "!" ++ .ofList name

/-- Skips blanks; there must be one. -/
def blanks : Scan Unit := do
  let c ← cursor
  let run := c.run isBlank
  ensure !run.isEmpty
  goTo (c.advance run.length)

/-- Reads digits; there must be one. -/
def digits : Scan Unit := do
  let c ← cursor
  let run := c.run Char.isDigit
  ensure !run.isEmpty
  goTo (c.skip run.length)

/-- Reads what a directive says. Unknown directives say nothing. -/
def directiveBody (name : String) : Scan (Option (String × String)) := do
  match name with
  | "YAML" =>
    blanks
    digits
    ensure ((← cursor).here == '.')
    move (·.skip 1)
    digits
    return none
  | "TAG" =>
    blanks
    let handle ← handle
    ensure (handle == "!" || handle.endsWith "!")
    blanks
    let target := (← cursor).run fun ch => isTagChar ch || ch == '!' || ch == ','
    ensure !target.isEmpty
    move (·.skip target.length)
    return some (handle, .ofList target)
  | _ =>
    move Cursor.skipComment
    return none

/-- Reads a directive. -/
def directive : Scan Unit := do
  leaveBlocks
  move (·.skip 1)
  let name := (← cursor).run isHandleChar
  ensure !name.isEmpty
  move (·.skip name.length)
  ensure (endsWord (← cursor).here)
  let declared ← directiveBody (.ofList name)
  let _ ← skipLineRest true
  ensure (← atLineEnd)
  emit (.directive declared)

/-- Reads a line that separates documents. -/
def documentMarker (t : Token) : Scan Unit := do
  leaveBlocks
  move (·.skip 3)
  emit t
  if t == .documentEnd then
    let _ ← skipLineRest true
    ensure (← atLineEnd)

/-! ## Brackets -/

/-- Reads an opening bracket. -/
def openFlow (flow : Flow) (t : Token) : Scan Unit := do
  saveCandidate
  rollOne
  ensure ((← get).flows.length < depthLimit)
  modify fun s => { s with flows := flow :: s.flows, candidates := {} :: s.candidates }
  allowKey true
  move (·.skip 1)
  let _ ← skipLineRest true
  emit t

/-- Reads a closing bracket. -/
def closeFlow (t : Token) : Scan Unit := do
  removeCandidate
  modify fun s =>
    if s.flows.isEmpty then s
    else { s with flows := s.flows.tail, candidates := s.candidates.tail }
  allowKey false
  move (·.skip 1)
  let _ ← skipLineRest true
  modify fun s => if s.flows.isEmpty then s else { s with adjacent := some s.cursor.index }
  emit t

/-- Reads a comma. -/
def flowEntry : Scan Unit := do
  removeCandidate
  allowKey true
  move (·.skip 1)
  let _ ← skipLineRest true
  emit .flowEntry

/-! ## Blocks -/

/-- Reads a dash. -/
def blockEntry : Scan Unit := do
  let s ← get
  ensure s.flows.isEmpty
  ensure s.keyAllowed
  let column := s.cursor.column
  ensure !(column == 0 && s.property == some 0 && s.indent > -1)
  move (·.skip 1)
  roll column none .blockSequenceStart
  let (tabbed, _) ← skipLineRest true
  let c ← cursor
  ensure !(tabbed && c.here == '-' && endsWord c.next)
  if isBreak c.here || isFlow c.here then rollOne else pure ()
  removeCandidate
  allowKey true
  emit .blockEntry

/-- Reads the mark in front of a key. -/
def keyMark : Scan Unit := do
  let s ← get
  if s.flows.isEmpty then
    ensure s.keyAllowed
    roll s.cursor.column none .blockMappingStart
  removeCandidate
  allowKey s.flows.isEmpty
  move (·.skip 1)
  skipBehindKey (← stepsLeft) false
  ensure ((← cursor).here != '\t')
  emit .key

/-- Reads a colon. If a candidate is open, it was the key. -/
def valueMark : Scan Unit := do
  let s ← get
  let c := s.cursor
  move (·.skip 1)
  if (← cursor).here == '\t' then
    let (_, spaced) ← skipLineRest true
    let ch := (← cursor).here
    ensure (spaced || !(ch == '-' || ch.isAlphanum || 0x80 ≤ ch.toNat))
  match s.candidates with
  | k :: rest =>
    if k.possible then
      ensure !(s.flows.head? == some .sequence && k.line < c.line)
      insert k.token .key
      roll k.column (some k.token) .blockMappingStart
      rollOne
      modify fun s => { s with candidates := { k with possible := false } :: rest }
      allowKey false
    else
      if s.flows.isEmpty then
        ensure s.keyAllowed
        roll c.column none .blockMappingStart
      rollOne
      allowKey s.flows.isEmpty
  | [] => failure
  emit .value

/-- Reads a colon between brackets that has no blank behind it. -/
def adjacentValue : Scan Unit := do
  let s ← get
  ensure (s.adjacent == some s.cursor.index
    || !(s.cursor.next == '[' || s.cursor.next == '\x7b'))
  valueMark

/-! ## Nodes -/

/-- Reads an anchor, or the name of one. -/
def anchor (token : String → Token) : Scan Unit := do
  saveCandidate
  allowKey false
  let column := (← cursor).column
  move (·.skip 1)
  let name := (← cursor).run isAnchorChar
  ensure !name.isEmpty
  move (·.skip name.length)
  emitProperty column (token (.ofList name))

/-- Reads a tag in angle brackets. -/
def verbatimTag : Scan Token := do
  move (·.skip 2)
  let name := (← cursor).run fun ch =>
    isTagChar ch || ch == '!' || ch == ',' || ch == '[' || ch == ']'
  move (·.skip name.length)
  ensure ((← cursor).here == '>')
  move (·.skip 1)
  return .tag "" (.ofList name)

/-- Reads a tag that is given by a handle and a name. -/
def shortTag : Scan Token := do
  let handle ← handle
  let name := (← cursor).run isTagChar
  move (·.skip name.length)
  if handle.length ≥ 2 ∧ handle.endsWith "!" then
    ensure !name.isEmpty
    return .tag handle (.ofList name)
  else
    let name := (handle.drop 1).toString ++ .ofList name
    return if name == "" then .tag "" "!" else .tag "!" name

/-- Reads a tag. -/
def tag : Scan Unit := do
  saveCandidate
  allowKey false
  let c ← cursor
  let t ← if c.next == '<' then verbatimTag else shortTag
  let after ← cursor
  ensure (endsWord after.here || (← inFlow) && isFlow after.here)
  emitProperty c.column t

/-- Reads a scalar between quotes. A colon may follow it at once. -/
def quotedScalar (quote : Char) : Scan Unit := do
  saveCandidate
  allowKey false
  let t ← quoted quote
  skipToToken (← stepsLeft)
  modify fun s => { s with adjacent := some s.cursor.index }
  emit t

/-- Reads a plain scalar. -/
def plainScalar : Scan Unit := do
  saveCandidate
  allowKey false
  emit (← plain)

/-- Reads a block scalar. -/
def blockScalar (folded : Bool) : Scan Unit := do
  saveCandidate
  allowKey true
  emit (← block folded)

/-! ## Steps -/

/-- Reads the token that the character here calls for. -/
def token : Scan Unit := do
  let s ← get
  let c := s.cursor
  let flow := !s.flows.isEmpty
  let free := endsWord c.next
  match c.here with
  | '[' => openFlow .sequence .flowSequenceStart
  | '\x7b' => openFlow .mapping .flowMappingStart
  | ']' => closeFlow .flowSequenceEnd
  | '\x7d' => closeFlow .flowMappingEnd
  | ',' => flowEntry
  | '*' => anchor .alias
  | '&' => anchor .anchor
  | '!' => tag
  | '\x27' => quotedScalar singleQuote
  | '\x22' => quotedScalar doubleQuote
  | '%' | '@' | '\x60' => failure
  | ch =>
    if ch == '-' && free then blockEntry
    else if ch == '?' && free then keyMark
    else if ch == ':' && free then valueMark
    else if ch == ':' && flow && (isFlow c.next || s.adjacent == some c.index) then adjacentValue
    else if ch == '|' && !flow then blockScalar false
    else if ch == '>' && !flow then blockScalar true
    else plainScalar

/-- Reads the next token, or ends the text. Tells whether the text goes on. -/
def fetch : Scan Bool := do
  skipToToken (← stepsLeft)
  dropStaleCandidates
  let c ← cursor
  unroll c.column
  if c.atEnd then
    finish
    return false
  else
    if c.column == 0 && c.here == '%' then directive
    else if c.atMarker '-' then documentMarker .documentStart
    else if c.atMarker '.' then documentMarker .documentEnd
    else
      ensure ((← get).indent ≤ c.column)
      token
    return true

/-- Reads all tokens. -/
def fetchAll : (fuel : Nat) → Scan Unit
  | 0 => failure
  | fuel + 1 => do
    if ← fetch then fetchAll fuel else pure ()

end Scan

/-- The tokens of a text, if it is laid out as it should. -/
def tokens? (text : List Char) : Option (List Token) :=
  ((Scan.fetchAll (text.length + 1)).run { cursor := .start text }).map fun (_, s) =>
    s.tokens.toList

end SamplePlayer.Yaml
