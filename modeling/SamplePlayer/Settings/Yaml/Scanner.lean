import SamplePlayer.Settings.Yaml.Cursor
import SamplePlayer.Settings.Yaml.Token

/-!
# The layout of a YAML text

The state of the pass that splits a text into tokens, and what the layout of the text does to it.
Indentation opens and closes blocks. A key is known for one only when the colon behind it shows up:
until then the place in front of it is a candidate, and the colon puts the missing tokens there.

## Main definitions

* `Scanner`, the state, and `Scan`, a step on it that can fail.
* `unroll` and `roll`: the blocks that an indentation closes and opens.
* `saveCandidate`, `removeCandidate`, `dropStaleCandidates`: keys to be.
* `skipToToken` and `skipLineRest`: what stands between tokens.
-/

namespace SamplePlayer.Yaml

/-- An indentation inside another one. -/
structure Indent where
  /-- The indentation around it. -/
  outer : Int
  /-- Whether a block ends where it ends. -/
  block : Bool

/-- A place where a key may have begun. -/
structure Candidate where
  possible : Bool := false
  /-- Whether nothing but a key can stand at its place. -/
  required : Bool := false
  /-- The number of tokens in front of it. -/
  token : Nat := 0
  index : Nat := 0
  line : Nat := 0
  column : Nat := 0

/-- A pair of brackets that is open. -/
inductive Flow where
  | sequence
  | mapping
deriving DecidableEq, Repr

/-- The state of the pass over a text. -/
structure Scanner where
  cursor : Cursor
  tokens : Array Token := #[]
  /-- Whether a key may begin here. -/
  keyAllowed : Bool := true
  /-- The candidate of every pair of open brackets and of the text, from the inside out. -/
  candidates : List Candidate := [{}]
  indent : Int := -1
  indents : List Indent := []
  flows : List Flow := []
  /-- Where a colon may do without a blank behind it. -/
  adjacent : Option Nat := none
  /-- The column of the last token if it is an anchor or a tag. -/
  property : Option Nat := none

/-- A step of the pass. -/
abbrev Scan := StateT Scanner Option

namespace Scan

/-- Where the pass stands. -/
def cursor : Scan Cursor := return (← get).cursor

/-- Moves on. -/
def move (f : Cursor → Cursor) : Scan Unit :=
  modify fun s => { s with cursor := f s.cursor }

/-- Goes to a place. -/
def goTo (c : Cursor) : Scan Unit := move fun _ => c

/-- Adds a token. -/
def emit (t : Token) : Scan Unit :=
  modify fun s => { s with tokens := s.tokens.push t, property := none }

/-- Adds a token in front of others. -/
def insert (place : Nat) (t : Token) : Scan Unit :=
  modify fun s => { s with
    tokens := (s.tokens.extract 0 place).push t ++ s.tokens.extract place s.tokens.size }

/-- Whether brackets are open. -/
def inFlow : Scan Bool := return !(← get).flows.isEmpty

/-- Says whether a key may begin here. -/
def allowKey (allowed : Bool) : Scan Unit :=
  modify fun s => { s with keyAllowed := allowed }

/-- Fails unless a condition holds. -/
def ensure (condition : Bool) : Scan Unit :=
  if condition then pure () else failure

/-! ## Indentation -/

/-- Closes the indentations deeper than a column. -/
def closeBlocks (column : Int) :
    (indent : Int) → List Indent → Array Token → Int × List Indent × Array Token
  | indent, inner :: rest, tokens =>
    if column < indent then
      closeBlocks column inner.outer rest (if inner.block then tokens.push .blockEnd else tokens)
    else (indent, inner :: rest, tokens)
  | indent, [], tokens => (indent, [], tokens)

/-- Closes the blocks deeper than a column. Between brackets, indentation means nothing. -/
def unroll (column : Int) : Scan Unit := do
  let s ← get
  if s.flows.isEmpty then
    let (indent, indents, tokens) := closeBlocks column s.indent s.indents s.tokens
    set { s with indent, indents, tokens }

/-- Drops the innermost indentations as long as no block belongs to them. -/
def dropUnused : (indent : Int) → List Indent → Int × List Indent
  | indent, inner :: rest =>
    if inner.block then (indent, inner :: rest) else dropUnused inner.outer rest
  | indent, [] => (indent, [])

/-- Takes back the indentations that turned out to hold no block. -/
def unrollUnused : Scan Unit :=
  modify fun s =>
    let (indent, indents) := dropUnused s.indent s.indents
    { s with indent, indents }

/-- Opens a block at a column unless one is open there. Its token goes to `place`, or to the end. -/
def roll (column : Nat) (place : Option Nat) (t : Token) : Scan Unit := do
  let s ← get
  if s.flows.isEmpty then
    let (indent, indents) :=
      match s.indents with
      | inner :: rest =>
        if s.indent ≤ column ∧ inner.block = false then (inner.outer, rest)
        else (s.indent, s.indents)
      | [] => (s.indent, s.indents)
    if indent < column then
      set { s with indent := (column : Int), indents := ⟨indent, true⟩ :: indents }
      match place with
      | some place => insert place t
      | none => emit t
    else set { s with indent, indents }

/-- Indents what follows by one column, for a value that may stand on lines of its own. -/
def rollOne : Scan Unit :=
  modify fun s =>
    if s.flows.isEmpty && s.indents.head?.any Indent.block then
      { s with indent := s.indent + 1, indents := ⟨s.indent, false⟩ :: s.indents }
    else s

/-! ## Keys to be -/

/-- Makes the place here a candidate if a key may begin here. -/
def saveCandidate : Scan Unit :=
  modify fun s =>
    if s.keyAllowed then
      let c := s.cursor
      let required := s.flows.isEmpty && s.indent == c.column && s.indents.head?.any Indent.block
      { s with candidates :=
          ⟨true, required, s.tokens.size, c.index, c.line, c.column⟩ :: s.candidates.tail }
    else s

/-- Rules out the innermost candidate, which must not be a required one. -/
def removeCandidate : Scan Unit := do
  match (← get).candidates with
  | k :: rest =>
    ensure !(k.possible && k.required)
    modify fun s => { s with candidates := { k with possible := false } :: rest }
  | [] => pure ()

/-- The longest key that needs no mark in front. -/
def keyLimit : Nat := 1024

/-- Whether a candidate is in an earlier line or too far back. -/
def isStale (c : Cursor) (k : Candidate) : Bool :=
  k.possible && (k.line < c.line || k.index + keyLimit < c.index)

/-- Rules out the candidates that are stale by now. A required one must not get stale. -/
def dropStaleCandidates : Scan Unit := do
  let s ← get
  if s.flows.isEmpty then
    ensure !(s.candidates.any fun k => isStale s.cursor k && k.required)
    let candidates := s.candidates.map fun k =>
      if isStale s.cursor k then { k with possible := false } else k
    set { s with candidates }

/-! ## Between tokens -/

/-- Skips blanks and a comment in the same line. A comment must be set off by a blank. Tells whether
there was a tab, and whether there was a space. -/
def skipLineRest (tabs : Bool) : Scan (Bool × Bool) := do
  let c ← cursor
  let blanks := c.run fun ch => ch == ' ' || tabs && ch == '\t'
  let c := c.advance blanks.length
  if c.here == '#' then
    ensure !blanks.isEmpty
    goTo c.skipComment
  else goTo c
  return (blanks.contains '\t', blanks.contains ' ')

/-- Whether the pass stands at the end of a line. -/
def atLineEnd : Scan Bool := return endsLine (← cursor).here

/-- Skips everything in front of the next token. A tab must not stand in the indentation of a
block. -/
def skipToToken : (fuel : Nat) → Scan Unit
  | 0 => failure
  | fuel + 1 => do
    let s ← get
    let c := s.cursor
    if c.here == '\t' && !s.indents.isEmpty && c.leading && (c.column : Int) < s.indent then
      let _ ← skipLineRest true
      ensure (← atLineEnd)
      skipToToken fuel
    else if isBlank c.here then
      goTo c.skipBlank
      skipToToken fuel
    else if isBreak c.here then
      goTo c.skipBreak
      if s.flows.isEmpty then allowKey true else pure ()
      skipToToken fuel
    else if c.here == '#' then
      goTo c.skipComment
      skipToToken fuel

/-- Skips spaces, line breaks and comments behind the mark of a key; there must be some. -/
def skipBehindKey : (fuel : Nat) → (any : Bool) → Scan Unit
  | 0, _ => failure
  | fuel + 1, any => do
    let c ← cursor
    if c.here == ' ' then
      goTo c.skipBlank
      skipBehindKey fuel true
    else if isBreak c.here then
      goTo c.skipBreak
      if !(← inFlow) then allowKey true else pure ()
      skipBehindKey fuel true
    else if c.here == '#' then
      goTo c.skipComment
      skipBehindKey fuel any
    else ensure any

/-- How many steps a pass over what is left can take. -/
def stepsLeft : Scan Nat := return (← cursor).rest.length + 1

end Scan

end SamplePlayer.Yaml
