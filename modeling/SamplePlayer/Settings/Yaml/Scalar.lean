import SamplePlayer.Json
import SamplePlayer.Settings.Yaml.Scanner

/-!
# Scalars in a YAML text

There are three ways to write a scalar: between quotes, plain, and as a block of lines. In the first
two, a line break counts as a space and further ones as themselves. In a block, the indentation is
taken off the lines, and a header says what becomes of the line breaks at the end.

## Main definitions

* `Gap`: the white space between two words of a scalar.
* `Scan.quoted`, `Scan.plain`, `Scan.block`: the token of a scalar.
-/

namespace SamplePlayer.Yaml

/-- The white space between two words of a scalar. -/
structure Gap where
  /-- Whether a line was begun. -/
  leading : Bool := false
  /-- Whether there is a line break that counts as a space if no other follows. -/
  folded : Bool := false
  /-- How many line breaks count as themselves. -/
  breaks : Nat := 0
  /-- The blanks, as long as no line was begun. -/
  blanks : List Char := []

/-- Some line breaks. -/
def newlines (count : Nat) : String := .ofList (List.replicate count '\n')

/-- What a gap reads as. -/
def Gap.text (g : Gap) : String :=
  if g.leading then
    if g.folded && g.breaks == 0 then " " else newlines g.breaks
  else .ofList g.blanks.reverse

/-- The gap with one more line break. -/
def Gap.addBreak (g : Gap) : Gap :=
  if g.leading then { g with breaks := g.breaks + 1 } else { leading := true, folded := true }

/-- The gap with one more blank. -/
def Gap.addBlank (g : Gap) (ch : Char) : Gap :=
  if g.leading then g else { g with blanks := ch :: g.blanks }

/-- The quote of a scalar with nothing escaped but itself. -/
def singleQuote : Char := '\x27'

/-- The quote of a scalar with escapes. -/
def doubleQuote : Char := '\x22'

/-- The character that an escape with one letter stands for. -/
def escapedChar? : Char → Option Char
  | '0' => some '\x00'
  | 'a' => some '\x07'
  | 'b' => some '\x08'
  | 't' | '\t' => some '\t'
  | 'n' => some '\n'
  | 'v' => some '\x0b'
  | 'f' => some '\x0c'
  | 'r' => some '\r'
  | 'e' => some '\x1b'
  | ' ' => some ' '
  | '\x22' => some '\x22'
  | '/' => some '/'
  | '\\' => some '\\'
  | 'N' => some '\u0085'
  | '_' => some '\u00a0'
  | 'L' => some '\u2028'
  | 'P' => some '\u2029'
  | _ => none

/-- How many digits follow an escape that gives a code point. -/
def escapeDigits? : Char → Option Nat
  | 'x' => some 2
  | 'u' => some 4
  | 'U' => some 8
  | _ => none

/-- The character with a code point. -/
def charOf? (code : Nat) : Option Char :=
  if code < 0xd800 ∨ (0xdfff < code ∧ code < 0x110000) then some (.ofNat code) else none

namespace Scan

/-- Crosses the white space in front of the next word. `atTab` deals with a tab in the margin. -/
def gap (margin : Int) (atTab : Scan Unit) : (fuel : Nat) → Gap → Scan Gap
  | 0, _ => failure
  | fuel + 1, g => do
    let c ← cursor
    if isBreak c.here then
      goTo c.skipBreak
      gap margin atTab fuel g.addBreak
    else if !isBlank c.here then return g
    else if g.leading && c.here == '\t' && (c.column : Int) < margin then
      atTab
      gap margin atTab fuel g
    else
      goTo c.skipBlank
      gap margin atTab fuel (g.addBlank c.here)

/-! ## Quoted scalars -/

/-- Reads an escape from the backslash on. -/
def escape : Scan Char := do
  let c ← cursor
  match escapedChar? c.next with
  | some ch =>
    goTo (c.skip 2)
    return ch
  | none =>
    let count ← (escapeDigits? c.next : Option Nat)
    let c := c.skip 2
    let digits := c.rest.take count
    ensure (digits.length == count)
    let code ← Json.hex4? digits
    goTo (c.skip count)
    charOf? code

/-- Reads the characters of a word between quotes. Tells also whether an escaped line break ended
it. -/
def quotedWord (quote : Char) : (fuel : Nat) → String → Scan (String × Bool)
  | 0, _ => failure
  | fuel + 1, text => do
    let c ← cursor
    if endsWord c.here then return (text, false)
    else if quote == singleQuote && c.here == quote && c.next == quote then
      goTo (c.skip 2)
      quotedWord quote fuel (text.push quote)
    else if c.here == quote then return (text, false)
    else if quote == doubleQuote && c.here == '\\' then
      if isBreak c.next then
        goTo (c.skip 1).skipBreak
        return (text, true)
      else quotedWord quote fuel (text.push (← escape))
    else
      goTo (c.skip 1)
      quotedWord quote fuel (text.push c.here)

/-- Reads up to the closing quote. -/
def quotedText (quote : Char) : (fuel : Nat) → String → Scan String
  | 0, _ => failure
  | fuel + 1, text => do
    let s ← get
    ensure !(s.cursor.atDocumentMarker || s.cursor.atEnd)
    ensure (s.indent ≤ s.cursor.column)
    let (text, leading) ← quotedWord quote (← stepsLeft) text
    if (← cursor).here == quote then return text
    else
      let g ← gap s.indent failure (← stepsLeft) { leading }
      quotedText quote fuel (text ++ g.text)

/-- Reads a scalar between quotes and makes sure that nothing runs into it from behind. -/
def quoted (quote : Char) : Scan Token := do
  let line := (← cursor).line
  move (·.skip 1)
  let text ← quotedText quote (← stepsLeft) ""
  move (·.skip 1)
  let _ ← skipLineRest true
  let c ← cursor
  let flow ← inFlow
  ensure (endsLine c.here
    || c.here == ':' && (flow || line == c.line)
    || flow && (c.here == ',' || c.here == ']' || c.here == '\x7d'))
  return .scalar false text

/-! ## Plain scalars -/

/-- The word of a plain scalar that a text starts with. -/
def plainWord (flow : Bool) : List Char → List Char
  | [] => []
  | ch :: rest =>
    let next := rest.headD endMark
    if endsWord ch || ch == ':' && (endsWord next || flow && isFlow next) || flow && isFlow ch
    then []
    else ch :: plainWord flow rest

/-- Reads the words of a plain scalar. Tells also whether the pass went on to another line. -/
def plainText (margin : Int) (flow : Bool) : (fuel : Nat) → Gap → String → Scan (String × Bool)
  | 0, _, _ => failure
  | fuel + 1, g, text => do
    let c ← cursor
    if c.atDocumentMarker || c.here == '#' then return (text, g.leading)
    else
      ensure !(flow && c.here == '-' && isFlow c.next)
      let word := plainWord flow c.rest
      goTo (if word.isEmpty then c else c.skip word.length)
      let (g, text) :=
        if word.isEmpty then (g, text) else (({} : Gap), text ++ g.text ++ .ofList word)
      let c ← cursor
      if isBlank c.here || isBreak c.here then
        let skipTabs : Scan Unit := do
          let _ ← skipLineRest true
          ensure (← atLineEnd)
        let g ← gap margin skipTabs (← stepsLeft) g
        if !flow && ((← cursor).column : Int) < margin then return (text, g.leading)
        else plainText margin flow fuel g text
      else return (text, g.leading)

/-- Reads a plain scalar. -/
def plain : Scan Token := do
  unrollUnused
  let s ← get
  let flow := !s.flows.isEmpty
  let margin := s.indent + 1
  ensure !(flow && (s.cursor.column : Int) < margin)
  let (text, leading) ← plainText margin flow (← stepsLeft) {} ""
  if leading then allowKey true else pure ()
  ensure (text != "")
  return .scalar true text

/-! ## Block scalars -/

/-- What becomes of the line breaks at the end of a block. -/
inductive Chomp where
  /-- One is kept. -/
  | clip
  | strip
  | keep
deriving DecidableEq

/-- Reads the mark of what becomes of the last line breaks. -/
def chomp? : Scan (Option Chomp) := do
  let c ← cursor
  match c.here with
  | '+' =>
    goTo (c.skip 1)
    return some .keep
  | '-' =>
    goTo (c.skip 1)
    return some .strip
  | _ => return none

/-- Reads the indentation that a header gives. -/
def indentGiven? : Scan (Option Nat) := do
  let c ← cursor
  if c.here.isDigit then
    ensure (c.here != '0')
    goTo (c.skip 1)
    return some (Decimal.digitValue c.here)
  else return none

/-- Reads the header of a block: two marks in either order. -/
def blockHeader : Scan (Chomp × Option Nat) := do
  match ← chomp? with
  | some chomp => return (chomp, ← indentGiven?)
  | none =>
    let indent ← indentGiven?
    let chomp ← if indent.isSome then chomp? else pure none
    return (chomp.getD .clip, indent)

/-- Skips blank lines and the indentation of the next line. Counts the line breaks. -/
def skipBlankLines (indent : Nat) : (fuel : Nat) → (breaks : Nat) → Scan Nat
  | 0, _ => failure
  | fuel + 1, breaks => do
    let c ← cursor
    let c := c.advance (min (indent - c.column) (c.run (· == ' ')).length)
    if isBreak c.here then
      goTo c.skipBreak
      skipBlankLines indent fuel (breaks + 1)
    else
      goTo c
      return breaks

/-- Skips blank lines in front of the first line. Counts the line breaks, and finds the deepest
indentation of these lines and the first one. -/
def findIndent : (fuel : Nat) → (breaks deepest : Nat) → Scan (Nat × Nat)
  | 0, _, _ => failure
  | fuel + 1, breaks, deepest => do
    let c ← cursor
    let c := c.advance (c.run (· == ' ')).length
    let deepest := max deepest c.column
    if isBreak c.here then
      goTo c.skipBreak
      findIndent fuel (breaks + 1) deepest
    else
      goTo c
      return (breaks, deepest)

/-- The lines of a block read so far. -/
structure BlockLines where
  text : String := ""
  /-- Whether a line break ends the last line. -/
  broken : Bool := false
  /-- How many line breaks follow. -/
  breaks : Nat
  /-- Whether the last line begins with a blank. -/
  blankLed : Bool := false

/-- Reads the lines of a block. -/
def blockLines (folded : Bool) (indent : Nat) : (fuel : Nat) → BlockLines → Scan BlockLines
  | 0, _ => failure
  | fuel + 1, b => do
    let c ← cursor
    if c.column != indent || c.atEnd || indent == 0 && c.atMarker '.' then return b
    else
      let blankLed := isBlank c.here
      let joint :=
        if folded && b.broken && !b.blankLed && !blankLed then
          if b.breaks == 0 then " " else newlines b.breaks
        else newlines (b.breaks + if b.broken then 1 else 0)
      let line := c.run fun ch => !endsLine ch
      let c := c.skip line.length
      let text := b.text ++ joint ++ .ofList line
      if c.atEnd then
        goTo c
        return { text, breaks := 0, blankLed }
      else
        goTo c.skipBreak
        let breaks ← skipBlankLines indent (← stepsLeft) 0
        blockLines folded indent fuel { text, broken := true, breaks, blankLed }

/-- The line breaks at the end of a block. -/
def blockEnd (chomp : Chomp) (indent : Nat) (c : Cursor) (b : BlockLines) : String :=
  let last := if b.broken || c.atEnd && max indent 1 ≤ c.column then "\n" else ""
  match chomp with
  | .strip => ""
  | .clip => last
  | .keep => last ++ newlines b.breaks

/-- What a block without lines reads as. -/
def emptyBlock (chomp : Chomp) (sameLine broken : Bool) (breaks : Nat) : String :=
  let only := if broken then "\n" else ""
  if sameLine then ""
  else
    match chomp with
    | .strip => ""
    | .clip => only
    | .keep => if breaks == 0 then only else newlines breaks

/-- Reads a block from its mark on. -/
def block (folded : Bool) : Scan Token := do
  let line := (← cursor).line
  move (·.skip 1)
  unrollUnused
  let (chomp, given) ← blockHeader
  let _ ← skipLineRest true
  ensure (← atLineEnd)
  let broken := isBreak (← cursor).here
  if broken then move Cursor.skipBreak else pure ()
  ensure ((← cursor).here != '\t')
  let around := (← get).indent
  let (breaks, indent) ←
    match given with
    | some more =>
      let indent := around.toNat + more
      pure (← skipBlankLines indent (← stepsLeft) 0, indent)
    | none =>
      let (breaks, deepest) ← findIndent (← stepsLeft) 0 0
      pure (breaks, max deepest (around + 1).toNat)
  let c ← cursor
  if c.atEnd then return .scalar false (emptyBlock chomp (c.line == line) broken breaks)
  else
    ensure !(c.column < indent && around < c.column)
    let b ← blockLines folded indent (← stepsLeft) { breaks }
    return .scalar false (b.text ++ blockEnd chomp indent (← cursor) b)

end Scan

end SamplePlayer.Yaml
