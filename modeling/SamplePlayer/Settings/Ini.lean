import SamplePlayer.Json
import SamplePlayer.Settings.Value
import SamplePlayer.Text.CharSet

/-!
# Settings in INI files

A file has keys with values, and sections of such. Every value is a text. A comment takes a line of
its own, and starts at its beginning.

## Main definitions

* `Ini.Reader`: the state of the reading.
* `Ini.step`: the effect of a section, a comment, or a key and its value.
* `Ini.read?`: the entries of a settings file.
-/

namespace SamplePlayer.Ini

open Text (blank strip)

/-- The state of the reading. -/
structure Reader where
  rest : List Char
  /-- Whether nothing stands in front in the same line. -/
  lineStart : Bool := true
  /-- The entries outside of sections, the latest first. -/
  outside : Entries := []
  /-- The sections, the latest first. -/
  sections : List (String × Entries) := []

/-- The character that an escape stands for. -/
def escaped (c : Char) : Char :=
  match c with
  | '0' => '\x00'
  | 'a' => '\x07'
  | 'b' => '\x08'
  | 't' => '\t'
  | 'r' => '\r'
  | 'n' => '\n'
  | c => c

/-- Reads up to one of the characters that end a text, and resolves the escapes on the way. Without
such a character the text may go on to the end of the file only if `toEnd`. -/
def textUntil? (stops : List Char) (toEnd : Bool) :
    (fuel : Nat) → List Char → String → Option (String × List Char)
  | 0, _, _ => none
  | _ + 1, [], text => if toEnd then some (text, []) else none
  | fuel + 1, c :: rest, text =>
    if stops.contains c then some (text, c :: rest)
    else if c == '\\' then
      match rest with
      | [] => none
      | 'x' :: digits => do
        let code ← Json.hex4? (digits.take 4)
        if digits.length < 4 ∨ (0xd800 ≤ code ∧ code < 0xe000) then none
        else textUntil? stops toEnd fuel (digits.drop 4) (text.push (.ofNat code))
      | '\n' :: rest => textUntil? stops toEnd fuel rest text
      | d :: rest => textUntil? stops toEnd fuel rest (text.push (escaped d))
    else textUntil? stops toEnd fuel rest (text.push c)

/-- Reads up to the end of the line. -/
def lineText? (rest : List Char) : Option (String × List Char) :=
  (textUntil? ['\n', '\r'] true (rest.length + 1) rest "").map fun (text, rest) =>
    (Text.trim text, rest)

/-- Reads a value: up to the end of the line, of which a part in front may be between quotes. -/
def value? (rest : List Char) : Option (String × List Char) :=
  let rest := rest.dropWhile fun c => blank.contains c && c != '\n' && c != '\r'
  match rest with
  | c :: inside =>
    if c == '\x22' || c == '\x27' then do
      let (quoted, after) ← textUntil? [c] false (rest.length + 1) inside ""
      let (more, after) ← lineText? after.tail
      return (quoted ++ more, after)
    else lineText? rest
  | [] => some ("", [])

/-- Skips white space. -/
def skipSpace (r : Reader) : Reader :=
  let space := r.rest.takeWhile blank.contains
  let lineStart :=
    match space.getLast? with
    | some c => c == '\n'
    | none => r.lineStart
  { r with rest := r.rest.drop space.length, lineStart }

/-- Puts an entry into the section under way. -/
def addEntry (r : Reader) (key value : String) : Reader :=
  match r.sections with
  | (name, entries) :: earlier =>
    { r with sections := (name, (key, .text value) :: entries) :: earlier }
  | [] => { r with outside := (key, .text value) :: r.outside }

/-- The effect of what stands at the start of the rest. -/
def step? (r : Reader) : Option Reader :=
  match r.rest with
  | [] => some r
  | c :: rest =>
    if c == ';' || c == '#' then
      if r.lineStart then
        some { r with rest := (rest.dropWhile (· != '\n')).tail, lineStart := true }
      else none
    else if c == '[' then do
      let (name, after) ← textUntil? [']'] false (rest.length + 1) rest ""
      return { r with
        rest := after.tail
        lineStart := false
        sections := (Text.trim name, []) :: r.sections }
    else do
      let (key, after) ← textUntil? ['=', ':'] false (r.rest.length + 1) r.rest ""
      let key := Text.trim key
      if key == "" then none
      let (value, after) ← value? after.tail
      return { addEntry r key value with rest := after, lineStart := false }

/-- Reads on to the end. -/
def readAll? : (fuel : Nat) → Reader → Option Reader
  | 0, _ => none
  | fuel + 1, r =>
    let r := skipSpace r
    if r.rest.isEmpty then some r else (step? r).bind (readAll? fuel)

/-- The entries of a settings file. -/
def read? (text : List Char) : Option Entries :=
  (readAll? (text.length + 1) { rest := text }).map fun r =>
    r.outside.reverse ++ r.sections.reverse.map fun (name, entries) =>
      (name, .table entries.reverse)

end SamplePlayer.Ini
