import SamplePlayer.Json
import SamplePlayer.Settings.Toml.Table
import SamplePlayer.Settings.Toml.Word

/-!
# Reading TOML texts

A text is a sequence of lines: blank, a header, or a key and its value. Values may nest, and those
in square brackets may go on for several lines.

## Main definitions

* `Take`: a step that uses up some of a text, or fails.
* `Take.quoted`, `Take.key`, `Take.value`: the pieces of a line.
* `read?`: the entries of a settings file.
-/

namespace SamplePlayer.Toml

/-- A step that uses up some of a text, or fails. -/
abbrev Take := StateT (List Char) Option

namespace Take

/-- The next character. -/
def peek? : Take (Option Char) := return (← get).head?

/-- Uses up some characters. -/
def drop (count : Nat) : Take Unit := modify (·.drop count)

/-- Fails unless a condition holds. -/
def ensure (condition : Bool) : Take Unit :=
  if condition then pure () else failure

/-- Uses up a character, which must be the one given. -/
def expect (c : Char) : Take Unit := do
  ensure ((← peek?) == some c)
  drop 1

/-- The characters from here on that satisfy a condition. -/
def span (p : Char → Bool) : Take (List Char) := do
  let word := (← get).takeWhile p
  drop word.length
  return word

/-- Skips blanks. -/
def skipBlanks : Take Unit := do
  let _ ← span fun c => c == ' ' || c == '\t'

/-- Whether a character must not stand in a text as it is. -/
def isControl (c : Char) : Bool :=
  c.toNat < 0x20 && c != '\t' || c.toNat == 0x7f

/-- Skips a comment, if there is one. -/
def skipComment : Take Unit := do
  if (← peek?) == some '#' then
    let _ ← span fun c => !isControl c

/-- Skips a line break, if there is one. Tells whether there was. -/
def skipBreak : Take Bool := do
  match ← get with
  | '\n' :: rest | '\r' :: '\n' :: rest =>
    set rest
    return true
  | _ => return false

/-- Ends a line. -/
def endLine : Take Unit := do
  skipBlanks
  skipComment
  if !(← skipBreak) then ensure (← get).isEmpty

/-- Skips blanks, comments and line breaks. -/
def skipLines : (fuel : Nat) → Take Unit
  | 0 => failure
  | fuel + 1 => do
    skipBlanks
    skipComment
    if ← skipBreak then skipLines fuel else pure ()

/-! ## Quoted texts -/

/-- The character that an escape with one letter stands for. -/
def escaped? : Char → Option Char
  | 'b' => some '\x08'
  | 't' => some '\t'
  | 'n' => some '\n'
  | 'f' => some '\x0c'
  | 'r' => some '\r'
  | '\x22' => some '\x22'
  | '\\' => some '\\'
  | _ => none

/-- Reads an escape behind the backslash. -/
def escape : Take Char := do
  let c ← (← peek? : Option Char)
  drop 1
  match escaped? c with
  | some c => return c
  | none =>
    let count := if c == 'u' then 4 else if c == 'U' then 8 else 0
    ensure (count != 0)
    let digits := (← get).take count
    ensure (digits.length == count)
    let code ← (Json.hex4? digits : Option Nat)
    drop count
    ensure (code < 0xd800 || 0xdfff < code && code < 0x110000)
    return .ofNat code

/-- Whether a line has only blanks up to its end. -/
def blankLine (text : List Char) : Bool :=
  match text.dropWhile fun c => c == ' ' || c == '\t' with
  | '\n' :: _ | '\r' :: '\n' :: _ => true
  | _ => false

/-- Skips white space behind a backslash at the end of a line. -/
def skipSpace : (fuel : Nat) → Take Unit
  | 0 => failure
  | fuel + 1 => do
    skipBlanks
    if ← skipBreak then skipSpace fuel else pure ()

/-- Reads up to the quote at the end of a line's text. -/
def shortText (quote : Char) : (fuel : Nat) → String → Take String
  | 0, _ => failure
  | fuel + 1, text => do
    let c ← (← peek? : Option Char)
    drop 1
    if c == quote then return text
    else if c == '\\' && quote == '\x22' then shortText quote fuel (text.push (← escape))
    else
      ensure !(isControl c)
      shortText quote fuel (text.push c)

/-- Reads up to three quotes. One or two more may be the last characters of the text. -/
def longText (quote : Char) : (fuel : Nat) → String → Take String
  | 0, _ => failure
  | fuel + 1, text => do
    let rest ← get
    let quotes := (rest.takeWhile (· == quote)).length
    if 3 ≤ quotes then
      let own := min (quotes - 3) 2
      drop (own + 3)
      return text ++ .ofList (List.replicate own quote)
    else if ← skipBreak then longText quote fuel (text.push '\n')
    else
      let c ← (rest.head? : Option Char)
      drop 1
      if c == '\\' && quote == '\x22' then
        if blankLine rest.tail then
          skipSpace (rest.length + 1)
          longText quote fuel text
        else longText quote fuel (text.push (← escape))
      else
        ensure !(isControl c)
        longText quote fuel (text.push c)

/-- Reads a text between quotes; `long` says whether it may be between three of them. -/
def quoted (quote : Char) (long : Bool) : Take String := do
  let rest ← get
  if long && rest.take 3 == [quote, quote, quote] then
    drop 3
    let _ ← skipBreak
    longText quote (rest.length + 1) ""
  else
    drop 1
    shortText quote (rest.length + 1) ""

/-! ## Keys -/

/-- Whether a character may stand in a key without quotes. -/
def isBare (c : Char) : Bool := c.isAlphanum || c == '_' || c == '-'

/-- Reads a key without dots. -/
def simpleKey : Take String := do
  match ← peek? with
  | some '\x22' => quoted '\x22' false
  | some '\x27' => quoted '\x27' false
  | _ =>
    let word ← span isBare
    ensure !word.isEmpty
    return .ofList word

/-- Reads a key: the part in front of the last dot, and the rest. -/
def key : (fuel : Nat) → (path : List String) → Take (List String × String)
  | 0, _ => failure
  | fuel + 1, path => do
    skipBlanks
    let name ← simpleKey
    skipBlanks
    if (← peek?) == some '.' then
      drop 1
      key fuel (name :: path)
    else return (path.reverse, name)

/-! ## Values -/

/-- Whether a character may stand in a value without quotes. -/
def isWord (c : Char) : Bool := isBare c || c == '+' || c == '.' || c == ':'

/-- Reads a value without quotes. A date and a time of day may have a blank between them. -/
def word : Take Setting := do
  let first ← span isWord
  let rest ← get
  let more : Bool :=
    match rest with
    | ' ' :: c :: _ => c.isDigit && ((date? first).map (·.2)) == some []
    | _ => false
  let word ← if more then do
      drop 1
      pure (first ++ ' ' :: (← span isWord))
    else pure first
  ensure !word.isEmpty
  word? word

mutual

/-- Reads a value. -/
def value : (fuel : Nat) → Take Setting
  | 0 => failure
  | fuel + 1 => do
    match ← peek? with
    | some '\x22' => return .text (← quoted '\x22' true)
    | some '\x27' => return .text (← quoted '\x27' true)
    | some '[' =>
      drop 1
      items fuel []
    | some '\x7b' =>
      drop 1
      skipBlanks
      if (← peek?) == some '\x7d' then
        drop 1
        return .table []
      else members fuel []
    | _ => word

/-- Reads the rest of a sequence. -/
def items : (fuel : Nat) → (done : List Setting) → Take Setting
  | 0, _ => failure
  | fuel + 1, done => do
    skipLines ((← get).length + 1)
    if (← peek?) == some ']' then
      drop 1
      return .sequence done.reverse
    else
      let s ← value fuel
      skipLines ((← get).length + 1)
      if (← peek?) == some ',' then
        drop 1
        items fuel (s :: done)
      else
        expect ']'
        return .sequence (s :: done).reverse

/-- Reads the rest of a table in braces. -/
def members : (fuel : Nat) → Table → Take Setting
  | 0, _ => failure
  | fuel + 1, t => do
    let (path, last) ← key ((← get).length + 1) []
    expect '='
    skipBlanks
    let s ← value fuel
    let t ← (t.assign path last s : Option Table)
    skipBlanks
    if (← peek?) == some ',' then
      drop 1
      members fuel t
    else
      expect '\x7d'
      return .table (Table.entries t)

end

/-! ## Lines -/

/-- The whole text so far, and the table that the last header began. -/
structure Document where
  root : Table := []
  path : List String := []

/-- Reads a header. -/
def header (d : Document) : Take Document := do
  drop 1
  let several := (← peek?) == some '['
  if several then drop 1
  let (path, last) ← key ((← get).length + 1) []
  expect ']'
  if several then expect ']'
  let root ← (if several then d.root.append path last else d.root.define path last : Option Table)
  return ⟨root, path ++ [last]⟩

/-- Reads a key and its value. -/
def statement (d : Document) : Take Document := do
  let (path, last) ← key ((← get).length + 1) []
  expect '='
  skipBlanks
  let s ← value ((← get).length + 1)
  let root ← (d.root.descend .implicit d.path (Table.assign path last s) : Option Table)
  return { d with root }

/-- Reads the lines of a text. -/
def lines : (fuel : Nat) → Document → Take Document
  | 0, _ => failure
  | fuel + 1, d => do
    skipLines ((← get).length + 1)
    match ← peek? with
    | none => return d
    | some c =>
      let d ← if c == '[' then header d else statement d
      endLine
      lines fuel d

end Take

/-- The entries of a settings file. -/
def read? (text : List Char) : Option Entries :=
  ((Take.lines (text.length + 1) {}).run text).map fun (d, _) => Table.entries d.root

end SamplePlayer.Toml
