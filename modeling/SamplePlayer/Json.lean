import SamplePlayer.Decimal.Numeral

/-!
# JSON texts

Reading takes two passes, each over its input once. The first turns characters into tokens; the
second feeds the tokens to a builder that holds the containers still open. Neither recurses into the
text, so the depth of a text costs no stack.

## Main definitions

* `Json`: a value.
* `Json.tokens?`: the tokens of a text.
* `Json.Builder`: the containers under construction.
* `Json.read?`: the value that a text spells.
-/

namespace SamplePlayer

/-- A value. Numbers stay numerals, and the members of an object keep their order and their
repetitions. -/
inductive Json where
  | null
  | bool (value : Bool)
  /-- A number; `whole` when it is written without a point and without an exponent. -/
  | number (numeral : Decimal.Numeral) (whole : Bool)
  | text (value : String)
  | list (items : List Json)
  | object (members : List (String × Json))
deriving Inhabited

namespace Json

/-- The pieces of a text. -/
inductive Token where
  | openList
  | closeList
  | openObject
  | closeObject
  | comma
  | colon
  /-- A literal name or a number. -/
  | atom (value : Json)
  | text (value : String)

/-- The value of four hexadecimal digits. -/
def hex4? (digits : List Char) : Option Nat :=
  digits.foldlM (fun n c =>
    if c.isDigit then some (16 * n + (c.toNat - '0'.toNat))
    else if 'a' ≤ c ∧ c ≤ 'f' then some (16 * n + (c.toNat - 'a'.toNat + 10))
    else if 'A' ≤ c ∧ c ≤ 'F' then some (16 * n + (c.toNat - 'A'.toNat + 10))
    else none) 0

/-- The character that an escape with a single letter stands for. -/
def shortEscape? : Char → Option Char
  | '"' => some '"'
  | '\\' => some '\\'
  | '/' => some '/'
  | 'b' => some '\x08'
  | 'f' => some '\x0c'
  | 'n' => some '\n'
  | 'r' => some '\r'
  | 't' => some '\t'
  | _ => none

/-- The character of two halves of a surrogate pair. -/
def pairedChar? (high low : Nat) : Option Char :=
  if 0xdc00 ≤ low ∧ low < 0xe000 then
    some (.ofNat (0x10000 + (high - 0xd800) * 0x400 + (low - 0xdc00)))
  else none

/-- Resolves the escapes in the inside of a string, with the characters done so far in reverse.
Control characters and halves of surrogate pairs on their own are refused. -/
def unescape (done : List Char) : List Char → Option String
  | [] => some (.ofList done.reverse)
  | '\\' :: 'u' :: a :: b :: c :: d :: '\\' :: 'u' :: e :: f :: g :: h :: rest => do
    let unit ← hex4? [a, b, c, d]
    if 0xd800 ≤ unit ∧ unit < 0xdc00 then
      unescape ((← pairedChar? unit (← hex4? [e, f, g, h])) :: done) rest
    else if 0xdc00 ≤ unit ∧ unit < 0xe000 then none
    else unescape (.ofNat unit :: done) ('\\' :: 'u' :: e :: f :: g :: h :: rest)
  | '\\' :: 'u' :: a :: b :: c :: d :: rest => do
    let unit ← hex4? [a, b, c, d]
    if 0xd800 ≤ unit ∧ unit < 0xe000 then none else unescape (.ofNat unit :: done) rest
  | '\\' :: c :: rest => do unescape ((← shortEscape? c) :: done) rest
  | c :: rest => if c = '\\' ∨ c < ' ' then none else unescape (c :: done) rest

/-- Whether digits are written without a redundant zero in front. -/
def canonicalWhole : List Char → Bool
  | '0' :: rest => !rest.head?.any Char.isDigit
  | c :: _ => c.isDigit
  | [] => false

/-- Whether every decimal point has a digit behind it. -/
def pointsFollowed : List Char → Bool
  | '.' :: rest => rest.head?.any Char.isDigit && pointsFollowed rest
  | _ :: rest => pointsFollowed rest
  | [] => true

/-- The value of a literal name or of a number. -/
def atom? (word : List Char) : Option Json :=
  match String.ofList word with
  | "null" => some .null
  | "true" => some (.bool true)
  | "false" => some (.bool false)
  | _ =>
    let digits := if word.head? = some '-' then word.tail else word
    if canonicalWhole digits && pointsFollowed digits then
      (Decimal.Numeral.read? word).map (.number · (digits.all Char.isDigit))
    else none

/-- What the pass over the characters is in the middle of; the characters of it are in reverse. -/
inductive Scan where
  | between
  | word (read : List Char)
  | text (read : List Char)
  /-- Behind a backslash. -/
  | escaped (read : List Char)

/-- The token that a punctuation mark is. -/
def punctuation? : Char → Option Token
  | '[' => some .openList
  | ']' => some .closeList
  | '\x7b' => some .openObject
  | '\x7d' => some .closeObject
  | ',' => some .comma
  | ':' => some .colon
  | _ => none

/-- Whether a character separates tokens and means nothing itself. -/
def isBlank (c : Char) : Bool :=
  c = ' ' || c = '\t' || c = '\n' || c = '\r'

/-- The tokens of the rest of a text, after those found before, which are in reverse. -/
def scan : Scan → List Token → List Char → Option (List Token)
  | .between, found, [] => some found.reverse
  | .word read, found, [] => do some ((.atom (← atom? read.reverse)) :: found).reverse
  | _, _, [] => none
  | .text read, found, c :: rest =>
    if c = '"' then
      match unescape [] read.reverse with
      | some value => scan .between (.text value :: found) rest
      | none => none
    else scan (if c = '\\' then .escaped (c :: read) else .text (c :: read)) found rest
  | .escaped read, found, c :: rest => scan (.text (c :: read)) found rest
  | .between, found, c :: rest =>
    if isBlank c then scan .between found rest
    else if c = '"' then scan (.text []) found rest
    else
      match punctuation? c with
      | some token => scan .between (token :: found) rest
      | none => scan (.word [c]) found rest
  | .word read, found, c :: rest =>
    if isBlank c then do scan .between (.atom (← atom? read.reverse) :: found) rest
    else
      match punctuation? c with
      | some token => do scan .between (token :: .atom (← atom? read.reverse) :: found) rest
      | none => if c = '"' then none else scan (.word (c :: read)) found rest

/-- The tokens of a text. -/
def tokens? (text : List Char) : Option (List Token) :=
  scan .between [] text

/-- A container under construction, with what it holds so far in reverse. -/
inductive Unfinished where
  | list (done : List Json)
  | object (done : List (String × Json)) (key : String)

/-- What may come next. -/
inductive Expected where
  | value
  | valueOrClose
  | key
  | keyOrClose
  | colon
  | commaOrClose
  | nothing

/-- The open containers, innermost first, and the value once it is complete. -/
structure Builder where
  stack : List Unfinished := []
  expected : Expected := .value
  result : Json := .null

namespace Builder

/-- How deep containers may be nested. -/
def maxDepth : Nat := 127

/-- Opens a container. -/
def enter (b : Builder) (container : Unfinished) (expected : Expected) : Option Builder :=
  if b.stack.length < maxDepth then some { b with stack := container :: b.stack, expected }
  else none

/-- Puts a complete value where it belongs. -/
def place (b : Builder) (value : Json) : Builder :=
  match b.stack with
  | [] => { b with expected := .nothing, result := value }
  | .list done :: outer =>
    { b with stack := .list (value :: done) :: outer, expected := .commaOrClose }
  | .object done key :: outer =>
    { b with stack := .object ((key, value) :: done) "" :: outer, expected := .commaOrClose }

/-- Completes the innermost container. -/
def leave (b : Builder) (token : Token) : Option Builder :=
  match token, b.stack with
  | .closeList, .list done :: outer => some ({ b with stack := outer }.place (.list done.reverse))
  | .closeObject, .object done _ :: outer =>
    some ({ b with stack := outer }.place (.object done.reverse))
  | _, _ => none

/-- A token where a value is due. -/
def takeValue (b : Builder) : Token → Option Builder
  | .openList => b.enter (.list []) .valueOrClose
  | .openObject => b.enter (.object [] "") .keyOrClose
  | .atom value => some (b.place value)
  | .text value => some (b.place (.text value))
  | _ => none

/-- A token where a key is due. -/
def takeKey (b : Builder) (token : Token) : Option Builder :=
  match token, b.stack with
  | .text key, .object done _ :: outer =>
    some { b with stack := .object done key :: outer, expected := .colon }
  | _, _ => none

/-- What follows a comma in the innermost container. -/
def afterComma (b : Builder) : Option Builder :=
  match b.stack with
  | .list _ :: _ => some { b with expected := .value }
  | .object .. :: _ => some { b with expected := .key }
  | [] => none

/-- Takes the next token. -/
def step (b : Builder) (token : Token) : Option Builder :=
  match b.expected, token with
  | .value, token => b.takeValue token
  | .valueOrClose, .closeList => b.leave .closeList
  | .valueOrClose, token => b.takeValue token
  | .key, token => b.takeKey token
  | .keyOrClose, .closeObject => b.leave .closeObject
  | .keyOrClose, token => b.takeKey token
  | .colon, .colon => some { b with expected := .value }
  | .commaOrClose, .comma => b.afterComma
  | .commaOrClose, token => b.leave token
  | _, _ => none

end Builder

/-- The value that a text spells. -/
def read? (text : String) : Option Json := do
  let built ← (← tokens? text.toList).foldlM Builder.step {}
  match built.expected with
  | .nothing => some built.result
  | _ => none

/-- The member of an object under a key; of several the last. -/
def member? (key : String) : Json → Option Json
  | object members => (members.reverse.find? (·.1 == key)).map (·.2)
  | _ => none

end Json

end SamplePlayer
