import SamplePlayer.Json

/-!
# Writing JSON

A value is written on one line and without blanks, the members of an object in their order. Inside a
string everything stands for itself but quotes, backslashes and control characters, which are
escaped, so the line stays one line.

## Main definitions

* `Json.quoted`: a string between its quotes.
* `Json.write`: the text of a value.
-/

namespace SamplePlayer.Json

/-- A number in as many hexadecimal digits, or more if it needs them. -/
def hexDigits (width n : Nat) : List Char :=
  let digits := Nat.toDigits 16 n
  List.replicate (width - digits.length) '0' ++ digits

/-- Whether a character never stands for itself in a string. -/
def isControl (c : Char) : Bool := c < ' ' || c = '\x7f'

/-- The characters that stand for one of a string. -/
def escape (c : Char) : List Char :=
  if c = '"' ∨ c = '\\' then ['\\', c]
  else if isControl c then '\\' :: 'u' :: hexDigits 4 c.toNat
  else [c]

/-- A string between its quotes. -/
def quoted (s : String) : String :=
  "\"" ++ s.foldl (fun done c => (escape c).foldl String.push done) "" ++ "\""

/-- The text of a number. The exponent is left out where it is zero. -/
def numeral (n : Decimal.Numeral) : String :=
  let digits := (if n.negative then "-" else "") ++ toString n.coefficient
  if n.exponent = 0 then digits else digits ++ "e" ++ toString n.exponent

mutual

/-- The text of a value. -/
def write : Json → String
  | .null => "null"
  | .bool b => if b then "true" else "false"
  | .number n _ => numeral n
  | .text s => quoted s
  | .list items => "[" ++ ",".intercalate (writeItems items) ++ "]"
  | .object members => "\x7b" ++ ",".intercalate (writeMembers members) ++ "\x7d"

/-- The texts of the values of a list. -/
def writeItems : List Json → List String
  | [] => []
  | item :: rest => write item :: writeItems rest

/-- The texts of the members of an object. -/
def writeMembers : List (String × Json) → List String
  | [] => []
  | (key, value) :: rest => (quoted key ++ ":" ++ write value) :: writeMembers rest

end

end SamplePlayer.Json
