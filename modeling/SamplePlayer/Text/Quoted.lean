import SamplePlayer.Text.Unprintable

/-!
# Quoted texts

Descriptions and some messages show a text in double quotes, with everything escaped that could be
mistaken or overlooked.
-/

namespace SamplePlayer.Text

/-- The digits of a number to the base 16. -/
def hexadecimal (n : Nat) : String :=
  .ofList (Nat.toDigits 16 n)

/-- A character as it appears between double quotes. -/
def escape (c : Char) : String :=
  if c = '\\' then "\\\\"
  else if c = '"' then "\\\""
  else if c = '\n' then "\\n"
  else if c = '\r' then "\\r"
  else if c = '\t' then "\\t"
  else if c.toNat = 0 then "\\0"
  else if unprintable.contains c then "\\u\x7b" ++ hexadecimal c.toNat ++ "\x7d"
  else String.singleton c

/-- A text in double quotes. -/
def quote (text : String) : String :=
  "\"" ++ String.join (text.toList.map escape) ++ "\""

end SamplePlayer.Text
