/-!
# Settings

What a settings file says, whatever the language it is written in: a tree of values under keys.
-/

namespace SamplePlayer

/-- A value in a settings file. -/
inductive Setting where
  /-- A value that is left open. -/
  | unset
  | flag (value : Bool)
  | whole (value : Int)
  | number (value : Float)
  | text (value : String)
  | sequence (items : List Setting)
  /-- A table. A key may occur more than once; the last one counts. -/
  | table (entries : List (String × Setting))
deriving Inhabited

namespace Setting

/-- The whole numbers that files can hold. -/
def minWhole : Int := -9223372036854775808

/-- The greatest whole number that files can hold. -/
def maxWhole : Int := 9223372036854775807

/-- A whole number in a file, unless it is out of range. -/
def whole? (n : Int) : Option Setting :=
  if minWhole ≤ n ∧ n ≤ maxWhole then some (.whole n) else none

end Setting

/-- The entries of a settings file. -/
abbrev Entries := List (String × Setting)

end SamplePlayer
