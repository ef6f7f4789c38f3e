/-!
# Sets of characters

A set of characters is given by the ranges of code points it consists of.

## Main definitions

* `CharSet`, `CharSet.contains`.
* `blank`: white space; `trim` removes it at both ends of a text.
-/

namespace SamplePlayer.Text

/-- Disjoint ranges of code points in rising order, both ends included. -/
structure CharSet where
  ranges : List (Nat × Nat)

/-- Whether a character belongs to the set. -/
def CharSet.contains (s : CharSet) (c : Char) : Bool :=
  s.ranges.any fun (first, last) => first ≤ c.toNat && c.toNat ≤ last

/-- White space of all scripts. -/
def blank : CharSet := ⟨
  [(0x9, 0xd), (0x20, 0x20), (0x85, 0x85), (0xa0, 0xa0), (0x1680, 0x1680), (0x2000, 0x200a),
  (0x2028, 0x2029), (0x202f, 0x202f), (0x205f, 0x205f), (0x3000, 0x3000)]⟩

/-- The text without the characters that a condition picks out at either end. -/
def strip (drop : Char → Bool) (text : List Char) : List Char :=
  ((text.dropWhile drop).reverse.dropWhile drop).reverse

/-- The text without white space at either end. -/
def trim (text : String) : String :=
  .ofList (strip blank.contains text.toList)

end SamplePlayer.Text
