/-!
# Reading a text line by line

A cursor knows what is left of a text, in which line and column it stands, and whether anything but
white space came before it in the line. The end of the text reads as the character of code zero, at
which a text ends anyway.
-/

namespace SamplePlayer.Yaml

/-- What the end of a text reads as. -/
def endMark : Char := '\x00'

/-- Whether a character ends a line. -/
def isBreak (c : Char) : Bool := c == '\n' || c == '\r'

/-- Whether a character is a blank within a line. -/
def isBlank (c : Char) : Bool := c == ' ' || c == '\t'

/-- Whether a line ends here. -/
def endsLine (c : Char) : Bool := isBreak c || c == endMark

/-- Whether a word ends here. -/
def endsWord (c : Char) : Bool := isBlank c || endsLine c

/-- Whether a character has a meaning between brackets. -/
def isFlow (c : Char) : Bool :=
  c == ',' || c == '[' || c == ']' || c == '\x7b' || c == '\x7d'

/-- A place in a text. -/
structure Cursor where
  rest : List Char
  index : Nat := 0
  line : Nat := 0
  column : Nat := 0
  /-- Whether only white space came before in the line. -/
  leading : Bool := true
deriving Inhabited

namespace Cursor

/-- The start of a text, which ends at a character of code zero. -/
def start (text : List Char) : Cursor :=
  { rest := text.takeWhile (· ≠ endMark) }

variable (c : Cursor)

/-- The character here. -/
def here : Char := c.rest.headD endMark

/-- The character behind the one here. -/
def next : Char := c.rest.tail.headD endMark

/-- Whether the text is at its end. -/
def atEnd : Bool := c.rest.isEmpty

/-- The place some characters on in the same line. -/
def advance (count : Nat) : Cursor :=
  let count := min count c.rest.length
  { c with rest := c.rest.drop count, index := c.index + count, column := c.column + count }

/-- The place behind a blank. -/
def skipBlank : Cursor := c.advance 1

/-- The place behind some characters that are not blanks. -/
def skip (count : Nat) : Cursor := { c.advance count with leading := false }

/-- The characters from here on that satisfy a condition. -/
def run (p : Char → Bool) : List Char := c.rest.takeWhile p

/-- The place behind a line break, which may be a pair of characters. -/
def skipBreak : Cursor :=
  let count := if c.here == '\r' && c.next == '\n' then 2 else 1
  { c.advance count with line := c.line + 1, column := 0, leading := true }

/-- The place at the end of the line. -/
def skipComment : Cursor :=
  c.skip (c.run fun ch => !endsLine ch).length

/-- Whether three times the same mark stands at the start of this line as a word. -/
def atMarker (mark : Char) : Bool :=
  c.column == 0 && (c.rest.take 3 == [mark, mark, mark]) && endsWord ((c.rest.drop 3).headD endMark)

/-- Whether the line separates documents. -/
def atDocumentMarker : Bool := c.atMarker '-' || c.atMarker '.'

end Cursor

end SamplePlayer.Yaml
