/-!
# The tokens of a YAML text

Blocks that show only as indentation get tokens of their own, so that the grammar of tokens does not
depend on the layout of the text.
-/

namespace SamplePlayer.Yaml

/-- A piece of a text. -/
inductive Token where
  /-- A line that introduces a document. -/
  | documentStart
  /-- A line that ends a document. -/
  | documentEnd
  /-- A line for the reader of the document, with the tag handle that it declares, if it does. -/
  | directive (handle : Option (String × String))
  | blockSequenceStart
  | blockMappingStart
  | blockEnd
  /-- A dash in front of an item. -/
  | blockEntry
  | flowSequenceStart
  | flowSequenceEnd
  | flowMappingStart
  | flowMappingEnd
  /-- A comma. -/
  | flowEntry
  /-- What stands in front of a key. -/
  | key
  /-- The colon in front of a value. -/
  | value
  | anchor (name : String)
  | alias (name : String)
  | tag (handle suffix : String)
  /-- A scalar; `plain` when it is neither quoted nor a block. -/
  | scalar (plain : Bool) (text : String)
deriving DecidableEq, Repr, Inhabited

end SamplePlayer.Yaml
