/-!
# Descriptions of records

A record is described by its name and, between braces, the names of its fields with what is in them.

## Main definitions

* `Text.record`.
-/

namespace SamplePlayer.Text

/-- The description of a record with fields, in their order. -/
def record (name : String) (fields : List (String × String)) : String :=
  let shown := fields.map fun (field, value) => field ++ ": " ++ value
  name ++ " \x7b " ++ ", ".intercalate shown ++ " \x7d"

end SamplePlayer.Text
