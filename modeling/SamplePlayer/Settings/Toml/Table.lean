import SamplePlayer.Settings.Value

/-!
# Tables under construction

A TOML text says what is in a table in several places. Each table remembers how it came about, which
decides where more may be said about it.

## Main definitions

* `Item`: a value, a table, or a sequence of tables to which more can be added.
* `Table.define`, `Table.append`, `Table.assign`: the three kinds of statement.
* `Table.entries`: the finished entries.
-/

namespace SamplePlayer.Toml

/-- How a table came about. -/
inductive Origin where
  /-- On the way to a table inside it. -/
  | implicit
  /-- By a header of its own. -/
  | header
  /-- By a key with dots. -/
  | dotted
deriving DecidableEq

/-- What is under a key. -/
inductive Item where
  | value (setting : Setting)
  | table (origin : Origin) (items : List (String × Item))
  /-- Tables under one key, the latest first. -/
  | tables (all : List (List (String × Item)))

/-- The items of a table. -/
abbrev Table := List (String × Item)

namespace Table

/-- Changes what is under a key, if the change is allowed. -/
def update (key : String) (change : Option Item → Option Item) : Table → Option Table
  | [] => (change none).map fun item => [(key, item)]
  | (name, item) :: rest =>
    if name = key then (change (some item)).map fun item => (name, item) :: rest
    else (update key change rest).map ((name, item) :: ·)

/-- Changes a table inside. Tables on the way are made as needed; of tables under one key the
latest is meant. Keys with dots do not reach into tables with a header. -/
def descend (made : Origin) : List String → (Table → Option Table) → Table → Option Table
  | [], change, t => change t
  | key :: rest, change, t =>
    update key (fun found =>
      match found with
      | none => (descend made rest change []).map (.table made)
      | some (.table origin items) =>
        if made = .dotted ∧ origin = .header then none
        else (descend made rest change items).map (.table origin)
      | some (.tables (latest :: earlier)) =>
        if made = .dotted then none
        else (descend made rest change latest).map fun t => .tables (t :: earlier)
      | _ => none) t

/-- A header: the table begins, if it did not begin that way before. -/
def define (path : List String) (last : String) : Table → Option Table :=
  descend .implicit path (update last fun found =>
    match found with
    | none => some (.table .header [])
    | some (.table .implicit items) => some (.table .header items)
    | _ => none)

/-- A header of one of several tables: one more begins. -/
def append (path : List String) (last : String) : Table → Option Table :=
  descend .implicit path (update last fun found =>
    match found with
    | none => some (.tables [[]])
    | some (.tables all) => some (.tables ([] :: all))
    | _ => none)

/-- A value under a key, which must be new. -/
def assign (path : List String) (last : String) (s : Setting) : Table → Option Table :=
  descend .dotted path (update last fun found =>
    match found with
    | none => some (.value s)
    | some _ => none)

mutual

/-- The setting that an item is. -/
def setting : Item → Setting
  | .value s => s
  | .table _ items => .table (entries items)
  | .tables all => .sequence (settings all).reverse

/-- The settings that tables are. -/
def settings : List (List (String × Item)) → List Setting
  | [] => []
  | items :: rest => .table (entries items) :: settings rest

/-- The entries of a table. -/
def entries : List (String × Item) → Entries
  | [] => []
  | (key, item) :: rest => (key, setting item) :: entries rest

end

end Table

end SamplePlayer.Toml
