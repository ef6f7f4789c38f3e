/-!
# Files

The files that a session reads and writes, and handles that write through a buffer. What is written
to a handle reaches its file when the buffer has no room for the next piece, when the position is
moved, and when the handle is flushed or given up. A write that fails leaves the buffer as it was.

## Main definitions

* `Storage`: the files by path; `Storage.create`, `Storage.read`.
* `FileHandle`, and the actions on one: `FileHandle.put`, `FileHandle.seek`, `FileHandle.flush`.
* `FileHandle.abandon`: giving up a handle.
-/

namespace SamplePlayer

/-- Why a file operation fails. -/
inductive StorageError where
  /-- There is no such file, or no directory to hold it. -/
  | notFound
  /-- The path goes through a file as if it were a directory. -/
  | notDirectory
  /-- The path names a directory. -/
  | isDirectory
  /-- There is no room for what is written. -/
  | full
deriving DecidableEq, Repr

namespace StorageError

/-- The wording of an error. -/
def reason : StorageError → String
  | notFound => "No such file or directory"
  | notDirectory => "Not a directory"
  | isDirectory => "Is a directory"
  | full => "No space left on device"

/-- The number of an error. -/
def code : StorageError → Nat
  | notFound => 2
  | notDirectory => 20
  | isDirectory => 21
  | full => 28

/-- The wording of an error with its number. -/
def message (e : StorageError) : String :=
  s!"{e.reason} (os error {e.code})"

end StorageError

/-- The files, each under its path in the form that `Storage.resolve` gives, and directories that
are known of without a file in them. -/
structure Storage where
  files : List (String × Array UInt8) := []
  directories : List String := []
deriving Inhabited

namespace Storage

/-- The path without steps that stay where they are. -/
def resolve (path : String) : String :=
  let steps := (path.splitOn "/").filter fun step => step != "" && step != "."
  (if path.startsWith "/" then "/" else "") ++ "/".intercalate steps

/-- The part of a resolved path in front of its last step. -/
def parent (path : String) : String :=
  match (path.splitOn "/").reverse with
  | _ :: "" :: [] => "/"
  | _ :: rest => "/".intercalate rest.reverse
  | [] => ""

/-- The directories that always exist; the empty path is the current one. -/
def standingDirectories : List String :=
  ["", "/", "/tmp", "/dev"]

/-- A file to which nothing can be written. -/
def fullDevice : String := "/dev/full"

/-- A file that is always empty. -/
def nullDevice : String := "/dev/null"

variable (s : Storage)

/-- The contents of the file at a resolved path. -/
def find? (path : String) : Option (Array UInt8) :=
  (s.files.find? (·.1 == path)).map (·.2)

/-- Whether a resolved path is a directory. -/
def isDirectory (path : String) : Bool :=
  standingDirectories.contains path || s.directories.contains path ||
    s.files.any (·.1.startsWith (path ++ "/"))

/-- Why there is nothing at a resolved path. -/
def absence (path : String) : StorageError :=
  if (s.find? (parent path)).isSome then .notDirectory else .notFound

/-- Replaces the contents of the file at a resolved path. -/
def store (path : String) (contents : Array UInt8) : Storage :=
  if s.files.any (·.1 == path) then
    { s with files := s.files.map fun file => if file.1 == path then (path, contents) else file }
  else { s with files := s.files ++ [(path, contents)] }

/-- Whether there is a regular file at a path. -/
def isFile (path : String) : Bool :=
  (s.find? (resolve path)).isSome

/-- The contents of the file at a path. -/
def read (path : String) : Except StorageError (Array UInt8) :=
  let place := resolve path
  if path = "" then .error .notFound
  else if place = nullDevice then .ok #[]
  else
    match s.find? place with
    | some contents => .ok contents
    | none => .error (if s.isDirectory place then .isDirectory else s.absence place)

/-- Makes an empty file at a path, in place of one that is there. -/
def create (path : String) : Except StorageError Storage :=
  let place := resolve path
  if path = "" then .error .notFound
  else if place = fullDevice ∨ place = nullDevice then .ok s
  else if s.isDirectory place then .error .isDirectory
  else if s.isDirectory (parent place) then .ok (s.store place #[])
  else .error (s.absence place)

/-- Contents with `bytes` put over them from `position` on; a gap in front is filled with zeros. -/
def overwrite (contents : Array UInt8) (position : Nat) (bytes : Array UInt8) : Array UInt8 :=
  if position = contents.size then contents ++ bytes
  else
    let before :=
      if position < contents.size then contents.extract 0 position
      else contents ++ Array.replicate (position - contents.size) 0
    before ++ bytes ++ contents.extract (position + bytes.size) contents.size

/-- Writes to the file at a resolved path, if it is there. -/
def writeAt (path : String) (position : Nat) (bytes : Array UInt8) : Except StorageError Storage :=
  if bytes.isEmpty then .ok s
  else if path = fullDevice then .error .full
  else
    .ok { s with files := s.files.map fun (name, contents) =>
      if name == path then (name, overwrite contents position bytes) else (name, contents) }

end Storage

/-- A file open for writing. -/
structure FileHandle where
  /-- The resolved path. -/
  path : String
  /-- Where in the file the buffer belongs. -/
  position : Nat := 0
  /-- What was written and is not in the file yet. -/
  pending : Array UInt8 := #[]
deriving Inhabited

namespace FileHandle

/-- How many bytes the buffer holds at most. -/
def capacity : Nat := 8192

/-- An action on the files through one handle. Files and handle keep what an action did before it
failed. -/
abbrev Action := ExceptT StorageError (StateM (Storage × FileHandle))

/-- Brings the buffer into the file. -/
def flush : Action Unit := do
  let (s, h) ← get
  let s ← s.writeAt h.path h.position h.pending
  set (s, { h with position := h.position + h.pending.size, pending := #[] })

/-- Writes a piece that is shorter than the buffer. -/
def put (piece : List UInt8) : Action Unit := do
  let (_, h) ← get
  if capacity < h.pending.size + piece.length then flush
  modify fun (s, h) => (s, { h with pending := h.pending ++ piece })

/-- Moves to a place in the file. -/
def seek (position : Nat) : Action Unit := do
  flush
  modify fun (s, h) => (s, { h with position })

/-- The place in the file, with nothing left in the buffer. -/
def tell : Action Nat := do
  flush
  return (← get).2.position

/-- Gives up a handle: the buffer still goes into the file if it can. -/
def abandon (s : Storage) (h : FileHandle) : Storage :=
  (flush.run.run (s, h)).2.1

end FileHandle

end SamplePlayer
