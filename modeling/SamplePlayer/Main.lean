import SamplePlayer.CommandLine.Paths

/-!
# The program

The files that a command line touches are read, the command line is run on them, and the files that
are different then are written.
-/

namespace SamplePlayer.Main

open CommandLine

/-- The files together with what is at a path. Whatever cannot be looked at counts as absent. -/
def look (s : Storage) (path : String) : IO Storage := do
  let place := Storage.resolve path
  if place = "" then return s
  try
    match (← (← IO.FS.realPath place).metadata).type with
    | .dir => return { s with directories := place :: s.directories }
    | .file => return s.store place (← IO.FS.readBinFile place).data
    | _ => return s
  catch _ => return s

/-- The files together with what is at a path and around it. -/
def survey (s : Storage) (path : String) : IO Storage := do
  look (← look s (Storage.parent (Storage.resolve path))) path

/-- The files that a verdict is about. -/
def surroundings : Verdict → IO Storage
  | .run command => do
    let s ← command.paths.foldlM survey {}
    match command.outputPath? s with
    | some path => survey s path
    | none => return s
  | _ => return {}

/-- Writes the files that are not as they were. -/
def save (before after : Storage) : IO Unit := do
  for (path, contents) in after.files do
    if before.find? path ≠ some contents then
      IO.FS.writeBinFile path ⟨contents⟩

/-- What is told about a sound that does not end. -/
def endless : String := "Error: the sound would never end\n"

/-- Runs a command line, and returns its status. -/
def run (arguments : List String) : IO UInt32 := do
  let before ← surroundings (interpret arguments)
  match CommandLine.run arguments before with
  | none =>
    IO.eprint endless
    return 1
  | some outcome =>
    save before outcome.files
    IO.print outcome.stdout
    IO.eprint outcome.stderr
    return outcome.exit.toUInt32

end SamplePlayer.Main

/-- The program. -/
def main (arguments : List String) : IO UInt32 :=
  SamplePlayer.Main.run arguments
