import SamplePlayer.Settings.Fields
import SamplePlayer.Settings.Ini
import SamplePlayer.Settings.Json
import SamplePlayer.Settings.Toml.Reader
import SamplePlayer.Settings.Yaml.Parser
import SamplePlayer.Storage
import SamplePlayer.Text.Utf8

/-!
# Settings files

The language of a settings file is told by the extension of its name. If there is no file at a path,
the extensions of all languages are tried behind it.

## Main definitions

* `SettingsLanguage`, with its extensions and its reader.
* `settingsFile?`: which file a path means.
* `Fields.load?`: the fields that a file gives.
-/

namespace SamplePlayer

/-- A language that settings are written in. -/
inductive SettingsLanguage where
  | yaml
  | json
  | toml
  | ini
deriving DecidableEq, Repr

namespace SettingsLanguage

/-- All languages. -/
def all : List SettingsLanguage := [toml, json, yaml, ini]

/-- The extensions of files in a language. -/
def extensions : SettingsLanguage → List String
  | yaml => ["yaml", "yml"]
  | json => ["json"]
  | toml => ["toml"]
  | ini => ["ini"]

/-- The extension of the last name on a path. A point at the start of a name begins no extension. -/
def extensionOf? (path : String) : Option String :=
  match (path.splitOn "/").getLast? with
  | none => none
  | some name =>
    match (name.splitOn ".").reverse with
    | last :: rest => if rest == [""] || rest.isEmpty then none else some last
    | [] => none

/-- The language of a file. -/
def ofPath? (path : String) : Option SettingsLanguage :=
  match extensionOf? path with
  | none => none
  | some e => all.find? (·.extensions.contains e)

/-- The entries of a text. -/
def entries? : SettingsLanguage → List Char → Option Entries
  | yaml => Yaml.read?
  | json => Json.entries?
  | toml => Toml.read?
  | ini => Ini.read?

end SettingsLanguage

/-- The paths that are tried if there is no file at a path, each with its language. -/
def settingsCandidates (place : String) : List (String × SettingsLanguage) :=
  SettingsLanguage.all.flatMap fun language =>
    language.extensions.map fun e => (place ++ "." ++ e, language)

/-- The path, in the form the files are kept under, of the settings file that a path means, and its
language. -/
def settingsFile? (s : Storage) (path : String) : Option (String × SettingsLanguage) :=
  let place := Storage.resolve path
  if place == "" then none
  else if s.isFile place then (SettingsLanguage.ofPath? place).map (place, ·)
  else (settingsCandidates place).find? (s.isFile ·.1)

/-- The fields that a settings file gives. -/
def Fields.load? (s : Storage) (path : String) : Option Fields := do
  let (file, language) ← settingsFile? s path
  let contents ← s.find? file
  (language.entries? (Text.Utf8.decode (Text.Utf8.dropMark contents))).map (Fields.ofEntries file)

end SamplePlayer
