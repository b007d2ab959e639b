import ExtensionHost.Error
import ExtensionHost.File.Tree
import ExtensionHost.Json.Parser
import ExtensionHost.Settings.Preferences

/-!
# Stores of settings

A `JsonStore` keeps JSON values in the files of one directory, which it makes when it saves. A
`SettingsStore` reads the settings of a scope once, keeps them in memory and writes them back when it
is told to; one without a directory keeps them in memory only.
-/

namespace ExtensionHost

/-! ## Files of values -/

/-- A directory of files that hold JSON values. -/
structure JsonStore where
  directory : String
  deriving Repr, DecidableEq

namespace JsonStore

/-- The store of a workspace. -/
def ofWorkspace (root : String) : JsonStore := ⟨Path.join root ".exnova"⟩

/-- The store of a user, from the directory that holds the configuration of programs. -/
def ofConfiguration (directory : String) : JsonStore := ⟨Path.join directory "exnova"⟩

/-- The path of a file of the store. -/
def filePath (s : JsonStore) (file : String) : String := Path.join s.directory file

/-- The failure to read a file. -/
def unreadable (path : String) (e : SystemError) : HostError :=
  ⟨.config, "Failed to read " ++ path ++ ": " ++ e.message⟩

/-- The failure of a file without the value it should hold, and what the parser says of it. -/
def unparsable (path words : String) : HostError :=
  ⟨.config, "Failed to parse " ++ path ++ ": " ++ words⟩

/-- The failure to write a file. -/
def unwritable (path : String) (e : SystemError) : HostError :=
  ⟨.config, "Failed to write " ++ path ++ ": " ++ e.message⟩

/-- The failure to make the directory. -/
def noDirectory (e : SystemError) : HostError :=
  ⟨.config, "Failed to create directory: " ++ e.message⟩

/-- How the parser of values describes what is wrong with a text. Its words, and the line and the column
it names, are its own. -/
abbrev Wording := String → String

/-- What a file holds, as a value of some type. -/
def load {α : Type} (w : Wording) (s : JsonStore) (files : Files) (cwd file : String)
    (decode : Decoder α) : Except HostError α := do
  let path := s.filePath file
  let text ← (files.readText cwd path).mapError (unreadable path)
  match (Json.parse? text).map decode with
  | some (.ok a) => .ok a
  | _ => .error (unparsable path (w text))

/-- What a file holds, if that file exists. -/
def loadOptional {α : Type} (w : Wording) (s : JsonStore) (files : Files) (cwd file : String)
    (decode : Decoder α) : Except HostError (Option α) :=
  if files.exists? cwd (s.filePath file) then (load w s files cwd file decode).map some else .ok none

/-- Whether a file exists. -/
def exists? (s : JsonStore) (files : Files) (cwd file : String) : Bool :=
  files.exists? cwd (s.filePath file)

/-- Makes the directory of the store, unless something is there. -/
def ensureDirectory (s : JsonStore) (files : Files) (cwd : String) : Files × Except HostError Unit :=
  if files.exists? cwd s.directory then (files, .ok ())
  else
    let (files, made) := files.makeDirectories cwd s.directory
    (files, made.mapError noDirectory)

/-- Writes a value into a file. The files that come back hold what was done, also of a save that
failed. -/
def save (s : JsonStore) (files : Files) (cwd file : String) (v : Json) :
    Files × Except HostError Unit :=
  match s.ensureDirectory files cwd with
  | (files, .error e) => (files, .error e)
  | (files, .ok ()) =>
    match files.writeText cwd (s.filePath file) v.pretty with
    | .error e => (files, .error (unwritable (s.filePath file) e))
    | .ok files => (files, .ok ())

end JsonStore

/-! ## Settings of a scope -/

/-- The settings of a scope, and where they are kept. -/
structure SettingsStore where
  store : Option JsonStore := none
  values : Settings := []
  deriving Inhabited

namespace SettingsStore

/-- The name of the file that holds settings. -/
def fileName : String := "settings.json"

/-- The settings in a store; without a file there are none. -/
def load (w : JsonStore.Wording) (s : JsonStore) (files : Files) (cwd : String) :
    Except HostError SettingsStore :=
  if s.exists? files cwd fileName then do
    let values ← JsonStore.load w s files cwd fileName (Decoder.keyed Decoder.any)
    .ok ⟨some s, values⟩
  else .ok ⟨some s, []⟩

/-- Puts a value under a key. -/
def set (s : SettingsStore) (key : String) (v : Json) : SettingsStore :=
  { s with values := Keyed.insert key v s.values }

/-- Takes a key away. -/
def unset (s : SettingsStore) (key : String) : SettingsStore :=
  { s with values := Keyed.erase key s.values }

/-- The value under a key. -/
def get? (s : SettingsStore) (key : String) : Option Json := Keyed.find? key s.values

/-- The path of the file that holds the settings, if there is one. -/
def location? (s : SettingsStore) : Option String :=
  s.store.map (·.filePath fileName)

/-- Writes the settings to their file, if there is one. -/
def save (s : SettingsStore) (files : Files) (cwd : String) : Files × Except HostError Unit :=
  match s.store with
  | none => (files, .ok ())
  | some store => store.save files cwd fileName (.object s.values)

end SettingsStore

end ExtensionHost
