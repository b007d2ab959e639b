import ExtensionHost.Json.Value

/-!
# Preferences

Settings are values under keys, in two scopes: those of the workspace and those of the user. A
preference is a setting that has the type it should have; a setting of another type, a null and an
empty path count as absent. The workspace comes first.
-/

namespace ExtensionHost

/-- Settings under their keys. -/
abbrev Settings := Keyed Json

namespace Settings

/-- The key of the choice to format documents when they are saved. -/
def formatOnSaveKey : String := "elixir.config.formatOnSave"

/-- The key of the path of the formatter. -/
def mixPathKey : String := "elixir.config.mixPath"

/-- The value of a setting that is there and is not null. -/
def present? (settings : Settings) (key : String) : Option Json :=
  Json.present? (Keyed.find? key settings)

end Settings

/-- The preferences of one scope. -/
structure Preferences where
  mixPath : Option String := none
  formatOnSave : Option Bool := none
  deriving Repr, DecidableEq, Inhabited

namespace Preferences

/-- A path that is a text and not empty. -/
def pathOf? : Json → Option String
  | .string "" => none
  | .string path => some path
  | _ => none

/-- A choice that is a truth value. -/
def choiceOf? : Json → Option Bool
  | .bool choice => some choice
  | _ => none

/-- The preferences in the settings of a scope. -/
def ofSettings (settings : Settings) : Preferences :=
  { mixPath := (settings.present? Settings.mixPathKey).bind pathOf?
    formatOnSave := (settings.present? Settings.formatOnSaveKey).bind choiceOf? }

/-- The value of preferences. -/
def encode (p : Preferences) : Json :=
  .object
    [("formatOnSave", .ofOption .bool p.formatOnSave), ("mixPath", .ofOption .string p.mixPath)]

end Preferences

/-- The preferences of both scopes. -/
structure UserPreferences where
  workspace : Preferences := {}
  global : Preferences := {}
  deriving Repr, DecidableEq, Inhabited

namespace UserPreferences

/-- The preferences in the settings of both scopes. -/
def resolve (workspace global : Settings) : UserPreferences :=
  ⟨.ofSettings workspace, .ofSettings global⟩

/-- Whether documents are formatted when they are saved: a choice in any scope decides so, whatever
the choice is. -/
def formatsOnSave (p : UserPreferences) : Bool :=
  p.workspace.formatOnSave.isSome || p.global.formatOnSave.isSome

/-- The path of the formatter. -/
def mixPath? (p : UserPreferences) : Option String :=
  p.workspace.mixPath <|> p.global.mixPath

/-- The value of the preferences of both scopes. -/
def encode (p : UserPreferences) : Json :=
  .object [("global", p.global.encode), ("workspace", p.workspace.encode)]

end UserPreferences

end ExtensionHost
