import ExtensionHost.CommandLine.Arguments
import ExtensionHost.CommandLine.Headless
import ExtensionHost.CommandLine.Help
import ExtensionHost.CommandLine.Report
import ExtensionHost.Lifecycle.Commands
import ExtensionHost.Settings.Store

/-!
# Running the program

The program as a function of its arguments, the files and where it runs. A command on a file activates
the extension, does its work in an editor and deactivates the extension again, whatever came of the
work. A command on settings reads them, shows them or changes one.
-/

namespace ExtensionHost.CommandLine

/-! ## Where the program runs -/

/-- Where the program runs: on what, in which directory, for the user with which directory, and with which
words for settings that cannot be parsed. -/
structure Place extends Platform where
  cwd : String
  home : String
  wording : JsonStore.Wording

/-- The store of the user's settings. -/
def Place.userStore (p : Place) : JsonStore := .ofConfiguration (Path.join p.home ".config")

/-- The directory of the extension unless said otherwise. -/
def Place.extensionPath (p : Place) : String :=
  Path.join (Path.join p.home ".local/share") "exnova"

/-- The root of the workspace. -/
def Options.root (o : Options) (p : Place) : String := o.workspace.getD p.cwd

/-! ## What is left behind -/

/-- What the program leaves behind: its status, what it wrote, the log with the report of a failure,
and the files. -/
structure Ending where
  status : Nat := 0
  output : String := ""
  log : List LogLine := []
  report : List String := []
  files : Files

/-- The lines of the log and the report. -/
def Ending.lines (e : Ending) : List String :=
  e.log.flatMap (fun l => linesOfText l.shown) ++ e.report

/-- The end of a program that failed. -/
def failed (files : Files) (c : Cause) (log : List LogLine) : Ending :=
  { status := 1, log, report := c.report, files }

/-! ## Commands on files -/

/-- Runs a command of the extension with an editor. -/
def invoke (x : Setting) (id : String) (editor : Nat) : Action (Except Cause Unit) := do
  let r ← perform x fun s => s.invoke x.surroundings Session.ownHub id editor
  pure (r.mapError .ofHost)

/-- Saves the document of an editor. -/
def saveEditor (x : Setting) (editor : Nat) : Action (Except Cause Unit) := do
  let r ← perform x fun s => s.save x.surroundings editor
  pure (r.mapError .ofHost)

/-- Writes a document back, or gives its text to be written to the output. -/
def emit (x : Setting) (editor : Nat) (write : Bool) : Action (Except Cause String) := do
  if write then return (← saveEditor x editor).map fun _ => ""
  else return .ok (String.ofList ((← get).session.buffer editor).text)

/-- Opens a file in an editor. -/
def openFile (x : Setting) (file : String) : Action (Except Cause Nat) := do
  let s := (← get).session
  match Buffer.load s.files x.surroundings.cwd file with
  | .error e => return .error ((Cause.ofHost e).within ("Failed to open " ++ file))
  | .ok buffer =>
    adopt x { s with editors := s.editors ++ [{ buffer }] }
    return .ok s.editors.length

/-- The position of a line and a column that count from one. -/
def positionOf (line column : UInt32) : Position :=
  let back (n : UInt32) : UInt32 := if n = 0 then 0 else n - 1
  ⟨back line, back column⟩

/-- Does the work of a task in an editor. Gives what is written to the output. -/
def performTask (x : Setting) (editor : Nat) : EditorTask → Action (Except Cause String)
  | .format write => do
    match ← invoke x Command.formatDocument editor with
    | .error c => return .error c
    | .ok () => emit x editor write
  | .formatServer write => do
    match ← invoke x Command.formatWithServer editor with
    | .error c => return .error c
    | .ok () => emit x editor write
  | .references line column => do
    let s := (← get).session
    let b := s.buffer editor
    let offset := Document.offsetAt b.text (positionOf line column)
    adopt x (s.setBuffer editor { b with selection := .point offset })
    return (← invoke x Command.findReferences editor).map fun _ => ""
  | .save => do
    let _ ← perform x fun s => s.addEditor x.surroundings Session.ownHub editor
    return (← saveEditor x editor).map fun _ => ""

/-- Does the work of a task on a file. -/
def performOnFile (x : Setting) (file : String) (task : EditorTask) :
    Action (Except Cause String) := do
  match ← openFile x file with
  | .error c => return .error c
  | .ok editor => performTask x editor task

/-- Does the work of a task on a file while the extension is active. -/
def performActive (x : Setting) (file : String) (task : EditorTask) :
    Action (Except Cause String) := do
  let _ ← perform x fun s => s.activate x.surroundings
  let r ← performOnFile x file task
  let _ ← perform x fun s => s.deactivate x.surroundings
  return r

/-- The user's settings; without readable ones there are none, which is noted. -/
def userSettings (files : Files) (p : Place) : SettingsStore × List LogLine :=
  match SettingsStore.load p.wording p.userStore files p.cwd with
  | .ok s => (s, [])
  | .error e => ({}, [⟨.warning, "Failed to load global settings: " ++ e.message⟩])

/-- The settings of the workspace with the formatter that the options name. -/
def withFormatter (s : SettingsStore) (mix : Option String) : SettingsStore :=
  match mix with
  | some path => s.set Settings.mixPathKey (.string path)
  | none => s

/-- What does not change while the program works on a file. -/
def settingOf (p : Place) (o : Options) : Setting where
  toPlatform := p.toPlatform
  surroundings :=
    { extensionPath := o.extensionPath.getD p.extensionPath
      root := some (o.root p)
      dev := o.dev
      cwd := p.cwd
      factory := fun _ => .done () }
  choice := if o.autoRestart then some 0 else none

/-- The host before anything happened, with the settings of a workspace. -/
def hostOf (p : Place) (files : Files) (o : Options) (workspace : SettingsStore) : Headless :=
  let (global, log) := userSettings files p
  { session :=
      { files
        workspaceSettings := (withFormatter workspace o.mix).values
        globalSettings := global.values }
    log }

/-- The status of a program that panicked. -/
def panicStatus : Nat := 101

/-- What the program leaves behind when its work in a host is over. -/
def endingOf : Except (List String) (Except Cause String) × Headless → Ending
  | (.ok (.ok output), h) => { output, log := h.log, files := h.session.files }
  | (.ok (.error c), h) => failed h.session.files c h.log
  | (.error report, h) => { status := panicStatus, log := h.log, report, files := h.session.files }

/-- Runs a command on a file. -/
def runEdit (p : Place) (files : Files) (o : Options) (file : String) (task : EditorTask) :
    Option Ending :=
  match SettingsStore.load p.wording (.ofWorkspace (o.root p)) files p.cwd with
  | .error e => some (failed files (.ofHost e) [])
  | .ok workspace =>
    (performActive (settingOf p o) file task (hostOf p files o workspace)).map endingOf

/-! ## Commands on settings -/

/-- A scope of settings as it is shown. -/
def scopeReport (s : SettingsStore) (p : Preferences) : Json :=
  .obj [("file", .ofOption .string s.location?), ("settings", p.encode)]

/-- All settings as they are shown. -/
def settingsReport (workspace global : SettingsStore) : Json :=
  let prefs := UserPreferences.resolve workspace.values global.values
  .obj
    [ ("effective", .obj
        [ ("formatOnSave", .bool prefs.formatsOnSave),
          ("mixPath", .ofOption .string prefs.mixPath?) ]),
      ("global", scopeReport global prefs.global),
      ("workspace", scopeReport workspace prefs.workspace) ]

/-- Shows the settings. -/
def showSettings (p : Place) (files : Files) (o : Options) : Ending :=
  let stores := do
    let workspace ← SettingsStore.load p.wording (.ofWorkspace (o.root p)) files p.cwd
    let global ← SettingsStore.load p.wording p.userStore files p.cwd
    .ok (workspace, global)
  match stores with
  | .error e => failed files (.ofHost e) []
  | .ok (workspace, global) => { output := (settingsReport workspace global).pretty ++ "\n", files }

/-- The value of an argument: what it says as JSON, or else its text. -/
def settingValue (text : String) : Json := (Json.parse? text).getD (.string text)

/-- Sets a setting. -/
def setSetting (p : Place) (files : Files) (o : Options) (key value : String) (global : Bool) :
    Ending :=
  let store : JsonStore := if global then p.userStore else .ofWorkspace (o.root p)
  match SettingsStore.load p.wording store files p.cwd with
  | .error e => failed files (.ofHost e) []
  | .ok s =>
    match (s.set key (settingValue value)).save files p.cwd with
    | (files, .error e) => failed files (.ofHost e) []
    | (files, .ok ()) =>
      { output := match s.location? with
          | some path => "Updated " ++ key ++ " in " ++ path ++ "\n"
          | none => ""
        files }

/-! ## The program -/

/-- The version of the program. -/
def versionText : String := "exnova 0.1.0\n"

/-- Runs the program with arguments. There is nothing if its end is not reached. -/
def run (p : Place) (files : Files) (args : List String) : Option Ending :=
  match Invocation.ofArguments args with
  | .help t => some { output := t.helpText, files }
  | .version => some { output := versionText, files }
  | .misuse => some { status := 2, files }
  | .run o (.edit file task) => runEdit p files o file task
  | .run o .showSettings => some (showSettings p files o)
  | .run o (.setSetting key value global) => some (setSetting p files o key value global)

end ExtensionHost.CommandLine
