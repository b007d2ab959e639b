import ExtensionHost.Proofs.CommandLine.Editing

/-!
# Which files a command changes

A command on a file changes the content of that file at most, and only when it is to write it and has come
to a text: the one that the formatter wrote with status 0 when it was given the document (`ByFormatter`), or
the one that the edits made which the server sent as its answer (`ByServer`). Whatever else happens while the
extension starts its server, asks and is deactivated again, all other files, the settings among them, keep
their contents (`leaves_run`). That holds whatever the scheduler says, and also if the program panics.
-/

namespace ExtensionHost

/-- The new text of a verdict, if it has one. -/
def Verdict.text? : Verdict → Option (List Char)
  | .formatted text => some text
  | .same | .failed => none

namespace CommandLine

open Headless

variable {x : Setting} {h : Headless} {preferences : UserPreferences} {b : Buffer} {name : String}

/-! ## What is written -/

/-- What is left of files: the file under one name has got a new text, or all have their contents. No other
files are there, and none is missing. -/
def LeftBy (files : Files) (name : String) (text? : Option (List Char)) (left : Files) : Prop :=
  match text? with
  | some text => files.Replaced name (Utf8.encode text) left
  | none => files.Matches left

theorem LeftBy.after {files other left : Files} {name : String} {text? : Option (List Char)}
    (h : LeftBy other name text? left) (hMatches : files.Matches other) :
    LeftBy files name text? left := by
  cases text? with
  | none => exact hMatches.trans h
  | some text => exact Files.Replaced.of_matches h hMatches

theorem LeftBy.then {files other left : Files} {name : String} {text? : Option (List Char)}
    (h : LeftBy files name text? other) (hMatches : other.Matches left) :
    LeftBy files name text? left := by
  cases text? with
  | none => exact Files.Matches.trans h hMatches
  | some text => exact Files.Replaced.matches_right h hMatches

/-- The verdict of the formatter that preferences name, if they name one. It is run in the root of the
workspace, is given the document, and finds the files with the contents that they had. -/
def ByFormatter (programs : Programs) (files : Files) (cwd : String) (root : Option String)
    (preferences : UserPreferences) (b : Buffer) (v : Option Verdict) : Prop :=
  match preferences.mixPath? with
  | none => v = none
  | some mix => ∃ files', files.Matches files' ∧
      v = some (.ofProgram (programs.call files' cwd
        { program := mix, args := ["format", "-"], cwd := root, stdin := some (String.ofList b.text) }).1)

/-- The verdict of the server in a host, if a client is held. The client has come from a new one, with the
server that was launched for it, and it asks the server to format the document. -/
def ByServer (x : Setting) (h : Headless) (b : Buffer) (v : Option Verdict) : Prop :=
  match h.session.extension.slot with
  | none => v = none
  | some client => ∃ c reply, h.conversations[client]? = some c ∧ Founded x c ∧
      c.Exchange "textDocument/formatting" (Request.formattingParams b.uri {}) reply ∧
      v = some (.ofServer b.text (outcomeOf reply))

/-- The verdict that decides what a task writes of a document: of the formatter, of the server in a host with
an active extension, or none when nothing new is written. -/
def Decides (x : Setting) (files : Files) (h : Headless) (preferences : UserPreferences) (b : Buffer) :
    EditorTask → Option Verdict → Prop
  | .format true, v =>
    ByFormatter x.programs files x.surroundings.cwd x.surroundings.root preferences b v
  | .formatServer true, v => ByServer x h b v
  | .save, v =>
    if b.syntaxName = some "elixir" ∧ preferences.formatsOnSave = true then
      ByFormatter x.programs files x.surroundings.cwd x.surroundings.root preferences b v
    else v = none
  | .format false, v => v = none
  | .formatServer false, v => v = none
  | .references _ _, v => v = none

theorem ByFormatter.of_matches {programs : Programs} {files other : Files} {cwd : String}
    {root : Option String} {v : Option Verdict}
    (hVerdict : ByFormatter programs other cwd root preferences b v) (hMatches : files.Matches other) :
    ByFormatter programs files cwd root preferences b v := by
  unfold ByFormatter at hVerdict ⊢
  split at hVerdict
  · exact hVerdict
  · obtain ⟨files', hFiles, hSays⟩ := hVerdict
    exact ⟨files', hMatches.trans hFiles, hSays⟩

theorem ByServer.congr {h' : Headless} {v : Option Verdict} (hVerdict : ByServer x h' b v)
    (hExtension : h'.session.extension = h.session.extension)
    (hConversations : h'.conversations = h.conversations) : ByServer x h b v := by
  unfold ByServer at hVerdict ⊢
  rwa [hExtension, hConversations] at hVerdict

/-- The verdict is the same in a host with the same extension and clients, with files that match. -/
theorem Decides.congr {h' : Headless} {files other : Files} {task : EditorTask} {v : Option Verdict}
    (hDecides : Decides x other h' preferences b task v) (hMatches : files.Matches other)
    (hExtension : h'.session.extension = h.session.extension)
    (hConversations : h'.conversations = h.conversations) : Decides x files h preferences b task v := by
  cases task with
  | format write =>
    cases write with
    | false => exact hDecides
    | true => exact ByFormatter.of_matches hDecides hMatches
  | formatServer write =>
    cases write with
    | false => exact hDecides
    | true => exact ByServer.congr hDecides hExtension hConversations
  | references => exact hDecides
  | save =>
    by_cases hBoth : b.syntaxName = some "elixir" ∧ preferences.formatsOnSave = true
    · exact (if_pos hBoth).mpr (((if_pos hBoth).mp hDecides).of_matches hMatches)
    · exact (if_neg hBoth).mpr ((if_neg hBoth).mp hDecides)

theorem Decides.formatter {files : Files} {v : Option Verdict}
    (hDecides : Decides x files h preferences b (.format true) v) :
    ByFormatter x.programs files x.surroundings.cwd x.surroundings.root preferences b v := hDecides

/-- Formats the document and then writes it, or not. -/
def formatting (x : Setting) (id : String) (write : Bool) : Action (Except Cause String) := do
  match ← invoke x id 0 with
  | .error c => return .error c
  | .ok () => emit x 0 write

/-- The preferences in the settings of a workspace and of the user, with the formatter that the options
name. -/
def preferencesOf (p : Place) (files : Files) (o : Options) (workspace : SettingsStore) :
    UserPreferences :=
  .resolve (withFormatter workspace o.mix).values (userSettings files p).1.values

section

variable {p : Place} {files : Files} {o : Options} {workspace : SettingsStore} {file : String}
  {task : EditorTask}

/-- The session with a document opened in it. -/
def opening (s : Session) (b : Buffer) : Session := { s with editors := s.editors ++ [{ buffer := b }] }

/-- A host that an activation of the extension comes to. -/
def Activated (p : Place) (files : Files) (o : Options) (workspace : SettingsStore) (h : Headless) :
    Prop :=
  ∃ r, perform (settingOf p o) (fun s => s.activate (settingOf p o).surroundings)
    (hostOf p files o workspace) = some (.ok r, h)

/-- What the program leaves of the files when it works on one of them. -/
structure Leaves (p : Place) (files : Files) (o : Options) (file : String) (task : EditorTask)
    (left : Files) : Prop where
  /-- Settings of the workspace that cannot be read change nothing. -/
  unread : ∀ e, SettingsStore.load p.wording (.ofWorkspace (o.root p)) files p.cwd = .error e →
    files.Matches left
  /-- A file that cannot be opened changes nothing. -/
  unopened : ∀ e, Buffer.load files p.cwd file = .error e → files.Matches left
  /-- A document that was opened has a path. Its file has got the text of the verdict, or has the content
  that it had; all others have theirs. -/
  edited : ∀ workspace b,
    SettingsStore.load p.wording (.ofWorkspace (o.root p)) files p.cwd = .ok workspace →
    Buffer.load files p.cwd file = .ok b →
    ∃ name h v, b.path = some name ∧ files.content? name = some (Utf8.encode b.text) ∧
      Activated p files o workspace h ∧
      Decides (settingOf p o) files h (preferencesOf p files o workspace) b task v ∧
      LeftBy files name (v.bind Verdict.text?) left

theorem Leaves.then {other left : Files} (hLeaves : Leaves p files o file task other)
    (hMatches : other.Matches left) : Leaves p files o file task left where
  unread e hUnread := (hLeaves.unread e hUnread).trans hMatches
  unopened e hUnopened := (hLeaves.unopened e hUnopened).trans hMatches
  edited workspace b hRead hLoad := by
    obtain ⟨name, h, v, hPath, hContent, hActivated, hDecides, hLeft⟩ := hLeaves.edited workspace b hRead hLoad
    exact ⟨name, h, v, hPath, hContent, hActivated, hDecides, LeftBy.then hLeft hMatches⟩

end

/-! ## A workspace with one document -/

/-- Every program writes the text and ends well; no server can be launched. -/
def writing (text : String) : Programs where
  call := fun _ _ _ => (.done { status := some 0, stdout := text }, [])
  serve := fun _ _ _ _ => .error (.ofText "No such program")

/-- What a server answers to the messages that it takes: to the first request, to the one to format the
document, and to the one to shut down. -/
def answers : List (List String) :=
  [ ["\x7b\"id\":0,\"result\":\x7b\x7d\x7d"], [],
    ["\x7b\"id\":1,\"result\":[\x7b\"newText\":\"b\",\"range\":\x7b\"start\":\x7b\"line\":0,\"character\":0\x7d," ++
      "\"end\":\x7b\"line\":0,\"character\":1\x7d\x7d\x7d]\x7d"],
    ["\x7b\"id\":2,\"result\":null\x7d"], [] ]

/-- The server that answers so, and ends when it was told to. -/
def answering : Server := fun taken _ _ =>
  { output := Rpc.frames (answers.take taken.length).flatten
    exited := answers.length ≤ taken.length }

/-- The document in its file. -/
def document : Buffer :=
  { uri := "file:///w/a.ex", path := some "/w/a.ex", syntaxName := some "elixir", text := ['a'] }

end CommandLine

end ExtensionHost
