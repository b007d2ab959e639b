import ExtensionHost.Lifecycle.Commands
import ExtensionHost.Lifecycle.Session
import ExtensionHost.Wire.Answers
import ExtensionHost.Wire.Requests

/-!
# The handlers of the extension

What the extension does with an editor: formatting it with the formatter or with the language server,
finding references, and formatting it before it is saved. Each handler checks what it needs, asks
outside and, when the answer is there, changes the document once or reports one failure. The first half
of a handler ends at the question, the second half begins with the answer.
-/

namespace ExtensionHost.Session

/-! ## Formatting with the formatter -/

/-- The request that formats a text. -/
def formatterRequest (mix : String) (cwd : Option String) (text : List Char) : ProcessRequest :=
  { program := mix, args := ["format", "-"], cwd, stdin := some (String.ofList text) }

/-- The failure of a formatter. -/
def formatterError (cause : Cause) : ExtensionError :=
  .invokeFormatter ("Failed to format the document: " ++ cause.full)

/-- The formatted text that a formatter left behind. -/
def formattedText (outcome : Outcome ProcessOutput) : Except ExtensionError String :=
  match outcome.settle with
  | .error cause => .error (formatterError cause)
  | .ok output =>
    if output.success then .ok output.stdout
    else .error (formatterError ⟨"mix format " ++ output.failureMessage, []⟩)

/-- Replaces the text that was formatted. -/
def replaceText (s : Session) (editor : Nat) (e : Extent) (formatted : List Char) : Session :=
  match s.edit editor e formatted with
  | (s, .ok ()) => s.log ("Formatted " ++ (s.buffer editor).displayName)
  | (s, .error err) => s.logError ("Failed to replace editor text in-memory: " ++ err.message)

/-- What is formatted: the editor, the extent of its document and the text. -/
structure Formatting where
  editor : Nat
  extent : Extent
  text : List Char
  deriving Repr, DecidableEq

/-- All of an editor's document, to be formatted. -/
def wholeDocument (s : Session) (editor : Nat) : Formatting :=
  let b := s.buffer editor
  ⟨editor, b.fullExtent, b.slice b.fullExtent⟩

/-- Asks the formatter to format a document, if there is a formatter. -/
def askFormatter (x : Surroundings) (s : Session) (editor : Nat) :
    Session × Option (String × Formatting) :=
  match s.extension.preferences.mixPath? with
  | none => (s.log "Skipping... No formatter set.", none)
  | some mix =>
    let f := s.wholeDocument editor
    (s.record (.process (formatterRequest mix x.root f.text)), some (mix, f))

/-- Puts the answer of the formatter into the document. -/
def applyFormatter (s : Session) (f : Formatting) (outcome : Outcome ProcessOutput) : Session :=
  match formattedText outcome with
  | .error e => s.report e
  | .ok formatted => s.replaceText f.editor f.extent formatted.toList

/-! ## Formatting with the language server -/

/-- What is said when there is no language server to ask. -/
def noServer : String := "Skipping... Language server is not running."

/-- The formatted text that a server's answer makes of a text. -/
def editedText (text : List Char) (outcome : Outcome Json) : Except ExtensionError (List Char) :=
  match outcome.settle with
  | .error cause => .error (formatterError cause)
  | .ok answer =>
    match parseTextEdits answer >>= Document.applyEdits text with
    | .ok formatted => .ok formatted
    | .error e => .error (formatterError (.ofHost e))

/-- Asks the language server to format a document, if there is one. -/
def askServerToFormat (s : Session) (editor : Nat) : Session × Option Formatting :=
  match s.extension.slot with
  | none => (s.log noServer, none)
  | some client =>
    let f := s.wholeDocument editor
    (s.record (.request client Request.formatting
      (Request.formattingParams (s.buffer editor).uri {})), some f)

/-- Puts the edits of the language server into the document. -/
def applyServerEdits (s : Session) (f : Formatting) (outcome : Outcome Json) : Session :=
  match editedText f.text outcome with
  | .error e => s.report e
  | .ok formatted =>
    if formatted = f.text then s.log "Skipping... Document already formatted."
    else s.replaceText f.editor f.extent formatted

/-! ## References -/

/-- The failure to find references. -/
def referencesError (cause : Cause) : ExtensionError :=
  .invokeReferences ("Failed to find references: " ++ cause.full)

/-- The locations in a server's answer. -/
def locationsOf (outcome : Outcome Json) : Except ExtensionError (List Location) :=
  match outcome.settle with
  | .error cause => .error (referencesError cause)
  | .ok answer => (parseLocations answer).mapError fun e => referencesError (.ofHost e)

/-- Asks the language server for references to the start of the selection, if there is a server. -/
def askForReferences (s : Session) (editor : Nat) : Session × Bool :=
  match s.extension.slot with
  | none => (s.log noServer, false)
  | some client =>
    let b := s.buffer editor
    let p := Document.positionAt b.text b.selection.start
    (s.record (.request client Request.references (Request.referencesParams b.uri p false)), true)

/-- Shows the locations in the server's answer. -/
def showReferences (s : Session) (outcome : Outcome Json) : Session :=
  match locationsOf outcome with
  | .error e => s.report e
  | .ok locations => (s.record (.references locations)).log "View sidebar for results."

/-! ## Formatting before saving -/

/-- Has an added editor formatted before it is saved, if it is an editor of the extension's syntax and
the preferences say so. An editor with the same address is no longer formatted. -/
def watchEditor (s : Session) (editor : Nat) : Session :=
  let b := s.buffer editor
  if b.syntaxName = some elixirSyntax ∧ s.extension.preferences.formatsOnSave then
    let (s, registration) := s.registerWillSave editor (.own .formatDocument)
    let previous := Keyed.find? b.uri s.extension.editorRegistrations
    let s := s.mapExtension fun x =>
      { x with editorRegistrations := Keyed.insert b.uri registration x.editorRegistrations }
    match previous with
    | some r => s.dispose r
    | none => s
  else s

end ExtensionHost.Session
