import ExtensionHost.Json.Decode

/-!
# Failures

`HostError` is a failure of the host's own work: a kind and what happened. `ExtensionError` is what the
extension reports to its user: the operation that failed and the reason, which is all of its text.
A `Cause` is a failure with what led to it, the outermost text first.
-/

namespace ExtensionHost

/-! ## Failures of the host -/

/-- The kinds of failures of the host. -/
inductive ErrorKind where
  | config
  | process
  | lsp
  | editor
  | timeout
  | notFound
  | invalidInput
  | io
  | json
  | internal
  deriving Repr, DecidableEq

/-- The words in front of a failure's text. -/
def ErrorKind.label : ErrorKind → String
  | .config => "Configuration error"
  | .process => "Process error"
  | .lsp => "LSP error"
  | .editor => "Editor error"
  | .timeout => "Timeout"
  | .notFound => "Not found"
  | .invalidInput => "Invalid input"
  | .io => "IO error"
  | .json => "JSON error"
  | .internal => "Internal error"

/-- A failure of the host: its kind and what happened. -/
structure HostError where
  kind : ErrorKind
  detail : String
  deriving Repr, DecidableEq

/-- The text of a failure. -/
def HostError.message (e : HostError) : String :=
  e.kind.label ++ ": " ++ e.detail

/-- A failure of the kind `internal`. -/
def HostError.ofText (detail : String) : HostError := ⟨.internal, detail⟩

/-- A value that could not be decoded, as a failure. -/
def HostError.ofDecode (e : DecodeError) : HostError := ⟨.json, e.message⟩

/-! ## Causes -/

/-- A failure with what led to it: the text of the failure, then those of its causes. -/
structure Cause where
  text : String
  causes : List String := []
  deriving Repr, DecidableEq

namespace Cause

/-- All texts in one line. -/
def full (c : Cause) : String :=
  ": ".intercalate (c.text :: c.causes)

/-- A failure of the host. Failures of the system and of decoding are caused by another failure
with the same text. -/
def ofHost (e : HostError) : Cause :=
  match e.kind with
  | .io => ⟨e.message, [e.detail]⟩
  | .json => ⟨e.message, [e.detail]⟩
  | _ => ⟨e.message, []⟩

/-- A failure seen from a step that it made fail. -/
def within (c : Cause) (text : String) : Cause :=
  ⟨text, c.text :: c.causes⟩

/-- A failure of code that stopped in the middle. -/
def ofPanic (message : Option String) : Cause :=
  ⟨"panicked: " ++ message.getD "unknown panic payload", []⟩

end Cause

/-! ## What the extension reports -/

/-- A failure that the extension reports: what it was doing and why it failed. -/
inductive ExtensionError where
  | makeExecutable (reason : String)
  | start (reason : String)
  | shutdown (reason : String)
  | invokeFormatter (reason : String)
  | invokeReferences (reason : String)
  deriving Repr, DecidableEq

namespace ExtensionError

/-- The name of a kind of reported failure. -/
def tag : ExtensionError → String
  | .makeExecutable _ => "makeExecutableError"
  | .start _ => "startError"
  | .shutdown _ => "shutdownError"
  | .invokeFormatter _ => "invokeFormatterError"
  | .invokeReferences _ => "invokeReferencesError"

/-- Why it failed. -/
def reason : ExtensionError → String
  | .makeExecutable reason => reason
  | .start reason => reason
  | .shutdown reason => reason
  | .invokeFormatter reason => reason
  | .invokeReferences reason => reason

/-- The text of a reported failure is its reason. -/
def message (e : ExtensionError) : String := e.reason

end ExtensionError

end ExtensionHost
