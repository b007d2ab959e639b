import ExtensionHost.Host.Commands
import ExtensionHost.Host.Composite
import ExtensionHost.Host.Listeners
import ExtensionHost.Lifecycle.Startup
import ExtensionHost.Settings.Preferences
import ExtensionHost.Task.Basic
import ExtensionHost.Wire.Position

/-!
# Sessions

A session is a host with one extension in it, as a value. The host has editors, registries of commands
and listeners, the clients that were made, settings, files and a record of all that it saw. The
extension has its phase, the client that it holds, the preferences it was activated with and everything
it registered. What is registered is data: a handler names what it does, a registration names what it
takes away.
-/

namespace ExtensionHost

/-! ## Handlers and registrations -/

/-- What the extension registers as a handler. -/
inductive Role where
  | formatDocument
  | formatWithServer
  | findReferences
  | restart
  | watchEditor
  deriving Repr, DecidableEq

/-- A handler: one of the extension's, or someone else's under a number. -/
inductive Handler where
  | own (role : Role)
  | other (number : Nat)
  deriving Repr, DecidableEq

/-- What a registration takes away when it is disposed of. -/
inductive Registration where
  | command (hub : Nat) (id : String) (token : Nat)
  | editorAdded (hub : Nat) (number : Nat)
  | willSave (editor : Nat) (number : Nat)
  | didStop (client : Nat) (number : Nat)
  deriving Repr, DecidableEq

/-! ## What the host sees -/

/-- What the host sees: lines on its console, notes, results, panels, and calls of programs and
clients. -/
inductive Event where
  | log (text : String)
  | error (text : String)
  | notify (title body : String)
  | references (locations : List Location)
  | panel (message : String) (buttons : List String)
  | process (request : ProcessRequest)
  | create (id name : String) (server : ServerOptions) (client : ClientOptions)
  | start (client : Nat)
  | stop (client : Nat)
  | request (client : Nat) (method : String) (params : Json)

/-! ## The host -/

/-- A registry of commands and of listeners for added editors. -/
structure Hub where
  commands : Commands Handler := {}
  editorAdded : Listeners Handler := {}

/-- An editor: its document, and the handlers that run before it is saved. -/
structure Editor where
  buffer : Buffer := {}
  willSave : Listeners Handler := {}

/-- A client that was made: the listeners that are told when its server stops. -/
structure ClientRecord where
  didStop : Listeners Unit := {}

/-- What does not change during a session: the directory of the extension, the root of the workspace,
whether notes for developers are shown, the working directory, and what each call of the factory of
clients ends with. -/
structure Surroundings where
  extensionPath : String
  root : Option String
  dev : Bool
  cwd : String
  factory : Nat → Outcome Unit

/-! ## The extension -/

/-- The phases of the extension. -/
inductive Phase where
  | inactive
  | starting
  | running
  | stopping
  deriving Repr, DecidableEq

/-- The name of a phase. -/
def Phase.name : Phase → String
  | .inactive => "inactive"
  | .starting => "starting"
  | .running => "running"
  | .stopping => "stopping"

/-- The extension: its phase, the client that it holds, its preferences, what it registered, and how
often it was deactivated. -/
structure Extension where
  phase : Phase := .inactive
  slot : Option Nat := none
  preferences : UserPreferences := {}
  registrations : Composite Registration := {}
  clientRegistrations : Composite Registration := {}
  editorRegistrations : Keyed Registration := []
  epoch : Nat := 0

/-! ## Sessions -/

/-- A host with an extension. The first hub is the one that the extension uses. `prompts` are the tasks
that were spawned when a server stopped and have not begun; `inFlight` counts the operations of the
extension that wait for something; `held` says whether the host still holds the extension. -/
structure Session where
  files : Files := []
  workspaceSettings : Settings := []
  globalSettings : Settings := []
  hubs : List Hub := [{}]
  editors : List Editor := []
  clients : List ClientRecord := []
  creations : Nat := 0
  events : List Event := []
  extension : Extension := {}
  prompts : List (Option String) := []
  inFlight : Nat := 0
  held : Bool := true

namespace Session

/-- The hub that the extension uses. -/
def ownHub : Nat := 0

/-- Whether anything still holds the extension. Handlers of an extension that nothing holds do
nothing. -/
def alive (s : Session) : Bool := s.held || 0 < s.inFlight || !s.prompts.isEmpty

/-- Records an event. -/
def record (s : Session) (e : Event) : Session := { s with events := s.events ++ [e] }

/-- Writes a line on the console. -/
def log (s : Session) (text : String) : Session := s.record (.log text)

/-- Writes an error on the console. -/
def logError (s : Session) (text : String) : Session := s.record (.error text)

/-- Reports a failure of the extension. -/
def report (s : Session) (e : ExtensionError) : Session := s.logError e.message

/-- Changes the extension. -/
def mapExtension (s : Session) (f : Extension → Extension) : Session :=
  { s with extension := f s.extension }

/-- Puts the extension into a phase. -/
def setPhase (s : Session) (phase : Phase) : Session :=
  s.mapExtension fun x => { x with phase }

/-- The document of an editor. -/
def buffer (s : Session) (editor : Nat) : Buffer :=
  ((s.editors[editor]?).map Editor.buffer).getD {}

/-- Changes the document of an editor. -/
def setBuffer (s : Session) (editor : Nat) (b : Buffer) : Session :=
  { s with editors := s.editors.modify editor fun e => { e with buffer := b } }

/-- Replaces an extent of the document of an editor. -/
def edit (s : Session) (editor : Nat) (e : Extent) (replacement : List Char) :
    Session × Except HostError Unit :=
  match (s.buffer editor).edit e replacement with
  | .ok b => (s.setBuffer editor b, .ok ())
  | .error e => (s, .error e)

/-! ## Registering -/

/-- Registers the handler of a command. -/
def registerCommand (s : Session) (hub : Nat) (id : String) (h : Handler) :
    Session × Registration :=
  let token := ((s.hubs[hub]?).getD {}).commands.nextToken
  ({ s with hubs := s.hubs.modify hub fun x => { x with commands := (x.commands.register id h).1 } },
    .command hub id token)

/-- Registers a listener for added editors. -/
def registerEditorAdded (s : Session) (hub : Nat) (h : Handler) : Session × Registration :=
  let number := (((s.hubs[hub]?).getD {}).editorAdded.add h).2
  ({ s with hubs := s.hubs.modify hub fun x => { x with editorAdded := (x.editorAdded.add h).1 } },
    .editorAdded hub number)

/-- Registers a handler that runs before an editor is saved. -/
def registerWillSave (s : Session) (editor : Nat) (h : Handler) : Session × Registration :=
  let number := (((s.editors[editor]?).getD {}).willSave.add h).2
  ({ s with editors := s.editors.modify editor fun x => { x with willSave := (x.willSave.add h).1 } },
    .willSave editor number)

/-- Registers a listener for the stop of a client's server. -/
def registerDidStop (s : Session) (client : Nat) : Session × Registration :=
  let number := (((s.clients[client]?).getD {}).didStop.add ()).2
  ({ s with clients := s.clients.modify client fun x => { x with didStop := (x.didStop.add ()).1 } },
    .didStop client number)

/-- Takes away what a registration stands for. -/
def dispose (s : Session) : Registration → Session
  | .command hub id token =>
    { s with hubs := s.hubs.modify hub fun x =>
        { x with commands := x.commands.unregister id token } }
  | .editorAdded hub number =>
    { s with hubs := s.hubs.modify hub fun x =>
        { x with editorAdded := x.editorAdded.remove number } }
  | .willSave editor number =>
    { s with editors := s.editors.modify editor fun x =>
        { x with willSave := x.willSave.remove number } }
  | .didStop client number =>
    { s with clients := s.clients.modify client fun x =>
        { x with didStop := x.didStop.remove number } }

/-- Takes away what several registrations stand for, in order. -/
def disposeAll (s : Session) (rs : List Registration) : Session :=
  rs.foldl dispose s

end Session

end ExtensionHost
