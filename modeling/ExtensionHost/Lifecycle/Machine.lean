import ExtensionHost.Lifecycle.Handlers

/-!
# The life of the extension

Every operation of the extension runs until it needs something from outside: a program, a client, an
answer of the user, someone else's handler. There it is suspended, as a value: what it waits for and
what it does afterwards. `resume` goes on with a reply. Between two steps of one operation any other
operation may run, so a schedule of suspended operations is a list of such values.

An operation notes the epoch when it begins to start the server; a deactivation meanwhile changes the
epoch, and the operation then undoes what it did.
-/

namespace ExtensionHost

/-! ## What an operation waits for -/

/-- What an operation of the extension waits for, with what it has to remember until then. -/
inductive Wait where
  /-- The launch scripts are made executable, in a startup begun in an epoch. -/
  | chmod (epoch : Nat)
  /-- A new client starts, in a startup begun in an epoch. -/
  | start (epoch : Nat) (client : Nat)
  /-- A startup that was overtaken stops the client that is held. -/
  | staleStop (client : Nat)
  /-- A deactivation stops the client. -/
  | deactivateStop (client : Nat)
  /-- A restart begun in an epoch stops the client. -/
  | restartStop (epoch : Nat) (client : Nat)
  /-- The user answers the panel about a server that stopped, which was shown in an epoch. -/
  | prompt (epoch : Nat)
  /-- The formatter, a program, formats a document. -/
  | formatter (mix : String) (f : Session.Formatting)
  /-- The language server formats a document. -/
  | serverEdits (f : Session.Formatting)
  /-- The language server finds references. -/
  | references
  /-- Someone else's handler runs. -/
  | other (number : Nat) (editor : Nat)
  deriving Repr, DecidableEq

/-- The reply that a wait ends with. A panel that panics has no choice at all. -/
def Wait.Reply : Wait → Type
  | .chmod _ => Outcome ProcessOutput
  | .start _ _ => Outcome Unit
  | .staleStop _ => Outcome Unit
  | .deactivateStop _ => Outcome Unit
  | .restartStop _ _ => Outcome Unit
  | .prompt _ => Option (Option Nat)
  | .formatter _ _ => Outcome ProcessOutput
  | .serverEdits _ => Outcome Json
  | .references => Outcome Json
  | .other _ _ => Unit

/-- Whether it is the extension that waits. -/
def Wait.isOwn : Wait → Bool
  | .other _ _ => false
  | _ => true

/-- What is left to do when a handler has ended. -/
inductive Rest where
  | nothing
  | dispatch (editor : Nat) (handlers : List Handler)
  | save (editor : Nat) (handlers : List Handler)
  deriving Repr, DecidableEq

/-- An operation that waits. -/
structure Suspended where
  wait : Wait
  rest : Rest := .nothing
  deriving Repr, DecidableEq

/-- How far an operation got. -/
inductive Progress where
  | waiting (t : Suspended)
  | ended (r : Except HostError Unit)

namespace Session

/-! ## Stopping the client -/

/-- Takes the client that is held and the registrations on it. -/
def takeClient (s : Session) : Session × Option Nat :=
  let (empty, registrations) := s.extension.clientRegistrations.takeAll
  let s := s.mapExtension fun x => { x with clientRegistrations := empty }
  let s := s.disposeAll registrations
  (s.mapExtension fun x => { x with slot := none }, s.extension.slot)

/-- Takes the client and asks it to stop, if one is held. -/
def beginShutdown (s : Session) : Session × Option Nat :=
  match s.takeClient with
  | (s, none) => (s, none)
  | (s, some client) => (s.record (.stop client), some client)

/-- The failure to stop the client. -/
def shutdownError (cause : Cause) : ExtensionError :=
  .shutdown ("Uh oh... Failed to deactivate plugin: " ++ cause.full)

/-- Reports a stop that failed. -/
def reportStop (s : Session) (outcome : Outcome Unit) : Session :=
  match outcome.settle with
  | .ok () => s
  | .error cause => s.report (shutdownError cause)

/-! ## Starting the client -/

/-- The failure to make the launch scripts executable. -/
def executableError (cause : Cause) : ExtensionError :=
  .makeExecutable ("Failed to make file executable: " ++ cause.full)

/-- The failure to start the client. -/
def startError (cause : Cause) : ExtensionError :=
  .start ("Failed to start language server: " ++ cause.full)

/-- Ends a startup begun in an epoch. One that was overtaken by a deactivation stops the client that is
held. -/
def endStartup (s : Session) (epoch : Nat) (outcome : Except ExtensionError Unit) :
    Session × Option Wait :=
  if s.extension.epoch = epoch then
    match outcome with
    | .error e => ((s.setPhase .inactive).report e, none)
    | .ok () => ((s.setPhase .running).log "Activated", none)
  else
    match s.beginShutdown with
    | (s, none) => (s.setPhase .inactive, none)
    | (s, some client) => (s, some (.staleStop client))

/-- Disposes of the registrations on the client that is held or was tried before. -/
def disposeClientRegistrations (s : Session) : Session :=
  let (empty, registrations) := s.extension.clientRegistrations.takeAll
  (s.mapExtension fun x => { x with clientRegistrations := empty }).disposeAll registrations

/-- Makes a client and has it start. -/
def startClient (x : Surroundings) (s : Session) (epoch : Nat) : Session × Option Wait :=
  let s := s.record (.create Startup.serverId Startup.serverName
    (Startup.serverOptions x.extensionPath) (Startup.clientOptions x.root))
  let made := (x.factory s.creations).settle
  let s := { s with creations := s.creations + 1 }
  match made with
  | .error cause => s.endStartup epoch (.error (startError cause))
  | .ok () =>
    let client := s.clients.length
    let s := { s with clients := s.clients ++ [({} : ClientRecord)] }
    let s := s.disposeClientRegistrations
    let (s, registration) := s.registerDidStop client
    let s := s.mapExtension fun x =>
      { x with clientRegistrations := x.clientRegistrations.add registration }
    (s.record (.start client), some (.start epoch client))

/-- Goes on with a startup when the client has answered. -/
def clientStarted (s : Session) (epoch client : Nat) (outcome : Outcome Unit) :
    Session × Option Wait :=
  match outcome with
  | .done () =>
    (s.mapExtension fun x => { x with slot := some client }).endStartup epoch (.ok ())
  | .failed cause => s.disposeClientRegistrations.endStartup epoch (.error (startError cause))
  | .panicked message => s.endStartup epoch (.error (startError (.ofPanic message)))

/-- Goes on with a startup when the launch scripts were made executable. -/
def scriptsExecutable (x : Surroundings) (s : Session) (epoch : Nat)
    (outcome : Outcome ProcessOutput) : Session × Option Wait :=
  match outcome.settle with
  | .error cause => s.endStartup epoch (.error (executableError cause))
  | .ok output =>
    if output.success then s.startClient x epoch
    else s.endStartup epoch (.error (executableError ⟨"chmod " ++ output.failureMessage, []⟩))

/-- Begins to start the server: has the launch scripts made executable. -/
def beginStartup (x : Surroundings) (s : Session) : Session × Option Wait :=
  let epoch := s.extension.epoch
  let s := s.setPhase .starting
  match Startup.launchScripts s.files x.cwd (Startup.serverDirectory x.extensionPath) with
  | .error reason => s.endStartup epoch (.error (executableError ⟨reason, []⟩))
  | .ok scripts => (s.record (.process (Startup.makeExecutable scripts)), some (.chmod epoch))

/-! ## Activation -/

/-- Registers the handler of a command of the extension. -/
def addCommand (s : Session) (id : String) (role : Role) : Session :=
  let (s, registration) := s.registerCommand ownHub id (.own role)
  s.mapExtension fun x => { x with registrations := x.registrations.add registration }

/-- Registers the listener for added editors. -/
def addListener (s : Session) : Session :=
  let (s, registration) := s.registerEditorAdded ownHub (.own .watchEditor)
  s.mapExtension fun x => { x with registrations := x.registrations.add registration }

/-- Registers everything that the extension registers when it is activated. -/
def registerAll (s : Session) : Session :=
  let s := s.addListener
  let s := s.addCommand Command.formatDocument .formatDocument
  let s := s.addCommand Command.formatWithServer .formatWithServer
  let s := s.addCommand Command.findReferences .findReferences
  s.addCommand Command.restart .restart

/-- Activates the extension, if it is inactive. -/
def beginActivate (x : Surroundings) (s : Session) : Session × Option Wait :=
  if s.extension.phase ≠ .inactive then (s, none)
  else
    let s := s.log "Activating..."
    let s := if x.dev then s.record (.notify Startup.serverName "Starting extension...") else s
    let s := s.mapExtension fun e =>
      { e with preferences := .resolve s.workspaceSettings s.globalSettings }
    s.registerAll.beginStartup x

/-! ## Deactivation -/

/-- Disposes of the handlers that run before editors are saved. -/
def disposeEditorRegistrations (s : Session) : Session :=
  let registrations := s.extension.editorRegistrations.map Prod.snd
  (s.mapExtension fun x => { x with editorRegistrations := [] }).disposeAll registrations

/-- Disposes of what was registered at activation. -/
def disposeRegistrations (s : Session) : Session :=
  let (empty, registrations) := s.extension.registrations.takeAll
  (s.mapExtension fun x => { x with registrations := empty }).disposeAll registrations

/-- Ends a deactivation. -/
def endDeactivate (s : Session) (outcome : Outcome Unit) : Session :=
  let s := s.setPhase .inactive
  match outcome.settle with
  | .ok () => s.log "Deactivated. Come back soon :)"
  | .error cause => s.report (shutdownError cause)

/-- Deactivates the extension. -/
def beginDeactivate (s : Session) : Session × Option Wait :=
  let s := s.mapExtension fun x => { x with epoch := x.epoch + 1 }
  let s := (s.log "Deactivating...").setPhase .stopping
  match s.disposeRegistrations.disposeEditorRegistrations.beginShutdown with
  | (s, none) => (s.endDeactivate (.done ()), none)
  | (s, some client) => (s, some (.deactivateStop client))

/-! ## Restarting -/

/-- What is said when the server is started again. -/
def restarting : String := "Restarting language server..."

/-- Goes on with a restart begun in an epoch when the client has stopped. -/
def endRestartStop (x : Surroundings) (s : Session) (epoch : Nat) (outcome : Outcome Unit) :
    Session × Option Wait :=
  let s := s.reportStop outcome
  if s.extension.epoch = epoch then s.beginStartup x else (s, none)

/-- Stops the client and starts the server again. -/
def beginRestart (x : Surroundings) (s : Session) : Session × Option Wait :=
  let epoch := s.extension.epoch
  match (s.log restarting).beginShutdown with
  | (s, none) => s.endRestartStop x epoch (.done ())
  | (s, some client) => (s, some (.restartStop epoch client))

/-! ## Servers that stop -/

/-- Tells the listeners of a client that its server stopped; each spawns a task that asks the user. -/
def serverStopped (s : Session) (client : Nat) (reason : Option String) : Session :=
  let listeners := (((s.clients[client]?).getD {}).didStop).snapshot
  if s.alive then { s with prompts := s.prompts ++ listeners.map fun _ => reason } else s

/-- Begins the task that was spawned when a server stopped: drops the client and asks the user. -/
def beginPrompt (s : Session) (reason : Option String) : Session × Option Wait :=
  let epoch := s.extension.epoch
  let s := (s.takeClient.1).setPhase .inactive
  (s.record (.panel (Startup.stopMessage reason) [Startup.restartButton, Startup.ignoreButton]),
    some (.prompt epoch))

/-- Goes on when the user has answered. A choice made after a deactivation does nothing. -/
def endPrompt (x : Surroundings) (s : Session) (epoch : Nat) (choice : Option (Option Nat)) :
    Session × Option Wait :=
  if choice = some (some 0) ∧ s.extension.epoch = epoch then (s.log restarting).beginStartup x
  else (s, none)

/-! ## Running handlers -/

/-- Runs a handler with an editor. -/
def runHandler (x : Surroundings) (s : Session) (h : Handler) (editor : Nat) :
    Session × Option Wait :=
  match h with
  | .other number => (s, some (.other number editor))
  | .own role =>
    if s.alive then
      match role with
      | .formatDocument =>
        let (s, asked) := s.askFormatter x editor
        (s, asked.map fun (mix, f) => .formatter mix f)
      | .formatWithServer =>
        let (s, asked) := s.askServerToFormat editor
        (s, asked.map .serverEdits)
      | .findReferences =>
        let (s, asked) := s.askForReferences editor
        (s, if asked then some .references else none)
      | .restart => s.beginRestart x
      | .watchEditor => (s.watchEditor editor, none)
    else (s, none)

/-- Runs handlers one after the other up to the first that waits; gives what it waits for and the
handlers after it. -/
def runHandlers (x : Surroundings) (s : Session) (editor : Nat) :
    List Handler → Session × Option (Wait × List Handler)
  | [] => (s, none)
  | h :: rest =>
    match s.runHandler x h editor with
    | (s, some w) => (s, some (w, rest))
    | (s, none) => runHandlers x s editor rest

/-- Writes the document of an editor to its file. -/
def writeDocument (x : Surroundings) (s : Session) (editor : Nat) :
    Session × Except HostError Unit :=
  match (s.buffer editor).store s.files x.cwd with
  | .ok files => ({ s with files }, .ok ())
  | .error e => (s, .error e)

/-! ## Steps -/

/-- Counts an operation that waits. -/
def suspend (s : Session) (w : Wait) (rest : Rest) : Session × Progress :=
  (if w.isOwn then { s with inFlight := s.inFlight + 1 } else s, .waiting ⟨w, rest⟩)

/-- Goes on with what is left to do. -/
def goOn (x : Surroundings) (s : Session) : Rest → Session × Progress
  | .nothing => (s, .ended (.ok ()))
  | .dispatch editor handlers =>
    match s.runHandlers x editor handlers with
    | (s, some (w, rest)) => s.suspend w (.dispatch editor rest)
    | (s, none) => (s, .ended (.ok ()))
  | .save editor handlers =>
    match s.runHandlers x editor handlers with
    | (s, some (w, rest)) => s.suspend w (.save editor rest)
    | (s, none) =>
      let (s, r) := s.writeDocument x editor
      (s, .ended r)

/-- Suspends an operation that waits, or goes on with what is left to do. -/
def settle (x : Surroundings) (stage : Session × Option Wait) (rest : Rest) : Session × Progress :=
  match stage with
  | (s, some w) => s.suspend w rest
  | (s, none) => s.goOn x rest

/-- What an operation does with the reply that it waited for. -/
def receive (x : Surroundings) (s : Session) : (w : Wait) → w.Reply → Session × Option Wait
  | .chmod epoch, reply => s.scriptsExecutable x epoch reply
  | .start epoch client, reply => s.clientStarted epoch client reply
  | .staleStop _, reply => ((s.reportStop reply).setPhase .inactive, none)
  | .deactivateStop _, reply => (s.endDeactivate reply, none)
  | .restartStop epoch _, reply => s.endRestartStop x epoch reply
  | .prompt epoch, reply => s.endPrompt x epoch reply
  | .formatter _ f, reply => (s.applyFormatter f reply, none)
  | .serverEdits f, reply => (s.applyServerEdits f reply, none)
  | .references, reply => (s.showReferences reply, none)
  | .other _ _, _ => (s, none)

/-- Goes on with a suspended operation that got its reply. -/
def resume (x : Surroundings) (s : Session) (t : Suspended) (reply : t.wait.Reply) :
    Session × Progress :=
  let s := if t.wait.isOwn then { s with inFlight := s.inFlight - 1 } else s
  settle x (s.receive x t.wait reply) t.rest

/-! ## Operations -/

/-- Activates the extension. -/
def activate (x : Surroundings) (s : Session) : Session × Progress :=
  settle x (s.beginActivate x) .nothing

/-- Deactivates the extension. -/
def deactivate (x : Surroundings) (s : Session) : Session × Progress :=
  settle x s.beginDeactivate .nothing

/-- Restarts the language server. -/
def restart (x : Surroundings) (s : Session) : Session × Progress :=
  settle x (s.beginRestart x) .nothing

/-- Begins the first of the tasks that were spawned when a server stopped. -/
def runPrompt (x : Surroundings) (s : Session) : Session × Progress :=
  match s.prompts with
  | [] => (s, .ended (.ok ()))
  | reason :: rest => settle x ({ s with prompts := rest }.beginPrompt reason) .nothing

/-- Runs a command with an editor. -/
def invoke (x : Surroundings) (s : Session) (hub : Nat) (id : String) (editor : Nat) :
    Session × Progress :=
  match ((s.hubs[hub]?).getD {}).commands.handler? id with
  | none => (s, .ended (.error (Commands.notFound id)))
  | some h => settle x (s.runHandler x h editor) .nothing

/-- Tells the listeners of a hub that an editor was added. -/
def addEditor (x : Surroundings) (s : Session) (hub : Nat) (editor : Nat) : Session × Progress :=
  s.goOn x (.dispatch editor (((s.hubs[hub]?).getD {}).editorAdded.snapshot))

/-- Saves the document of an editor after the handlers that run before that. -/
def save (x : Surroundings) (s : Session) (editor : Nat) : Session × Progress :=
  s.goOn x (.save editor (((s.editors[editor]?).getD {}).willSave.snapshot))

end Session

end ExtensionHost
