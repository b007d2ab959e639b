import ExtensionHost.Host.Disposal
import ExtensionHost.Rehearsal.Step

/-!
# Running a rehearsal

The steps of a rehearsal run one after the other over one session. An operation of the extension that
waits gets its reply from a script at once: what the session saw is noted, then the steps inside the
call run, then the entry says how the call ends. After each step the tasks that were spawned meanwhile
run to their end. `depth` bounds how deep calls and handlers may nest; a rehearsal that exceeds it stops
where it is.
-/

namespace ExtensionHost.Rehearsal

/-! ## What is noted -/

/-- What a step gives. -/
inductive Report where
  | nothing
  | dropped
  | gone
  | noClient
  | flag (b : Bool)
  | count (n : Nat)
  | counts (ns : List Nat)
  | size (n : Nat)
  | texts (ts : List String)
  | text (t : Option String)
  | value (v : Option Json)
  | preferences (p : UserPreferences)
  | result (r : Except HostError Unit)
  | document (b : Buffer)
  | list (l : Option (List String))

/-- What is noted, in order: what the session saw, the handlers and cleanups that are not the
extension's, and the steps inside them. -/
inductive Note where
  | seen (e : Event)
  | handler (name uri : String) (text : List Char)
  | disposed (name : String)
  | during (step : Step) (r : Report)

/-! ## The state of a rehearsal -/

/-- A thing that can be disposed of: a registration, an entry of a list, or a cleanup that runs steps. -/
inductive Handle where
  | registration (r : Registration)
  | listed (list number : Nat)
  | cleanup (name : String) (does : List Step)
  | noop

/-- A handler that is not the extension's. -/
structure OtherHandler where
  name : String
  does : List Step

/-- The state of a rehearsal. `hub` is the hub that its steps use. -/
structure State where
  session : Session := {}
  others : List OtherHandler := []
  editors : Keyed Nat := []
  hub : Option Nat := some Session.ownHub
  handles : Keyed Handle := []
  composites : Keyed (Disposals Handle) := []
  listNames : Keyed Nat := []
  lists : List (Listeners String) := []
  calls : Keyed Nat := []
  notes : List Note := []

/-- What does not change during a rehearsal. -/
structure Setting where
  surroundings : Surroundings
  scripts : Scripts

/-- Actions on the state of a rehearsal. -/
abbrev Action := StateM State

/-! ## Parts of steps -/

/-- Notes something. -/
def note (n : Note) : Action Unit :=
  modify fun st => { st with notes := st.notes ++ [n] }

/-- Takes over a session and notes what it saw. -/
def adopt (s : Session) : Action Unit :=
  modify fun st =>
    { st with session := { s with events := [] }, notes := st.notes ++ s.events.map .seen }

/-- Changes the session. -/
def modifySession (f : Session → Session) : Action Unit := do
  adopt (f (← get).session)

/-- The entry for the next call of a collaborator. -/
def nextEntry (x : Setting) (name : String) : Action CallScript := do
  let n := (Keyed.find? name (← get).calls).getD 0
  modify fun st => { st with calls := Keyed.insert name (n + 1) st.calls }
  pure (x.scripts.entry name n)

/-- Adds an editor to the session. -/
def addBuffer (b : Buffer) : Action Nat := do
  let number := (← get).session.editors.length
  modifySession fun s => { s with editors := s.editors ++ [{ buffer := b }] }
  pure number

/-- The editor with a name; an unknown name stands for a new document without text. -/
def editorOf (name : String) : Action Nat := do
  match Keyed.find? name (← get).editors with
  | some number => pure number
  | none => addBuffer {}

/-- Gives an editor a name. -/
def nameEditor (name : String) (number : Nat) : Action Unit :=
  modify fun st => { st with editors := Keyed.insert name number st.editors }

/-- Keeps a thing that can be disposed of. -/
def keep (k : Keeper) (h : Handle) : Action Unit :=
  modify fun st =>
    match k with
    | .nobody => st
    | .handle name => { st with handles := Keyed.insert name h st.handles }
    | .composite name =>
      let d := (Keyed.find? name st.composites).getD {}
      { st with composites := Keyed.insert name (d.add h) st.composites }

/-- Takes a thing out from under its name. -/
def takeHandle (name : String) : Action (Option Handle) := do
  let found := Keyed.find? name (← get).handles
  modify fun st => { st with handles := Keyed.erase name st.handles }
  pure found

/-- Keeps the registration that a session gives. -/
def keepRegistration (k : Keeper) (register : Session → Session × Registration) :
    Action Unit := do
  let (s, r) := register (← get).session
  adopt s
  keep k (.registration r)

/-- Adds a handler that is not the extension's. -/
def addOther (name : String) (does : List Step) : Action Handler := do
  let number := (← get).others.length
  modify fun st => { st with others := st.others ++ [⟨name, does⟩] }
  pure (.other number)

/-- What a program leaves behind that ends as an entry says. -/
def CallScript.output (e : CallScript) (stdout : String) : ProcessOutput :=
  ⟨e.status, e.stdout.getD stdout, e.stderr⟩

/-- The name of the script of a program. -/
def scriptOf (program : String) : String :=
  if program = Startup.environmentProgram then "chmod" else "mix"

/-- What a program writes if its entry does not say so. -/
def CallScript.echo (e : CallScript) (program : String) (stdin : List Char) : String :=
  if program = Startup.environmentProgram then ""
  else e.before ++ String.ofList stdin ++ e.behind

/-- A setting that is taken away from a scope. -/
def unset (global : Bool) (key : String) : Action Report := do
  let s := (← get).session
  if global then
    modifySession fun s => { s with globalSettings := Keyed.erase key s.globalSettings }
    pure (.value (Keyed.find? key s.globalSettings))
  else
    modifySession fun s => { s with workspaceSettings := Keyed.erase key s.workspaceSettings }
    pure (.value (Keyed.find? key s.workspaceSettings))

/-- Opens a file in an editor. -/
def openFile (x : Setting) (name path : String) : Action Report := do
  match Buffer.load (← get).session.files x.surroundings.cwd
      (Path.join x.surroundings.cwd path) with
  | .error e => pure (.result (.error e))
  | .ok b =>
    nameEditor name (← addBuffer b)
    pure (.result (.ok ()))

/-- A new document. -/
def newBuffer (text : String) (path syntaxName : Option String) (selection : Option Extent) :
    Buffer :=
  let b : Buffer := { text := text.toList, syntaxName, selection := selection.getD {} }
  match path with
  | some path => b.withPath path
  | none => b

/-- Tells the listeners of a client that its server stopped. -/
def crash (reason : Option String) (client : Option Nat) : Action Report := do
  let s := (← get).session
  let number := client.getD (s.clients.length - 1)
  match s.clients[number]? with
  | none => pure .noClient
  | some record =>
    modifySession fun s => s.serverStopped number reason
    pure (.count record.didStop.count)

/-- A new hub for the steps to come. -/
def ownRegistry : Action Unit := do
  let number := (← get).session.hubs.length
  modifySession fun s => { s with hubs := s.hubs ++ [{}] }
  modify fun st => { st with hub := some number }

/-- Adds an entry to a list. -/
def listen (k : Keeper) (name value : String) : Action Unit := do
  let st ← get
  let number := (Keyed.find? name st.listNames).getD st.lists.length
  if number = st.lists.length then
    modify fun st =>
      { st with
        lists := st.lists ++ [{}]
        listNames := Keyed.insert name number st.listNames }
  let entry := (((← get).lists[number]?).getD {}).add value
  modify fun st => { st with lists := st.lists.set number entry.1 }
  keep k (.listed number entry.2)

/-- The entries of a list. -/
def snapshot (name : String) : Action Report := do
  let st ← get
  let found := (Keyed.find? name st.listNames).bind (st.lists[·]?)
  pure (.list (found.map Listeners.snapshot))

/-- Drops a list. -/
def dropList (name : String) : Action Report := do
  let known := Keyed.contains name (← get).listNames
  modify fun st => { st with listNames := Keyed.erase name st.listNames }
  pure (.flag known)

/-! ## Steps -/

mutual

/-- Runs an operation to its end, with replies from the scripts. -/
def drive (x : Setting) : Nat → Session × Progress → Action (Except HostError Unit)
  | 0, _ => pure (.ok ())
  | depth + 1, (s, progress) => do
    adopt s
    match progress with
    | .ended r => pure r
    | .waiting t =>
      let reply ← replyTo x depth t.wait
      drive x depth ((← get).session.resume x.surroundings t reply)

/-- The reply to what an operation waits for. -/
def replyTo (x : Setting) : Nat → (w : Wait) → Action w.Reply
  | 0, .chmod _ => pure (.panicked none)
  | 0, .start _ _ => pure (.panicked none)
  | 0, .staleStop _ => pure (.panicked none)
  | 0, .deactivateStop _ => pure (.panicked none)
  | 0, .restartStop _ _ => pure (.panicked none)
  | 0, .prompt _ => pure none
  | 0, .formatter _ _ => pure (.panicked none)
  | 0, .serverEdits _ => pure (.panicked none)
  | 0, .references => pure (.panicked none)
  | 0, .other _ _ => pure ()
  | depth + 1, .chmod _ => do
    let e ← call x depth (scriptOf Startup.environmentProgram)
    pure (e.outcome (e.output ""))
  | depth + 1, .start _ _ => do
    let e ← call x depth "start"
    pure (e.outcome ())
  | depth + 1, .staleStop _ => do
    let e ← call x depth "stop"
    pure (e.outcome ())
  | depth + 1, .deactivateStop _ => do
    let e ← call x depth "stop"
    pure (e.outcome ())
  | depth + 1, .restartStop _ _ => do
    let e ← call x depth "stop"
    pure (e.outcome ())
  | depth + 1, .prompt _ => do
    let e ← call x depth "panel"
    pure (if e.panic.isSome then none else some e.choice)
  | depth + 1, .formatter mix f => do
    let e ← call x depth (scriptOf mix)
    pure (e.outcome (e.output (e.echo mix f.text)))
  | depth + 1, .serverEdits _ => do
    let e ← call x depth Request.formatting
    pure (e.outcome e.answer)
  | depth + 1, .references => do
    let e ← call x depth Request.references
    pure (e.outcome e.answer)
  | depth + 1, .other number editor => do
    let st ← get
    match st.others[number]? with
    | none => pure ()
    | some h =>
      let b := st.session.buffer editor
      note (.handler h.name b.uri b.text)
      during x depth h.does

/-- A call of a collaborator: the steps of its entry, and the entry. -/
def call (x : Setting) : Nat → String → Action CallScript
  | 0, _ => pure {}
  | depth + 1, name => do
    let e ← nextEntry x name
    during x depth e.during
    pure e

/-- Runs steps inside a call or a handler. -/
def during (x : Setting) : Nat → List Step → Action Unit
  | 0, _ => pure ()
  | _ + 1, [] => pure ()
  | depth + 1, step :: rest => do
    let r ← perform x depth step
    note (.during step r)
    during x depth rest

/-- Disposes of a thing. -/
def disposeOf (x : Setting) : Nat → Handle → Action Unit
  | 0, _ => pure ()
  | _ + 1, .noop => pure ()
  | _ + 1, .registration r => modifySession fun s => s.dispose r
  | _ + 1, .listed list number =>
    modify fun st => { st with lists := st.lists.modify list fun l => l.remove number }
  | depth + 1, .cleanup name does => do
    note (.disposed name)
    during x depth does

/-- Goes on with a disposal of a composite until it is over. -/
def disposeRest (x : Setting) : Nat → String → Nat → Action Unit
  | 0, _, _ => pure ()
  | depth + 1, name, number => do
    let (d, thing) := ((Keyed.find? name (← get).composites).getD {}).next number
    match thing with
    | none => pure ()
    | some h =>
      modify fun st => { st with composites := Keyed.insert name d st.composites }
      disposeOf x depth h
      disposeRest x depth name number

/-- Runs a step. -/
def perform (x : Setting) : Nat → Step → Action Report
  | 0, _ => pure .nothing
  | depth + 1, step => do
    let st ← get
    let s := st.session
    match step with
    | .activate =>
      if s.held then
        let _ ← drive x depth (s.activate x.surroundings)
        pure .nothing
      else pure .dropped
    | .deactivate =>
      if s.held then
        let _ ← drive x depth (s.deactivate x.surroundings)
        pure .nothing
      else pure .dropped
    | .restart =>
      if s.held then
        let _ ← drive x depth (s.restart x.surroundings)
        pure .nothing
      else pure .dropped
    | .preferences => pure (if s.held then .preferences s.extension.preferences else .nothing)
    | .crash reason client => crash reason client
    | .stopListeners => pure (.counts (s.clients.map fun c => c.didStop.count))
    | .set true key v =>
      modifySession fun s => { s with globalSettings := Keyed.insert key v s.globalSettings }
      pure .nothing
    | .set false key v =>
      modifySession fun s => { s with workspaceSettings := Keyed.insert key v s.workspaceSettings }
      pure .nothing
    | .unset global key => unset global key
    | .write path text =>
      let (files, _) := s.files.place x.surroundings.cwd (Path.join x.surroundings.cwd path) text false
      modifySession fun s => { s with files }
      pure .nothing
    | .read path =>
      pure (.text (s.files.readText x.surroundings.cwd (Path.join x.surroundings.cwd path)).toOption)
    | .remove path =>
      match s.files.remove? x.surroundings.cwd (Path.join x.surroundings.cwd path) with
      | some files =>
        modifySession fun s => { s with files }
        pure (.flag true)
      | none => pure (.flag false)
    | .openFile name path => openFile x name path
    | .newDocument name text path syntaxName selection =>
      nameEditor name (← addBuffer (newBuffer text path syntaxName selection))
      pure .nothing
    | .describe name => pure (.document ((← get).session.buffer (← editorOf name)))
    | .select name selection =>
      let editor ← editorOf name
      modifySession fun s => s.setBuffer editor { s.buffer editor with selection }
      pure .nothing
    | .selectPoint name offset =>
      let editor ← editorOf name
      modifySession fun s => s.setBuffer editor { s.buffer editor with selection := .point offset }
      pure .nothing
    | .slice name extent =>
      let editor ← editorOf name
      pure (.text (some (String.ofList (((← get).session.buffer editor).slice extent))))
    | .edit name extent text =>
      let editor ← editorOf name
      let (s, r) := (← get).session.edit editor extent text.toList
      adopt s
      pure (.result r)
    | .save name =>
      let editor ← editorOf name
      pure (.result (← drive x depth ((← get).session.save x.surroundings editor)))
    | .onWillSave keeper editor name does =>
      let editor ← editorOf editor
      let h ← addOther name does
      keepRegistration keeper fun s => s.registerWillSave editor h
      pure .nothing
    | .register keeper id name does =>
      match st.hub with
      | none => pure .dropped
      | some hub =>
        let h ← addOther name does
        keepRegistration keeper fun s => s.registerCommand hub id h
        pure .nothing
    | .onAdd keeper name does =>
      match st.hub with
      | none => pure .dropped
      | some hub =>
        let h ← addOther name does
        keepRegistration keeper fun s => s.registerEditorAdded hub h
        pure .nothing
    | .invoke id name =>
      match st.hub with
      | none => pure .dropped
      | some hub =>
        let editor ← editorOf name
        pure (.result (← drive x depth ((← get).session.invoke x.surroundings hub id editor)))
    | .addEditor name =>
      match st.hub with
      | none => pure .dropped
      | some hub =>
        let editor ← editorOf name
        let _ ← drive x depth ((← get).session.addEditor x.surroundings hub editor)
        pure .nothing
    | .contains id =>
      pure (match st.hub.bind (s.hubs[·]?) with
        | none => .nothing
        | some h => .flag (h.commands.contains id))
    | .ids =>
      pure (match st.hub.bind (s.hubs[·]?) with
        | none => .nothing
        | some h => .texts h.commands.ids)
    | .listenerCount =>
      pure (match st.hub.bind (s.hubs[·]?) with
        | none => .nothing
        | some h => .count h.editorAdded.count)
    | .ownRegistry =>
      ownRegistry
      pure .nothing
    | .dropRegistry =>
      modify fun st => { st with hub := none }
      pure .nothing
    | .dropExtension =>
      modifySession fun s => { s with held := false }
      pure .nothing
    | .disposable keeper name pending does =>
      keep keeper (if pending then .cleanup name does else .noop)
      pure .nothing
    | .debug name =>
      pure (match Keyed.find? name st.handles with
        | none => .nothing
        | some .noop => .text (some "Disposable \x7b pending: false \x7d")
        | some _ => .text (some "Disposable \x7b pending: true \x7d"))
    | .dispose name =>
      match ← takeHandle name with
      | none => pure .gone
      | some h =>
        disposeOf x depth h
        pure .nothing
    | .forget name => pure (.flag (← takeHandle name).isSome)
    | .moveInto name composite =>
      match ← takeHandle name with
      | none => pure .gone
      | some h =>
        keep (.composite composite) h
        pure .nothing
    | .disposeComposite name =>
      let (d, number) := ((Keyed.find? name st.composites).getD {}).start
      modify fun st => { st with composites := Keyed.insert name d st.composites }
      disposeRest x depth name number
      pure .nothing
    | .compositeLength name =>
      pure (.size ((Keyed.find? name st.composites).getD {}).composite.count)
    | .listen keeper list value =>
      listen keeper list value
      pure .nothing
    | .snapshot list => snapshot list
    | .dropList list => dropList list

end

/-! ## Rehearsals -/

/-- Runs the tasks that were spawned, in order, until there are none. -/
def runSpawned (x : Setting) : Nat → Action Unit
  | 0 => pure ()
  | depth + 1 => do
    let s := (← get).session
    if s.prompts.isEmpty then pure ()
    else
      let _ ← drive x depth (s.runPrompt x.surroundings)
      runSpawned x depth

/-- How deep calls and handlers may nest. -/
def depthLimit : Nat := 1000000

/-- Runs a step and then the tasks that were spawned. Gives what the step gave and what was noted. -/
def runStep (x : Setting) (step : Step) : Action (Report × List Note) := do
  modify fun st => { st with notes := [] }
  let r ← perform x depthLimit step
  runSpawned x depthLimit
  pure (r, (← get).notes)

end ExtensionHost.Rehearsal
