import ExtensionHost.Client.Conversation
import ExtensionHost.Host.Panel
import ExtensionHost.Lifecycle.Machine
import ExtensionHost.Process.Programs

/-!
# A host without a user

The extension runs in a host that has nobody to ask: what the session sees becomes log lines, panels are
answered by a choice made before, programs are run at once, and each client talks to a server of its
own. An operation of the extension that waits gets its reply from these.

What the host runs on is a parameter (`Platform`): the programs that are there, who says what goes on in
conversations, how many of the tasks that were spawned run between two operations, and what an addition
that overflows comes to.
-/

namespace ExtensionHost.CommandLine

/-! ## What a program runs on -/

/-- The numbers of a location that are shown. -/
inductive Coordinate where
  | line
  | character
  deriving Repr, DecidableEq

/-- What an addition within 32 bits comes to that overflows. A build without checks goes on with what is
left of the sum. One with checks ends the program with a report, which says where that was. -/
inductive Overflow where
  | wraps
  | panics (report : Coordinate → List String)

/-- What a program runs on: the programs that are there to be run, who says what goes on in conversations,
how many of the tasks that were spawned run between two operations, what an overflow comes to, and the
number of the program's own process. -/
structure Platform where
  programs : Programs
  scheduler : Scheduler := .eager 1000000
  tasks : Session → Nat := fun _ => 16
  overflow : Overflow := .wraps
  processId : Nat

/-! ## State -/

/-- What does not change: what the program runs on, the surroundings of the session, and the button that
is chosen. -/
structure Setting extends Platform where
  surroundings : Surroundings
  choice : Option Nat

/-- A host without a user: its session, the conversations of its clients, and the log so far. -/
structure Headless where
  session : Session
  conversations : List Conversation := []
  log : List LogLine := []

/-- Actions of the host. One may end the program with a report, and one whose end is not reached gives
nothing. -/
abbrev Action := ExceptT (List String) (StateT Headless Option)

/-- The action whose end is not reached. -/
def Action.endless {α : Type} : Action α := fun _ => none

/-! ## Log lines -/

/-- A number one greater, within 32 bits, or the report of what comes of that. -/
def fromOne (x : Setting) (at_ : Coordinate) (n : UInt32) : Except (List String) String :=
  match x.overflow with
  | .wraps => .ok (toString (n + 1).toNat)
  | .panics report =>
    if n.toNat + 1 < UInt32.size then .ok (toString (n + 1).toNat) else .error (report at_)

/-- The line for a location: its file, or else its address, and where it begins. -/
def locationText (x : Setting) (l : Location) : Except (List String) String := do
  let line ← fromOne x .line l.range.start.line
  let character ← fromOne x .character l.range.start.character
  .ok ((FileUri.toPath? l.uri).getD l.uri ++ ":" ++ line ++ ":" ++ character)

/-- What is shown of something: lines of the log, and the report with which the program ends if it does
not get any further. -/
structure Display where
  lines : List LogLine := []
  panic : Option (List String) := none

/-- One thing is shown after the other; nothing is shown after the end of the program. -/
def Display.then (first second : Display) : Display :=
  match first.panic with
  | some _ => first
  | none => { second with lines := first.lines ++ second.lines }

/-- Several things are shown in their order. -/
def Display.all {α : Type} (show_ : α → Display) (things : List α) : Display :=
  things.foldr (fun thing rest => (show_ thing).then rest) {}

/-- What is shown of a location. -/
def displayLocation (x : Setting) (l : Location) : Display :=
  match locationText x l with
  | .ok text => { lines := [⟨.info, text⟩] }
  | .error report => { panic := some report }

/-- The line for the choice from a panel. -/
def choiceText (x : Setting) (buttons : List String) : String :=
  match ({ choice := x.choice } : Workspace).choose buttons with
  | some n => "Choosing \"" ++ buttons.getD n "" ++ "\""
  | none => "Dismissed"

/-- What is shown of what the session saw. -/
def displayEvent (x : Setting) : Event → Display
  | .log text => { lines := [⟨.info, text⟩] }
  | .error text => { lines := [⟨.error, text⟩] }
  | .notify title body => { lines := [⟨.info, "[" ++ title ++ "] " ++ body⟩] }
  | .references locations => .all (displayLocation x) locations
  | .panel message buttons => { lines := [⟨.warning, message⟩, ⟨.info, choiceText x buttons⟩] }
  | _ => {}

/-- Takes over a session and shows what it saw. -/
def adopt (x : Setting) (s : Session) : Action Unit := do
  let d := Display.all (displayEvent x) s.events
  modify fun h => { h with session := { s with events := [] }, log := h.log ++ d.lines }
  match d.panic with
  | some report => throw report
  | none => pure ()

/-! ## Programs and clients -/

/-- Runs a program; what it changes has happened. -/
def runProcess (x : Setting) (r : ProcessRequest) : Action (Outcome ProcessOutput) := do
  let h ← get
  let (outcome, changes) := x.programs.call h.session.files x.surroundings.cwd r
  set { h with session := { h.session with files := h.session.files.change changes } }
  pure outcome

/-- Runs the program that an event asks for. -/
def runAsked (x : Setting) (asked : Option Event) : Action (Outcome ProcessOutput) :=
  match asked with
  | some (.process r) => runProcess x r
  | _ => .endless

/-- The conversation of a new client. Its server is the program that its options name. -/
def newConversation (x : Setting) (files : Files) : Conversation :=
  let cwd := x.surroundings.cwd
  let server := Startup.serverOptions x.surroundings.extensionPath
  let options := Startup.clientOptions x.surroundings.root
  let launched := x.programs.serve files cwd server options
  { setup :=
      { id := Startup.serverId, name := Startup.serverName, server, options
        processId := x.processId
        launch := fun _ => launched.map fun _ => () }
    servers := fun _ =>
      match launched with
      | .ok server => server
      | .error _ => fun _ _ _ => { exited := true }
    client := { didStop := (({} : Listeners Nat).add 0).1 }
    files }

/-- Lets a client do something. Its log lines, the changes of its server and the news that the server
stopped become those of the host. A client that was not made does not come to anything. -/
def withClient {α : Type} (number : Nat) (f : Conversation → Option (Conversation × α)) :
    Action α := do
  let h ← get
  match h.conversations[number]? with
  | none => .endless
  | some before =>
    match f { before with files := h.session.files } with
    | none => .endless
    | some (after, a) =>
      let news := after.client.notified.drop before.client.notified.length
      let session := news.foldl (fun s (_, reason) => s.serverStopped number reason)
        { h.session with files := after.files }
      let log := h.log ++ after.client.log.drop before.client.log.length
      set ({ session, conversations := h.conversations.set number after, log } : Headless)
      pure a

/-- How a call of a client ends. -/
def outcomeOf {α : Type} : Except HostError α → Outcome α
  | .ok a => .done a
  | .error e => .failed (.ofHost e)

/-- Starts a new client. -/
def startClient (x : Setting) (number : Nat) : Action (Outcome Unit) := do
  modify fun h =>
    { h with conversations := h.conversations ++ [newConversation x h.session.files] }
  let r ← withClient number fun c => c.perform x.scheduler .start
  pure (outcomeOf (r.map fun _ => ()))

/-- Stops a client. -/
def stopClient (x : Setting) (number : Nat) : Action (Outcome Unit) := do
  let r ← withClient number fun c => c.perform x.scheduler .stop
  pure (outcomeOf (r.map fun _ => ()))

/-- Sends the request that an event asks for. -/
def requestAsked (x : Setting) (asked : Option Event) : Action (Outcome Json) :=
  match asked with
  | some (.request number method params) => do
    let r ← withClient number fun c => c.askOne x.scheduler method params
    pure (outcomeOf r)
  | _ => .endless

/-! ## Operations -/

/-- The reply to what an operation waits for. `asked` is the last thing that the session saw. -/
def replyTo (x : Setting) (asked : Option Event) : (w : Wait) → Action w.Reply
  | .chmod _ => runAsked x asked
  | .start _ client => startClient x client
  | .staleStop client => stopClient x client
  | .deactivateStop client => stopClient x client
  | .restartStop _ client => stopClient x client
  | .prompt _ =>
    pure (some (({ choice := x.choice } : Workspace).choose
      [Startup.restartButton, Startup.ignoreButton]))
  | .formatter _ _ => runAsked x asked
  | .serverEdits _ => requestAsked x asked
  | .references => requestAsked x asked
  | .other _ _ => pure ()

/-- Runs an operation to its end. There is nothing if it waits more often than `limit` says. -/
def drive (x : Setting) : Nat → Session × Progress → Action (Except HostError Unit)
  | 0, _ => .endless
  | limit + 1, (s, progress) => do
    let asked := s.events.getLast?
    adopt x s
    match progress with
    | .ended r => pure r
    | .waiting t =>
      let reply ← replyTo x asked t.wait
      drive x limit ((← get).session.resume x.surroundings t reply)

/-- Runs an operation as far as the scheduler follows it. -/
def runOperation (x : Setting) (begun : Session × Progress) : Action (Except HostError Unit) :=
  drive x x.scheduler.limit begun

/-- Runs as many of the tasks that were spawned when servers stopped, if there are so many. -/
def runPrompts (x : Setting) : Nat → Action Unit
  | 0 => pure ()
  | number + 1 => do
    let s := (← get).session
    if s.prompts.isEmpty then pure ()
    else
      let _ ← runOperation x (s.runPrompt x.surroundings)
      runPrompts x number

/-- Runs an operation and then tasks that were spawned meanwhile. -/
def perform (x : Setting) (f : Session → Session × Progress) : Action (Except HostError Unit) := do
  let r ← runOperation x (f (← get).session)
  runPrompts x (x.tasks (← get).session)
  pure r

end ExtensionHost.CommandLine
