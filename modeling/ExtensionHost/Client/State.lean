import ExtensionHost.Host.Listeners
import ExtensionHost.Log
import ExtensionHost.Rpc.Frame
import ExtensionHost.Rpc.Message
import ExtensionHost.Wire.Options

/-!
# Clients of language servers

A client runs a server as a process and talks to it over the process's input and output. It may be
started again after it stopped or its server ended, and then has a new run with a new process, channel,
writer and reader. What the client keeps over its runs is shared by all of them: its state, the number
of its next request, the requests that wait for a response and the listeners that are told when a server
stops.

Everything is a value: the calls of the client's methods, the writer and the reader of each run are
points at which they stand, and a step moves one of them.
-/

namespace ExtensionHost

namespace Client

/-! ## Shared state -/

/-- The state of a client. -/
inductive Status where
  | notInitialized
  | initializing
  | ready
  | shuttingDown
  | shutdown
  | crashed
  deriving Repr, DecidableEq

/-- The name of a state. -/
def Status.name : Status → String
  | .notInitialized => "NotInitialized"
  | .initializing => "Initializing"
  | .ready => "Ready"
  | .shuttingDown => "ShuttingDown"
  | .shutdown => "Shutdown"
  | .crashed => "Crashed"

/-- What a request ends with. -/
abbrev Response := Except HostError Json

/-! ## Runs -/

/-- Where the reader of a run stands. -/
inductive Reader where
  /-- It has not begun. -/
  | idle
  /-- It reads frames. -/
  | reading
  /-- It has a reply for the server and waits for room on the channel. -/
  | replying (message : String)
  /-- Nothing more can be read; the waiting requests are about to be ended. -/
  | draining (reason : Option String)
  /-- The waiting requests have been ended; the state is about to be changed. -/
  | leaving (reason : Option String)
  /-- It has ended. -/
  | ended
  /-- It was broken off by a frame that no memory holds. -/
  | broken
  deriving Repr, DecidableEq

/-- A run of the server: the messages on the channel, whether the writer takes them, the messages that
it wrote and their bytes, the bytes of the server that were not read yet, whether more may come, whether
the process takes input, and whether it was told to end or has ended. -/
structure Run where
  channel : List String := []
  writing : Bool := true
  written : List String := []
  emitted : List UInt8 := []
  output : List UInt8 := []
  outputOpen : Bool := true
  inputOpen : Bool := true
  killed : Bool := false
  exited : Bool := false
  reader : Reader := .idle
  deriving Repr

/-- The number of messages that the channel holds. -/
def channelSize : Nat := 32

/-- Whether the channel takes one more message. -/
def Run.hasRoom (r : Run) : Bool := r.channel.length < channelSize

/-! ## Calls -/

/-- What the client is called for. -/
inductive Operation where
  | start
  | stop
  | request (method : String) (params : Json)

/-- Why a process is cleared away: for a new run, after a start that failed, or to stop. -/
inductive Clearing where
  | forLaunch
  | afterFailure (e : HostError)
  | toStop

/-- What a request is sent for. -/
inductive Purpose where
  | handshake
  | shutdown
  | call (method : String) (params : Json)

/-- What is notified. -/
inductive Notice where
  | initialized
  | exit
  deriving Repr, DecidableEq

/-- Where a call stands. -/
inductive Point where
  /-- Before its first step. -/
  | begin (op : Operation)
  /-- About to let go of the channel. -/
  | closeChannel (c : Clearing)
  /-- About to take the process. -/
  | takeProcess (c : Clearing)
  /-- Waits for the process of a run to end. -/
  | awaitExit (c : Clearing) (run : Nat)
  /-- About to launch a process. -/
  | launch
  /-- About to keep the process of a run. -/
  | keepProcess (run : Nat)
  /-- About to open the channel of a run. -/
  | openChannel (run : Nat)
  /-- About to number and register a request. -/
  | register (p : Purpose)
  /-- About to take hold of the channel for a request. -/
  | send (p : Purpose) (id : Nat)
  /-- Holds the channel of a run and waits for room for a request. -/
  | sending (p : Purpose) (id : Nat) (run : Nat)
  /-- Waits for the response to a request. -/
  | waiting (p : Purpose) (id : Nat)
  /-- About to take hold of the channel for a notification. -/
  | notify (n : Notice)
  /-- Holds the channel of a run and waits for room for a notification. -/
  | notifying (n : Notice) (run : Nat)
  /-- About to see whether the channel is open. -/
  | checkChannel
  /-- About to become ready, if the channel was open and nothing ended meanwhile. -/
  | becomeReady (isOpen : Bool)
  /-- About to set the state for good. -/
  | setStatus (status : Status) (r : Response)
  /-- Over. -/
  | over (r : Response)

/-- Whether a point holds the channel of a run. -/
def Point.holdsChannel (run : Nat) : Point → Bool
  | .keepProcess r => r = run
  | .openChannel r => r = run
  | .sending _ _ r => r = run
  | .notifying _ r => r = run
  | _ => false

end Client

/-- A client. `channel` is the run on whose channel it sends, `process` the run whose process it keeps;
`clearing` says that a call waits for a process to end and nobody else may take or keep one. `pending`
are the requests that wait for a response, `responses` the responses that no call has taken yet,
`notified` what the listeners were told, and `log` what was said about it all. -/
structure Client where
  status : Client.Status := .notInitialized
  nextId : Nat := 0
  channel : Option Nat := none
  process : Option Nat := none
  clearing : Bool := false
  capabilities : Option Json := none
  pending : List Nat := []
  responses : List (Nat × Client.Response) := []
  didStop : Listeners Nat := {}
  notified : List (Nat × Option String) := []
  log : List LogLine := []
  launches : Nat := 0
  runs : List Client.Run := []
  calls : List Client.Point := []

namespace Client

/-- What a client is made with: its identifier and name, its server and options, the number of its own
process, and what each launch of the server ends with. -/
structure Setup where
  id : String
  name : String
  server : ServerOptions
  options : ClientOptions
  processId : Nat
  launch : Nat → Except HostError Unit

/-- A client for a server, if it can be reached; only standard input and output are supported. -/
def make (id name : String) (transport : Transport) : Except HostError (String × String) :=
  match transport with
  | .stdio => .ok (id, name)
  | other => .error ⟨.lsp, "Unsupported transport " ++ other.title ++ " for " ++ name⟩

/-! ## Access -/

/-- The run with a number. -/
def run (c : Client) (r : Nat) : Run := (c.runs[r]?).getD {}

/-- Changes a run. -/
def modifyRun (c : Client) (r : Nat) (f : Run → Run) : Client :=
  { c with runs := c.runs.modify r f }

/-- Moves a call to a point. -/
def moveCall (c : Client) (k : Nat) (p : Point) : Client :=
  { c with calls := c.calls.set k p }

/-- Whether anything still sends on the channel of a run: the client, a call or the reader. -/
def hasSender (c : Client) (r : Nat) : Bool :=
  c.channel = some r || c.calls.any (Point.holdsChannel r) ||
    (match (c.run r).reader with
      | .replying _ => true
      | _ => false)

/-- Puts a message on the channel of a run. -/
def push (c : Client) (r : Nat) (message : String) : Client :=
  c.modifyRun r fun x => { x with channel := x.channel ++ [message] }

/-- Says something in the log. -/
def say (c : Client) (level : Level) (text : String) : Client :=
  { c with log := c.log ++ [⟨level, text⟩] }

/-- Registers a request. -/
def register (c : Client) (id : Nat) : Client := { c with pending := c.pending ++ [id] }

/-- Takes a request from those that wait. -/
def unregister (c : Client) (id : Nat) : Client :=
  { c with pending := c.pending.filter (· ≠ id) }

/-- Ends a request, if it still waits. -/
def complete (c : Client) (id : Nat) (r : Response) : Client :=
  if id ∈ c.pending then
    { c.unregister id with responses := c.responses ++ [(id, r)] }
  else c

end Client

end ExtensionHost
