import ExtensionHost.Client.Schedule
import ExtensionHost.Client.Server

/-!
# Conversations

A client talks to the servers of its runs. What may go on next is a turn: the reader or the writer of a
run, a call of the client, the server of a run, or time. A server takes one message in a turn, and what it
does with it happens at once, up to where it sleeps. When it is time's turn, time goes by until the time of
a call that waits is over or a server wakes, whichever comes first. Times are in thousandths of a second.

Which turn is next is for a scheduler to say, about which nothing is known. Whoever waits for something
follows as many turns as the scheduler allows and gets nothing at all if these do not lead to it.
-/

namespace ExtensionHost

/-! ## Partners -/

/-- What the server of a run has done: how many messages it took, whether it runs, whether it saw the end
of its input, how long it has slept, when it wakes if it sleeps, and what came of all that. -/
structure Partner where
  taken : Nat := 0
  running : Bool := false
  closed : Bool := false
  slept : Nat := 0
  wakes : Option Nat := none
  conduct : Conduct := {}

/-- What a call waits for that has only some time: the response to a request, or the end of the process
of a run. -/
inductive Await where
  | response (id : Nat)
  | exit (run : Nat)
  deriving Repr, DecidableEq

/-- A client and the partners of its runs. `servers` has a server for each run. `requestLimit` is the time
that a response has, `now` the time that went by, and `deadlines` says when the time is over of what is
waited for. -/
structure Conversation where
  setup : Client.Setup
  servers : Nat → Server
  requestLimit : Nat := 30000
  client : Client := {}
  partners : List Partner := []
  files : Files := []
  now : Nat := 0
  deadlines : List (Await × Nat) := []

/-- What goes on in a conversation. Runs and calls go by their numbers. -/
inductive Turn where
  | reader (run : Nat)
  | writer (run : Nat)
  | call (number : Nat)
  | server (run : Nat)
  | time
  deriving Repr, DecidableEq

namespace Conversation

open Client (Operation Point Response)

/-- The partner of a run. -/
def partner (c : Conversation) (r : Nat) : Partner := (c.partners[r]?).getD {}

/-- A partner goes on: what its server does beyond what it had done happens. -/
def proceed (c : Conversation) (r : Nat) (p : Partner) : Conversation :=
  let before := p.conduct
  let after := c.servers r ((c.client.run r).written.take p.taken) p.closed p.slept
  let wakes := if after.asleep = 0 then none else some (c.now + after.asleep)
  let client := c.client.output r (after.output.drop before.output.length)
  { c with
    client := if after.exited then (client.closeOutput r).exit r else client
    partners := c.partners.set r { p with wakes, conduct := after }
    files := c.files.change (after.changes.drop before.changes.length) }

/-- A partner that was told to end has ended. Its output stays open as long as another program sleeps for
it. -/
def leave (c : Conversation) (r : Nat) (p : Partner) : Conversation :=
  if p.wakes.isSome && p.conduct.lingers then { c with client := c.client.exit r }
  else
    { c with
      client := (c.client.closeOutput r).exit r
      partners := c.partners.set r { p with wakes := none } }

/-- The turn of the partner of a run, or nothing if it waits for a message, sleeps or has ended. -/
def stepPartner (c : Conversation) (r : Nat) : Option Conversation :=
  let run := c.client.run r
  let p := c.partner r
  if run.exited then none
  else if run.killed then some (c.leave r p)
  else if p.wakes.isSome then none
  else if !p.running then some (c.proceed r { p with running := true })
  else if p.taken < run.written.length then
    some (c.proceed r { p with taken := p.taken + 1 })
  else if !run.writing && !p.closed then some (c.proceed r { p with closed := true })
  else none

/-! ## Time -/

/-- What is waited for at a point, if that has only some time. -/
def await? : Point → Option Await
  | .waiting _ id => some (.response id)
  | .awaitExit _ r => some (.exit r)
  | _ => none

/-- The time that a process has to end. -/
def exitLimit : Nat := 2000

/-- When the time is over of what is waited for. The time of what was not waited for before begins
now. -/
def deadline (c : Conversation) (a : Await) : Nat :=
  (c.deadlines.lookup a).getD <| c.now +
    match a with
    | .response _ => c.requestLimit
    | .exit _ => exitLimit

/-- The calls that wait for something that has only some time, with what that is. -/
def awaits (c : Conversation) : List (Nat × Await) :=
  (List.range c.client.calls.length).filterMap fun k => do
    return (k, ← await? (← c.client.calls[k]?))

/-- When the time is over of all that is waited for. -/
def begun (c : Conversation) : List (Await × Nat) :=
  c.awaits.map fun (_, a) => (a, c.deadline a)

/-- What time brings: the time of a call is over, or the partner of a run wakes. -/
inductive Due where
  | expiry (call : Nat)
  | waking (run : Nat)

/-- What time brings, and when. -/
def dues (c : Conversation) : List (Nat × Due) :=
  (c.awaits.map fun (k, a) => (c.deadline a, Due.expiry k)) ++
    (List.range c.client.runs.length).filterMap fun r =>
      (c.partner r).wakes.map fun time => (time, Due.waking r)

/-- What comes first. -/
def earliest : List (Nat × Due) → Option (Nat × Due)
  | [] => none
  | d :: ds =>
    match earliest ds with
    | some e => some (if e.1 < d.1 then e else d)
    | none => some d

/-- The partner of a run wakes. If it was told to end meanwhile, its output ends. -/
def wake (c : Conversation) (r : Nat) : Conversation :=
  let p := c.partner r
  if (c.client.run r).exited then
    { c with client := c.client.closeOutput r, partners := c.partners.set r { p with wakes := none } }
  else c.proceed r { p with slept := p.slept + p.conduct.asleep }

/-- Lets time go by until something happens, or gives nothing if nothing will. -/
def pass (c : Conversation) : Option Conversation :=
  match earliest c.dues with
  | none => none
  | some (now, due) =>
    let c := { c with now, deadlines := c.begun }
    match due with
    | .expiry k => (c.client.expire k).map fun client => { c with client }
    | .waking r => some (c.wake r)

/-! ## Turns -/

/-- Takes over a client, with partners for all of its runs. -/
def adopt (c : Conversation) (client : Client) : Conversation :=
  { c with
    client
    partners := c.partners ++ List.replicate (client.runs.length - c.partners.length) {} }

/-- Makes a move of the client, if it is possible. -/
def move? (c : Conversation) (m : Client.Move) : Option Conversation :=
  (c.client.play? c.setup m).map c.adopt

/-- Takes a turn, if it can be taken. -/
def take? (c : Conversation) : Turn → Option Conversation
  | .reader r => c.move? (.read r)
  | .writer r => c.move? (.write r)
  | .call k => c.move? (.goOn k)
  | .server r => c.stepPartner r
  | .time => c.pass

/-- Takes the first of some turns that can be taken. -/
def takeFirst? (c : Conversation) (turns : List Turn) : Option Conversation :=
  turns.findSome? c.take?

/-- All turns but that of time: first the readers, then the writers and the calls, and the servers last. -/
def turns (c : Conversation) : List Turn :=
  let runs := List.range c.client.runs.length
  runs.map .reader ++ runs.map .writer ++ (List.range c.client.calls.length).map .call ++
    runs.map .server

end Conversation

/-! ## Schedulers -/

/-- Who says what goes on in a conversation: which turns are tried while something is waited for, and which
are tried after that, before anyone asks for more. The first of them that can be taken is; there may be
none. `limit` is the number of turns that are followed. -/
structure Scheduler where
  waiting : Conversation → List Turn
  settling : Conversation → List Turn
  limit : Nat

/-- The scheduler that lets time go by only when nothing else can move. -/
def Scheduler.eager (limit : Nat) : Scheduler where
  waiting c := c.turns ++ [.time]
  settling := Conversation.turns
  limit

namespace Conversation

open Client (Operation Response)

/-- Takes turns until something is over. There is nothing if it is not after as many turns as `limit`
says, or if no turn can be taken before. -/
def runUntil (next : Conversation → List Turn) (isOver : Client → Bool) :
    Nat → Conversation → Option Conversation
  | 0, c => if isOver c.client then some c else none
  | limit + 1, c =>
    if isOver c.client then some c
    else
      match c.takeFirst? (next c) with
      | some c => runUntil next isOver limit c
      | none => none

/-- Takes turns until none can be taken. There is nothing if there is still one after as many turns as
`limit` says. -/
def runOut (next : Conversation → List Turn) : Nat → Conversation → Option Conversation
  | 0, c => if (c.takeFirst? (next c)).isNone then some c else none
  | limit + 1, c =>
    match c.takeFirst? (next c) with
    | some c => runOut next limit c
    | none => some c

variable (s : Scheduler)

/-- Goes on until something is over. -/
def await (c : Conversation) (isOver : Client → Bool) : Option Conversation :=
  c.runUntil s.waiting isOver s.limit

/-- Goes on as far as the scheduler says when nothing is waited for. -/
def settle (c : Conversation) : Option Conversation := c.runOut s.settling s.limit

/-- Calls the client; gives the number of the call. -/
def call (c : Conversation) (op : Operation) : Conversation × Nat :=
  let (client, k) := c.client.call op
  ({ c with client }, k)

/-- Calls the client and waits until the call is over. -/
def callAndWait (c : Conversation) (op : Operation) : Option (Conversation × Response) := do
  let (c, k) := c.call op
  let c ← c.await s fun client => (client.result? k).isSome
  return (c, ← c.client.result? k)

/-- Starts or stops the client and lets happen what happens then. -/
def perform (c : Conversation) (op : Operation) : Option (Conversation × Response) := do
  let (c, r) ← c.callAndWait s op
  return (← c.settle s, r)

/-- Sends one request. -/
def askOne (c : Conversation) (method : String) (params : Json) : Option (Conversation × Response) :=
  c.callAndWait s (.request method params)

/-- Sends requests, all before any is waited for, until each has its response. -/
def ask (c : Conversation) (requests : List (String × Json)) :
    Option (Conversation × List Response) := do
  let (c, ks) := requests.foldl (fun (c, ks) (method, params) =>
    let (c, k) := c.call (.request method params)
    (c, ks ++ [k])) (c, [])
  let c ← c.await s fun client => ks.all fun k => (client.result? k).isSome
  return (c, ← ks.mapM c.client.result?)

/-- Goes on until the client is not ready any more. -/
def awaitStop (c : Conversation) : Option Conversation := do
  (← c.await s fun client => client.status ≠ .ready).settle s

/-- Stops the client if it is still ready. -/
def close (c : Conversation) : Option Conversation :=
  if c.client.status = .ready then (c.perform s .stop).map Prod.fst else some c

/-- The messages that the server of a run took. -/
def transcript (c : Conversation) (r : Nat) : List String :=
  (c.client.run r).written.take (c.partner r).taken

end Conversation

end ExtensionHost
