import ExtensionHost.Client.State
import ExtensionHost.File.Uri

/-!
# The steps of a client

`stepCall`, `stepWriter` and `stepReader` move a call, a writer or a reader from one point to the next,
or give nothing when it has to wait. `expire` ends a call's waiting when its time is over. What servers
do is not decided here: `output`, `closeOutput` and `exit` may happen to a run at any time.
-/

namespace ExtensionHost.Client

/-! ## What is sent -/

/-- The version of the client that servers are told. -/
def clientVersion : String := "0.1.0"

/-- The parameters of the first request. -/
def initializeParams (x : Setup) : Json :=
  let no := Json.obj [("dynamicRegistration", .bool false)]
  let root := x.options.rootPath
  .obj
    [ ("processId", .nat x.processId),
      ("clientInfo", .obj [("name", .string "exnova"), ("version", .string clientVersion)]),
      ("rootUri", .ofOption (fun path => .string (FileUri.ofPath path)) root),
      ("rootPath", .ofOption .string root),
      ("capabilities", .obj
        [ ("textDocument", .obj
            [ ("references", no), ("formatting", no),
              ("synchronization", .obj [("didSave", .bool true)]) ]),
          ("workspace", .obj [("configuration", .bool true)]) ]),
      ("initializationOptions", .ofOption id x.options.initializationOptions) ]

/-- The method of a request. -/
def Purpose.method : Purpose → String
  | .handshake => "initialize"
  | .shutdown => "shutdown"
  | .call method _ => method

/-- The parameters of a request. -/
def Purpose.params (x : Setup) : Purpose → Option Json
  | .handshake => some (initializeParams x)
  | .shutdown => none
  | .call _ params => some params

/-- The body of a request. -/
def Purpose.body (x : Setup) (p : Purpose) (id : Nat) : String :=
  Rpc.requestBody id p.method (p.params x)

/-- The body of a notification. -/
def Notice.body : Notice → String
  | .initialized => Rpc.notificationBody "initialized" (some (.object []))
  | .exit => Rpc.notificationBody "exit" none

/-! ## Failures -/

/-- The failure to send without a channel. -/
def noChannel : HostError := ⟨.lsp, "LSP message channel not available"⟩

/-- The failure to send on a channel that nobody reads. -/
def channelClosed : HostError := ⟨.lsp, "Failed to send LSP message: channel closed"⟩

/-- The failure of a request whose time is over. -/
def timedOut (method : String) : HostError := ⟨.timeout, "LSP request " ++ method⟩

/-- The failure of a request whose server ended. -/
def terminated (id : Nat) : HostError :=
  ⟨.lsp, "Language server terminated (request " ++ toString id ++ ")"⟩

/-- The failure to ask a server that is not ready. -/
def notRunning (name : String) (status : Status) : HostError :=
  ⟨.lsp, name ++ " is not running (state: " ++ status.name ++ ")"⟩

/-- The failure of a start whose server ended meanwhile. -/
def exitedEarly (name : String) (status : Status) : HostError :=
  ⟨.lsp, name ++ " exited during initialization (state: " ++ status.name ++ ")"⟩

/-! ## Calls -/

/-- Where a call goes on when a request could not be sent or has its response. -/
def afterRequest (p : Purpose) (r : Response) : Point :=
  match p, r with
  | .handshake, .ok _ => .notify .initialized
  | .handshake, .error e => .closeChannel (.afterFailure e)
  | .shutdown, _ => .notify .exit
  | .call _ _, r => .over r

/-- Where a call goes on when a notification was sent or could not be sent. -/
def afterNotice (n : Notice) (r : Except HostError Unit) : Point :=
  match n, r with
  | .initialized, .ok () => .checkChannel
  | .initialized, .error e => .closeChannel (.afterFailure e)
  | .exit, _ => .closeChannel .toStop

/-- What is said when a step of a stop did not go well. -/
def lament {α : Type} (c : Client) (what : String) : Except HostError α → Client
  | .ok _ => c
  | .error e => c.say .warning ("LSP " ++ what ++ " failed: " ++ e.message)

/-- What is said when a request has ended. -/
def lamentRequest (c : Client) (p : Purpose) (r : Response) : Client :=
  match p with
  | .shutdown => c.lament "shutdown request" r
  | _ => c

/-- What is said when a notification was sent or could not be sent. -/
def lamentNotice (c : Client) (n : Notice) (r : Except HostError Unit) : Client :=
  match n with
  | .exit => c.lament "exit notification" r
  | .initialized => c

/-- A request has ended. -/
def endRequest (c : Client) (k : Nat) (p : Purpose) (r : Response) : Client :=
  (c.lamentRequest p r).moveCall k (afterRequest p r)

/-- A notification was sent or could not be sent. -/
def endNotice (c : Client) (k : Nat) (n : Notice) (r : Except HostError Unit) : Client :=
  (c.lamentNotice n r).moveCall k (afterNotice n r)

/-- Where a call goes on when a process was cleared away. -/
def afterClearing : Clearing → Point
  | .forLaunch => .launch
  | .afterFailure e => .setStatus .notInitialized (.error e)
  | .toStop => .setStatus .shutdown (.ok .null)

/-- Whether a process that is cleared away is told to end at once. -/
def Clearing.atOnce : Clearing → Bool
  | .toStop => false
  | _ => true

/-- Keeps the capabilities in the response to the first request. -/
def keepCapabilities (c : Client) (p : Purpose) (r : Response) : Client :=
  match p, r with
  | .handshake, .ok v =>
    match v.get? "capabilities" with
    | some capabilities => { c with capabilities := some capabilities }
    | none => c
  | _, _ => c

/-- The first step of a call. -/
def beginCall (x : Setup) (c : Client) (k : Nat) : Operation → Client
  | .start =>
    match c.status with
    | .notInitialized => { c with status := .initializing }.moveCall k (.closeChannel .forLaunch)
    | .shutdown => { c with status := .initializing }.moveCall k (.closeChannel .forLaunch)
    | .crashed => { c with status := .initializing }.moveCall k (.closeChannel .forLaunch)
    | _ => c.moveCall k (.over (.ok .null))
  | .stop =>
    if c.status = .ready then
      { c with status := .shuttingDown }.moveCall k (.register .shutdown)
    else c.moveCall k (.over (.ok .null))
  | .request method params =>
    if c.status = .ready then c.moveCall k (.register (.call method params))
    else c.moveCall k (.over (.error (notRunning x.name c.status)))

/-- The step of a call at a point, or nothing if it has to wait. -/
def stepPoint (x : Setup) (c : Client) (k : Nat) : Point → Option Client
  | .begin op => some (c.beginCall x k op)
  | .closeChannel a => some ({ c with channel := none }.moveCall k (.takeProcess a))
  | .takeProcess a =>
    if c.clearing then none
    else
      match c.process with
      | none => some (c.moveCall k (afterClearing a))
      | some r =>
        let c := { c with process := none, clearing := true }
        let c := if a.atOnce then c.modifyRun r fun y => { y with killed := true } else c
        some (c.moveCall k (.awaitExit a r))
  | .awaitExit a r =>
    if (c.run r).exited then
      some ({ c with clearing := false }.moveCall k (afterClearing a))
    else none
  | .launch =>
    let launched := x.launch c.launches
    let c := { c with launches := c.launches + 1 }
    match launched with
    | .error e => some (c.moveCall k (.closeChannel (.afterFailure e)))
    | .ok () =>
      some ({ c with runs := c.runs ++ [({} : Run)] }.moveCall k (.keepProcess c.runs.length))
  | .keepProcess r =>
    if c.clearing then none
    else
      let c := match c.process with
        | some old => c.modifyRun old fun y => { y with killed := true }
        | none => c
      let c := c.modifyRun r fun y => { y with reader := .reading }
      some ({ c with process := some r }.moveCall k (.openChannel r))
  | .openChannel r => some ({ c with channel := some r }.moveCall k (.register .handshake))
  | .register p =>
    some ({ c.register c.nextId with nextId := c.nextId + 1 }.moveCall k (.send p c.nextId))
  | .send p id =>
    match c.channel with
    | none => some ((c.unregister id).endRequest k p (.error noChannel))
    | some r => some (c.moveCall k (.sending p id r))
  | .sending p id r =>
    if !(c.run r).writing then
      some ((c.unregister id).endRequest k p (.error channelClosed))
    else if (c.run r).hasRoom then some ((c.push r (p.body x id)).moveCall k (.waiting p id))
    else none
  | .waiting p id =>
    match c.responses.lookup id with
    | some r => some ((c.keepCapabilities p r).endRequest k p r)
    | none => none
  | .notify n =>
    match c.channel with
    | none => some (c.endNotice k n (.error noChannel))
    | some r => some (c.moveCall k (.notifying n r))
  | .notifying n r =>
    if !(c.run r).writing then some (c.endNotice k n (.error channelClosed))
    else if (c.run r).hasRoom then some ((c.push r n.body).endNotice k n (.ok ()))
    else none
  | .checkChannel =>
    some (c.moveCall k (.becomeReady (c.channel.any fun r => (c.run r).writing)))
  | .becomeReady isOpen =>
    if c.status = .initializing ∧ isOpen then
      some ({ c with status := .ready }.moveCall k (.over (.ok .null)))
    else
      some (c.moveCall k (.closeChannel (.afterFailure (exitedEarly x.name c.status))))
  | .setStatus status r => some ({ c with status }.moveCall k (.over r))
  | .over _ => none

/-- The step of a call, or nothing if it has to wait or is over. -/
def stepCall (x : Setup) (c : Client) (k : Nat) : Option Client :=
  match c.calls[k]? with
  | some p => c.stepPoint x k p
  | none => none

/-- Ends the waiting of a call whose time is over: a request gets no response any more, and a process
that is given time to end is told to end. -/
def expire (c : Client) (k : Nat) : Option Client :=
  match c.calls[k]? with
  | some (.waiting p id) =>
    if (c.responses.lookup id).isSome then none
    else some ((c.unregister id).endRequest k p (.error (timedOut p.method)))
  | some (.awaitExit _ r) => some (c.modifyRun r fun y => { y with killed := true })
  | _ => none

/-- Calls the client; gives the number of the call. -/
def call (c : Client) (op : Operation) : Client × Nat :=
  ({ c with calls := c.calls ++ [.begin op] }, c.calls.length)

/-- What a call that is over ended with. -/
def result? (c : Client) (k : Nat) : Option Response :=
  match c.calls[k]? with
  | some (.over r) => some r
  | _ => none

/-! ## Writers -/

/-- What is said when the process of a run takes no more input. -/
def unwritable : String := "Failed to write to LSP stdin: Broken pipe (os error 32)"

/-- The step of the writer of a run, or nothing if it has to wait. A writer that cannot write ends; so
does one that nobody sends to. -/
def stepWriter (c : Client) (r : Nat) : Option Client :=
  match c.runs[r]? with
  | none => none
  | some run =>
    if !run.writing then none
    else
      match run.channel with
      | message :: rest =>
        if run.inputOpen then
          some (c.modifyRun r fun y =>
            { y with
              channel := rest
              written := y.written ++ [message]
              emitted := y.emitted ++ Rpc.frame message.toList })
        else
          some ((c.modifyRun r fun y => { y with channel := [], writing := false }).say .error
            unwritable)
      | [] =>
        if c.hasSender r then none else some (c.modifyRun r fun y => { y with writing := false })

/-! ## Readers -/

/-- What a reader does with a message that came in. -/
def dispatch (c : Client) (r : Nat) (body : List UInt8) : Client :=
  match Rpc.Incoming.ofBody body with
  | .response id result => c.complete id result
  | .request id method params =>
    if c.hasSender r then
      c.modifyRun r fun y =>
        { y with reader := .replying (Rpc.replyBody id (Rpc.answerTo method params)) }
    else c
  | .notification _ _ => c
  | .meaningless => c

/-- Ends all requests that wait. -/
def drain (c : Client) : Client :=
  { c with
    pending := []
    responses := c.responses ++ c.pending.map fun id => (id, .error (terminated id)) }

/-- Tells the listeners that the server stopped. -/
def notifyStop (c : Client) (reason : Option String) : Client :=
  { c with notified := c.notified ++ c.didStop.snapshot.map fun n => (n, reason) }

/-- Changes the state when the output of a server has ended; if the client was ready, its listeners are
told. -/
def leave (x : Setup) (c : Client) (reason : Option String) : Client :=
  match c.status with
  | .ready =>
    ({ c with status := .crashed }.say .warning (x.name ++ " stopped unexpectedly")).notifyStop reason
  | .initializing => { c with status := .crashed }
  | _ => c

/-- The reason that a failure to read gives for the end of the server. -/
def readFailure (e : Rpc.FrameError) : String :=
  "Failed to read from language server: " ++ e.message

/-- What is said about a failure to read. -/
def sayReadFailure (x : Setup) (c : Client) (e : Rpc.FrameError) : Client :=
  let c := match e with
    | .invalidLength value =>
      c.say .warning ("Invalid Content-Length header " ++ Text.quote value ++ ": " ++
        Rpc.lengthFault value.toList)
    | _ => c
  c.say .error ("Failed to read from " ++ x.name ++ ": " ++ e.message)

/-- The step of the reader of a run, or nothing if it has to wait or has ended. -/
def stepReader (x : Setup) (c : Client) (r : Nat) : Option Client :=
  match c.runs[r]? with
  | none => none
  | some run =>
    match run.reader with
    | .idle => none
    | .reading =>
      match Rpc.readFrame (!run.outputOpen) run.output with
      | .incomplete => none
      | .frame body rest =>
        some ((c.modifyRun r fun y => { y with output := rest }).dispatch r body)
      | .ended => some (c.modifyRun r fun y => { y with reader := .draining none })
      | .failed e =>
        some ((c.sayReadFailure x e).modifyRun r fun y =>
          { y with reader := .draining (some (readFailure e)) })
      | .tooLarge => some (c.modifyRun r fun y => { y with reader := .broken })
    | .replying message =>
      if !run.writing then some (c.modifyRun r fun y => { y with reader := .reading })
      else if run.hasRoom then
        some ((c.push r message).modifyRun r fun y => { y with reader := .reading })
      else none
    | .draining reason => some (c.drain.modifyRun r fun y => { y with reader := .leaving reason })
    | .leaving reason => some ((c.leave x reason).modifyRun r fun y => { y with reader := .ended })
    | .ended => none
    | .broken => none

/-! ## Servers -/

/-- The server of a run writes bytes. -/
def output (c : Client) (r : Nat) (bytes : List UInt8) : Client :=
  c.modifyRun r fun y => if y.outputOpen then { y with output := y.output ++ bytes } else y

/-- The output of a run ends. -/
def closeOutput (c : Client) (r : Nat) : Client :=
  c.modifyRun r fun y => { y with outputOpen := false }

/-- The process of a run ends and takes no more input. -/
def exit (c : Client) (r : Nat) : Client :=
  c.modifyRun r fun y => { y with exited := true, inputOpen := false }

end ExtensionHost.Client
