import ExtensionHost.Proofs.Lifecycle.ServerEvents
import ExtensionHost.Proofs.Lifecycle.Epochs

/-!
# The steps of a startup

A startup begins in some move, waits for the scripts, waits for its client and ends; one that was
overtaken by a deactivation may wait once more, for the stop of the client that it took. This module says
what each of these steps records and what it waits for (`Session.Ends` is the end of a startup), and that
every other move starts no server (`Stage.idles_play`).
-/

namespace ExtensionHost

/-- Whether the reply to a wait says that the scripts were made executable. -/
def Wait.executable : (w : Wait) → w.Reply → Bool
  | .chmod _, .done output => output.status = some 0
  | _, _ => false

/-- Whether an operation waits for a step with which a startup goes on. -/
def Wait.continues : Wait → Bool
  | .chmod _ | .start _ _ => true
  | _ => false

theorem Wait.isQuiet_of_continues {w : Wait} (h : w.continues = true) : w.isQuiet = false := by
  cases w <;> first | rfl | cases h

namespace Session

variable {x : Surroundings} {s : Session} {epoch : Nat}

/-! ## Steps of a startup -/

/-- The launch scripts that a session lists. -/
def launchScripts (x : Surroundings) (s : Session) : Except String (List String) :=
  Startup.launchScripts s.files x.cwd (Startup.serverDirectory x.extensionPath)

theorem launchScripts_ne_nil {scripts : List String} (h : s.launchScripts x = .ok scripts) :
    scripts ≠ [] := by
  unfold launchScripts Startup.launchScripts at h
  dsimp only at h
  rcases ite_eq_iff.mp h with ⟨-, h⟩ | ⟨hSome, h⟩
  · cases h
  · rintro rfl
    have hNone := List.map_eq_nil_iff.mp (Except.ok.inj h)
    rw [hNone] at hSome
    exact hSome rfl

/-- What a startup begun in an epoch leaves when it ends, after it recorded some events: a line and a
phase in the same epoch; no line in another one, where it may have a client to stop. -/
structure Ends (s : Session) (epoch : Nat) (prior : List Event) (line : Event) (phase : Phase)
    (r : Session × Option Wait) : Prop where
  current : s.extension.epoch = epoch →
    r.2 = none ∧ r.1.extension.phase = phase ∧ r.1.serverEvents = s.serverEvents ++ prior ++ [line]
  overtaken : s.extension.epoch ≠ epoch →
    (∀ w ∈ r.2, ∃ client, w = .staleStop client) ∧ r.1.serverEvents = s.serverEvents ++ prior

theorem endStartup_late (hEpoch : s.extension.epoch ≠ epoch) (outcome : Except ExtensionError Unit) :
    (∀ w ∈ (s.endStartup epoch outcome).2, ∃ client, w = .staleStop client) ∧
      (s.endStartup epoch outcome).1.serverEvents = s.serverEvents := by
  have hEvents := serverEvents_beginShutdown s
  unfold endStartup
  rw [if_neg hEpoch]
  rcases h : s.beginShutdown with ⟨s', _ | client⟩
  · rw [h] at hEvents
    exact ⟨nofun, hEvents⟩
  · rw [h] at hEvents
    refine ⟨?_, hEvents⟩
    rintro w ⟨⟩
    exact ⟨client, rfl⟩

theorem ends_error (s : Session) (epoch : Nat) {e : ExtensionError}
    (hLine : (Event.error e.message).isOutcome = true) :
    s.Ends epoch [] (.error e.message) .inactive (s.endStartup epoch (.error e)) where
  current hEpoch := by
    unfold endStartup
    rw [if_pos hEpoch, List.append_nil]
    exact ⟨rfl, rfl, serverEvents_record _ (Event.isOfServer_of_isOutcome hLine)⟩
  overtaken hEpoch := by
    rw [List.append_nil]
    exact endStartup_late hEpoch _

theorem ends_ok (s : Session) (epoch : Nat) :
    s.Ends epoch [] (.log "Activated") .running (s.endStartup epoch (.ok ())) where
  current hEpoch := by
    unfold endStartup
    rw [if_pos hEpoch, List.append_nil]
    exact ⟨rfl, rfl, serverEvents_record _ rfl⟩
  overtaken hEpoch := by
    rw [List.append_nil]
    exact endStartup_late hEpoch _

/-- A startup that ends after a step which recorded events. -/
theorem Ends.after {s' : Session} {prior : List Event} {line : Event} {phase : Phase}
    {r : Session × Option Wait} (h : s'.Ends epoch [] line phase r)
    (hEpoch : s'.extension.epoch = s.extension.epoch)
    (hEvents : s'.serverEvents = s.serverEvents ++ prior) : s.Ends epoch prior line phase r where
  current hCurrent := by
    have hEnd := h.current (hEpoch.trans hCurrent)
    rw [List.append_nil, hEvents] at hEnd
    exact hEnd
  overtaken hLate := by
    have hEnd := h.overtaken (fun hSame => hLate (hEpoch.symm.trans hSame))
    rw [List.append_nil, hEvents] at hEnd
    exact hEnd

theorem isScriptFailure_executableError (cause : Cause) :
    (Event.error (executableError cause).message).isScriptFailure = true :=
  Event.beginsWith_append_self "Failed to make file executable" (": " ++ cause.full)

theorem isStartFailure_startError (cause : Cause) :
    (Event.error (startError cause).message).isStartFailure = true :=
  Event.beginsWith_append_self "Failed to start language server" (": " ++ cause.full)

/-- What the beginning of a startup leaves: it fails without scripts, or it has them made executable and
waits. -/
inductive Launches (x : Surroundings) (s : Session) (r : Session × Option Wait) : Prop where
  | refused {line : Event} (hLine : line.isScriptFailure = true)
      (hEnds : s.Ends s.extension.epoch [] line .inactive r) : Launches x s r
  | listed {scripts : List String} (hListed : s.launchScripts x = .ok scripts)
      (hWait : r.2 = some (.chmod s.extension.epoch))
      (hEvents : r.1.serverEvents = s.serverEvents ++ [.process (Startup.makeExecutable scripts)]) :
      Launches x s r

theorem launches_beginStartup (x : Surroundings) (s : Session) : s.Launches x (s.beginStartup x) := by
  unfold beginStartup
  dsimp only
  split
  · rename_i reason hNone
    have hLine := isScriptFailure_executableError ⟨reason, []⟩
    have hEnds := ends_error (s.setPhase .starting) s.extension.epoch (Event.of_isScriptFailure hLine).1
    exact .refused hLine (hEnds.after rfl (List.append_nil _).symm)
  · rename_i scripts hListed
    exact .listed hListed rfl (serverEvents_record _ rfl)

/-- The call of the factory of clients. -/
def creation (x : Surroundings) : Event :=
  .create Startup.serverId Startup.serverName (Startup.serverOptions x.extensionPath)
    (Startup.clientOptions x.root)

/-- What a startup leaves when the scripts were made executable or not: it fails, at once or because no
client is made, or its client starts. -/
inductive Proceeds (x : Surroundings) (s : Session) (epoch : Nat) (executable : Bool)
    (r : Session × Option Wait) : Prop where
  | refused {line : Event} (hLine : line.isScriptFailure = true) (hFailed : executable = false)
      (hEnds : s.Ends epoch [] line .inactive r) : Proceeds x s epoch executable r
  | unmade {line : Event} (hLine : line.isStartFailure = true) (hDone : executable = true)
      (hEnds : s.Ends epoch [creation x] line .inactive r) : Proceeds x s epoch executable r
  | made {client : Nat} (hDone : executable = true) (hWait : r.2 = some (.start epoch client))
      (hEvents : r.1.serverEvents = s.serverEvents ++ [creation x, .start client]) :
      Proceeds x s epoch executable r

theorem proceeds_startClient (x : Surroundings) (s : Session) (epoch : Nat) :
    s.Proceeds x epoch true (s.startClient x epoch) := by
  have hCreated : (s.record (creation x)).serverEvents = s.serverEvents ++ [creation x] :=
    serverEvents_record s rfl
  unfold startClient
  dsimp only
  split
  · rename_i cause hMade
    have hLine := isStartFailure_startError cause
    exact .unmade hLine rfl ((ends_error _ epoch (Event.of_isStartFailure hLine).1).after rfl hCreated)
  · refine .made rfl rfl ?_
    rw [serverEvents_record _ rfl]
    refine (congrArg (· ++ _) (serverEvents_disposeClientRegistrations _)).trans ?_
    refine (congrArg (· ++ _) hCreated).trans ?_
    rw [List.append_assoc]
    rfl

theorem proceeds_scriptsExecutable (x : Surroundings) (s : Session) (epoch : Nat)
    (reply : Outcome ProcessOutput) :
    s.Proceeds x epoch (Wait.executable (.chmod epoch) reply) (s.scriptsExecutable x epoch reply) := by
  have hRefused : ∀ cause, s.Ends epoch [] (.error (executableError cause).message) .inactive
      (s.endStartup epoch (.error (executableError cause))) :=
    fun cause => ends_error s epoch (Event.of_isScriptFailure (isScriptFailure_executableError cause)).1
  cases reply with
  | failed cause => exact .refused (isScriptFailure_executableError _) rfl (hRefused _)
  | panicked message => exact .refused (isScriptFailure_executableError _) rfl (hRefused _)
  | done output =>
    unfold scriptsExecutable
    dsimp only [Outcome.settle]
    split
    · rename_i hSuccess
      rw [show Wait.executable (.chmod epoch) (.done output) = true from hSuccess]
      exact proceeds_startClient x s epoch
    · rename_i hFailed
      exact .refused (isScriptFailure_executableError _) (Bool.eq_false_iff.mpr hFailed) (hRefused _)

/-- What a startup leaves when its client has started or not. -/
inductive Finishes (s : Session) (epoch : Nat) (started : Option Nat) (r : Session × Option Wait) :
    Prop where
  | running (hStarted : started.isSome = true)
      (hEnds : s.Ends epoch [] (.log "Activated") .running r) : Finishes s epoch started r
  | failed {line : Event} (hLine : line.isStartFailure = true) (hNone : started = none)
      (hEnds : s.Ends epoch [] line .inactive r) : Finishes s epoch started r

theorem finishes_clientStarted (s : Session) (epoch client : Nat) (reply : Outcome Unit) :
    s.Finishes epoch (Wait.started? (.start epoch client) reply)
      (s.clientStarted epoch client reply) := by
  have hOutcome : ∀ cause, (Event.error (startError cause).message).isOutcome = true :=
    fun cause => (Event.of_isStartFailure (isStartFailure_startError cause)).1
  cases reply with
  | done => exact .running rfl ((ends_ok _ epoch).after rfl (List.append_nil _).symm)
  | failed cause =>
    have hEpoch : s.disposeClientRegistrations.extension.epoch = s.extension.epoch :=
      congrArg (·.extension.epoch) (core_disposeClientRegistrations s)
    have hEnds := ends_error s.disposeClientRegistrations epoch (hOutcome cause)
    refine .failed (isStartFailure_startError cause) rfl (hEnds.after hEpoch ?_)
    rw [serverEvents_disposeClientRegistrations, List.append_nil]
  | panicked message =>
    exact .failed (isStartFailure_startError _) rfl (ends_error s epoch (hOutcome _))

/-! ## Where a startup begins -/

/-- A session in which an activation has taken over the preferences and registered its handlers. -/
def equipped (x : Surroundings) (s : Session) : Session :=
  let s := s.log "Activating..."
  let s := if x.dev then s.record (.notify Startup.serverName "Starting extension...") else s
  let s := s.mapExtension fun e =>
    { e with preferences := .resolve s.workspaceSettings s.globalSettings }
  s.registerAll

theorem beginActivate_equipped (x : Surroundings) {s : Session} (hPhase : s.extension.phase = .inactive) :
    s.beginActivate x = (s.equipped x).beginStartup x := if_neg (not_not_intro hPhase)

/-- A session in which a restart has let go of what was left of a client. -/
def cleared (s : Session) : Session := (s.log restarting).beginShutdown.1

/-- The session of an operation that goes on. -/
def resumed (s : Session) (w : Wait) : Session :=
  if w.isOwn then { s with inFlight := s.inFlight - 1 } else s

/-- The session in which the reply to a wait begins to start the server, if it does. -/
def startup? (s : Session) : (w : Wait) → w.Reply → Option Session
  | .restartStop epoch _, reply =>
    if s.extension.epoch = epoch then some (s.reportStop reply) else none
  | .prompt epoch, some (some 0) =>
    if s.extension.epoch = epoch then some (s.log restarting) else none
  | _, _ => none

/-- A session in which only the record and what has no part in starting the server have changed. -/
structure Resembles (s s' : Session) : Prop where
  events : s'.serverEvents = s.serverEvents
  epoch : s'.extension.epoch = s.extension.epoch

theorem serverEvents_registerAll (s : Session) : s.registerAll.serverEvents = s.serverEvents := by
  have hAdded : s.addListener.serverEvents = s.serverEvents := rfl
  have hCommand : ∀ (s : Session) (id : String) (role : Role),
      (s.addCommand id role).serverEvents = s.serverEvents := fun _ _ _ => rfl
  unfold registerAll
  dsimp only
  rw [hCommand, hCommand, hCommand, hCommand, hAdded]

theorem epoch_registerAll (s : Session) : s.registerAll.extension.epoch = s.extension.epoch := by
  obtain ⟨rs, hCore⟩ := adds_registerAll s
  exact congrArg (·.extension.epoch) hCore

theorem resembles_equipped (x : Surroundings) (s : Session) : s.Resembles (s.equipped x) := by
  have hLog : (s.log "Activating...").serverEvents = s.serverEvents := serverEvents_log s (by decide)
  unfold equipped
  dsimp only
  refine ⟨(serverEvents_registerAll _).trans ?_, (epoch_registerAll _).trans ?_⟩
  · split
    · exact (serverEvents_record_other _ rfl).trans hLog
    · exact hLog
  · split <;> rfl

theorem resembles_cleared (s : Session) : s.Resembles s.cleared where
  events := (serverEvents_beginShutdown _).trans (serverEvents_log s (by decide))
  epoch := congrArg (fun p => p.1.extension.epoch) (coreOf_beginShutdown (s.log restarting))

theorem epoch_reportStop (s : Session) (reply : Outcome Unit) :
    (s.reportStop reply).extension.epoch = s.extension.epoch :=
  congrArg (·.extension.epoch) (core_reportStop s reply)

theorem receive_startup {w : Wait} {reply : w.Reply} {s' : Session} (h : s.startup? w reply = some s') :
    s.receive x w reply = s'.beginStartup x ∧ s.Resembles s' ∧ w.isQuiet = false := by
  cases w with
  | restartStop epoch client =>
    obtain ⟨hEpoch, hSame⟩ := Option.ite_none_right_eq_some.mp h
    cases hSame
    have hReported := epoch_reportStop s reply
    exact ⟨if_pos (hReported.trans hEpoch), ⟨serverEvents_reportStop s reply, hReported⟩, rfl⟩
  | prompt epoch =>
    change Option (Option Nat) at reply
    match reply, h with
    | some (some 0), h =>
      obtain ⟨hEpoch, hSame⟩ := Option.ite_none_right_eq_some.mp h
      cases hSame
      exact ⟨if_pos ⟨rfl, hEpoch⟩, ⟨serverEvents_log s (by decide), rfl⟩, rfl⟩
  | _ => cases h

theorem idles_receive {w : Wait} {reply : w.Reply} (hNone : s.startup? w reply = none)
    (hStep : w.continues = false) : s.Idles (s.receive x w reply) := by
  cases w with
  | chmod | start => cases hStep
  | staleStop client =>
    have hAsks : s.Asks (s.reportStop reply) :=
      asks_of_core (core_reportStop s reply) (serverEvents_reportStop s reply)
    exact ⟨⟨hAsks.slot, hAsks.events⟩, nofun⟩
  | deactivateStop client =>
    refine ⟨.of_eq ?_ (serverEvents_endDeactivate s reply), nofun⟩
    intro client hSlot
    exact (congrArg (·.extension.slot) (core_endDeactivate s reply)).symm.trans hSlot
  | restartStop epoch client =>
    have hEpoch : (s.reportStop reply).extension.epoch ≠ epoch := by
      intro hSame
      rw [startup?, if_pos ((epoch_reportStop s reply).symm.trans hSame)] at hNone
      cases hNone
    have hReceive : s.receive x (.restartStop epoch client) reply = (s.reportStop reply, none) :=
      if_neg hEpoch
    rw [hReceive]
    exact ⟨asks_of_core (core_reportStop s reply) (serverEvents_reportStop s reply), nofun⟩
  | prompt epoch =>
    change Option (Option Nat) at reply
    have hLeft : ¬ (reply = some (some 0) ∧ s.extension.epoch = epoch) := by
      rintro ⟨rfl, hSame⟩
      rw [startup?, if_pos hSame] at hNone
      cases hNone
    have hReceive : s.receive x (.prompt epoch) reply = (s, none) := if_neg hLeft
    rw [hReceive]
    exact idles_same s
  | formatter mix f =>
    exact ⟨asks_of_core (core_applyFormatter s f reply) (serverEvents_applyFormatter s f reply), nofun⟩
  | serverEdits f =>
    exact ⟨asks_of_core (core_applyServerEdits s f reply) (serverEvents_applyServerEdits s f reply),
      nofun⟩
  | references =>
    exact ⟨asks_of_core (core_showReferences s reply) (serverEvents_showReferences s reply), nofun⟩
  | other number editor => exact idles_same s

end Session

namespace Stage

variable {x : Surroundings} {g : Stage} {m : Move}

/-! ## Moves that begin a startup, and moves that do not -/

/-- The session in which a move begins to start the server, if it does: an activation of an inactive
extension, a restart without a client that has to stop first, and an operation that goes on to it. -/
def startup? (x : Surroundings) (g : Stage) : Move → Option Session
  | .activate => if g.session.extension.phase = .inactive then some (g.session.equipped x) else none
  | .restart => if g.session.extension.slot = none then some g.session.cleared else none
  | .invoke hub id _ =>
    if ((g.session.hubs[hub]?).getD {}).commands.handler? id = some (.own .restart) ∧
        g.session.alive = true ∧ g.session.extension.slot = none then
      some g.session.cleared
    else none
  | .reply number answer =>
    (g.waiting[number]?).bind fun t => (g.session.resumed t.wait).startup? t.wait (answer t.wait)
  | _ => none

/-- The operations that wait apart from the one that a move replies to. -/
def others (g : Stage) : Move → List Suspended
  | .reply number _ => g.waiting.eraseIdx number
  | _ => g.waiting

/-- Whether a move is the reply with which a startup goes on. -/
def continues (g : Stage) : Move → Bool
  | .reply number _ => (g.waiting[number]?).any fun t => t.wait.continues
  | _ => false

theorem core_resumed (s : Session) (w : Wait) : (s.resumed w).core = s.core := by
  unfold Session.resumed
  split <;> rfl

theorem resembles_resumed (s : Session) (w : Wait) : s.Resembles (s.resumed w) := by
  unfold Session.resumed
  split <;> exact ⟨rfl, rfl⟩

theorem runHandler_restart (x : Surroundings) (s : Session) (hAlive : s.alive = true) (editor : Nat) :
    s.runHandler x (.own .restart) editor = s.beginRestart x := if_pos hAlive

/-- The reply to an operation that does not wait for a handler or for an answer about a document. -/
theorem play_loud (hOrderly : g.Orderly) {number : Nat} {t : Suspended}
    (ht : g.waiting[number]? = some t) (hLoud : t.wait.isQuiet = false)
    (answer : (w : Wait) → w.Reply) :
    g.play x (.reply number answer) = after (g.others (.reply number answer))
      (Session.settle x ((g.session.resumed t.wait).receive x t.wait (answer t.wait)) .nothing) := by
  have hRest : t.rest = .nothing := by
    rcases (hOrderly.mild t (List.mem_of_getElem? ht)).wait with hNothing | hQuiet
    · exact hNothing
    · rw [hLoud] at hQuiet
      cases hQuiet
  unfold play
  dsimp only
  rw [ht]
  change after (g.waiting.eraseIdx number)
    (Session.settle x ((g.session.resumed t.wait).receive x t.wait (answer t.wait)) t.rest) = _
  rw [hRest]
  rfl

/-- A move that begins a startup does nothing else. -/
theorem play_startup (hOrderly : g.Orderly) {s : Session} (h : g.startup? x m = some s) :
    g.play x m = after (g.others m) (Session.settle x (s.beginStartup x) .nothing) ∧
      g.session.Resembles s := by
  cases m with
  | activate =>
    obtain ⟨hPhase, hSame⟩ := Option.ite_none_right_eq_some.mp h
    cases hSame
    refine ⟨?_, Session.resembles_equipped x g.session⟩
    unfold play Session.activate
    dsimp only
    rw [Session.beginActivate_equipped x hPhase]
    rfl
  | restart =>
    obtain ⟨hAbsent, hSame⟩ := Option.ite_none_right_eq_some.mp h
    cases hSame
    refine ⟨?_, Session.resembles_cleared g.session⟩
    unfold play Session.restart
    dsimp only
    rw [Session.beginRestart_absent x g.session hAbsent]
    rfl
  | invoke hub id editor =>
    obtain ⟨⟨hHandler, hAlive, hAbsent⟩, hSame⟩ := Option.ite_none_right_eq_some.mp h
    cases hSame
    refine ⟨?_, Session.resembles_cleared g.session⟩
    unfold play Session.invoke
    dsimp only
    rw [hHandler]
    dsimp only
    rw [runHandler_restart x g.session hAlive, Session.beginRestart_absent x g.session hAbsent]
    rfl
  | reply number answer =>
    obtain ⟨t, ht, hBegins⟩ := Option.bind_eq_some_iff.mp h
    obtain ⟨hReceive, hResembles, hLoud⟩ := Session.receive_startup (x := x) hBegins
    have hResumed := resembles_resumed g.session t.wait
    refine ⟨?_, ⟨hResembles.events.trans hResumed.events, hResembles.epoch.trans hResumed.epoch⟩⟩
    rw [play_loud hOrderly ht hLoud answer, hReceive]
  | _ => cases h

/-- What a stage is after an operation that has nothing left to do. -/
theorem session_settle_nothing (x : Surroundings) (waiting : List Suspended)
    (r : Session × Option Wait) :
    (after waiting (Session.settle x r .nothing)).session.serverEvents = r.1.serverEvents ∧
      (after waiting (Session.settle x r .nothing)).session.extension = r.1.extension ∧
      (after waiting (Session.settle x r .nothing)).waits =
        waiting.map Suspended.wait ++ r.2.toList := by
  refine ⟨?_, congrArg Core.extension (after_settle_nothing x waiting r).1, ?_⟩
  · rw [session_after]
    obtain ⟨s, _ | w⟩ := r
    · rfl
    · exact Session.serverEvents_suspend s w .nothing
  · unfold waits
    rw [(after_settle_nothing x waiting r).2, List.map_append]
    obtain ⟨s, _ | w⟩ := r <;> rfl

/-- What a move leaves that starts no server. -/
structure Idles (x : Surroundings) (g : Stage) (m : Move) : Prop where
  asks : g.session.Asks (g.play x m).session
  waits : ∃ w : Option Wait, (g.play x m).waits = (g.others m).map Suspended.wait ++ w.toList ∧
    ∀ w' ∈ w, w'.inStartup = false

theorem idles_after (waiting : List Suspended) {r : Session × Option Wait} (hr : g.session.Idles r)
    {rest : Rest} (hOther : .own .restart ∉ rest.handlers) :
    g.session.Asks (after waiting (Session.settle x r rest)).session ∧
      ∃ w : Option Wait, (after waiting (Session.settle x r rest)).waits =
        waiting.map Suspended.wait ++ w.toList ∧ ∀ w' ∈ w, w'.inStartup = false := by
  have hSettle := Session.idles_settle (x := x) hr hOther
  refine ⟨?_, _, waits_after _ _, hSettle.wait⟩
  rw [session_after]
  exact hSettle.asks

/-- A move that begins with a step which starts no server and with handlers which do not restart it. -/
theorem idles_of_settle {r : Session × Option Wait} (rest : Rest) (hr : g.session.Idles r)
    (hOther : .own .restart ∉ rest.handlers) (hOthers : g.others m = g.waiting)
    (hPlay : g.play x m = after g.waiting (Session.settle x r rest)) : g.Idles x m := by
  obtain ⟨hAsks, hWaits⟩ := idles_after (x := x) g.waiting hr hOther
  rw [← hPlay] at hAsks
  rw [← hPlay, ← hOthers] at hWaits
  exact ⟨hAsks, hWaits⟩

/-- A move that leaves all operations waiting. -/
theorem idles_of_withSession {s : Session} (hOthers : g.others m = g.waiting)
    (hPlay : g.play x m = g.withSession s) (hAsks : g.session.Asks s) : g.Idles x m := by
  refine ⟨?_, none, ?_, nofun⟩
  · rw [hPlay]
    exact hAsks
  · rw [hPlay, hOthers]
    exact (List.append_nil _).symm

theorem idles_activate (hNone : g.startup? x .activate = none) : g.Idles x .activate := by
  have hPhase : g.session.extension.phase ≠ .inactive := by
    intro hInactive
    rw [startup?, if_pos hInactive] at hNone
    cases hNone
  have hBegin : g.session.beginActivate x = (g.session, none) := if_pos hPhase
  refine idles_of_settle .nothing (Session.idles_same g.session) List.not_mem_nil rfl ?_
  rw [← hBegin]
  rfl

theorem idles_restart (hNone : g.startup? x .restart = none) : g.Idles x .restart := by
  cases hSlot : g.session.extension.slot with
  | none =>
    rw [startup?, if_pos hSlot] at hNone
    cases hNone
  | some client =>
    have hIdles := Session.idles_beginRestart x g.session hSlot
    exact idles_of_settle .nothing hIdles List.not_mem_nil rfl rfl

theorem idles_invoke {hub : Nat} {id : String} {editor : Nat}
    (hNone : g.startup? x (.invoke hub id editor) = none) : g.Idles x (.invoke hub id editor) := by
  cases hHandler : ((g.session.hubs[hub]?).getD {}).commands.handler? id with
  | none =>
    refine idles_of_withSession rfl ?_ (.refl g.session)
    unfold play Session.invoke
    dsimp only
    rw [hHandler]
    rfl
  | some h =>
    have hPlay : g.play x (.invoke hub id editor) =
        after g.waiting (Session.settle x (g.session.runHandler x h editor) .nothing) := by
      unfold play Session.invoke
      dsimp only
      rw [hHandler]
    refine idles_of_settle .nothing ?_ List.not_mem_nil rfl hPlay
    by_cases hRestart : h = .own .restart
    · subst hRestart
      unfold Session.runHandler
      dsimp only
      split
      · rename_i hAlive
        cases hSlot : g.session.extension.slot with
        | none =>
          rw [startup?, if_pos ⟨hHandler, hAlive, hSlot⟩] at hNone
          cases hNone
        | some client => exact Session.idles_beginRestart x g.session hSlot
      · exact Session.idles_same g.session
    · exact Session.idles_runHandler x g.session hRestart editor

theorem idles_prompt (x : Surroundings) (g : Stage) : g.Idles x .prompt := by
  cases hPrompts : g.session.prompts with
  | nil =>
    refine idles_of_withSession (s := g.session) rfl ?_ (.refl _)
    unfold play Session.runPrompt
    dsimp only
    rw [hPrompts]
    rfl
  | cons reason rest =>
    have hIdles := Session.idles_beginPrompt g.session rest reason
    refine idles_of_settle .nothing hIdles List.not_mem_nil rfl ?_
    unfold play Session.runPrompt
    dsimp only
    rw [hPrompts]

theorem idles_reply (hOrderly : g.Orderly) {number : Nat} {answer : (w : Wait) → w.Reply}
    (hNone : g.startup? x (.reply number answer) = none)
    (hContinues : g.continues (.reply number answer) = false) : g.Idles x (.reply number answer) := by
  cases ht : g.waiting[number]? with
  | none =>
    have hPlay : g.play x (.reply number answer) = g := by
      unfold play
      dsimp only
      rw [ht]
    have hSame : g.waiting.eraseIdx number = g.waiting :=
      List.eraseIdx_of_length_le (List.getElem?_eq_none_iff.mp ht)
    exact idles_of_withSession (s := g.session) hSame hPlay (.refl g.session)
  | some t =>
    have hPlay : g.play x (.reply number answer) = after (g.waiting.eraseIdx number)
        (Session.settle x ((g.session.resumed t.wait).receive x t.wait (answer t.wait)) t.rest) := by
      unfold play
      dsimp only
      rw [ht]
      rfl
    have hNone' : (g.session.resumed t.wait).startup? t.wait (answer t.wait) = none := by
      rw [startup?, ht] at hNone
      exact hNone
    have hContinues' : t.wait.continues = false := by
      rw [continues, ht] at hContinues
      exact hContinues
    have hReceive := Session.idles_receive (x := x) hNone' hContinues'
    have hAsks : g.session.Asks (g.session.resumed t.wait) :=
      Session.asks_of_core (core_resumed g.session t.wait) (resembles_resumed g.session t.wait).events
    have hGoesOn : g.session.Idles ((g.session.resumed t.wait).receive x t.wait (answer t.wait)) :=
      ⟨hAsks.trans hReceive.asks, hReceive.wait⟩
    obtain ⟨hLast, hWaits⟩ := idles_after (x := x) (g.waiting.eraseIdx number) hGoesOn
      (hOrderly.mild t (List.mem_of_getElem? ht)).handlers
    rw [← hPlay] at hLast hWaits
    exact ⟨hLast, hWaits⟩

/-- **A move that neither begins a startup nor goes on with one starts no server.** -/
theorem idles_play (hOrderly : g.Orderly) (hNone : g.startup? x m = none)
    (hContinues : g.continues m = false) : g.Idles x m := by
  cases m with
  | activate => exact idles_activate hNone
  | deactivate =>
    have hIdles := Session.idles_beginDeactivate g.session
    exact idles_of_settle .nothing hIdles List.not_mem_nil rfl rfl
  | restart => exact idles_restart hNone
  | invoke hub id editor => exact idles_invoke hNone
  | addEditor hub editor =>
    exact idles_of_settle (.dispatch editor _) (Session.idles_same g.session)
      (hOrderly.attributed.restart_notMem_editorAdded hub) rfl rfl
  | save editor =>
    exact idles_of_settle (.save editor _) (Session.idles_same g.session)
      (hOrderly.attributed.restart_notMem_willSave editor) rfl rfl
  | serverStopped client reason =>
    refine idles_of_withSession rfl rfl (.of_eq ?_ ?_)
    · unfold Session.serverStopped
      dsimp only
      split <;> exact fun _ h => h
    · unfold Session.serverStopped
      dsimp only
      split <;> rfl
  | prompt => exact idles_prompt x g
  | reply number answer => exact idles_reply hOrderly hNone hContinues
  | edit editor e replacement =>
    exact idles_of_withSession rfl rfl
      (Session.asks_of_core (Session.core_edit _ _ _ _) (Session.serverEvents_edit _ _ _ _))
  | dispose r =>
    have hCore := Session.core_dispose g.session r
    refine idles_of_withSession rfl rfl (.of_eq ?_ (Session.serverEvents_dispose _ r))
    exact fun _ hSlot => (congrArg (·.extension.slot) hCore).symm.trans hSlot
  | openEditor | register | onEditorAdded | onWillSave | changeSettings | changeFiles =>
    exact idles_of_withSession rfl rfl ⟨fun _ h => h, (Session.Asks.refl g.session).events⟩

/-! ## The turns of startups -/

theorem length_waiting_play {w : Option Wait}
    (hWaits : (g.play x m).waits = (g.others m).map Suspended.wait ++ w.toList) :
    (g.play x m).waiting.length = (g.others m).length + w.toList.length := by
  have hCount := congrArg List.length hWaits
  unfold waits at hCount
  rw [List.length_append, List.length_map, List.length_map] at hCount
  exact hCount

/-- The events of the server that a move records. -/
def reported (x : Surroundings) (g : Stage) (m : Move) : List Event :=
  (g.play x m).session.serverEvents.drop g.session.serverEvents.length

/-- A move adds events of the server to the record. -/
def Records (x : Surroundings) (g : Stage) (m : Move) (events : List Event) : Prop :=
  (g.play x m).session.serverEvents = g.session.serverEvents ++ events

theorem Records.reported {events : List Event} (h : g.Records x m events) :
    g.reported x m = events := by
  unfold Stage.reported
  rw [h, List.drop_left]

/-- What the operation waits for that a move replies to. -/
def answered (g : Stage) : Move → Option Wait
  | .reply number _ => (g.waiting[number]?).map Suspended.wait
  | _ => none

/-- Whether the scripts were made executable with a move. -/
def executableBy (g : Stage) : Move → Bool
  | .reply number answer => (g.waiting[number]?).any fun t => t.wait.executable (answer t.wait)
  | _ => false

/-- A startup begun in an epoch ends with a move, after the move recorded some events. -/
structure EndsBy (x : Surroundings) (g : Stage) (m : Move) (epoch : Nat) (prior : List Event)
    (line : Event) (phase : Phase) : Prop where
  current : g.epoch = epoch → (g.play x m).waits = (g.others m).map Suspended.wait ∧
    (g.play x m).session.extension.phase = phase ∧ g.Records x m (prior ++ [line])
  overtaken : g.epoch ≠ epoch → (∃ w : Option Wait,
      (g.play x m).waits = (g.others m).map Suspended.wait ++ w.toList ∧
      ∀ w' ∈ w, ∃ client, w' = .staleStop client) ∧ g.Records x m prior

theorem endsBy_of_ends {s : Session} {r : Session × Option Wait} {epoch : Nat} {prior : List Event}
    {line : Event} {phase : Phase} (hResembles : g.session.Resembles s)
    (hPlay : g.play x m = after (g.others m) (Session.settle x r .nothing))
    (hEnds : s.Ends epoch prior line phase r) : g.EndsBy x m epoch prior line phase := by
  obtain ⟨hEvents, hExtension, hWaits⟩ := session_settle_nothing x (g.others m) r
  rw [← hPlay] at hEvents hExtension hWaits
  refine ⟨?_, ?_⟩
  · intro hEpoch
    obtain ⟨hNone, hPhase, hLine⟩ := hEnds.current (hResembles.epoch.trans hEpoch)
    refine ⟨?_, (congrArg Extension.phase hExtension).trans hPhase, ?_⟩
    · rw [hWaits, hNone]
      exact List.append_nil _
    · rw [Records, hEvents, hLine, hResembles.events, List.append_assoc]
  · intro hEpoch
    obtain ⟨hStale, hPrior⟩ := hEnds.overtaken fun h => hEpoch (hResembles.epoch.symm.trans h)
    refine ⟨⟨r.2, hWaits, hStale⟩, ?_⟩
    rw [Records, hEvents, hPrior, hResembles.events]

/-- What a move is for the startups of a run. -/
inductive Turn (x : Surroundings) (g : Stage) (m : Move) : Prop where
  /-- A startup begins and waits for its scripts. -/
  | listed {s : Session} {scripts : List String} (hBegins : g.startup? x m = some s)
      (hListed : s.launchScripts x = .ok scripts)
      (hWaits : (g.play x m).waits = (g.others m).map Suspended.wait ++ [.chmod g.epoch])
      (hRecords : g.Records x m [.process (Startup.makeExecutable scripts)]) : Turn x g m
  /-- A startup begins and finds no scripts. -/
  | unlisted {s : Session} {line : Event} (hBegins : g.startup? x m = some s)
      (hLine : line.isScriptFailure = true) (hEnds : g.EndsBy x m g.epoch [] line .inactive) :
      Turn x g m
  /-- The scripts are not made executable. -/
  | refused {epoch : Nat} {line : Event} (hAnswered : g.answered m = some (.chmod epoch))
      (hFailed : g.executableBy m = false) (hLine : line.isScriptFailure = true)
      (hEnds : g.EndsBy x m epoch [] line .inactive) : Turn x g m
  /-- The scripts are executable, and no client is made. -/
  | unmade {epoch : Nat} {line : Event} (hAnswered : g.answered m = some (.chmod epoch))
      (hDone : g.executableBy m = true) (hLine : line.isStartFailure = true)
      (hEnds : g.EndsBy x m epoch [Session.creation x] line .inactive) : Turn x g m
  /-- The scripts are executable, and the client starts. -/
  | made {epoch client : Nat} (hAnswered : g.answered m = some (.chmod epoch))
      (hDone : g.executableBy m = true)
      (hWaits : (g.play x m).waits = (g.others m).map Suspended.wait ++ [.start epoch client])
      (hRecords : g.Records x m [Session.creation x, .start client]) : Turn x g m
  /-- The client has started. -/
  | running {epoch client : Nat} (hAnswered : g.answered m = some (.start epoch client))
      (hStarted : g.startedBy m = some client)
      (hEnds : g.EndsBy x m epoch [] (.log "Activated") .running) : Turn x g m
  /-- The client has not started. -/
  | failed {epoch client : Nat} {line : Event} (hAnswered : g.answered m = some (.start epoch client))
      (hNone : g.startedBy m = none) (hLine : line.isStartFailure = true)
      (hEnds : g.EndsBy x m epoch [] line .inactive) : Turn x g m
  /-- The client has stopped that a startup took because it was overtaken. -/
  | stopped {client : Nat} (hAnswered : g.answered m = some (.staleStop client))
      (hWaits : (g.play x m).waits = (g.others m).map Suspended.wait)
      (hIdles : g.Idles x m) : Turn x g m
  /-- Nothing happens to a startup. -/
  | idle (hAnswered : ∀ w ∈ g.answered m, w.inStartup = false) (hNone : g.startup? x m = none)
      (hIdles : g.Idles x m) : Turn x g m

theorem answered_reply {number : Nat} {t : Suspended} (ht : g.waiting[number]? = some t)
    (answer : (w : Wait) → w.Reply) : g.answered (.reply number answer) = some t.wait := by
  rw [answered, ht]
  rfl

/-- A startup begins with a move, or fails to. -/
theorem turn_startup (hOrderly : g.Orderly) {s : Session} (hBegins : g.startup? x m = some s) :
    g.Turn x m := by
  obtain ⟨hPlay, hResembles⟩ := play_startup hOrderly hBegins
  cases Session.launches_beginStartup x s with
  | refused hLine hEnds =>
    refine .unlisted hBegins hLine (endsBy_of_ends hResembles hPlay ?_)
    rw [show g.epoch = s.extension.epoch from hResembles.epoch.symm]
    exact hEnds
  | listed hListed hWait hEvents =>
    obtain ⟨hRecorded, -, hWaits⟩ := session_settle_nothing x (g.others m) (s.beginStartup x)
    rw [← hPlay] at hRecorded hWaits
    refine .listed hBegins hListed ?_ ?_
    · rw [hWaits, hWait, hResembles.epoch]
      rfl
    · rw [Records, hRecorded, hEvents, hResembles.events]

/-- A startup goes on when its scripts are executable or not. -/
theorem turn_chmod (hOrderly : g.Orderly) {number epoch : Nat} {rest : Rest}
    (ht : g.waiting[number]? = some ⟨.chmod epoch, rest⟩) (answer : (w : Wait) → w.Reply) :
    g.Turn x (.reply number answer) := by
  have hPlay := play_loud (x := x) hOrderly ht rfl answer
  have hAnswered := answered_reply ht answer
  have hResembles := resembles_resumed g.session (.chmod epoch)
  have hExecutable : g.executableBy (.reply number answer) =
      Wait.executable (.chmod epoch) (answer (.chmod epoch)) := by
    rw [executableBy, ht]
    rfl
  cases Session.proceeds_scriptsExecutable x (g.session.resumed (.chmod epoch)) epoch
    (answer (.chmod epoch)) with
  | refused hLine hFailed hEnds =>
    exact .refused hAnswered (hExecutable.trans hFailed) hLine (endsBy_of_ends hResembles hPlay hEnds)
  | unmade hLine hDone hEnds =>
    exact .unmade hAnswered (hExecutable.trans hDone) hLine (endsBy_of_ends hResembles hPlay hEnds)
  | @made client hDone hWait hEvents =>
    obtain ⟨hRecorded, -, hWaits⟩ := session_settle_nothing x (g.others (.reply number answer))
      ((g.session.resumed (.chmod epoch)).receive x (.chmod epoch) (answer (.chmod epoch)))
    rw [← hPlay] at hRecorded hWaits
    have hMade : g.Records x (.reply number answer) [Session.creation x, .start client] := by
      refine hRecorded.trans (hEvents.trans ?_)
      exact congrArg (· ++ _) hResembles.events
    refine .made hAnswered (hExecutable.trans hDone) (hWaits.trans ?_) hMade
    exact congrArg (_ ++ Option.toList ·) hWait

/-- A startup ends when its client has started or not. -/
theorem turn_start (hOrderly : g.Orderly) {number epoch client : Nat} {rest : Rest}
    (ht : g.waiting[number]? = some ⟨.start epoch client, rest⟩) (answer : (w : Wait) → w.Reply) :
    g.Turn x (.reply number answer) := by
  have hPlay := play_loud (x := x) hOrderly ht rfl answer
  have hAnswered := answered_reply ht answer
  have hResembles := resembles_resumed g.session (.start epoch client)
  have hStartedBy := startedBy_reply_some ht answer
  cases Session.finishes_clientStarted (g.session.resumed (.start epoch client)) epoch client
    (answer (.start epoch client)) with
  | running hStarted hEnds =>
    obtain ⟨c, hc⟩ := Option.isSome_iff_exists.mp hStarted
    have hSame := Wait.starting?_of_started? hc
    cases hSame
    exact .running hAnswered (hStartedBy.trans hc) (endsBy_of_ends hResembles hPlay hEnds)
  | failed hLine hNone hEnds =>
    exact .failed hAnswered (hStartedBy.trans hNone) hLine (endsBy_of_ends hResembles hPlay hEnds)

theorem continues_of_answered (hNone : ∀ w ∈ g.answered m, w.continues = false) :
    g.continues m = false := by
  cases m with
  | reply number answer =>
    cases ht : g.waiting[number]? with
    | none => rw [continues, ht, Option.any_none]
    | some t =>
      rw [answered, ht] at hNone
      rw [continues, ht]
      exact hNone t.wait rfl
  | _ => rfl

theorem startup?_of_answered {number : Nat} {answer : (w : Wait) → w.Reply} {t : Suspended}
    (ht : g.waiting[number]? = some t) (hStep : t.wait.inStartup = true) :
    g.startup? x (.reply number answer) = none := by
  obtain ⟨w, rest⟩ := t
  rw [startup?, ht]
  cases w <;> first | rfl | cases hStep

/-- A move that answers nothing that a startup waits for. -/
theorem turn_other (hOrderly : g.Orderly) (hAnswered : ∀ w ∈ g.answered m, w.inStartup = false) :
    g.Turn x m := by
  cases hBegins : g.startup? x m with
  | some s => exact turn_startup hOrderly hBegins
  | none =>
    refine .idle hAnswered hBegins (idles_play hOrderly hBegins (continues_of_answered ?_))
    intro w hw
    have hOutside := hAnswered w hw
    cases w <;> first | rfl | cases hOutside

/-- **Every move is one of the turns of startups.** -/
theorem turn_play (hOrderly : g.Orderly) (x : Surroundings) (m : Move) : g.Turn x m := by
  cases m with
  | reply number answer =>
    cases ht : g.waiting[number]? with
    | none =>
      refine turn_other hOrderly ?_
      rw [answered, ht]
      exact nofun
    | some t =>
      have hAnswered := answered_reply ht answer
      obtain ⟨w, rest⟩ := t
      cases w with
      | chmod epoch => exact turn_chmod hOrderly ht answer
      | start epoch client => exact turn_start hOrderly ht answer
      | staleStop client =>
        have hNone : g.startup? x (.reply number answer) = none := startup?_of_answered ht rfl
        have hContinues : g.continues (.reply number answer) = false := by
          refine continues_of_answered ?_
          rw [hAnswered]
          rintro w ⟨⟩
          rfl
        obtain ⟨-, -, hWaits⟩ := session_settle_nothing x (g.others (.reply number answer))
          ((g.session.resumed (.staleStop client)).receive x (.staleStop client)
            (answer (.staleStop client)))
        rw [← play_loud hOrderly ht rfl answer] at hWaits
        exact .stopped hAnswered (hWaits.trans (List.append_nil _))
          (idles_play hOrderly hNone hContinues)
      | deactivateStop | restartStop | prompt | formatter | serverEdits | references | other =>
        refine turn_other hOrderly ?_
        rw [hAnswered]
        rintro w ⟨⟩
        rfl
  | _ => exact turn_other hOrderly nofun

theorem EndsBy.records {epoch : Nat} {prior : List Event} {line : Event} {phase : Phase}
    (h : g.EndsBy x m epoch prior line phase) :
    g.Records x m (prior ++ if g.epoch = epoch then [line] else []) := by
  split
  · rename_i hEpoch
    exact (h.current hEpoch).2.2
  · rename_i hEpoch
    rw [List.append_nil]
    exact (h.overtaken hEpoch).2

/-- What is recorded with the end of a startup: the line in the epoch in which it began only. -/
theorem EndsBy.mem_reported {epoch : Nat} {prior : List Event} {line e : Event} {phase : Phase}
    (h : g.EndsBy x m epoch prior line phase) (he : e ∈ g.reported x m) :
    e ∈ prior ∨ g.epoch = epoch ∧ e = line := by
  rw [h.records.reported] at he
  refine (List.mem_append.mp he).imp_right ?_
  intro hLine
  split at hLine
  · rename_i hEpoch
    exact ⟨hEpoch, List.mem_singleton.mp hLine⟩
  · cases hLine

theorem Idles.records (h : g.Idles x m) : ∃ asked, g.Records x m asked ∧ ∀ e ∈ asked, ∃ client,
    e.requestOf? = some client ∧ g.session.extension.slot = some client := h.asks.events

theorem Idles.reported (h : g.Idles x m) : ∀ e ∈ g.reported x m, ∃ client,
    e.requestOf? = some client ∧ g.session.extension.slot = some client := by
  obtain ⟨asked, hRecords, hAsked⟩ := h.records
  rw [hRecords.reported]
  exact hAsked

theorem records_play (hOrderly : g.Orderly) (x : Surroundings) (m : Move) :
    g.Records x m (g.reported x m) := by
  have hSame : ∀ {events : List Event}, g.Records x m events → g.Records x m (g.reported x m) := by
    intro events hRecords
    rw [hRecords.reported]
    exact hRecords
  cases turn_play hOrderly x m with
  | listed _ _ _ hRecords | made _ _ _ hRecords => exact hSame hRecords
  | unlisted _ _ hEnds | refused _ _ _ hEnds | unmade _ _ _ hEnds | running _ _ hEnds
  | failed _ _ _ hEnds => exact hSame hEnds.records
  | stopped _ _ hIdles | idle _ _ hIdles =>
    obtain ⟨asked, hRecords, -⟩ := hIdles.records
    exact hSame hRecords

end Stage

end ExtensionHost
