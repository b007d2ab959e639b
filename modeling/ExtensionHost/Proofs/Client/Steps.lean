import ExtensionHost.Client.Schedule
import Mathlib.Data.List.Induction

/-!
# What a client's steps do

`Advances` says once what a step of a call can do: from which point it goes to which, under what condition,
and what it changes in the client. `Reads` says the same of a step of a reader. What is said in the log and
the capabilities of a server are left open. `plays_play` gives these facts for the moves of a schedule, and
`follows_play` says what a move does to one call.
-/

namespace ExtensionHost.Client

/-! ## Runs -/

theorem length_runs_modifyRun (c : Client) (r : Nat) (f : Run → Run) :
    (c.modifyRun r f).runs.length = c.runs.length := List.length_modify ..

theorem run_modifyRun (c : Client) (r s : Nat) (f : Run → Run) :
    (c.modifyRun r f).run s = if s = r ∧ s < c.runs.length then f (c.run s) else c.run s := by
  unfold run modifyRun
  rw [List.getElem?_modify]
  by_cases hs : s < c.runs.length
  · rw [List.getElem?_eq_getElem hs]
    by_cases hr : r = s
    · simp [hr, hs]
    · simp [hr, Ne.symm hr]
  · rw [List.getElem?_eq_none (Nat.le_of_not_lt hs)]
    simp [hs]

theorem run_modifyRun_self {c : Client} {r : Nat} (h : r < c.runs.length) (f : Run → Run) :
    (c.modifyRun r f).run r = f (c.run r) := by
  rw [run_modifyRun, if_pos ⟨rfl, h⟩]

theorem run_modifyRun_of_ne (c : Client) {r s : Nat} (h : r ≠ s) (f : Run → Run) :
    (c.modifyRun r f).run s = c.run s := by
  rw [run_modifyRun, if_neg fun hSame => h hSame.1.symm]

/-- A change of a run leaves alone what it leaves alone in every run. -/
theorem congr_run_modifyRun {α : Type} (part : Run → α) (c : Client) (r s : Nat) {f : Run → Run}
    (hf : ∀ y, part (f y) = part y) : part ((c.modifyRun r f).run s) = part (c.run s) := by
  rw [run_modifyRun]
  split
  · exact hf _
  · rfl

theorem run_eq {c : Client} {r : Nat} {y : Run} (h : c.runs[r]? = some y) : c.run r = y := by
  rw [run, h, Option.getD_some]

theorem getElem?_run {c : Client} {r : Nat} (h : r < c.runs.length) : c.runs[r]? = some (c.run r) := by
  rw [run, List.getElem?_eq_getElem h, Option.getD_some]

theorem run_of_le {c : Client} {r : Nat} (h : c.runs.length ≤ r) : c.run r = {} := by
  rw [run, List.getElem?_eq_none h, Option.getD_none]

theorem lt_of_run {c : Client} {r : Nat} {y : Run} (h : c.runs[r]? = some y) :
    r < c.runs.length := (List.getElem?_eq_some_iff.mp h).1

/-- A run that was launched is like one that is not there yet. -/
theorem run_launched (c : Client) (launches r : Nat) :
    ({ c with launches, runs := c.runs ++ [({} : Run)] } : Client).run r = c.run r := by
  unfold run
  rcases Nat.lt_trichotomy r c.runs.length with h | h | h
  · rw [List.getElem?_append_left h]
  · subst h
    simp
  · rw [List.getElem?_eq_none (by simp; omega), List.getElem?_eq_none (by omega)]

/-! ## Calls -/

/-- What a step of a call at a point does: the client with its changes, and where the call goes. -/
inductive Advances (x : Setup) (c : Client) : Point → Client → Point → Prop where
  | startBegun (hStatus : c.status = .notInitialized ∨ c.status = .shutdown ∨ c.status = .crashed) :
      Advances x c (.begin .start) { c with status := .initializing } (.closeChannel .forLaunch)
  | startPassed
      (hStatus : c.status = .initializing ∨ c.status = .ready ∨ c.status = .shuttingDown) :
      Advances x c (.begin .start) c (.over (.ok .null))
  | stopBegun (hStatus : c.status = .ready) :
      Advances x c (.begin .stop) { c with status := .shuttingDown } (.register .shutdown)
  | stopPassed (hStatus : c.status ≠ .ready) :
      Advances x c (.begin .stop) c (.over (.ok .null))
  | requestBegun (method : String) (params : Json) (hStatus : c.status = .ready) :
      Advances x c (.begin (.request method params)) c (.register (.call method params))
  | requestRefused (method : String) (params : Json) (hStatus : c.status ≠ .ready) :
      Advances x c (.begin (.request method params)) c
        (.over (.error (notRunning x.name c.status)))
  | channelLeft (a : Clearing) :
      Advances x c (.closeChannel a) { c with channel := none } (.takeProcess a)
  | nothingToClear (a : Clearing) (hClearing : c.clearing = false) (hProcess : c.process = none) :
      Advances x c (.takeProcess a) c (afterClearing a)
  | processTold (a : Clearing) (r : Nat) (hClearing : c.clearing = false)
      (hProcess : c.process = some r) (hAtOnce : a.atOnce = true) :
      Advances x c (.takeProcess a)
        ({ c with process := none, clearing := true }.modifyRun r fun y => { y with killed := true })
        (.awaitExit a r)
  | processLeft (a : Clearing) (r : Nat) (hClearing : c.clearing = false)
      (hProcess : c.process = some r) (hAtOnce : a.atOnce = false) :
      Advances x c (.takeProcess a) { c with process := none, clearing := true } (.awaitExit a r)
  | processEnded (a : Clearing) (r : Nat) (hExited : (c.run r).exited = true) :
      Advances x c (.awaitExit a r) { c with clearing := false } (afterClearing a)
  | launchFailed (e : HostError) (hLaunch : x.launch c.launches = .error e) :
      Advances x c .launch { c with launches := c.launches + 1 } (.closeChannel (.afterFailure e))
  | launched (hLaunch : x.launch c.launches = .ok ()) :
      Advances x c .launch
        { c with launches := c.launches + 1, runs := c.runs ++ [({} : Run)] }
        (.keepProcess c.runs.length)
  | processKept (r : Nat) (hClearing : c.clearing = false) (hProcess : c.process = none) :
      Advances x c (.keepProcess r)
        { c.modifyRun r fun y => { y with reader := .reading } with process := some r }
        (.openChannel r)
  | processReplaced (r old : Nat) (hClearing : c.clearing = false)
      (hProcess : c.process = some old) :
      Advances x c (.keepProcess r)
        { (c.modifyRun old fun y => { y with killed := true }).modifyRun r fun y =>
            { y with reader := .reading } with process := some r }
        (.openChannel r)
  | channelOpened (r : Nat) :
      Advances x c (.openChannel r) { c with channel := some r } (.register .handshake)
  | registered (p : Purpose) :
      Advances x c (.register p) { c.register c.nextId with nextId := c.nextId + 1 }
        (.send p c.nextId)
  | unsent (p : Purpose) (id : Nat) (log : List LogLine) (hChannel : c.channel = none) :
      Advances x c (.send p id) { c.unregister id with log } (afterRequest p (.error noChannel))
  | sendBegun (p : Purpose) (id r : Nat) (hChannel : c.channel = some r) :
      Advances x c (.send p id) c (.sending p id r)
  | sendFailed (p : Purpose) (id r : Nat) (log : List LogLine) (hWriting : (c.run r).writing = false) :
      Advances x c (.sending p id r) { c.unregister id with log }
        (afterRequest p (.error channelClosed))
  | sent (p : Purpose) (id r : Nat) (hWriting : (c.run r).writing = true)
      (hRoom : (c.run r).hasRoom = true) :
      Advances x c (.sending p id r) (c.push r (p.body x id)) (.waiting p id)
  | answered (p : Purpose) (id : Nat) (r : Response) (log : List LogLine)
      (capabilities : Option Json) (hResponse : c.responses.lookup id = some r) :
      Advances x c (.waiting p id) { c with log, capabilities } (afterRequest p r)
  | unnotified (n : Notice) (log : List LogLine) (hChannel : c.channel = none) :
      Advances x c (.notify n) { c with log } (afterNotice n (.error noChannel))
  | noticeBegun (n : Notice) (r : Nat) (hChannel : c.channel = some r) :
      Advances x c (.notify n) c (.notifying n r)
  | noticeFailed (n : Notice) (r : Nat) (log : List LogLine)
      (hWriting : (c.run r).writing = false) :
      Advances x c (.notifying n r) { c with log } (afterNotice n (.error channelClosed))
  | noticeSent (n : Notice) (r : Nat) (log : List LogLine) (hWriting : (c.run r).writing = true)
      (hRoom : (c.run r).hasRoom = true) :
      Advances x c (.notifying n r) { c.push r n.body with log } (afterNotice n (.ok ()))
  | channelChecked :
      Advances x c .checkChannel c (.becomeReady (c.channel.any fun r => (c.run r).writing))
  | becameReady (hStatus : c.status = .initializing) :
      Advances x c (.becomeReady true) { c with status := .ready } (.over (.ok .null))
  | exitedEarly (isOpen : Bool) (hStatus : ¬ (c.status = .initializing ∧ isOpen = true)) :
      Advances x c (.becomeReady isOpen) c
        (.closeChannel (.afterFailure (exitedEarly x.name c.status)))
  | statusSet (status : Status) (r : Response) :
      Advances x c (.setStatus status r) { c with status } (.over r)

theorem lament_eq {α : Type} (c : Client) (what : String) (r : Except HostError α) :
    ∃ log, c.lament what r = { c with log } := by
  cases r with
  | ok => exact ⟨c.log, rfl⟩
  | error e => exact ⟨_, rfl⟩

theorem endRequest_eq (c : Client) (k : Nat) (p : Purpose) (r : Response) :
    ∃ log, c.endRequest k p r = { c with log }.moveCall k (afterRequest p r) := by
  cases p with
  | shutdown =>
    obtain ⟨log, hLament⟩ := c.lament_eq "shutdown request" r
    exact ⟨log, by rw [endRequest, lamentRequest, hLament]⟩
  | handshake | call => exact ⟨c.log, rfl⟩

theorem endNotice_eq (c : Client) (k : Nat) (n : Notice) (r : Except HostError Unit) :
    ∃ log, c.endNotice k n r = { c with log }.moveCall k (afterNotice n r) := by
  cases n with
  | exit =>
    obtain ⟨log, hLament⟩ := c.lament_eq "exit notification" r
    exact ⟨log, by rw [endNotice, lamentNotice, hLament]⟩
  | initialized => exact ⟨c.log, rfl⟩

theorem keepCapabilities_eq (c : Client) (p : Purpose) (r : Response) :
    ∃ capabilities, c.keepCapabilities p r = { c with capabilities } := by
  unfold keepCapabilities
  split
  · split
    · exact ⟨_, rfl⟩
    · exact ⟨c.capabilities, rfl⟩
  · exact ⟨c.capabilities, rfl⟩

theorem advances_beginCall (x : Setup) (c : Client) (k : Nat) (op : Operation) :
    ∃ d q, Advances x c (.begin op) d q ∧ c.beginCall x k op = d.moveCall k q := by
  cases op with
  | start =>
    unfold beginCall
    dsimp only
    split
    · exact ⟨_, _, .startBegun (.inl ‹_›), rfl⟩
    · exact ⟨_, _, .startBegun (.inr (.inl ‹_›)), rfl⟩
    · exact ⟨_, _, .startBegun (.inr (.inr ‹_›)), rfl⟩
    · refine ⟨_, _, .startPassed ?_, rfl⟩
      cases hStatus : c.status <;> simp_all
  | stop =>
    unfold beginCall
    dsimp only
    split
    · exact ⟨_, _, .stopBegun ‹_›, rfl⟩
    · exact ⟨_, _, .stopPassed ‹_›, rfl⟩
  | request method params =>
    unfold beginCall
    dsimp only
    split
    · exact ⟨_, _, .requestBegun method params ‹_›, rfl⟩
    · exact ⟨_, _, .requestRefused method params ‹_›, rfl⟩

theorem advances_stepPoint {x : Setup} {c c' : Client} {k : Nat} {p : Point}
    (h : c.stepPoint x k p = some c') :
    ∃ d q, Advances x c p d q ∧ c' = d.moveCall k q := by
  cases p with
  | begin op =>
    cases h
    exact advances_beginCall x c k op
  | closeChannel a =>
    cases h
    exact ⟨_, _, .channelLeft a, rfl⟩
  | takeProcess a =>
    unfold stepPoint at h
    dsimp only at h
    split at h
    · cases h
    rename_i hClearing
    have hFree : c.clearing = false := Bool.eq_false_iff.mpr hClearing
    split at h
    · cases h
      exact ⟨_, _, .nothingToClear a hFree ‹_›, rfl⟩
    · cases h
      cases hAtOnce : a.atOnce with
      | true => exact ⟨_, _, .processTold a _ hFree ‹_› hAtOnce, rfl⟩
      | false => exact ⟨_, _, .processLeft a _ hFree ‹_› hAtOnce, rfl⟩
  | awaitExit a r =>
    unfold stepPoint at h
    dsimp only at h
    split at h
    · cases h
      exact ⟨_, _, .processEnded a r ‹_›, rfl⟩
    · cases h
  | launch =>
    unfold stepPoint at h
    dsimp only at h
    split at h
    · cases h
      exact ⟨_, _, .launchFailed _ ‹_›, rfl⟩
    · cases h
      exact ⟨_, _, .launched ‹_›, rfl⟩
  | keepProcess r =>
    unfold stepPoint at h
    dsimp only at h
    split at h
    · cases h
    rename_i hClearing
    have hFree : c.clearing = false := Bool.eq_false_iff.mpr hClearing
    cases hProcess : c.process with
    | none =>
      simp only [hProcess] at h
      cases h
      exact ⟨_, _, .processKept r hFree hProcess, rfl⟩
    | some old =>
      simp only [hProcess] at h
      cases h
      exact ⟨_, _, .processReplaced r old hFree hProcess, rfl⟩
  | openChannel r =>
    cases h
    exact ⟨_, _, .channelOpened r, rfl⟩
  | register p =>
    cases h
    exact ⟨_, _, .registered p, rfl⟩
  | send p id =>
    unfold stepPoint at h
    dsimp only at h
    split at h
    · cases h
      obtain ⟨log, hEnd⟩ := (c.unregister id).endRequest_eq k p (.error noChannel)
      exact ⟨_, _, .unsent p id log ‹_›, hEnd⟩
    · cases h
      exact ⟨_, _, .sendBegun p id _ ‹_›, rfl⟩
  | sending p id r =>
    unfold stepPoint at h
    dsimp only at h
    split at h
    · rename_i hWriting
      cases h
      obtain ⟨log, hEnd⟩ := (c.unregister id).endRequest_eq k p (.error channelClosed)
      exact ⟨_, _, .sendFailed p id r log (by simpa using hWriting), hEnd⟩
    rename_i hWriting
    split at h
    · cases h
      exact ⟨_, _, .sent p id r (by simpa using hWriting) ‹_›, rfl⟩
    · cases h
  | waiting p id =>
    unfold stepPoint at h
    dsimp only at h
    split at h
    · rename_i r hResponse
      cases h
      obtain ⟨capabilities, hKeep⟩ := c.keepCapabilities_eq p r
      obtain ⟨log, hEnd⟩ := (c.keepCapabilities p r).endRequest_eq k p r
      refine ⟨_, _, .answered p id r log capabilities hResponse, ?_⟩
      rw [hEnd, hKeep]
    · cases h
  | notify n =>
    unfold stepPoint at h
    dsimp only at h
    split at h
    · cases h
      obtain ⟨log, hEnd⟩ := c.endNotice_eq k n (.error noChannel)
      exact ⟨_, _, .unnotified n log ‹_›, hEnd⟩
    · cases h
      exact ⟨_, _, .noticeBegun n _ ‹_›, rfl⟩
  | notifying n r =>
    unfold stepPoint at h
    dsimp only at h
    split at h
    · rename_i hWriting
      cases h
      obtain ⟨log, hEnd⟩ := c.endNotice_eq k n (.error channelClosed)
      exact ⟨_, _, .noticeFailed n r log (by simpa using hWriting), hEnd⟩
    rename_i hWriting
    split at h
    · cases h
      obtain ⟨log, hEnd⟩ := (c.push r n.body).endNotice_eq k n (.ok ())
      exact ⟨_, _, .noticeSent n r log (by simpa using hWriting) ‹_›, hEnd⟩
    · cases h
  | checkChannel =>
    cases h
    exact ⟨_, _, .channelChecked, rfl⟩
  | becomeReady isOpen =>
    unfold stepPoint at h
    dsimp only at h
    split at h
    · rename_i hReady
      obtain ⟨hStatus, rfl⟩ := hReady
      cases h
      exact ⟨_, _, .becameReady hStatus, rfl⟩
    · cases h
      exact ⟨_, _, .exitedEarly isOpen ‹_›, rfl⟩
  | setStatus status r =>
    cases h
    exact ⟨_, _, .statusSet status r, rfl⟩
  | _ => cases h

/-! ## Readers -/

/-- What a step of the reader of a run does. -/
inductive Reads (x : Setup) (c : Client) (r : Nat) (y : Run) : Client → Prop where
  | response (body rest : List UInt8) (id : Nat) (result : Response)
      (hReader : y.reader = .reading)
      (hFrame : Rpc.readFrame (!y.outputOpen) y.output = .frame body rest)
      (hBody : Rpc.Incoming.ofBody body = .response id result) :
      Reads x c r y ((c.modifyRun r fun y => { y with output := rest }).complete id result)
  | request (body rest : List UInt8) (id : Json) (method : String) (params : Option Json)
      (message : String) (hReader : y.reader = .reading)
      (hFrame : Rpc.readFrame (!y.outputOpen) y.output = .frame body rest)
      (hBody : Rpc.Incoming.ofBody body = .request id method params)
      (hMessage : message = Rpc.replyBody id (Rpc.answerTo method params)) :
      Reads x c r y
        ((c.modifyRun r fun y => { y with output := rest }).modifyRun r fun y =>
          { y with reader := .replying message })
  | passed (body rest : List UInt8) (hReader : y.reader = .reading)
      (hFrame : Rpc.readFrame (!y.outputOpen) y.output = .frame body rest)
      (hBody : ∀ id result, Rpc.Incoming.ofBody body ≠ .response id result) :
      Reads x c r y (c.modifyRun r fun y => { y with output := rest })
  | outputEnded (hReader : y.reader = .reading)
      (hFrame : Rpc.readFrame (!y.outputOpen) y.output = .ended) :
      Reads x c r y (c.modifyRun r fun y => { y with reader := .draining none })
  | failed (e : Rpc.FrameError) (log : List LogLine) (hReader : y.reader = .reading)
      (hFrame : Rpc.readFrame (!y.outputOpen) y.output = .failed e) :
      Reads x c r y
        ({ c with log }.modifyRun r fun y =>
          { y with reader := .draining (some (readFailure e)) })
  | tooLarge (hReader : y.reader = .reading)
      (hFrame : Rpc.readFrame (!y.outputOpen) y.output = .tooLarge) :
      Reads x c r y (c.modifyRun r fun y => { y with reader := .broken })
  | replyLost (message : String) (hReader : y.reader = .replying message)
      (hWriting : y.writing = false) :
      Reads x c r y (c.modifyRun r fun y => { y with reader := .reading })
  | replied (message : String) (hReader : y.reader = .replying message)
      (hWriting : y.writing = true) (hRoom : y.hasRoom = true) :
      Reads x c r y ((c.push r message).modifyRun r fun y => { y with reader := .reading })
  | drained (reason : Option String) (hReader : y.reader = .draining reason) :
      Reads x c r y (c.drain.modifyRun r fun y => { y with reader := .leaving reason })
  | left (reason : Option String) (hReader : y.reader = .leaving reason) :
      Reads x c r y ((c.leave x reason).modifyRun r fun y => { y with reader := .ended })

theorem sayReadFailure_eq (x : Setup) (c : Client) (e : Rpc.FrameError) :
    ∃ log, sayReadFailure x c e = { c with log } := by
  unfold sayReadFailure
  split <;> exact ⟨_, rfl⟩

theorem reads_stepReader {x : Setup} {c c' : Client} {r : Nat} (h : c.stepReader x r = some c') :
    ∃ y, c.runs[r]? = some y ∧ Reads x c r y c' := by
  unfold stepReader at h
  split at h
  · cases h
  rename_i y hRun
  refine ⟨y, hRun, ?_⟩
  split at h
  · cases h
  · rename_i hReader
    split at h
    · cases h
    · rename_i body rest hFrame
      cases h
      cases hBody : Rpc.Incoming.ofBody body with
      | response id result =>
        simp only [dispatch, hBody]
        exact .response body rest id result hReader hFrame hBody
      | request id method params =>
        simp only [dispatch, hBody]
        split
        · exact .request body rest id method params _ hReader hFrame hBody rfl
        · exact .passed body rest hReader hFrame (fun _ _ h => nomatch hBody.symm.trans h)
      | notification method params =>
        simp only [dispatch, hBody]
        exact .passed body rest hReader hFrame (fun _ _ h => nomatch hBody.symm.trans h)
      | meaningless =>
        simp only [dispatch, hBody]
        exact .passed body rest hReader hFrame (fun _ _ h => nomatch hBody.symm.trans h)
    · cases h
      exact .outputEnded hReader ‹_›
    · rename_i e hFrame
      cases h
      obtain ⟨log, hSay⟩ := sayReadFailure_eq x c e
      rw [hSay]
      exact .failed e log hReader hFrame
    · cases h
      exact .tooLarge hReader ‹_›
  · rename_i message hReader
    split at h
    · rename_i hWriting
      cases h
      exact .replyLost message hReader (by simpa using hWriting)
    rename_i hWriting
    split at h
    · cases h
      exact .replied message hReader (by simpa using hWriting) ‹_›
    · cases h
  · cases h
    exact .drained _ ‹_›
  · cases h
    exact .left _ ‹_›
  · cases h
  · cases h

/-- A reader that does not go on has not begun, is over, or waits: for more bytes or for room on the
channel. -/
theorem reader_of_none {x : Setup} {c : Client} {r : Nat} {y : Run} (hRun : c.runs[r]? = some y)
    (h : c.stepReader x r = none) :
    y.reader = .idle ∨ y.reader = .ended ∨ y.reader = .broken ∨
      y.reader = .reading ∧ Rpc.readFrame (!y.outputOpen) y.output = .incomplete ∨
      ∃ message, y.reader = .replying message ∧ y.writing = true ∧ y.hasRoom = false := by
  unfold stepReader at h
  rw [hRun] at h
  cases hReader : y.reader with
  | idle => exact .inl rfl
  | ended => exact .inr (.inl rfl)
  | broken => exact .inr (.inr (.inl rfl))
  | reading =>
    simp only [hReader] at h
    cases hFrame : Rpc.readFrame (!y.outputOpen) y.output with
    | incomplete => exact .inr (.inr (.inr (.inl ⟨rfl, rfl⟩)))
    | _ => simp [hFrame] at h
  | replying message =>
    simp only [hReader] at h
    split at h
    · cases h
    rename_i hWriting
    split at h
    · cases h
    · rename_i hRoom
      refine .inr (.inr (.inr (.inr ⟨message, rfl, ?_, ?_⟩)))
      · simpa using hWriting
      · simpa using hRoom
  | draining | leaving => simp [hReader] at h

/-! ## Writers -/

/-- What a step of the writer of a run does. -/
inductive Writes (c : Client) (r : Nat) (y : Run) : Client → Prop where
  | wrote (message : String) (rest : List String) (hWriting : y.writing = true)
      (hChannel : y.channel = message :: rest) (hInput : y.inputOpen = true) :
      Writes c r y
        (c.modifyRun r fun y =>
          { y with
            channel := rest
            written := y.written ++ [message]
            emitted := y.emitted ++ Rpc.frame message.toList })
  | failed (log : List LogLine) (hWriting : y.writing = true) (hInput : y.inputOpen = false) :
      Writes c r y { c.modifyRun r fun y => { y with channel := [], writing := false } with log }
  | finished (hWriting : y.writing = true) (hChannel : y.channel = [])
      (hSender : c.hasSender r = false) :
      Writes c r y (c.modifyRun r fun y => { y with writing := false })

theorem writes_stepWriter {c c' : Client} {r : Nat} (h : c.stepWriter r = some c') :
    ∃ y, c.runs[r]? = some y ∧ Writes c r y c' := by
  unfold stepWriter at h
  split at h
  · cases h
  rename_i y hRun
  refine ⟨y, hRun, ?_⟩
  split at h
  · cases h
  rename_i hWriting
  have hWriting : y.writing = true := by simpa using hWriting
  split at h
  · rename_i message rest hChannel
    split at h
    · cases h
      exact .wrote message rest hWriting hChannel ‹_›
    · cases h
      exact .failed _ hWriting (Bool.eq_false_iff.mpr ‹_›)
  · rename_i hChannel
    split at h
    · cases h
    · cases h
      exact .finished hWriting hChannel (Bool.eq_false_iff.mpr ‹_›)

/-! ## Calls whose time is over -/

/-- What the end of a call's time does. -/
inductive Expires (c : Client) (k : Nat) : Point → Client → Prop where
  | request (p : Purpose) (id : Nat) (log : List LogLine) (hResponse : c.responses.lookup id = none) :
      Expires c k (.waiting p id)
        ({ c.unregister id with log }.moveCall k (afterRequest p (.error (timedOut p.method))))
  | process (a : Clearing) (r : Nat) :
      Expires c k (.awaitExit a r) (c.modifyRun r fun y => { y with killed := true })

theorem expires_expire {c c' : Client} {k : Nat} (h : c.expire k = some c') :
    ∃ p, c.calls[k]? = some p ∧ Expires c k p c' := by
  unfold expire at h
  split at h
  · rename_i p id hCall
    split at h
    · cases h
    · rename_i hResponse
      cases h
      obtain ⟨log, hEnd⟩ := (c.unregister id).endRequest_eq k p (.error (timedOut p.method))
      refine ⟨_, hCall, ?_⟩
      rw [hEnd]
      exact .request p id log (Option.not_isSome_iff_eq_none.mp hResponse)
  · rename_i hCall
    cases h
    exact ⟨_, hCall, .process _ _⟩
  · cases h

/-! ## Moves -/

theorem play_of_none {x : Setup} {c : Client} {m : Move} (h : c.play? x m = none) :
    c.play x m = c := by
  rw [play, h, Option.getD_none]

theorem play_of_some {x : Setup} {c c' : Client} {m : Move} (h : c.play? x m = some c') :
    c.play x m = c' := by
  rw [play, h, Option.getD_some]

/-- What a move does, if it does anything. -/
inductive Plays (x : Setup) (c : Client) : Move → Client → Prop where
  | nothing (m : Move) (h : c.play? x m = none) : Plays x c m c
  | called (op : Operation) : Plays x c (.call op) { c with calls := c.calls ++ [.begin op] }
  | advanced {k : Nat} {p q : Point} {d : Client} (hCall : c.calls[k]? = some p)
      (hAdvances : Advances x c p d q) : Plays x c (.goOn k) (d.moveCall k q)
  | expired {k : Nat} {p : Point} {d : Client} (hCall : c.calls[k]? = some p)
      (hExpires : Expires c k p d) : Plays x c (.expire k) d
  | wrote {r : Nat} {y : Run} {d : Client} (hRun : c.runs[r]? = some y) (hWrites : Writes c r y d) :
      Plays x c (.write r) d
  | read {r : Nat} {y : Run} {d : Client} (hRun : c.runs[r]? = some y) (hReads : Reads x c r y d) :
      Plays x c (.read r) d
  | served (r : Nat) (bytes : List UInt8) :
      Plays x c (.output r bytes)
        (c.modifyRun r fun y => if y.outputOpen then { y with output := y.output ++ bytes } else y)
  | outputClosed (r : Nat) :
      Plays x c (.closeOutput r) (c.modifyRun r fun y => { y with outputOpen := false })
  | exited (r : Nat) :
      Plays x c (.exit r) (c.modifyRun r fun y => { y with exited := true, inputOpen := false })

/-- **What a move of a schedule does.** -/
theorem plays_play (x : Setup) (c : Client) (m : Move) : Plays x c m (c.play x m) := by
  cases hPlay : c.play? x m with
  | none =>
    rw [play_of_none hPlay]
    exact .nothing m hPlay
  | some c' =>
    rw [play_of_some hPlay]
    cases m with
    | call op =>
      cases hPlay
      exact .called op
    | goOn k =>
      simp only [play?, stepCall] at hPlay
      split at hPlay
      · rename_i p hCall
        obtain ⟨d, q, hAdvances, rfl⟩ := advances_stepPoint hPlay
        exact .advanced hCall hAdvances
      · cases hPlay
    | expire k =>
      obtain ⟨p, hCall, hExpires⟩ := expires_expire hPlay
      exact .expired hCall hExpires
    | write r =>
      obtain ⟨y, hRun, hWrites⟩ := writes_stepWriter hPlay
      exact .wrote hRun hWrites
    | read r =>
      obtain ⟨y, hRun, hReads⟩ := reads_stepReader hPlay
      exact .read hRun hReads
    | output r bytes =>
      cases hPlay
      exact .served r bytes
    | closeOutput r =>
      cases hPlay
      exact .outputClosed r
    | exit r =>
      cases hPlay
      exact .exited r

/-! ## Runs and their number -/

theorem run_complete (c : Client) (id : Nat) (result : Response) (r : Nat) :
    (c.complete id result).run r = c.run r := by
  unfold complete
  split <;> rfl

theorem run_leave (x : Setup) (c : Client) (reason : Option String) (r : Nat) :
    (c.leave x reason).run r = c.run r := by
  unfold leave
  split <;> rfl

theorem length_runs_complete (c : Client) (id : Nat) (result : Response) :
    (c.complete id result).runs.length = c.runs.length := by
  unfold complete
  split <;> rfl

theorem length_runs_leave (x : Setup) (c : Client) (reason : Option String) :
    (c.leave x reason).runs.length = c.runs.length := by
  unfold leave
  split <;> rfl

theorem length_runs_advances {x : Setup} {c d : Client} {p q : Point} (h : Advances x c p d q) :
    c.runs.length ≤ d.runs.length := by
  cases h with
  | launched => simp
  | processTold a r => exact Nat.le_of_eq (length_runs_modifyRun _ r _).symm
  | processKept r => exact Nat.le_of_eq (length_runs_modifyRun c r _).symm
  | processReplaced r old =>
    exact Nat.le_of_eq ((length_runs_modifyRun _ r _).trans (length_runs_modifyRun c old _)).symm
  | sent p id r => exact Nat.le_of_eq (length_runs_modifyRun c r _).symm
  | noticeSent n r => exact Nat.le_of_eq (length_runs_modifyRun c r _).symm
  | _ => exact Nat.le_refl _

theorem length_runs_reads {x : Setup} {c d : Client} {r : Nat} {y : Run} (h : Reads x c r y d) :
    d.runs.length = c.runs.length := by
  cases h with
  | response body rest id result =>
    exact (length_runs_complete _ id result).trans (length_runs_modifyRun c r _)
  | request => exact (length_runs_modifyRun _ r _).trans (length_runs_modifyRun c r _)
  | replied message => exact (length_runs_modifyRun _ r _).trans (length_runs_modifyRun c r _)
  | failed => exact length_runs_modifyRun _ r _
  | drained => exact length_runs_modifyRun _ r _
  | left reason => exact (length_runs_modifyRun _ r _).trans (length_runs_leave x c reason)
  | passed | outputEnded | tooLarge | replyLost => exact length_runs_modifyRun c r _

theorem length_runs_writes {c d : Client} {r : Nat} {y : Run} (h : Writes c r y d) :
    d.runs.length = c.runs.length := by
  cases h <;> exact length_runs_modifyRun c r _

theorem length_runs_play (x : Setup) (c : Client) (m : Move) :
    c.runs.length ≤ (c.play x m).runs.length := by
  have hPlays := plays_play x c m
  generalize c.play x m = d at hPlays ⊢
  cases hPlays with
  | nothing | called => exact Nat.le_refl _
  | @advanced k p q d hCall hAdvances =>
    have hLength : c.runs.length ≤ d.runs.length := length_runs_advances hAdvances
    exact hLength
  | expired hCall hExpires =>
    cases hExpires with
    | request => exact Nat.le_refl _
    | process a r => exact Nat.le_of_eq (length_runs_modifyRun c r _).symm
  | wrote hRun hWrites => exact Nat.le_of_eq (length_runs_writes hWrites).symm
  | read hRun hReads => exact Nat.le_of_eq (length_runs_reads hReads).symm
  | served r | outputClosed r | exited r => exact Nat.le_of_eq (length_runs_modifyRun c r _).symm

theorem length_runs_playAll (x : Setup) (c : Client) (moves : List Move) :
    c.runs.length ≤ (c.playAll x moves).runs.length := by
  induction moves generalizing c with
  | nil => exact Nat.le_refl _
  | cons m moves ih => exact Nat.le_trans (length_runs_play x c m) (ih _)

/-! ## What a schedule did -/

/-- What moves give when each is looked at in the client before it. -/
def collect {α : Type} (x : Setup) (look : Client → Move → List α) : Client → List Move → List α
  | _, [] => []
  | c, m :: moves => look c m ++ collect x look (c.play x m) moves

theorem collect_append {α : Type} (x : Setup) (look : Client → Move → List α) (c : Client)
    (first second : List Move) :
    collect x look c (first ++ second) =
      collect x look c first ++ collect x look (c.playAll x first) second := by
  induction first generalizing c with
  | nil => rfl
  | cons m first ih =>
    rw [List.cons_append, collect, collect, ih, List.append_assoc, playAll_cons]

theorem collect_concat {α : Type} (x : Setup) (look : Client → Move → List α) (c : Client)
    (moves : List Move) (m : Move) :
    collect x look c (moves ++ [m]) = collect x look c moves ++ look (c.playAll x moves) m := by
  rw [collect_append, collect, collect, List.append_nil]

theorem playAll_concat (x : Setup) (c : Client) (moves : List Move) (m : Move) :
    c.playAll x (moves ++ [m]) = (c.playAll x moves).play x m := by
  rw [playAll_append, playAll_cons, playAll_nil]

/-! ## Calls and other parts -/

theorem call_moveCall (d : Client) {k l : Nat} {p q : Point} (hCall : d.calls[k]? = some p) :
    (d.moveCall k q).calls[l]? = if k = l then some q else d.calls[l]? := by
  have hk : k < d.calls.length := (List.getElem?_eq_some_iff.mp hCall).1
  unfold moveCall
  dsimp only
  rw [List.getElem?_set]
  simp [hk]

theorem calls_advances {x : Setup} {c d : Client} {p q : Point} (h : Advances x c p d q) :
    d.calls = c.calls := by
  cases h <;> rfl

theorem calls_writes {c d : Client} {r : Nat} {y : Run} (h : Writes c r y d) : d.calls = c.calls := by
  cases h <;> rfl

theorem calls_complete (c : Client) (id : Nat) (result : Response) :
    (c.complete id result).calls = c.calls := by
  unfold complete
  split <;> rfl

theorem calls_leave (x : Setup) (c : Client) (reason : Option String) :
    (c.leave x reason).calls = c.calls := by
  unfold leave
  split <;> rfl

theorem calls_reads {x : Setup} {c d : Client} {r : Nat} {y : Run} (h : Reads x c r y d) :
    d.calls = c.calls := by
  cases h with
  | response body rest id result => exact calls_complete _ id result
  | left reason => exact calls_leave x c reason
  | _ => rfl

/-- What a move does to the call with a number, if it does anything. -/
inductive Follows (x : Setup) (c : Client) (k : Nat) : Move → Client → Prop where
  | stayed (m : Move) (d : Client) (hNow : d.calls[k]? = c.calls[k]?) : Follows x c k m d
  | made (op : Operation) (d : Client) (hk : k = c.calls.length)
      (hNow : d.calls[k]? = some (.begin op)) : Follows x c k (.call op) d
  | advanced {p q : Point} {d : Client} (hCall : c.calls[k]? = some p)
      (hAdvances : Advances x c p d q) (hNow : (d.moveCall k q).calls[k]? = some q) :
      Follows x c k (.goOn k) (d.moveCall k q)
  | expired {p : Purpose} {id : Nat} (d : Client) (hCall : c.calls[k]? = some (.waiting p id))
      (hResponse : c.responses.lookup id = none)
      (hNow : d.calls[k]? = some (afterRequest p (.error (timedOut p.method)))) :
      Follows x c k (.expire k) d

/-- **What a move does to one call.** -/
theorem follows_play (x : Setup) (c : Client) (m : Move) (k : Nat) :
    Follows x c k m (c.play x m) := by
  have hPlays := plays_play x c m
  generalize c.play x m = d at hPlays ⊢
  cases hPlays with
  | nothing | served | outputClosed | exited => exact .stayed _ _ rfl
  | wrote hRun hWrites => exact .stayed _ _ (by rw [calls_writes hWrites])
  | read hRun hReads => exact .stayed _ _ (by rw [calls_reads hReads])
  | called op =>
    by_cases hk : k = c.calls.length
    · exact .made op _ hk (by simp [hk])
    · refine .stayed _ _ ?_
      rcases Nat.lt_or_gt_of_ne hk with hLess | hGreater
      · exact List.getElem?_append_left hLess
      · rw [List.getElem?_eq_none (by simp; omega), List.getElem?_eq_none (Nat.le_of_lt hGreater)]
  | @advanced j p q d hCall hAdvances =>
    have hCalls : d.calls = c.calls := calls_advances hAdvances
    have hMoved := call_moveCall (l := k) (q := q) d (hCalls ▸ hCall)
    by_cases hk : j = k
    · subst hk
      exact .advanced hCall hAdvances (hMoved.trans (if_pos rfl))
    · rw [if_neg hk, hCalls] at hMoved
      exact .stayed _ _ hMoved
  | @expired j p _ hCall hExpires =>
    cases hExpires with
    | request p id log hResponse =>
      have hMoved := call_moveCall (l := k) (q := afterRequest p (.error (timedOut p.method)))
        { c.unregister id with log } hCall
      by_cases hk : j = k
      · subst hk
        exact .expired _ hCall hResponse (hMoved.trans (if_pos rfl))
      · exact .stayed _ _ (hMoved.trans (if_neg hk))
    | process a r => exact .stayed _ _ rfl

/-! ## The beginning -/

/-- A client that was not called yet. -/
def fresh (listeners : Listeners Nat) : Client := { didStop := listeners }

/-- A server that can be launched any number of times. -/
def Setup.plain : Setup where
  id := "plain"
  name := "Plain"
  server := { transport := .stdio, path := "/server" }
  options := { syntaxes := [] }
  processId := 1
  launch _ := .ok ()

end ExtensionHost.Client
