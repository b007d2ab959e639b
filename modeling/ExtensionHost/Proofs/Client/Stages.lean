import ExtensionHost.Proofs.Client.Errands

/-!
# Stages of a start

A client that is started once has one server. The call that starts it and the reader of the server's output
both change the state, in any order, and stops and requests come in between. `Stands` says for each stage of
the start how the client may stand: until the start is over no listener is told anything, and only a client
that is ready can still have its server's end reported, once. A step of the start (`stands_advances`), of
another call (`stands_others`) or of the reader (`stands_reads`) keeps this.
-/

namespace ExtensionHost.Client

variable {x : Setup} {c d : Client} {p q : Point} {listeners : Listeners Nat} {stops : List Nat}

/-! ## Stops -/

/-- The stop that a move lets move the client out of the ready state. -/
def stopsBy (c : Client) : Move → List Nat
  | .goOn k =>
    match c.calls[k]? with
    | some (.begin .stop) => if c.status = .ready then [k] else []
    | _ => []
  | _ => []

/-- The stops that have moved the client out of the ready state. -/
def stopsOf (x : Setup) (c : Client) (moves : List Move) : List Nat := collect x stopsBy c moves

/-! ## Stages of a start -/

/-- How far a start has come. -/
inductive Stage where
  /-- It was not begun. -/
  | asked
  /-- What is left of an earlier run is cleared away, and the process is launched. -/
  | preparing
  /-- The process is launched and its reader is about to begin. -/
  | keeping
  /-- The reader has begun, and the server is told and answers. -/
  | starting
  /-- Something has failed, and the process is cleared away. -/
  | failing
  /-- It has ended with a failure. -/
  | failed
  /-- It has ended well. -/
  | running
  deriving Repr, DecidableEq

/-- How far a start has come that stands at a point. -/
def Point.stage : Point → Stage
  | .begin _ => .asked
  | .closeChannel .forLaunch => .preparing
  | .takeProcess .forLaunch => .preparing
  | .awaitExit .forLaunch _ => .preparing
  | .launch => .preparing
  | .keepProcess _ => .keeping
  | .closeChannel _ => .failing
  | .takeProcess _ => .failing
  | .awaitExit _ _ => .failing
  | .setStatus _ _ => .failing
  | .over (.error _) => .failed
  | .over (.ok _) => .running
  | _ => .starting

/-- A client is starting, unless the end of its server was noticed. -/
def Posture.Wakes (y : Posture) : Prop :=
  y.standing.status = .initializing ∧ y.reader ≠ .ended ∨ y.standing.status = .crashed

/-- How a client may stand whose start has come to a stage and which some stops have moved out of the ready
state. -/
inductive Stands (listeners : Listeners Nat) (stops : List Nat) (y : Posture) : Stage → Prop where
  | asked (hStatus : y.standing.status = .notInitialized) (hRuns : y.runs = 0)
      (hNotified : y.standing.notified = []) (hStops : stops = []) : Stands listeners stops y .asked
  | preparing (hStatus : y.standing.status = .initializing) (hRuns : y.runs = 0)
      (hNotified : y.standing.notified = []) (hStops : stops = []) : Stands listeners stops y .preparing
  | keeping (hWakes : y.Wakes) (hRuns : y.runs = 1)
      (hNotified : y.standing.notified = []) (hStops : stops = []) : Stands listeners stops y .keeping
  | starting (hWakes : y.Wakes) (hRuns : y.runs = 1) (hBegun : y.reader ≠ .idle)
      (hNotified : y.standing.notified = []) (hStops : stops = []) : Stands listeners stops y .starting
  | failing (hStatus : y.standing.status = .initializing ∨ y.standing.status = .crashed)
      (hRuns : y.runs ≤ 1) (hNotified : y.standing.notified = []) (hStops : stops = []) :
      Stands listeners stops y .failing
  | failed (hStatus : y.standing.status = .notInitialized) (hRuns : y.runs ≤ 1)
      (hNotified : y.standing.notified = []) (hStops : stops = []) : Stands listeners stops y .failed
  | ready (hStatus : y.standing.status = .ready) (hRuns : y.runs = 1) (hBegun : y.reader ≠ .idle)
      (hReader : y.reader ≠ .ended) (hNotified : y.standing.notified = []) (hStops : stops = []) :
      Stands listeners stops y .running
  | crashed (hStatus : y.standing.status = .crashed) (hRuns : y.runs = 1) (hReader : y.reader = .ended)
      (reason : Option String)
      (hNotified : y.standing.notified = listeners.snapshot.map fun n => (n, reason))
      (hStops : stops = []) : Stands listeners stops y .running
  | stopped (hStatus : y.standing.status = .shuttingDown ∨ y.standing.status = .shutdown)
      (hRuns : y.runs = 1) (hNotified : y.standing.notified = []) (hStops : stops ≠ []) :
      Stands listeners stops y .running

theorem Stands.runs_le {y : Posture} {s : Stage} (h : Stands listeners stops y s) : y.runs ≤ 1 := by
  cases h <;> omega

/-- A start may fail while the process is not launched or the server answers. -/
theorem Stands.fail {y : Posture} {s : Stage} (h : Stands listeners stops y s)
    (hs : s = .preparing ∨ s = .starting) : Stands listeners stops y .failing := by
  cases h with
  | preparing hStatus hRuns hNotified hStops => exact .failing (.inl hStatus) (by omega) hNotified hStops
  | starting hWakes hRuns hBegun hNotified hStops =>
    exact .failing (hWakes.imp_left And.left) (by omega) hNotified hStops
  | _ => simp at hs

/-- A client is ready only when its start has ended. -/
theorem Stands.running_of_ready {y : Posture} {s : Stage} (h : Stands listeners stops y s)
    (hReady : y.standing.status = .ready) : s = .running := by
  cases h with
  | ready | crashed | stopped => rfl
  | keeping hWakes | starting hWakes => simp [Posture.Wakes, hReady] at hWakes
  | asked hStatus | preparing hStatus | failing hStatus | failed hStatus => simp [hReady] at hStatus

/-- Until a start has ended well, no listener is told anything. -/
theorem Stands.notified_eq_nil {y : Posture} {s : Stage} (h : Stands listeners stops y s)
    (hs : s ≠ .running) : y.standing.notified = [] := by
  cases h with
  | asked _ _ hNotified | preparing _ _ hNotified | keeping _ _ hNotified | starting _ _ _ hNotified
  | failing _ _ hNotified | failed _ _ hNotified => exact hNotified
  | ready | crashed | stopped => exact absurd rfl hs

theorem Stands.not_ready {y : Posture} {s : Stage} (h : Stands listeners stops y s)
    (hEnded : y.reader = .ended) : y.standing.status ≠ .ready := by
  intro hReady
  obtain rfl := h.running_of_ready hReady
  cases h with
  | ready _ _ _ hReader => exact hReader hEnded
  | crashed hStatus => cases hReady.symm.trans hStatus
  | stopped hStatus => rcases hStatus with hStatus | hStatus <;> cases hReady.symm.trans hStatus

/-! ## The start goes on -/

/-- A step of a start that decides nothing stays at its stage, or something has failed. -/
theorem stage_advances (h : Advances x c p d q) (hp : p.decides = false)
    (hErrand : p.errand? = some .start) :
    q.stage = p.stage ∨ q.stage = .failing ∧ p.stage = .starting := by
  have hHandshake : ∀ {p : Purpose}, some p.errand = some Errand.start → p = .handshake := by
    intro p hp
    cases p <;> first | rfl | cases hp
  have hInitialized : ∀ {n : Notice}, some n.errand = some Errand.start → n = .initialized := by
    intro n hn
    cases n <;> first | rfl | cases hn
  cases h with
  | startBegun | startPassed | stopBegun | stopPassed | launchFailed | launched | processKept
  | processReplaced | becameReady | exitedEarly | statusSet => cases hp
  | requestBegun | requestRefused => cases hErrand
  | channelLeft a | nothingToClear a | processTold a | processLeft a | processEnded a =>
    cases a with
    | forLaunch | afterFailure => exact .inl rfl
    | toStop => cases hErrand
  | channelOpened => exact .inl rfl
  | registered p | sendBegun p | sent p => exact .inl rfl
  | unsent p | sendFailed p =>
    cases hHandshake hErrand
    exact .inr ⟨rfl, rfl⟩
  | answered p id r =>
    cases hHandshake hErrand
    cases r with
    | ok => exact .inl rfl
    | error => exact .inr ⟨rfl, rfl⟩
  | noticeBegun => exact .inl rfl
  | unnotified n | noticeFailed n =>
    cases hInitialized hErrand
    exact .inr ⟨rfl, rfl⟩
  | noticeSent n =>
    cases hInitialized hErrand
    exact .inl rfl
  | channelChecked => exact .inl rfl

theorem stands_keepProcess {r : Nat} (hRun : r < c.runs.length)
    (h : Stands listeners stops c.posture .keeping) (hAdvances : Advances x c (.keepProcess r) d q) :
    Stands listeners stops d.posture .starting := by
  have hIntake := begun_advances hAdvances hRun
  have hLength : d.runs.length = c.runs.length := by
    cases hAdvances with
    | processKept => exact length_runs_modifyRun c r _
    | processReplaced _ old =>
      exact (length_runs_modifyRun _ r _).trans (length_runs_modifyRun c old _)
  have hStanding : d.standing = c.standing := by cases hAdvances <;> rfl
  cases h with
  | keeping hWakes hRuns hNotified hStops =>
    have hFirst : r = 0 := by
      simp only [posture] at hRuns
      omega
    subst hFirst
    have hReader : (d.run 0).reader = .reading := congrArg Prod.fst hIntake
    have hPosture : d.posture = { c.posture with reader := .reading } := by
      rw [posture, posture, hStanding, hLength, hReader]
    rw [hPosture]
    exact .starting (hWakes.imp_left fun hStatus => ⟨hStatus.1, by simp⟩) hRuns (by simp) hNotified hStops

theorem stands_advances (hAttended : ∀ r, p = .keepProcess r → r < c.runs.length)
    (hErrand : p.errand? = some .start) (h : Stands listeners stops c.posture p.stage)
    (hAdvances : Advances x c p d q) : Stands listeners stops d.posture q.stage := by
  cases hDecides : p.decides with
  | false =>
    rw [posture_advances hAdvances hDecides]
    rcases stage_advances hAdvances hDecides hErrand with hSame | ⟨hFailing, hStarting⟩
    · exact hSame ▸ h
    · exact hFailing ▸ h.fail (.inr hStarting)
  | true =>
    cases hAdvances with
    | startBegun =>
      cases h with
      | asked hStatus hRuns hNotified hStops => exact .preparing rfl hRuns hNotified hStops
    | startPassed hOther =>
      cases h with
      | asked hStatus =>
        simp only [posture, standing] at hStatus
        simp [hStatus] at hOther
    | launchFailed e => exact h.fail (.inl rfl)
    | launched =>
      cases h with
      | preparing hStatus hRuns hNotified hStops =>
        have hNil : c.runs = [] := List.length_eq_zero_iff.mp hRuns
        refine .keeping (.inl ⟨hStatus, ?_⟩) ?_ hNotified hStops
        · simp [posture, run, hNil]
        · simp [posture, hNil]
    | processKept r hClearing hProcess =>
      exact stands_keepProcess (hAttended r rfl) h (.processKept (x := x) r hClearing hProcess)
    | processReplaced r old hClearing hProcess =>
      exact stands_keepProcess (hAttended r rfl) h (.processReplaced (x := x) r old hClearing hProcess)
    | becameReady hNow =>
      cases h with
      | starting hWakes hRuns hBegun hNotified hStops =>
        -- The end of the server shows in the state, so a client that is still starting has a reader.
        rcases hWakes with ⟨-, hReader⟩ | hCrashed
        · exact .ready rfl hRuns hBegun hReader hNotified hStops
        · cases hNow.symm.trans hCrashed
    | exitedEarly isOpen => exact h.fail (.inr rfl)
    | statusSet status r =>
      cases h with
      | failing hStatus hRuns hNotified hStops =>
        obtain ⟨rfl, e, rfl⟩ := setStatus_of_start hErrand
        exact .failed rfl hRuns hNotified hStops
    | stopBegun | stopPassed => cases hErrand
    | _ => cases hDecides

/-! ## Stops and requests -/

theorem stopsBy_of_call {k : Nat} (hCall : c.calls[k]? = some p)
    (h : p ≠ .begin .stop ∨ c.status ≠ .ready) : stopsBy c (.goOn k) = [] := by
  simp only [stopsBy, hCall]
  split
  · rename_i hStop
    cases hStop
    rcases h with hPoint | hStatus
    · exact absurd rfl hPoint
    · exact if_neg hStatus
  · rfl

/-- **Stops and requests move only a ready client**, and only to where a stop moves it. -/
theorem stands_others {s : Stage} {k : Nat}
    (hErrand : p.errand? = some .stop ∨ p.errand? = some .request)
    (hStopping : (∀ op, p ≠ .begin op) → p.errand? = some .stop → s = .running ∧ stops ≠ [])
    (h : Stands listeners stops c.posture s) (hAdvances : Advances x c p d q)
    (hCall : c.calls[k]? = some p) :
    Stands listeners (stops ++ stopsBy c (.goOn k)) d.posture s := by
  cases hDecides : p.decides with
  | false =>
    have hNone : stopsBy c (.goOn k) = [] := by
      refine stopsBy_of_call hCall (.inl ?_)
      rintro rfl
      cases hDecides
    rw [hNone, List.append_nil, posture_advances hAdvances hDecides]
    exact h
  | true =>
    cases hAdvances with
    | stopBegun hReady =>
      have hOne : stopsBy c (.goOn k) = [k] := by simp [stopsBy, hCall, hReady]
      rw [hOne]
      obtain rfl := h.running_of_ready hReady
      cases h with
      | ready hStatus hRuns hBegun hReader hNotified hStops =>
        exact .stopped (.inl rfl) hRuns hNotified (by simp)
      | crashed hStatus => cases hReady.symm.trans hStatus
      | stopped hStatus => rcases hStatus with hStatus | hStatus <;> cases hReady.symm.trans hStatus
    | stopPassed hNot =>
      rw [stopsBy_of_call hCall (.inr hNot), List.append_nil]
      exact h
    | statusSet status r =>
      -- A stop sets the state only after it has moved the client, and nothing else can move it then.
      obtain ⟨rfl, hStop⟩ := setStatus_of_stop hErrand
      obtain ⟨rfl, hSome⟩ := hStopping (fun _ h => nomatch h) hStop
      rw [stopsBy_of_call hCall (.inl fun h => nomatch h), List.append_nil]
      cases h with
      | stopped hStatus hRuns hNotified hStops => exact .stopped (.inr rfl) hRuns hNotified hStops
      | ready _ _ _ _ _ hStops | crashed _ _ _ _ _ hStops => exact absurd hStops hSome
    | startBegun | startPassed | launchFailed | launched | processKept | processReplaced | becameReady
    | exitedEarly => simp [Point.errand?, Operation.errand] at hErrand
    | _ => cases hDecides

/-! ## The reader goes on -/

theorem Stands.of_reader {y : Posture} {s : Stage} {reader : Reader} (h : Stands listeners stops y s)
    (hBefore : y.reader ≠ .ended) (hBegun : reader ≠ .idle) (hReader : reader ≠ .ended) :
    Stands listeners stops { y with reader } s := by
  cases h with
  | asked hStatus hRuns hNotified hStops => exact .asked hStatus hRuns hNotified hStops
  | preparing hStatus hRuns hNotified hStops => exact .preparing hStatus hRuns hNotified hStops
  | keeping hWakes hRuns hNotified hStops =>
    exact .keeping (hWakes.imp_left fun hStatus => ⟨hStatus.1, hReader⟩) hRuns hNotified hStops
  | starting hWakes hRuns _ hNotified hStops =>
    exact .starting (hWakes.imp_left fun hStatus => ⟨hStatus.1, hReader⟩) hRuns hBegun hNotified hStops
  | failing hStatus hRuns hNotified hStops => exact .failing hStatus hRuns hNotified hStops
  | failed hStatus hRuns hNotified hStops => exact .failed hStatus hRuns hNotified hStops
  | ready hStatus hRuns _ _ hNotified hStops => exact .ready hStatus hRuns hBegun hReader hNotified hStops
  | crashed _ _ hEnded => exact absurd hEnded hBefore
  | stopped hStatus hRuns hNotified hStops => exact .stopped hStatus hRuns hNotified hStops

/-- What the end of the server makes of how a client may stand. -/
theorem Stands.afterEnd {y : Posture} {s : Stage} (h : Stands listeners stops y s) (hRun : 0 < y.runs)
    (hBefore : y.reader ≠ .ended) (hListeners : y.standing.didStop = listeners)
    (reason : Option String) :
    Stands listeners stops ⟨y.standing.afterEnd reason, y.runs, .ended⟩ s := by
  have hWaking : y.standing.status = .initializing ∨ y.standing.status = .crashed →
      (y.standing.afterEnd reason).status = .crashed ∧
        (y.standing.afterEnd reason).notified = y.standing.notified := by
    rintro (hStatus | hStatus) <;> simp [Standing.afterEnd, hStatus]
  cases h with
  | asked _ hRuns | preparing _ hRuns => omega
  | keeping hWakes hRuns hNotified hStops =>
    obtain ⟨hStatus, hSame⟩ := hWaking (hWakes.imp_left And.left)
    exact .keeping (.inr hStatus) hRuns (hSame.trans hNotified) hStops
  | starting hWakes hRuns _ hNotified hStops =>
    obtain ⟨hStatus, hSame⟩ := hWaking (hWakes.imp_left And.left)
    exact .starting (.inr hStatus) hRuns (by simp) (hSame.trans hNotified) hStops
  | failing hStatus hRuns hNotified hStops =>
    obtain ⟨hStatus, hSame⟩ := hWaking hStatus
    exact .failing (.inr hStatus) hRuns (hSame.trans hNotified) hStops
  | failed hStatus hRuns hNotified hStops =>
    have hSame : y.standing.afterEnd reason = y.standing := by simp [Standing.afterEnd, hStatus]
    rw [hSame]
    exact .failed hStatus hRuns hNotified hStops
  | ready hStatus hRuns _ _ hNotified hStops =>
    refine .crashed ?_ hRuns rfl reason ?_ hStops
    · simp [Standing.afterEnd, hStatus]
    · simp [Standing.afterEnd, hStatus, hNotified, hListeners]
  | crashed _ _ hEnded => exact absurd hEnded hBefore
  | stopped hStatus hRuns hNotified hStops =>
    have hSame : y.standing.afterEnd reason = y.standing := by
      rcases hStatus with hStatus | hStatus <;> simp [Standing.afterEnd, hStatus]
    rw [hSame]
    exact .stopped hStatus hRuns hNotified hStops

/-- **The reader of the only run** changes how the client stands by its last step alone. -/
theorem stands_reads {s : Stage} {r : Nat} (hRun : r < c.runs.length)
    (hListeners : c.didStop = listeners) (h : Stands listeners stops c.posture s)
    (hReads : Reads x c r (c.run r) d) : Stands listeners stops d.posture s := by
  have hFirst : r = 0 := by
    have hOne := h.runs_le
    simp only [posture] at hOne
    omega
  subst hFirst
  have hDigests := digests_reads hRun hReads
  have hRuns := length_runs_reads hReads
  obtain ⟨hBegun, hEnd⟩ := hDigests.next
  by_cases hLeaving : ∃ reason, (c.run 0).reader = .leaving reason
  · obtain ⟨reason, hReader⟩ := hLeaving
    have hEnded : (d.run 0).reader = .ended := by
      cases hDigests with
      | left _ _ hIntake => exact congrArg Prod.fst hIntake
      | frame _ _ hOther | stopped _ hOther | replied _ hOther | drained _ hOther =>
        cases hReader.symm.trans hOther
    have hStanding : d.standing = c.standing.afterEnd reason := by
      cases hReads with
      | left reason' hSame =>
        cases hReader.symm.trans hSame
        exact standing_leave x c reason
      | response _ _ _ _ hOther | request _ _ _ _ _ _ hOther | passed _ _ hOther | outputEnded hOther
      | failed _ _ hOther | tooLarge hOther | replyLost _ hOther | replied _ hOther
      | drained _ hOther => cases hReader.symm.trans hOther
    have hPosture : d.posture = ⟨c.standing.afterEnd reason, c.runs.length, .ended⟩ := by
      rw [posture, hStanding, hRuns, hEnded]
    rw [hPosture]
    exact h.afterEnd hRun hDigests.not_ended hListeners reason
  · have hStanding := standing_reads hReads fun reason hReader => hLeaving ⟨reason, hReader⟩
    have hPosture : d.posture = { c.posture with reader := (d.run 0).reader } := by
      rw [posture, posture, hStanding, hRuns]
    rw [hPosture]
    exact h.of_reader hDigests.not_ended hBegun fun hEnded => hLeaving (hEnd hEnded)

end ExtensionHost.Client
