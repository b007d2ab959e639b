import ExtensionHost.Proofs.Client.Readers

/-!
# What calls are for

A call is made to start the client, to stop it or to ask its server, and goes on with that errand until it
is over. Only few steps decide anything about the client as a whole: the first steps of starts and stops,
those that launch and keep a process, and the last ones, which set the state. `posture_advances` says that
the others leave the state, the listeners, the number of runs and the reader of the first one as they are.
-/

namespace ExtensionHost.Client

variable {x : Setup} {c d : Client} {p q : Point}

/-! ## Errands -/

/-- What a call is for. -/
inductive Errand where
  | start
  | stop
  | request
  deriving Repr, DecidableEq

/-- What an operation is for. -/
def Operation.errand : Operation → Errand
  | .start => .start
  | .stop => .stop
  | .request _ _ => .request

/-- What a process is cleared away for. -/
def Clearing.errand : Clearing → Errand
  | .forLaunch => .start
  | .afterFailure _ => .start
  | .toStop => .stop

/-- What a request is sent for. -/
def Purpose.errand : Purpose → Errand
  | .handshake => .start
  | .shutdown => .stop
  | .call _ _ => .request

/-- What a notification is sent for. -/
def Notice.errand : Notice → Errand
  | .initialized => .start
  | .exit => .stop

/-- What a call at a point is for, if it is not over. -/
def Point.errand? : Point → Option Errand
  | .begin op => some op.errand
  | .closeChannel a => some a.errand
  | .takeProcess a => some a.errand
  | .awaitExit a _ => some a.errand
  | .launch => some .start
  | .keepProcess _ => some .start
  | .openChannel _ => some .start
  | .register p => some p.errand
  | .send p _ => some p.errand
  | .sending p _ _ => some p.errand
  | .waiting p _ => some p.errand
  | .notify n => some n.errand
  | .notifying n _ => some n.errand
  | .checkChannel => some .start
  | .becomeReady _ => some .start
  | .setStatus .notInitialized (.error _) => some .start
  | .setStatus .shutdown (.ok _) => some .stop
  | .setStatus _ _ => none
  | .over _ => none

/-- A start ends by setting the first state, and with a failure. -/
theorem setStatus_of_start {status : Status} {r : Response}
    (h : (Point.setStatus status r).errand? = some .start) :
    status = .notInitialized ∧ ∃ e, r = .error e := by
  cases status <;> cases r <;> simp_all [Point.errand?]

/-- Of stops and requests only a stop sets the state, and this to the last one. -/
theorem setStatus_of_stop {status : Status} {r : Response}
    (h : (Point.setStatus status r).errand? = some .stop ∨
      (Point.setStatus status r).errand? = some .request) :
    status = .shutdown ∧ (Point.setStatus status r).errand? = some .stop := by
  cases status <;> cases r <;> simp_all [Point.errand?]

theorem errand?_afterRequest (p : Purpose) (r : Response) :
    (afterRequest p r).errand? = some p.errand ∨ ∃ r', afterRequest p r = .over r' := by
  cases p with
  | handshake => cases r <;> exact .inl rfl
  | shutdown => exact .inl rfl
  | call => exact .inr ⟨r, rfl⟩

theorem errand?_afterNotice (n : Notice) (r : Except HostError Unit) :
    (afterNotice n r).errand? = some n.errand := by
  cases n with
  | initialized => cases r <;> rfl
  | exit => rfl

theorem errand?_afterClearing (a : Clearing) : (afterClearing a).errand? = some a.errand := by
  cases a <;> rfl

theorem Advances.not_over (h : Advances x c p d q) : ¬ ∃ r, p = .over r := by
  rintro ⟨r, rfl⟩
  cases h

theorem errand?_advances (h : Advances x c p d q) : q.errand? = p.errand? ∨ ∃ r, q = .over r := by
  cases h with
  | startPassed | stopPassed | requestRefused | becameReady | statusSet => exact .inr ⟨_, rfl⟩
  | nothingToClear a | processEnded a => exact .inl (errand?_afterClearing a)
  | unsent p | sendFailed p | answered p => exact errand?_afterRequest p _
  | unnotified n | noticeFailed n | noticeSent n => exact .inl (errand?_afterNotice n _)
  | _ => exact .inl rfl

/-! ## Steps that decide nothing -/

/-- Whether a step of a call at a point may decide something about the client as a whole. -/
def Point.decides : Point → Bool
  | .begin .start => true
  | .begin .stop => true
  | .launch => true
  | .keepProcess _ => true
  | .becomeReady _ => true
  | .setStatus _ _ => true
  | _ => false

/-- What the start of a client and the reader of its first run decide about: how it stands to its server, the
number of its runs, and where that reader stands. -/
structure Posture where
  standing : Standing
  runs : Nat
  reader : Reader

/-- What the start of a client and the reader of its first run decide about. -/
def posture (c : Client) : Posture := ⟨c.standing, c.runs.length, (c.run 0).reader⟩

theorem posture_eq (hStanding : d.standing = c.standing) (hRuns : d.runs.length = c.runs.length)
    (hReader : (d.run 0).reader = (c.run 0).reader) : d.posture = c.posture := by
  rw [posture, posture, hStanding, hRuns, hReader]

theorem posture_modifyRun (c : Client) (r : Nat) {f : Run → Run} (hf : ∀ y, (f y).reader = y.reader) :
    (c.modifyRun r f).posture = c.posture :=
  posture_eq rfl (length_runs_modifyRun c r f) (congr_run_modifyRun Run.reader c r 0 hf)

/-- **A step of a call that decides nothing leaves the client as it is.** -/
theorem posture_advances (h : Advances x c p d q) (hp : p.decides = false) : d.posture = c.posture := by
  have hReader : (d.run 0).reader = (c.run 0).reader := by
    refine congrArg Prod.fst (intake_advances h ?_)
    rintro rfl
    cases hp
  cases h with
  | startBegun | startPassed | stopBegun | stopPassed | launchFailed | launched | processKept
  | processReplaced | becameReady | exitedEarly | statusSet => cases hp
  | processTold a r => exact posture_eq rfl (length_runs_modifyRun _ r _) hReader
  | sent p id r => exact posture_eq rfl (length_runs_modifyRun c r _) hReader
  | noticeSent n r => exact posture_eq rfl (length_runs_modifyRun c r _) hReader
  | _ => exact posture_eq rfl rfl hReader

theorem posture_writes {r : Nat} {y : Run} (h : Writes c r y d) : d.posture = c.posture := by
  have hReader := congrArg Prod.fst (intake_writes (r := 0) h)
  have hRuns := length_runs_writes h
  cases h <;> exact posture_eq rfl hRuns hReader

end ExtensionHost.Client
