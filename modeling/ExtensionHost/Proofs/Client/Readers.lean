import ExtensionHost.Proofs.Client.Steps

/-!
# What readers work on

The reader of a run works on the bytes of its server that it has not read yet. `Takes` says once what a move
can do to these and to the reader: a call lets it begin, the reader goes on, or the server writes or closes
its output; nothing else touches them. `Attended` is the invariant by which a reader begins only once. How a
client stands to its server is changed by a reader only in its last step (`standing_reads`,
`standing_leave`).
-/

namespace ExtensionHost.Client

variable {x : Setup} {c d : Client} {r : Nat}

/-! ## What a reader works on -/

/-- The part of a run that its reader works on. -/
def Run.intake (y : Run) : Reader × List UInt8 × Bool := (y.reader, y.output, y.outputOpen)

theorem intake_modifyRun (c : Client) (r s : Nat) {f : Run → Run} (hf : ∀ y, (f y).intake = y.intake) :
    ((c.modifyRun r f).run s).intake = (c.run s).intake :=
  congr_run_modifyRun Run.intake c r s hf

/-- A call that goes on leaves what the reader of a run works on, unless it lets the reader begin. -/
theorem intake_advances {p q : Point} (h : Advances x c p d q) (hKeep : p ≠ .keepProcess r) :
    (d.run r).intake = (c.run r).intake := by
  have hBegin : ∀ {c : Client} {s : Nat}, s ≠ r →
      ((c.modifyRun s fun y => { y with reader := .reading }).run r).intake = (c.run r).intake :=
    fun hs => congrArg Run.intake (run_modifyRun_of_ne _ hs _)
  cases h with
  | launched hLaunch => exact congrArg Run.intake (run_launched c _ r)
  | processTold a s => exact intake_modifyRun { c with process := none, clearing := true } s r fun _ => rfl
  | processKept s => exact hBegin fun hs => hKeep (hs ▸ rfl)
  | processReplaced s old =>
    refine (hBegin fun hs => hKeep (hs ▸ rfl)).trans (intake_modifyRun c old r ?_)
    exact fun _ => rfl
  | sent p id s => exact intake_modifyRun c s r fun _ => rfl
  | noticeSent n s => exact intake_modifyRun c s r fun _ => rfl
  | _ => rfl

theorem intake_writes {s : Nat} {y : Run} (h : Writes c s y d) :
    (d.run r).intake = (c.run r).intake := by
  cases h <;> exact intake_modifyRun c s r fun _ => rfl

/-- A call that lets a reader begin. -/
theorem begun_advances {q : Point} (h : Advances x c (.keepProcess r) d q) (hRun : r < c.runs.length) :
    (d.run r).intake = (.reading, (c.run r).output, (c.run r).outputOpen) := by
  cases h with
  | processKept =>
    have hNow : ((c.modifyRun r fun y => { y with reader := .reading }).run r).intake =
        (.reading, (c.run r).output, (c.run r).outputOpen) := by
      rw [run_modifyRun_self hRun]
      rfl
    exact hNow
  | processReplaced _ old =>
    have hKilled := intake_modifyRun c old r (f := fun y => { y with killed := true }) fun _ => rfl
    have hLength := length_runs_modifyRun c old fun y => { y with killed := true }
    have hNow : (((c.modifyRun old fun y => { y with killed := true }).modifyRun r fun y =>
        { y with reader := .reading }).run r).intake =
        (.reading, (c.run r).output, (c.run r).outputOpen) := by
      rw [run_modifyRun_self (hLength ▸ hRun)]
      simp only [Run.intake, Prod.mk.injEq] at hKilled ⊢
      exact ⟨trivial, hKilled.2⟩
    exact hNow

/-! ## Steps of a reader -/

/-- The reason that what is found at the end of a stream gives for the end of the server. -/
def stopReason : Rpc.FrameStep → Option String
  | .failed e => some (readFailure e)
  | _ => none

/-- Where a reader goes that finds no further frame. -/
def readerAt : Rpc.FrameStep → Reader
  | .tooLarge => .broken
  | stop => .draining (stopReason stop)

theorem readerAt_of_ne_tooLarge {stop : Rpc.FrameStep} (h : stop ≠ .tooLarge) :
    readerAt stop = .draining (stopReason stop) := by
  cases stop with
  | tooLarge => exact absurd rfl h
  | _ => rfl

/-- A reader waits for frames, or has taken one to which it has to reply. -/
def Run.Listens (y : Run) : Prop := y.reader = .reading ∨ ∃ message, y.reader = .replying message

/-- What a step of the reader of a run does to what it works on. -/
inductive Digests (y z : Run) : Prop where
  | frame (body rest : List UInt8) (hReader : y.reader = .reading)
      (hFrame : Rpc.readFrame (!y.outputOpen) y.output = .frame body rest) (hListens : z.Listens)
      (hOutput : z.output = rest) (hOpen : z.outputOpen = y.outputOpen)
  | stopped (stop : Rpc.FrameStep) (hReader : y.reader = .reading)
      (hFrame : Rpc.readFrame (!y.outputOpen) y.output = stop)
      (hNoFrame : ∀ body rest, stop ≠ .frame body rest) (hComplete : stop ≠ .incomplete)
      (hIntake : z.intake = (readerAt stop, y.output, y.outputOpen))
  | replied (message : String) (hReader : y.reader = .replying message)
      (hIntake : z.intake = (.reading, y.output, y.outputOpen))
  | drained (reason : Option String) (hReader : y.reader = .draining reason)
      (hIntake : z.intake = (.leaving reason, y.output, y.outputOpen))
  | left (reason : Option String) (hReader : y.reader = .leaving reason)
      (hIntake : z.intake = (.ended, y.output, y.outputOpen))

theorem Digests.not_idle {y z : Run} (h : Digests y z) : y.reader ≠ .idle := by
  cases h with
  | frame _ _ hReader | stopped _ hReader | replied _ hReader | drained _ hReader
  | left _ hReader => simp [hReader]

theorem Digests.not_ended {y z : Run} (h : Digests y z) : y.reader ≠ .ended := by
  cases h with
  | frame _ _ hReader | stopped _ hReader | replied _ hReader | drained _ hReader
  | left _ hReader => simp [hReader]

theorem Digests.outputOpen {y z : Run} (h : Digests y z) : z.outputOpen = y.outputOpen := by
  cases h with
  | frame _ _ _ _ _ _ hOpen => exact hOpen
  | stopped _ _ _ _ _ hIntake | replied _ _ hIntake | drained _ _ hIntake | left _ _ hIntake =>
    exact congrArg (fun i => i.2.2) hIntake

/-- A reader that goes on has begun then, and has ended only after its last step. -/
theorem Digests.next {y z : Run} (h : Digests y z) :
    z.reader ≠ .idle ∧ (z.reader = .ended → ∃ reason, y.reader = .leaving reason) := by
  cases h with
  | frame _ _ _ _ hListens =>
    rcases hListens with hReading | ⟨message, hReplying⟩
    · simp [hReading]
    · simp [hReplying]
  | stopped stop _ _ _ _ hIntake =>
    have hNext : z.reader = readerAt stop := congrArg Prod.fst hIntake
    cases stop <;> simp [hNext, readerAt]
  | replied _ _ hIntake | drained _ _ hIntake =>
    have hNext := congrArg Prod.fst hIntake
    simp only [Run.intake] at hNext
    simp [hNext]
  | left reason hReader hIntake =>
    have hNext : z.reader = .ended := congrArg Prod.fst hIntake
    exact ⟨by simp [hNext], fun _ => ⟨reason, hReader⟩⟩

theorem digests_reads (hRun : r < c.runs.length) (h : Reads x c r (c.run r) d) :
    Digests (c.run r) (d.run r) := by
  cases h with
  | response body rest id result hReader hFrame hBody =>
    rw [run_complete, run_modifyRun_self hRun]
    exact .frame body rest hReader hFrame (.inl hReader) rfl rfl
  | request body rest id method params message hReader hFrame hBody =>
    rw [run_modifyRun_self (by rwa [length_runs_modifyRun]), run_modifyRun_self hRun]
    exact .frame body rest hReader hFrame (.inr ⟨message, rfl⟩) rfl rfl
  | passed body rest hReader hFrame hBody =>
    rw [run_modifyRun_self hRun]
    exact .frame body rest hReader hFrame (.inl hReader) rfl rfl
  | outputEnded hReader hFrame =>
    rw [run_modifyRun_self hRun]
    exact .stopped _ hReader hFrame (by simp) (by simp) rfl
  | failed e log hReader hFrame =>
    have hNow : (({ c with log } : Client).modifyRun r fun y =>
        { y with reader := .draining (some (readFailure e)) }).run r =
        { c.run r with reader := .draining (some (readFailure e)) } := run_modifyRun_self hRun _
    rw [hNow]
    exact .stopped _ hReader hFrame (by simp) (by simp) rfl
  | tooLarge hReader hFrame =>
    rw [run_modifyRun_self hRun]
    exact .stopped _ hReader hFrame (by simp) (by simp) rfl
  | replyLost message hReader =>
    rw [run_modifyRun_self hRun]
    exact .replied message hReader rfl
  | replied message hReader =>
    rw [run_modifyRun_self (by rwa [push, length_runs_modifyRun]), push, run_modifyRun_self hRun]
    exact .replied message hReader rfl
  | drained reason hReader =>
    have hNow : (c.drain.modifyRun r fun y => { y with reader := .leaving reason }).run r =
        { c.run r with reader := .leaving reason } := run_modifyRun_self hRun _
    rw [hNow]
    exact .drained reason hReader rfl
  | left reason hReader =>
    rw [run_modifyRun_self (by rwa [length_runs_leave]), run_leave]
    exact .left reason hReader rfl

/-- The reader of another run leaves what the reader of a run works on. -/
theorem intake_reads {s : Nat} {y : Run} (h : Reads x c s y d) (hs : s ≠ r) :
    (d.run r).intake = (c.run r).intake := by
  cases h with
  | response body rest id result => rw [run_complete, run_modifyRun_of_ne c hs]
  | request => rw [run_modifyRun_of_ne _ hs, run_modifyRun_of_ne c hs]
  | passed | outputEnded | tooLarge | replyLost => rw [run_modifyRun_of_ne c hs]
  | failed e log => exact congrArg Run.intake (run_modifyRun_of_ne { c with log } hs _)
  | replied message => rw [run_modifyRun_of_ne _ hs, push, run_modifyRun_of_ne c hs]
  | drained reason => exact congrArg Run.intake (run_modifyRun_of_ne c.drain hs _)
  | left reason => rw [run_modifyRun_of_ne _ hs, run_leave]

/-- What a move does to the part of a run that its reader works on. -/
inductive Takes (x : Setup) (c : Client) (r : Nat) : Move → Client → Prop where
  | kept (m : Move) (d : Client) (hIntake : (d.run r).intake = (c.run r).intake)
      (hSilent : ∀ bytes, m = .output r bytes → (c.run r).outputOpen = false) : Takes x c r m d
  | begun (k : Nat) (d : Client) (hCall : c.calls[k]? = some (.keepProcess r))
      (hNow : d.calls[k]? = some (.openChannel r))
      (hIntake : (d.run r).intake = (.reading, (c.run r).output, (c.run r).outputOpen)) :
      Takes x c r (.goOn k) d
  | read (d : Client) (hReads : Reads x c r (c.run r) d) : Takes x c r (.read r) d
  | served (d : Client) (bytes : List UInt8) (hOpen : (c.run r).outputOpen = true)
      (hIntake : (d.run r).intake = ((c.run r).reader, (c.run r).output ++ bytes, true)) :
      Takes x c r (.output r bytes) d
  | closed (d : Client) (hIntake : (d.run r).intake = ((c.run r).reader, (c.run r).output, false)) :
      Takes x c r (.closeOutput r) d

/-- **What a move does to the part of a run that its reader works on.** -/
theorem takes_play (x : Setup) (hRun : r < c.runs.length) (m : Move) : Takes x c r m (c.play x m) := by
  have hPlays := plays_play x c m
  generalize c.play x m = d at hPlays ⊢
  cases hPlays with
  | nothing m hNone => exact .kept _ _ rfl fun bytes hMove => nomatch hMove ▸ hNone
  | called op => exact .kept _ _ rfl fun _ h => nomatch h
  | @advanced k p q d hCall hAdvances =>
    by_cases hKeep : p = .keepProcess r
    · subst hKeep
      have hIntake := begun_advances hAdvances hRun
      have hNow := call_moveCall (l := k) (q := q) d (calls_advances hAdvances ▸ hCall)
      rw [if_pos rfl] at hNow
      have hNext : q = .openChannel r := by cases hAdvances <;> rfl
      exact .begun k _ hCall (hNext ▸ hNow) hIntake
    · have hIntake : (d.run r).intake = (c.run r).intake := intake_advances hAdvances hKeep
      exact .kept _ _ hIntake fun _ h => nomatch h
  | expired hCall hExpires =>
    cases hExpires with
    | request => exact .kept _ _ rfl fun _ h => nomatch h
    | process a s => exact .kept _ _ (intake_modifyRun c s r fun _ => rfl) fun _ h => nomatch h
  | wrote hGet hWrites => exact .kept _ _ (intake_writes hWrites) fun _ h => nomatch h
  | @read s y _ hGet hReads =>
    by_cases hs : s = r
    · subst hs
      obtain rfl := run_eq hGet
      exact .read _ hReads
    · exact .kept _ _ (intake_reads hReads hs) fun _ h => nomatch h
  | served s bytes =>
    by_cases hs : s = r
    · subst hs
      cases hOpen : (c.run s).outputOpen with
      | true =>
        refine .served _ bytes hOpen ?_
        rw [run_modifyRun_self hRun, if_pos hOpen]
        rw [Run.intake, hOpen]
      | false =>
        refine .kept _ _ ?_ fun _ _ => hOpen
        rw [run_modifyRun_self hRun, if_neg (by simp [hOpen])]
    · refine .kept _ _ ?_ fun bytes h => ?_
      · rw [run_modifyRun_of_ne c hs]
      · cases h
        exact absurd rfl hs
  | outputClosed s =>
    by_cases hs : s = r
    · subst hs
      refine .closed _ ?_
      rw [run_modifyRun_self hRun]
      rfl
    · refine .kept _ _ ?_ fun _ h => nomatch h
      rw [run_modifyRun_of_ne c hs]
  | exited s => exact .kept _ _ (intake_modifyRun c s r fun _ => rfl) fun _ h => nomatch h

/-! ## Readers that have not begun -/

/-- Each call that is about to keep a process keeps that of a run of its own, whose reader has not begun. -/
structure Attended (c : Client) : Prop where
  idle : ∀ (k r : Nat), c.calls[k]? = some (Point.keepProcess r) →
    r < c.runs.length ∧ (c.run r).reader = .idle
  own : ∀ (k k' r : Nat), c.calls[k]? = some (Point.keepProcess r) →
    c.calls[k']? = some (Point.keepProcess r) → k = k'

/-- A move leaves the reader of a run alone that is not there yet. -/
theorem intake_play_of_le (x : Setup) (h : Attended c) (hRun : c.runs.length ≤ r) (m : Move) :
    ((c.play x m).run r).intake = (c.run r).intake := by
  have hOther : ∀ {c : Client} {s : Nat} {f : Run → Run}, c.runs.length ≤ r →
      (c.modifyRun s f).run r = c.run r := by
    intro c s f hc
    rw [run_modifyRun, if_neg fun h => Nat.not_lt.mpr hc h.2]
  have hPlays := plays_play x c m
  generalize c.play x m = d at hPlays ⊢
  cases hPlays with
  | nothing | called => rfl
  | @advanced k p q d hCall hAdvances =>
    have hIntake : (d.run r).intake = (c.run r).intake := by
      refine intake_advances hAdvances fun hKeep => ?_
      exact Nat.not_lt.mpr hRun (h.idle k r (hKeep ▸ hCall)).1
    exact hIntake
  | expired hCall hExpires =>
    cases hExpires with
    | request => rfl
    | process a s => rw [hOther hRun]
  | wrote hGet hWrites => exact intake_writes hWrites
  | read hGet hReads => exact intake_reads hReads fun hs => Nat.not_lt.mpr hRun (hs ▸ lt_of_run hGet)
  | served | outputClosed | exited => rw [hOther hRun]

/-- A call is about to keep a process that it was about to keep before or that it has just launched. -/
theorem keepProcess_play {m : Move} {k : Nat}
    (h : (c.play x m).calls[k]? = some (.keepProcess r)) :
    c.calls[k]? = some (.keepProcess r) ∨
      m = .goOn k ∧ r = c.runs.length ∧ (c.play x m).runs = c.runs ++ [({} : Run)] := by
  have hFollows := follows_play x c m k
  revert h hFollows
  generalize c.play x m = d
  intro h hFollows
  cases hFollows with
  | stayed _ _ hNow => exact .inl (hNow ▸ h)
  | made op _ hk hNow => cases hNow.symm.trans h
  | @advanced p q d hCall hAdvances hNow =>
    cases hNow.symm.trans h
    generalize hq : Point.keepProcess r = q at hAdvances
    cases hAdvances with
    | launched hLaunch =>
      cases hq
      exact .inr ⟨rfl, rfl, rfl⟩
    | nothingToClear a | processEnded a => cases a <;> cases hq
    | unsent p | sendFailed p | answered p =>
      unfold afterRequest at hq
      split at hq <;> cases hq
    | unnotified n | noticeFailed n | noticeSent n =>
      unfold afterNotice at hq
      split at hq <;> cases hq
    | _ => cases hq
  | expired _ hCall hResponse hNow =>
    have hAfter := Option.some.inj (hNow.symm.trans h)
    unfold afterRequest at hAfter
    split at hAfter <;> cases hAfter

theorem Attended.play {m : Move} (h : Attended c) : Attended (c.play x m) := by
  refine ⟨fun k r hk => ?_, fun k k' r hk hk' => ?_⟩
  · rcases keepProcess_play hk with hBefore | ⟨-, rfl, hRuns⟩
    · obtain ⟨hRun, hIdle⟩ := h.idle k r hBefore
      refine ⟨Nat.lt_of_lt_of_le hRun (length_runs_play x c m), ?_⟩
      have hTakes := takes_play x hRun m
      revert hk hTakes
      generalize c.play x m = d
      intro hk hTakes
      cases hTakes with
      | kept _ _ hIntake => exact (congrArg Prod.fst hIntake).trans hIdle
      | begun j _ hCall hNow hIntake =>
        cases h.own k j r hBefore hCall
        cases hk.symm.trans hNow
      | read _ hReads => exact absurd hIdle (digests_reads hRun hReads).not_idle
      | served _ _ _ hIntake => exact (congrArg Prod.fst hIntake).trans hIdle
      | closed _ hIntake => exact (congrArg Prod.fst hIntake).trans hIdle
    · rw [run, hRuns]
      simp
  · rcases keepProcess_play hk with hBefore | ⟨hMove, hNew, -⟩
    · rcases keepProcess_play hk' with hBefore' | ⟨-, hNew, -⟩
      · exact h.own k k' r hBefore hBefore'
      · exact absurd (hNew ▸ (h.idle k r hBefore).1) (Nat.lt_irrefl _)
    · rcases keepProcess_play hk' with hBefore' | ⟨hMove', -, -⟩
      · exact absurd (hNew ▸ (h.idle k' r hBefore').1) (Nat.lt_irrefl _)
      · cases hMove.symm.trans hMove'
        rfl

theorem attended_playAll (h : Attended c) (moves : List Move) : Attended (c.playAll x moves) := by
  induction moves generalizing c with
  | nil => exact h
  | cons m moves ih => exact ih h.play

theorem attended_fresh (listeners : Listeners Nat) : Attended (fresh listeners) :=
  ⟨(fun _ _ h => nomatch h), (fun _ _ _ h => nomatch h)⟩

/-! ## How a client stands to its server -/

/-- How a client stands to its server: its state, those who listen for the end of the server, and what they
were told. -/
structure Standing where
  status : Status
  didStop : Listeners Nat
  notified : List (Nat × Option String)

/-- How a client stands to its server. -/
def standing (c : Client) : Standing := ⟨c.status, c.didStop, c.notified⟩

/-- How a client stands after the output of its server has ended: it is crashed if it was ready or starting,
and each listener was told the reason if it was ready. -/
def Standing.afterEnd (s : Standing) (reason : Option String) : Standing :=
  match s.status with
  | .ready =>
    { s with
      status := .crashed
      notified := s.notified ++ s.didStop.snapshot.map fun n => (n, reason) }
  | .initializing => { s with status := .crashed }
  | _ => s

theorem standing_reads {y : Run} (h : Reads x c r y d) (hReader : ∀ reason, y.reader ≠ .leaving reason) :
    d.standing = c.standing := by
  cases h with
  | response body rest id result =>
    unfold complete
    split <;> rfl
  | left reason hLeaving => exact absurd hLeaving (hReader reason)
  | _ => rfl

theorem standing_leave (x : Setup) (c : Client) (reason : Option String) :
    (c.leave x reason).standing = c.standing.afterEnd reason := by
  unfold leave
  cases hStatus : c.status <;>
    simp [standing, notifyStop, say, Standing.afterEnd, hStatus]

theorem didStop_play (x : Setup) (c : Client) (m : Move) : (c.play x m).didStop = c.didStop := by
  have hPlays := plays_play x c m
  generalize c.play x m = d at hPlays ⊢
  cases hPlays with
  | @advanced k p q d hCall hAdvances =>
    have hSame : d.didStop = c.didStop := by cases hAdvances <;> rfl
    exact hSame
  | expired hCall hExpires => cases hExpires <;> rfl
  | wrote hRun hWrites => cases hWrites <;> rfl
  | read hRun hReads =>
    cases hReads with
    | response =>
      unfold complete
      split <;> rfl
    | left reason =>
      have hStanding := standing_leave x c reason
      have hSame : (c.standing.afterEnd reason).didStop = c.didStop := by
        unfold Standing.afterEnd
        split <;> rfl
      exact (congrArg Standing.didStop hStanding).trans hSame
    | _ => rfl
  | nothing | called | served | outputClosed | exited => rfl

theorem didStop_playAll (x : Setup) (c : Client) (moves : List Move) :
    (c.playAll x moves).didStop = c.didStop := by
  induction moves generalizing c with
  | nil => rfl
  | cons m moves ih => exact (ih _).trans (didStop_play x c m)

/-! ## Readers that are over -/

theorem ended_play {m : Move} (hAttended : Attended c) (hRun : r < c.runs.length)
    (hReader : (c.run r).reader = .ended) : ((c.play x m).run r).reader = .ended := by
  have hTakes := takes_play x hRun m
  generalize c.play x m = d at hTakes ⊢
  cases hTakes with
  | kept _ _ hIntake => exact (congrArg Prod.fst hIntake).trans hReader
  | begun k _ hCall =>
    have hIdle := (hAttended.idle k r hCall).2
    rw [hReader] at hIdle
    cases hIdle
  | read _ hReads => exact absurd hReader (digests_reads hRun hReads).not_ended
  | served _ _ _ hIntake => exact (congrArg Prod.fst hIntake).trans hReader
  | closed _ hIntake => exact (congrArg Prod.fst hIntake).trans hReader

theorem ended_playAll (hAttended : Attended c) (hRun : r < c.runs.length)
    (hReader : (c.run r).reader = .ended) (moves : List Move) :
    ((c.playAll x moves).run r).reader = .ended := by
  induction moves generalizing c with
  | nil => exact hReader
  | cons m moves ih =>
    exact ih hAttended.play (Nat.lt_of_lt_of_le hRun (length_runs_play x c m))
      (ended_play hAttended hRun hReader)

end ExtensionHost.Client
