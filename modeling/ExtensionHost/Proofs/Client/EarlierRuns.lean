import ExtensionHost.Proofs.Client.Termination

/-!
# Readers of earlier runs

A client that is started again shares what its requests wait for, its state and its listeners with the
readers of its earlier runs. A reader that was over before the start stays out of all that follows
(`over_playAll`, `play_read_of_over`). One that is not over when the client is started again ends with the
output of its own server, whenever that is, and its end is taken for that of the server that runs then
(`earlierEnd_reaches`, `not_keepsOut`).
-/

namespace ExtensionHost.Client

variable {x : Setup} {c d : Client} {r : Nat}

/-! ## Starting again -/

/-- A call is about to start a client that does not run. -/
structure Restarts (c : Client) (k : Nat) : Prop where
  call : c.calls[k]? = some (.begin .start)
  status : c.status = .notInitialized ∨ c.status = .shutdown ∨ c.status = .crashed

/-- What a client is after a call has started it again and moves were made. -/
def restarted (x : Setup) (c : Client) (k : Nat) (later : List Move) : Client :=
  (c.play x (.goOn k)).playAll x later

theorem length_runs_restarted (x : Setup) (c : Client) (k : Nat) (later : List Move) :
    c.runs.length ≤ (c.restarted x k later).runs.length :=
  Nat.le_trans (length_runs_play x c (.goOn k)) (length_runs_playAll x _ later)

theorem restarted_concat (x : Setup) (c : Client) (k : Nat) (later : List Move) (m : Move) :
    c.restarted x k (later ++ [m]) = (c.restarted x k later).play x m :=
  playAll_concat x (c.play x (.goOn k)) later m

/-- A start that goes on begins another run. -/
theorem Restarts.status_play {k : Nat} (h : c.Restarts k) :
    (c.play x (.goOn k)).status = .initializing := by
  have hBegins : c.play x (.goOn k) = c.beginCall x k .start :=
    play_of_some (by simp only [play?, stepCall, h.call, stepPoint])
  rw [hBegins]
  rcases h.status with hStatus | hStatus | hStatus
  · simp only [beginCall, hStatus, moveCall]
  · simp only [beginCall, hStatus, moveCall]
  · simp only [beginCall, hStatus, moveCall]

/-- A request that waits after some moves has waited before them or has a number given by them. -/
theorem waited_playAll {id : Nat} (moves : List Move) (h : id ∈ (c.playAll x moves).pending) :
    id ∈ c.pending ∨ c.nextId ≤ id := by
  induction moves generalizing c with
  | nil => exact .inl h
  | cons m moves ih =>
    rcases ih h with hWaited | hLater
    · rcases keeps_play x c m with ⟨-, hBooks⟩ | ⟨e, -, hNotes⟩
      · simp only [books, Prod.mk.injEq] at hBooks
        exact .inl (hBooks.2.1 ▸ hWaited)
      · rw [hNotes.pending, List.mem_append, List.mem_filter] at hWaited
        rcases hWaited with ⟨hBefore, -⟩ | hNew
        · exact .inl hBefore
        · rcases hNotes.numbers with ⟨hNumbers, -⟩ | ⟨hNumbers, -⟩
          · rw [hNumbers] at hNew
            cases hNew
          · rw [hNumbers, List.mem_singleton] at hNew
            exact .inr (Nat.le_of_eq hNew.symm)
    · exact .inr (Nat.le_trans (nextId_play x c m) hLater)

/-- The requests that wait have numbers that were given. -/
theorem Booked.lt_nextId {events : List Event} {id : Nat} (h : Booked c events) (hMem : id ∈ c.pending) :
    id < c.nextId := by
  have hNumber := mem_numbers_of_outstanding ((h.pending id).mp hMem)
  rwa [h.numbers, List.mem_range] at hNumber

/-! ## Readers that are over -/

/-- The reader of a run is over: it has ended or was broken off. -/
def Run.Over (y : Run) : Prop := y.reader = .ended ∨ y.reader = .broken

theorem Digests.not_over {y z : Run} (h : Digests y z) : ¬ y.Over := by
  rintro (hEnded | hBroken)
  · exact h.not_ended hEnded
  · cases h with
    | frame _ _ hReader | stopped _ hReader | replied _ hReader | drained _ hReader
    | left _ hReader => exact absurd (hBroken.symm.trans hReader) nofun

theorem over_play {m : Move} (hAttended : Attended c) (hRun : r < c.runs.length)
    (hOver : (c.run r).Over) : ((c.play x m).run r).Over := by
  have hKept : ∀ {d : Client}, (d.run r).reader = (c.run r).reader → (d.run r).Over := by
    intro d hReader
    rw [Run.Over, hReader]
    exact hOver
  have hTakes := takes_play x hRun m
  generalize c.play x m = d at hTakes ⊢
  cases hTakes with
  | kept _ _ hIntake => exact hKept (congrArg Prod.fst hIntake)
  | begun k _ hCall =>
    have hIdle := (hAttended.idle k r hCall).2
    rw [Run.Over, hIdle] at hOver
    rcases hOver with hEnded | hBroken
    · cases hEnded
    · cases hBroken
  | read _ hReads => exact absurd hOver (digests_reads hRun hReads).not_over
  | served _ _ _ hIntake => exact hKept (congrArg Prod.fst hIntake)
  | closed _ hIntake => exact hKept (congrArg Prod.fst hIntake)

theorem over_playAll (hAttended : Attended c) (hRun : r < c.runs.length) (hOver : (c.run r).Over)
    (moves : List Move) : ((c.playAll x moves).run r).Over := by
  induction moves generalizing c with
  | nil => exact hOver
  | cons m moves ih =>
    exact ih hAttended.play (Nat.lt_of_lt_of_le hRun (length_runs_play x c m))
      (over_play hAttended hRun hOver)

theorem play_read_of_over (hRun : r < c.runs.length) (hOver : (c.run r).Over) :
    c.play x (.read r) = c := by
  refine play_of_none ?_
  rcases hOver with hEnded | hBroken
  · simp only [play?, stepReader, getElem?_run hRun, hEnded]
  · simp only [play?, stepReader, getElem?_run hRun, hBroken]

/-! ## The two steps of an end -/

theorem play_read_draining (x : Setup) {reason : Option String} (hRun : r < c.runs.length)
    (hReader : (c.run r).reader = .draining reason) :
    let d := c.play x (.read r)
    d.standing = c.standing ∧ d.pending = [] ∧
      d.responses = c.responses ++ c.pending.map fun id => (id, .error (terminated id)) := by
  have hRead : c.play x (.read r) = c.drain.modifyRun r fun y => { y with reader := .leaving reason } :=
    play_of_some (by simp only [play?, stepReader, getElem?_run hRun, hReader])
  rw [hRead]
  exact ⟨rfl, rfl, rfl⟩

theorem play_read_leaving (x : Setup) {reason : Option String} (hRun : r < c.runs.length)
    (hReader : (c.run r).reader = .leaving reason) :
    let d := c.play x (.read r)
    d.standing = c.standing.afterEnd reason ∧ d.books = c.books := by
  have hRead : c.play x (.read r) =
      (c.leave x reason).modifyRun r fun y => { y with reader := .ended } :=
    play_of_some (by simp only [play?, stepReader, getElem?_run hRun, hReader])
  have hBooks : (c.leave x reason).books = c.books := by
    unfold leave
    split <;> rfl
  rw [hRead]
  exact ⟨standing_leave x c reason, hBooks⟩

/-! ## What an end comes to -/

/-- The end of a server has reached a client: no request waits any more, each that waited has a response,
those to which no frame with some bodies responds have failed because the server terminated, and the client
stands as after the end of its server. -/
structure Reached (c : Client) (bodies : List (List UInt8)) (reason : Option String) (d : Client) :
    Prop where
  pending : d.pending = []
  given : ∀ id ∈ c.pending, ∃ v, (id, v) ∈ d.responses
  failed : ∀ id ∈ c.pending, (∀ body ∈ bodies, responseTo id body = none) →
    (id, .error (terminated id)) ∈ d.responses
  standing : d.standing = c.standing.afterEnd reason

/-- A reader that listens to an output that has ended brings its end to the client, whichever run the
requests that wait belong to. -/
theorem reached_turns (x : Setup) (hRun : r < c.runs.length) (hListens : (c.run r).Listens)
    (hClosed : (c.run r).outputOpen = false)
    (hFits : (Rpc.readAll (c.run r).output).stop ≠ .tooLarge) :
    let found := Rpc.readAll (c.run r).output
    ∃ n, let d := c.playAll x (turns r n)
      (d.run r).reader = .ended ∧ Reached c found.bodies (stopReason found.stop) d := by
  obtain ⟨n, hStop, hAnswered⟩ := turns_stop x hRun hListens hClosed
  have hLater := Nat.lt_of_lt_of_le hRun (length_runs_playAll x c (turns r n))
  obtain ⟨hEnded, hStanding, hPending, hResponses⟩ :=
    turns_end x hLater (hStop.trans (readerAt_of_ne_tooLarge hFits))
  refine ⟨n + 2, ?_⟩
  rw [turns_add, playAll_append]
  refine ⟨hEnded, hPending, fun id hMem => ?_, fun id hMem hAlone => ?_,
    hStanding.trans (by rw [hAnswered.standing])⟩
  · rw [hResponses]
    rcases hAnswered.given id hMem with hStill | ⟨v, hv⟩
    · exact ⟨_, List.mem_append_right _ (List.mem_map.mpr ⟨id, hStill, rfl⟩)⟩
    · exact ⟨v, List.mem_append_left _ hv⟩
  · rw [hResponses]
    refine List.mem_append_right _ (List.mem_map.mpr ⟨id, ?_, rfl⟩)
    exact (hAnswered.mem_pending_iff id).mpr ⟨hMem, hAlone⟩

/-- A step leaves a run alone whose requests have numbers from `since` on: it completes none of them,
changes no state and tells no listener anything. -/
structure LeavesAlone (since : Nat) (c d : Client) : Prop where
  pending : ∀ id ∈ c.pending, since ≤ id → id ∈ d.pending
  status : d.status = c.status
  notified : d.notified = c.notified

/-- The first step of an end leaves a later run alone if and only if no request of that run waits. -/
theorem leavesAlone_draining_iff (x : Setup) {reason : Option String} (hRun : r < c.runs.length)
    (hReader : (c.run r).reader = .draining reason) (since : Nat) :
    LeavesAlone since c (c.play x (.read r)) ↔ ∀ id ∈ c.pending, id < since := by
  obtain ⟨hStanding, hPending, -⟩ := play_read_draining x hRun hReader
  refine ⟨fun h id hMem => ?_, fun h => ⟨fun id hMem hSince => ?_, congrArg Standing.status hStanding,
    congrArg Standing.notified hStanding⟩⟩
  · by_contra hSince
    have hStill := h.pending id hMem (Nat.le_of_not_lt hSince)
    rw [hPending] at hStill
    cases hStill
  · exact absurd (h id hMem) (Nat.not_lt.mpr hSince)

/-- The last step of an end leaves a later run alone if and only if that run is neither ready nor
starting. -/
theorem leavesAlone_leaving_iff (x : Setup) {reason : Option String} (hRun : r < c.runs.length)
    (hReader : (c.run r).reader = .leaving reason) (since : Nat) :
    LeavesAlone since c (c.play x (.read r)) ↔ c.status ≠ .ready ∧ c.status ≠ .initializing := by
  obtain ⟨hStanding, hBooks⟩ := play_read_leaving x hRun hReader
  have hStatus := congrArg Standing.status hStanding
  have hNotified := congrArg Standing.notified hStanding
  simp only [books, Prod.mk.injEq] at hBooks
  simp only [standing, Standing.afterEnd] at hStatus hNotified
  refine ⟨fun h => ⟨fun hReady => ?_, fun hStarting => ?_⟩, fun h => ⟨fun id hMem _ => ?_, ?_, ?_⟩⟩
  · have hCrashed := h.status
    rw [hStatus, hReady] at hCrashed
    cases hCrashed
  · have hCrashed := h.status
    rw [hStatus, hStarting] at hCrashed
    cases hCrashed
  · exact hBooks.2.1 ▸ hMem
  · rw [hStatus]
    cases hNow : c.status <;> simp_all
  · rw [hNotified]
    cases hNow : c.status <;> simp_all

/-! ## What an earlier run comes to -/

/-- **What the end of an earlier run does to a later one.** A start that goes on begins a run, whose requests
are those with numbers given from then on. A run that the client had before is one of two kinds. If its reader
is over by then, the reader does nothing in whatever follows. If not, it may end at any time later, and its
end is taken for that of the run that is under way:

* in its first step all requests that wait fail, so it leaves that run alone only if none of its requests
  waits;
* in its last step the client is crashed if it was ready or starting, and the listeners are told if it was
  ready, so it leaves that run alone only if it is neither;
* when the output of the earlier server has ended and no header in it announces too much, turns of the
  reader and its writer come to this end. -/
theorem earlierEnd_reaches (x : Setup) (listeners : Listeners Nat) (before later : List Move) (k r : Nat)
    (hStart : ((fresh listeners).playAll x before).Restarts k)
    (hEarlier : r < ((fresh listeners).playAll x before).runs.length) :
    let c := (fresh listeners).playAll x before
    let d := c.restarted x k later
    (c.play x (.goOn k)).status = .initializing ∧
      (∀ id ∈ d.pending, id < c.nextId ↔ id ∈ c.pending) ∧
      ((c.run r).Over → d.play x (.read r) = d) ∧
      (∀ reason, (d.run r).reader = .draining reason →
        let e := d.play x (.read r)
        e.standing = d.standing ∧ e.pending = [] ∧
          e.responses = d.responses ++ (d.pending.map fun id => (id, .error (terminated id))) ∧
          (LeavesAlone c.nextId d e ↔ ∀ id ∈ d.pending, id < c.nextId)) ∧
      (∀ reason, (d.run r).reader = .leaving reason →
        let e := d.play x (.read r)
        e.standing = d.standing.afterEnd reason ∧ e.books = d.books ∧
          (LeavesAlone c.nextId d e ↔ d.status ≠ .ready ∧ d.status ≠ .initializing)) ∧
      ((d.run r).Listens → (d.run r).outputOpen = false →
        let found := Rpc.readAll (d.run r).output
        found.stop ≠ .tooLarge →
          ∃ n, let e := d.playAll x (turns r n)
            (e.run r).reader = .ended ∧ Reached d found.bodies (stopReason found.stop) e) := by
  intro c d
  have hAttended : Attended c := attended_playAll (attended_fresh listeners) before
  have hBooked : Booked c ([] ++ history x (fresh listeners) before) :=
    booked_playAll (booked_fresh listeners) before
  have hRun : r < d.runs.length := Nat.lt_of_lt_of_le hEarlier (length_runs_restarted x c k later)
  refine ⟨hStart.status_play, fun id hMem => ⟨fun hOld => ?_, hBooked.lt_nextId⟩, fun hOver => ?_,
    fun reason hReader => ?_, fun reason hReader => ?_, fun hListens hClosed hFits => ?_⟩
  · rcases waited_playAll (.goOn k :: later) hMem with hWaited | hLater
    · exact hWaited
    · exact absurd hOld (Nat.not_lt.mpr hLater)
  · have hOver' : (d.run r).Over := over_playAll hAttended hEarlier hOver (.goOn k :: later)
    exact play_read_of_over hRun hOver'
  · obtain ⟨hStanding, hPending, hResponses⟩ := play_read_draining x hRun hReader
    exact ⟨hStanding, hPending, hResponses, leavesAlone_draining_iff x hRun hReader c.nextId⟩
  · obtain ⟨hStanding, hBooks⟩ := play_read_leaving x hRun hReader
    exact ⟨hStanding, hBooks, leavesAlone_leaving_iff x hRun hReader c.nextId⟩
  · exact reached_turns x hRun hListens hClosed hFits

/-! ## A client that is started again too early -/

/-- A server refuses the first request, and its process ends while its output stays open. -/
def refused : List Move :=
  [.call .start] ++ List.replicate 9 (.goOn 0) ++
    [.output 0 (Rpc.frame "\x7b\"id\":0,\"error\":\x7b\"code\":-1,\"message\":\"m\"\x7d\x7d".toList), .read 0] ++
    List.replicate 3 (.goOn 0) ++ [.exit 0] ++ List.replicate 2 (.goOn 0)

/-- The start goes well, a request is sent, and then the output of the earlier server ends. -/
def overtaken : List Move :=
  List.replicate 8 (.goOn 1) ++
    [.output 1 (Rpc.frame "\x7b\"id\":1\x7d".toList), .read 1] ++ List.replicate 5 (.goOn 1) ++
    [.call (.request "x" .null)] ++ List.replicate 4 (.goOn 2) ++ [.closeOutput 0, .read 0]

/-- The client is called to start again. -/
def calledAgain : List Move := refused ++ [.call .start]

theorem restarts_calledAgain : ((fresh listener).playAll .plain calledAgain).Restarts 1 := by
  have hCalls : ((fresh listener).playAll .plain refused).calls.length = 1 := by decide +kernel
  have hStatus : ((fresh listener).playAll .plain refused).status = .notInitialized := by decide +kernel
  rw [calledAgain, playAll_concat]
  refine ⟨?_, .inl hStatus⟩
  have hLast := List.getElem?_concat_length
    (l := ((fresh listener).playAll .plain refused).calls) (a := Point.begin .start)
  rwa [hCalls] at hLast

/-- The client after its second start and the request, when the output of the earlier server has ended. -/
def again : Client := ((fresh listener).playAll .plain calledAgain).restarted .plain 1 overtaken

theorem runs_calledAgain :
    0 < ((fresh listener).playAll .plain calledAgain).runs.length ∧
      ((fresh listener).playAll .plain calledAgain).nextId = 1 := by
  decide +kernel

theorem standing_again :
    again.status = .ready ∧ again.pending = [2] ∧ again.didStop.snapshot = [5] ∧ again.notified = [] := by
  decide +kernel

theorem reader_again :
    (again.run 0).reader = .draining none ∧ ((again.play .plain (.read 0)).run 0).reader = .leaving none := by
  decide +kernel

/-- The client is ready and its request waits, and the end of the output of the server that refused lets the
request fail, crashes the client and is told to the listener. -/
theorem earlierEnd_reaches_refused :
    let c := (fresh listener).playAll .plain calledAgain
    let drained := again.play .plain (.read 0)
    let left := drained.play .plain (.read 0)
    c.Restarts 1 ∧ 0 < c.runs.length ∧ c.nextId = 1 ∧ again.status = .ready ∧ again.pending = [2] ∧
      drained.pending = [] ∧ (2, .error (terminated 2)) ∈ drained.responses ∧ left.status = .crashed ∧
        left.notified = [(5, none)] := by
  intro c drained left
  obtain ⟨hEarlier, hNext⟩ := runs_calledAgain
  obtain ⟨hReady, hPending, hListener, hQuiet⟩ := standing_again
  obtain ⟨hFirst, hSecond⟩ := reader_again
  obtain ⟨-, -, -, hDraining, -, -⟩ :=
    earlierEnd_reaches .plain listener calledAgain overtaken 1 0 restarts_calledAgain hEarlier
  obtain ⟨-, -, -, -, hLeaving, -⟩ := earlierEnd_reaches .plain listener calledAgain
    (overtaken ++ [.read 0]) 1 0 restarts_calledAgain hEarlier
  rw [restarted_concat] at hLeaving
  have hSame : drained.standing = again.standing := (hDraining none hFirst).1
  have hNone : drained.pending = [] := (hDraining none hFirst).2.1
  have hResponses : drained.responses =
      again.responses ++ again.pending.map fun id => (id, .error (terminated id)) :=
    (hDraining none hFirst).2.2.1
  have hAfter : left.standing = drained.standing.afterEnd none := (hLeaving none hSecond).1
  have hFailed : (2, .error (terminated 2)) ∈ drained.responses := by
    rw [hResponses, hPending]
    exact List.mem_append_right _ (List.mem_singleton.mpr rfl)
  have hCrashed : left.standing = ⟨.crashed, again.didStop, [(5, none)]⟩ := by
    rw [hAfter, hSame]
    simp only [Standing.afterEnd, standing, hReady, hQuiet, hListener, List.map_cons, List.map_nil,
      List.nil_append]
  have hStatus : left.status = .crashed := by
    generalize left = f at hCrashed ⊢
    exact congrArg Standing.status hCrashed
  have hNotified : left.notified = [(5, none)] := by
    generalize left = f at hCrashed ⊢
    exact congrArg Standing.notified hCrashed
  exact ⟨restarts_calledAgain, hEarlier, hNext, hReady, hPending, hNone, hFailed, hStatus, hNotified⟩

/-- When a client is started again, the ends of its earlier runs leave what follows alone. -/
def KeepsOut : Prop :=
  ∀ (x : Setup) (listeners : Listeners Nat) (before later : List Move) (k r : Nat),
    let c := (fresh listeners).playAll x before
    c.Restarts k → r < c.runs.length →
      let d := c.restarted x k later
      (∃ reason, (d.run r).reader = .draining reason ∨ (d.run r).reader = .leaving reason) →
        LeavesAlone c.nextId d (d.play x (.read r))

/-- **The end of an earlier run does not always leave a later one alone.** -/
theorem not_keepsOut : ¬ KeepsOut := by
  intro h
  obtain ⟨hEarlier, hNext⟩ := runs_calledAgain
  have hRun : 0 < again.runs.length :=
    Nat.lt_of_lt_of_le hEarlier (length_runs_restarted .plain _ 1 overtaken)
  have hAlone := h .plain listener calledAgain overtaken 1 0 restarts_calledAgain hEarlier
    ⟨none, .inl reader_again.1⟩
  have hOlder := (leavesAlone_draining_iff .plain hRun reader_again.1 _).mp hAlone 2
    (standing_again.2.1 ▸ List.mem_singleton.mpr rfl)
  rw [hNext] at hOlder
  exact absurd hOlder (by decide)

end ExtensionHost.Client
