import ExtensionHost.Proofs.Lifecycle.Custody

/-!
# Clients that nobody holds

A client that has started and was neither asked to stop nor stopped on its own should be the one in the
slot. `NoOrphans` states this of every run of overlapping operations, and it fails: the answer to the
panel about a stopped server starts a client and puts it into the slot, even when a restart meanwhile has
put another one there, and the task about a stopped server takes out whatever client is held when it
begins. `orphanFree_iff` says after which runs it does hold: exactly after those in which only clients
whose servers had stopped on their own were displaced in one of these two ways.
-/

namespace ExtensionHost.Stage

/-- After a run, every client that has started and was neither asked to stop nor stopped on its own is
the client that is held. -/
def OrphanFree (x : Surroundings) (s : Session) (moves : List Move) : Prop :=
  ∀ client ∈ collect x startedBy ⟨s, []⟩ moves,
    client ∉ (playAll x ⟨s, []⟩ moves).session.core.stopped →
      client ∉ collect x terminatedBy ⟨s, []⟩ moves →
        (playAll x ⟨s, []⟩ moves).session.extension.slot = some client

/-- No run leaves an orphan when nothing is under way after it. -/
def NoOrphans : Prop :=
  ∀ (x : Surroundings) (s : Session), s.Fresh → ∀ moves : List Move,
    (playAll x ⟨s, []⟩ moves).Idle → (playAll x ⟨s, []⟩ moves).session.prompts = [] →
      OrphanFree x s moves

/-- A client that has started and was not asked to stop is held exactly when it was not displaced. -/
theorem held_iff_not_displaced (x : Surroundings) {s : Session} (hFresh : s.Fresh)
    (moves : List Move) {client : Nat} (hStarted : client ∈ collect x startedBy ⟨s, []⟩ moves)
    (hStopped : client ∉ (playAll x ⟨s, []⟩ moves).session.core.stopped) :
    (playAll x ⟨s, []⟩ moves).session.extension.slot = some client ↔
      client ∉ collect x displacedBy ⟨s, []⟩ moves := by
  have hSound := sound_playAll x hFresh moves
  constructor
  · intro hSlot hDisplaced
    exact hSound.not_held_of_displaced hDisplaced hSlot
  · intro hDisplaced
    rcases hSound.accounted client hStarted with hSlot | hStop | hLost
    · exact hSlot
    · exact absurd hStop hStopped
    · exact absurd hLost hDisplaced

/-- **When a run leaves no orphan**: exactly when every client that it displaced had stopped on its own.
A client is displaced when another one has started while it is held, or when the task about a stopped
server begins while it is held. -/
theorem orphanFree_iff (x : Surroundings) {s : Session} (hFresh : s.Fresh) (moves : List Move) :
    OrphanFree x s moves ↔
      ∀ client ∈ collect x displacedBy ⟨s, []⟩ moves,
        client ∈ collect x terminatedBy ⟨s, []⟩ moves := by
  have hSound := sound_playAll x hFresh moves
  constructor
  · intro hFree client hDisplaced
    refine Decidable.byContradiction fun hTerminated => ?_
    have hSlot := hFree client (hSound.displacedStarted client hDisplaced)
      (hSound.not_stopped_of_displaced hDisplaced) hTerminated
    exact hSound.not_held_of_displaced hDisplaced hSlot
  · intro hDisplaced client hStarted hStopped hTerminated
    refine (held_iff_not_displaced x hFresh moves hStarted hStopped).mpr ?_
    intro hLost
    exact hTerminated (hDisplaced client hLost)

/-- A server stops, and the user restarts it. -/
def restartedOnce : List Move :=
  [.activate, .reply 0 Wait.goodReply, .reply 0 Wait.goodReply, .serverStopped 0 none, .prompt,
    .reply 0 Wait.goodReply, .reply 0 Wait.goodReply, .reply 0 Wait.goodReply]

/-- Only the client whose server stopped was displaced, so there is no orphan. -/
theorem orphanFree_restartedOnce : OrphanFree .plain .scripted restartedOnce :=
  (orphanFree_iff .plain Session.fresh_scripted restartedOnce).mpr (by decide +kernel)

/-- A server stops. While the panel about it is shown, a restart starts another client; then the user
restarts the server. -/
def restartedTwice : List Move :=
  [.activate, .reply 0 Wait.goodReply, .reply 0 Wait.goodReply, .serverStopped 0 none, .prompt,
    .restart, .reply 1 Wait.goodReply, .reply 1 Wait.goodReply,
    .reply 0 Wait.goodReply, .reply 0 Wait.goodReply, .reply 0 Wait.goodReply]

/-- The client that the restart starts is an orphan in the end. -/
theorem not_noOrphans : ¬ NoOrphans := by
  intro h
  have hIdle : (playAll .plain ⟨.scripted, []⟩ restartedTwice).waiting = [] :=
    List.isEmpty_iff.mp (by decide +kernel)
  have hSlot := h .plain .scripted Session.fresh_scripted restartedTwice
    (by unfold Idle; rw [hIdle]; exact List.forall_mem_nil _) (by decide +kernel) 1
    (by decide +kernel) (by decide +kernel) (by decide +kernel)
  exact absurd hSlot (by decide +kernel)

end ExtensionHost.Stage
