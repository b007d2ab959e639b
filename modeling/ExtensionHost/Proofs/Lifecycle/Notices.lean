import ExtensionHost.Proofs.Lifecycle.Overtaken
import ExtensionHost.Proofs.Lifecycle.Sequential
import Mathlib

/-!
# Notices about stopped servers

Each listener that is told of a stopped server spawns a task, and the tasks begin in the order in which
they were spawned. A task should drop the handle of the client that stopped. `OnlyOwnHandle` states that it
leaves any other client alone, and it fails: a task takes whatever client is held when it begins.
`dropped_prompt` says what it does, and when that is another client: exactly when the one that is held was
started since the server stopped.
-/

namespace ExtensionHost

/-- How many of the tasks that were spawned a move may begin. -/
def Move.tasks : Move → Nat
  | .prompt => 1
  | _ => 0

namespace Stage

/-! ## The tasks in their order -/

/-- What a move does to the tasks that have not begun, and to the slot: it begins the first task or none
and spawns others, and only a client that starts with it comes into the slot. -/
structure Queues (g g' : Stage) (m : Move) : Prop where
  prompts : ∃ spawned,
    g'.session.core.prompts = g.session.core.prompts.drop m.tasks ++ spawned
  held : g'.session.core.held = g.session.core.held
  slot : ∀ client, g'.session.core.extension.slot = some client →
    g.session.core.extension.slot = some client ∨ g.startedBy m = some client

variable {x : Surroundings} {g : Stage}

theorem queues_of_spares {g' : Stage} {m : Move} (hm : m.tasks = 0)
    (hSpares : g.session.core.Spares g'.session.core) : g.Queues g' m where
  prompts := ⟨[], by rw [hm, hSpares.prompts]; simp⟩
  held := hSpares.held
  slot client hSlot := Or.inl (hSpares.slot client hSlot)

/-- Handlers that an operation runs before it waits or ends spare the core. -/
theorem spares_settle {k : Core} {waiting : List Suspended} {rest : Rest}
    {r : Session × Option Wait} (hr : k.Spares r.1.core) :
    k.Spares (after waiting (Session.settle x r rest)).session.core := by
  obtain ⟨w, hSpares, -⟩ := after_settle (x := x) (J := fun k' _ => k.Spares k')
    (fun k' r hk hHandles => hk.trans (Core.spares_handles hHandles)) waiting rest hr
  exact hSpares

/-- A task that begins takes the client that is held. -/
theorem core_prompt {reason : Option String} {rest : List (Option String)}
    (hPrompts : g.session.core.prompts = reason :: rest) :
    (g.play x .prompt).session.core = (g.session.core.prompted rest).1 := by
  rcases play_prompt x g with ⟨hNone, -⟩ | ⟨reason', rest', hSome, r, hPlay, hr⟩
  · rw [hPrompts] at hNone
    cases hNone
  · rw [hPrompts] at hSome
    cases hSome
    rw [hPlay, (after_settle_nothing x g.waiting r).1]
    exact congrArg Prod.fst hr

theorem queues_play (x : Surroundings) (g : Stage) (m : Move) : g.Queues (g.play x m) m := by
  have hOperation : ∀ {m : Move}, m.isOperation = true → m.tasks = 0 → g.Queues (g.play x m) m := by
    intro m hm hTasks
    obtain ⟨r, rest, hPlay, hOpens⟩ := play_operation x g hm
    rw [hPlay]
    exact queues_of_spares hTasks (spares_settle (Core.spares_opens hOpens))
  have hOutside : ∀ {m : Move}, m.isOutside = true → m.tasks = 0 → g.Queues (g.play x m) m := by
    intro m hm hTasks
    obtain ⟨⟨rs, told, hCore⟩, -⟩ := play_outside x g hm
    refine ⟨⟨told, ?_⟩, ?_, ?_⟩
    · rw [hCore, hTasks, List.drop_zero]
    · rw [hCore]
    · rw [hCore]
      exact fun _ hSlot => Or.inl hSlot
  cases m with
  | activate | deactivate | restart | invoke | addEditor | save => exact hOperation rfl rfl
  | openEditor | edit | register | onEditorAdded | onWillSave | changeSettings | changeFiles | dispose
  | serverStopped => exact hOutside rfl rfl
  | prompt =>
    rcases play_prompt x g with ⟨hPrompts, hPlay⟩ | ⟨reason, rest, hPrompts, -⟩
    · rw [hPlay]
      refine ⟨⟨[], ?_⟩, rfl, fun _ hSlot => Or.inl hSlot⟩
      rw [hPrompts]
      rfl
    · have hCore := core_prompt (x := x) hPrompts
      refine ⟨⟨[], ?_⟩, ?_, ?_⟩
      · rw [hCore, hPrompts, List.append_nil]
        rfl
      · rw [hCore]
        rfl
      · rw [hCore]
        intro client hSlot
        cases hSlot
  | reply number answer =>
    rcases play_reply x g number answer with ⟨-, hPlay⟩ | ⟨t, ht, r, hPlay, hReceives⟩
    · rw [hPlay]
      exact queues_of_spares rfl (Core.Spares.of_eq rfl rfl rfl)
    · rw [hPlay]
      rcases Core.spares_receives hReceives with hSpares | ⟨client, hStarted, hSpares⟩
      · exact queues_of_spares rfl (spares_settle hSpares)
      · have hAfter : (g.session.core.store client).Spares
            (after (g.waiting.eraseIdx number) (Session.settle x r t.rest)).session.core :=
          spares_settle hSpares
        refine ⟨⟨[], ?_⟩, hAfter.held, ?_⟩
        · rw [hAfter.prompts]
          simp [Move.tasks, Core.store]
        · intro other hSlot
          cases hAfter.slot other hSlot
          exact Or.inr ((startedBy_reply_some ht answer).trans hStarted)

/-- As long as moves begin no more tasks than there were, the others stand first in their order. -/
theorem prompts_playAll {moves : List Move}
    (hTasks : (moves.map Move.tasks).sum ≤ g.session.core.prompts.length) :
    ∃ spawned, (g.playAll x moves).session.core.prompts =
      g.session.core.prompts.drop (moves.map Move.tasks).sum ++ spawned := by
  induction moves generalizing g with
  | nil => exact ⟨[], by simp⟩
  | cons m moves ih =>
    -- What the first move spawns stands behind the tasks that the others begin.
    obtain ⟨first, hFirst⟩ := (queues_play x g m).prompts
    rw [List.map_cons, List.sum_cons] at hTasks
    have hLeft : (moves.map Move.tasks).sum ≤ (g.session.core.prompts.drop m.tasks).length := by
      rw [List.length_drop]
      omega
    have hRest : (moves.map Move.tasks).sum ≤ (g.play x m).session.core.prompts.length := by
      rw [hFirst, List.length_append]
      omega
    obtain ⟨spawned, hSpawned⟩ := ih hRest
    refine ⟨first ++ spawned, ?_⟩
    rw [playAll_cons, hSpawned, hFirst, List.drop_append_of_le_length hLeft, List.drop_drop,
      List.map_cons, List.sum_cons, List.append_assoc]

theorem held_playAll (x : Surroundings) (g : Stage) (moves : List Move) :
    (g.playAll x moves).session.core.held = g.session.core.held := by
  induction moves generalizing g with
  | nil => rfl
  | cons m moves ih => exact (ih _).trans (queues_play x g m).held

/-- The client that is held after a run was held before or has started in it. -/
theorem slot_playAll {moves : List Move} {client : Nat}
    (hSlot : (g.playAll x moves).session.core.extension.slot = some client) :
    g.session.core.extension.slot = some client ∨ client ∈ collect x startedBy g moves := by
  induction moves generalizing g with
  | nil => exact Or.inl hSlot
  | cons m moves ih =>
    rw [collect, List.mem_append, Option.mem_toList]
    rcases ih hSlot with hBefore | hStarted
    · exact ((queues_play x g m).slot client hBefore).imp_right Or.inl
    · exact Or.inr (Or.inr hStarted)

/-! ## Clients start once -/

theorem Sound.startedBy_ne {started displaced : List Nat} (h : g.Sound started displaced)
    {client : Nat} (hStarted : client ∈ started) (m : Move) : g.startedBy m ≠ some client := by
  intro hAgain
  cases m with
  | reply number answer =>
    obtain ⟨t, ht, hWell⟩ := Option.bind_eq_some_iff.mp hAgain
    have hMem : t.wait ∈ g.waits := List.mem_map_of_mem (List.mem_of_getElem? ht)
    have hStarting : client ∈ g.starting :=
      List.mem_filterMap.mpr ⟨t.wait, hMem, Wait.starting?_of_started? hWell⟩
    exact h.not_started_of_starting hStarting hStarted
  | _ => cases hAgain

theorem Sound.notMem_startedBy {started displaced : List Nat} (h : g.Sound started displaced)
    {client : Nat} (hStarted : client ∈ started) (moves : List Move) :
    client ∉ collect x startedBy g moves := by
  induction moves generalizing g started displaced with
  | nil => exact List.not_mem_nil
  | cons m moves ih =>
    rw [collect, List.mem_append, Option.mem_toList]
    rintro (hNow | hLater)
    · exact h.startedBy_ne hStarted m hNow
    · exact ih (h.play m) (List.mem_append_left _ hStarted) hLater

/-! ## What a task takes -/

/-- The task about a client whose server stopped has begun in a stage, with no regard to the client that
was held: no client is held or heard, the extension is inactive, and no client was asked to stop. The
client that was held is another one exactly when it is among those that have started since. -/
structure Dropped (client : Nat) (since : List Nat) (g f : Stage) : Prop where
  slot : f.session.extension.slot = none
  phase : f.session.extension.phase = .inactive
  unheard : f.session.core.Unheard
  stopped : f.session.core.stopped = g.session.core.stopped
  other : ∀ other, g.session.extension.slot = some other → (other ≠ client ↔ other ∈ since)

theorem Reached.alive (h : g.Reached x) : g.session.alive = true := by
  obtain ⟨s, moves, hFresh, rfl⟩ := h
  have hHeld : (Stage.playAll x ⟨s, []⟩ moves).session.held = true :=
    (held_playAll x ⟨s, []⟩ moves).trans hFresh.held
  simp [Session.alive, hHeld]

/-- **A task about a stopped server takes whatever client is held.** In a stage that some run reaches, the
server of the client that is held stops, and a listener is told. Moves follow that begin exactly the tasks
that were spawned before. The next task to begin is the one about that client, and when it begins, it takes
the client that is held and everything that belongs to it. -/
theorem dropped_prompt (hReached : g.Reached x) {client : Nat}
    (hHeld : g.session.extension.slot = some client) (hListens : g.session.core.listeners client ≠ [])
    (reason : Option String) {between : List Move}
    (hTasks : (between.map Move.tasks).sum = g.session.prompts.length) :
    (∃ rest, (g.playAll x (.serverStopped client reason :: between)).session.prompts =
        reason :: rest) ∧
      Dropped client (collect x startedBy g (.serverStopped client reason :: between))
        (g.playAll x (.serverStopped client reason :: between))
        ((g.playAll x (.serverStopped client reason :: between)).play x .prompt) := by
  obtain ⟨started, displaced, hSound⟩ := hReached.sound
  have hStopped := (play_serverStopped x g client reason).1
  rw [if_pos hReached.alive] at hStopped
  have hQueue : (g.play x (.serverStopped client reason)).session.core.prompts =
      g.session.prompts ++ (g.session.core.listeners client).map fun _ => reason := by
    rw [hStopped]
    rfl
  have hNext : ∃ rest, (g.playAll x (.serverStopped client reason :: between)).session.core.prompts =
      reason :: rest := by
    have hLength : (between.map Move.tasks).sum ≤
        (g.play x (.serverStopped client reason)).session.core.prompts.length := by
      rw [hQueue, hTasks, List.length_append]
      exact Nat.le_add_right _ _
    obtain ⟨spawned, hPrompts⟩ := prompts_playAll (x := x) hLength
    rw [hTasks, hQueue, List.drop_left] at hPrompts
    obtain ⟨entry, entries, hEntries⟩ := List.exists_cons_of_ne_nil hListens
    rw [hEntries] at hPrompts
    exact ⟨_, hPrompts⟩
  obtain ⟨rest, hPrompts⟩ := hNext
  have hCore := core_prompt (x := x) hPrompts
  have hTracked := (hReached.playAll (.serverStopped client reason :: between)).tracked
  refine ⟨⟨rest, hPrompts⟩, ?_, ?_, ?_, ?_, ?_⟩
  · exact congrArg (·.extension.slot) hCore
  · exact congrArg (·.extension.phase) hCore
  · rw [hCore]
    exact Core.Tracked.unheard_clear hTracked
  · rw [hCore]
    rfl
  · intro other hSlot
    constructor
    · intro hOther
      refine (slot_playAll hSlot).resolve_left fun hBefore => hOther ?_
      exact Option.some.inj (hBefore.symm.trans hHeld)
    · rintro hSince rfl
      exact hSound.notMem_startedBy (hSound.heldStarted other hHeld) _ hSince

/-- The server stops, and the extension is restarted before the task about it begins. -/
def restartedSince : List Move :=
  .serverStopped 0 none :: .restart :: List.replicate 3 (.reply 0 Wait.goodReply)

/-- The task about client 0 takes client 1, which has started since. -/
theorem dropped_restartedSince :
    (activated.playAll .plain restartedSince).session.extension.slot = some 1 ∧
      Dropped 0 [1] (activated.playAll .plain restartedSince)
        ((activated.playAll .plain restartedSince).play .plain .prompt) := by
  have hListens : activated.session.core.listeners 0 ≠ [] := by decide +kernel
  have hTasks : ((.restart :: List.replicate 3 (.reply 0 Wait.goodReply) : List Move).map
      Move.tasks).sum = activated.session.prompts.length := by decide +kernel
  obtain ⟨-, hDropped⟩ := dropped_prompt reached_activated (by decide +kernel) hListens none hTasks
  have hSince : collect .plain startedBy activated restartedSince = [1] := by decide +kernel
  refine ⟨by decide +kernel, ?_⟩
  rw [← hSince]
  exact hDropped

/-- The task about a client whose server stopped leaves another client that is held alone, if its server
has not stopped. -/
def OnlyOwnHandle : Prop :=
  ∀ (x : Surroundings) (g : Stage), g.Reached x →
    ∀ (client : Nat) (reason : Option String) (between : List Move),
      g.session.extension.slot = some client → g.session.core.listeners client ≠ [] →
      (between.map Move.tasks).sum = g.session.prompts.length →
      ∀ other, other ≠ client →
        (g.playAll x (.serverStopped client reason :: between)).session.extension.slot = some other →
        other ∉ collect x terminatedBy g (.serverStopped client reason :: between) →
        (g.playAll x (.serverStopped client reason :: between)).session.core.Keeps
          ((g.playAll x (.serverStopped client reason :: between)).play x .prompt).session.core

/-- A client that was restarted in time has lost its handle in the end. -/
theorem not_onlyOwnHandle : ¬ OnlyOwnHandle := by
  intro h
  have hSlot := (h .plain activated reached_activated 0 none
    (.restart :: List.replicate 3 (.reply 0 Wait.goodReply)) (by decide +kernel) (by decide +kernel)
    (by decide +kernel) 1 (by decide) (by decide +kernel) (by decide +kernel)).slot
  exact absurd hSlot (by decide +kernel)

end Stage

end ExtensionHost
