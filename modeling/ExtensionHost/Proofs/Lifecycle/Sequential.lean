import ExtensionHost.Proofs.Lifecycle.Custody

/-!
# Operations one after the other

In a sequential run an operation begins only when nothing else is under way: no operation waits, and no
task about a stopped server is still to begin. Then the phase, the slot, the listeners on the clients and
what became of every client agree whenever nothing is under way. `Core.Between` says what holds while an
operation waits.
-/

namespace ExtensionHost

/-- Whether a client panics when it starts. -/
def Wait.startPanics : (w : Wait) → w.Reply → Bool
  | .start _ _, .panicked _ => true
  | _, _ => false

namespace Core

/-! ## Between two operations and inside one -/

/-- The extension is inactive and has no client, or it runs with one client and has its only listener
there. -/
def Settled (k : Core) : Prop :=
  k.extension.phase = .inactive ∧ k.extension.slot = none ∧ k.Unheard ∨
    k.extension.phase = .running ∧
      ∃ client, k.extension.slot = some client ∧ k.HeardFrom client

/-- No client is held, and no listener is on any client. -/
def Bare (k : Core) : Prop := k.extension.slot = none ∧ k.Unheard

/-- What holds in a sequential run while its operation waits, and when no operation does. -/
def Between (k : Core) : Option Wait → Prop
  | none => k.Settled
  | some (.chmod epoch) => k.extension.epoch = epoch ∧ k.Bare
  | some (.start epoch client) =>
    k.extension.epoch = epoch ∧ k.extension.slot = none ∧ k.HeardFrom client
  | some (.staleStop _) => False
  | some (.deactivateStop _) => k.Bare
  | some (.restartStop epoch _) => k.extension.epoch = epoch ∧ k.Bare
  | some (.prompt _) => k.extension.phase = .inactive ∧ k.Bare
  | some (.formatter _ _) | some (.serverEdits _) | some .references | some (.other _ _) =>
    k.Settled

variable {k : Core} {r : Core × Option Wait}

theorem between_of_isQuiet {w : Wait} (hQuiet : w.isQuiet = true) :
    k.Between (some w) ↔ k.Settled := by
  cases w <;> first | exact Iff.rfl | cases hQuiet

theorem Bare.settled_inactive (h : k.Bare) : (k.inPhase .inactive).Settled :=
  Or.inl ⟨rfl, h.1, h.2⟩

theorem Tracked.bare_shutdown (h : k.Tracked) : k.shutdown.Bare := ⟨rfl, h.unheard_clear⟩

theorem Tracked.bare_release (h : k.Tracked) : k.release.Bare := ⟨rfl, h.unheard_clear⟩

theorem Bare.begins (h : k.Bare) (hBegins : k.Begins r) : r.1.Between r.2 := by
  rcases hBegins with rfl | rfl
  · exact h.settled_inactive
  · exact ⟨rfl, h⟩

theorem Bare.endStartup_failed (h : k.Bare) {epoch : Nat} (hEpoch : k.extension.epoch = epoch) :
    (k.endStartup epoch false).1.Between (k.endStartup epoch false).2 := by
  rw [endStartup_current hEpoch]
  exact h.settled_inactive

/-! ## Steps of a sequential run -/

theorem dropListener_of_isDidStop {rg : Registration} (hr : rg.isDidStop = false)
    (clients : List ClientRecord) : dropListener clients rg = clients := by
  cases rg with
  | didStop => cases hr
  | _ => rfl

theorem Settled.watch (h : k.Settled)
    (hEditors : ∀ p ∈ k.extension.editorRegistrations, p.2.isDidStop = false) (uri : String)
    (rg : Registration) : (k.watch uri rg).Settled := by
  unfold Core.watch
  dsimp only
  split
  · rename_i previous hPrevious
    have hClients := dropListener_of_isDidStop (hEditors _ (Keyed.mem_of_find? hPrevious)) k.clients
    dsimp only [drop] at hClients ⊢
    rw [hClients]
    exact h
  · exact h

theorem Settled.handles (h : k.Settled) (hTracked : k.Tracked)
    (hEditors : ∀ p ∈ k.extension.editorRegistrations, p.2.isDidStop = false)
    (hHandles : k.Handles r) : r.1.Between r.2 := by
  cases hHandles with
  | quiet w hQuiet =>
    cases w with
    | none => exact h
    | some w => exact (between_of_isQuiet (hQuiet w rfl)).mpr h
  | watched uri editor number => exact h.watch hEditors uri _
  | restarted hRestarts =>
    rcases hRestarts with ⟨-, hBegins⟩ | ⟨client, -, rfl⟩
    · exact hTracked.bare_shutdown.begins hBegins
    · exact ⟨rfl, hTracked.bare_shutdown⟩

theorem Settled.opens (h : k.Settled) (hTracked : k.Tracked)
    (hEditors : ∀ p ∈ k.extension.editorRegistrations, p.2.isDidStop = false)
    (hOpens : k.Opens r) : r.1.Between r.2 := by
  cases hOpens with
  | nothing => exact h
  | activated hActivates =>
    rcases hActivates with rfl | ⟨hPhase, preferences, rs, hBegins⟩
    · exact h
    · rcases h with ⟨-, hSlot, hUnheard⟩ | ⟨hRunning, -⟩
      · have hBare : (k.equip preferences rs).Bare := ⟨hSlot, hUnheard⟩
        exact hBare.begins hBegins
      · rw [hPhase] at hRunning
        cases hRunning
  | deactivated =>
    unfold Core.deactivated
    split
    · exact hTracked.retire.bare_shutdown.settled_inactive
    · exact hTracked.retire.bare_shutdown
  | handled hHandles => exact h.handles hTracked hEditors hHandles

theorem Between.receives {w : Wait} {reply : w.Reply} (h : k.Between (some w)) (hTracked : k.Tracked)
    (hPanic : w.startPanics reply = false) (hReceives : k.Receives w reply r) :
    r.1.Between r.2 := by
  cases hReceives with
  | scriptsRefused epoch => exact h.2.endStartup_failed h.1
  | scriptsExecutable epoch => exact ⟨h.1, h.2.1, hTracked.heardFrom_enroll.1⟩
  | started epoch client =>
    obtain ⟨hEpoch, hSlot, hHeard⟩ := h
    have hStored : (k.store client).extension.epoch = epoch := hEpoch
    rw [endStartup_current hStored]
    exact Or.inr ⟨rfl, client, rfl, hHeard⟩
  | startFailed epoch client =>
    have hBare : k.clear.Bare := ⟨h.2.1, hTracked.unheard_clear⟩
    exact hBare.endStartup_failed h.1
  | startPanicked epoch client message => cases hPanic
  | staleStopped client => exact h.elim
  | deactivateStopped client => exact Bare.settled_inactive h
  | restartOvertaken epoch client _ hEpoch => exact absurd h.1 hEpoch
  | restartStopped epoch client _ _ hBegins => exact h.2.begins hBegins
  | promptLeft epoch => exact Or.inl ⟨h.1, h.2.1, h.2.2⟩
  | promptChosen epoch _ _ hBegins => exact h.2.begins hBegins
  | quiet _ _ hQuiet => exact (between_of_isQuiet hQuiet).mp h

/-! ## What a step leaves alone -/

/-- A core in which no task was spawned, the host holds the extension as before, and no other client is
in the slot. -/
structure Spares (k k' : Core) : Prop where
  prompts : k'.prompts = k.prompts
  held : k'.held = k.held
  slot : ∀ client, k'.extension.slot = some client → k.extension.slot = some client

theorem Spares.of_eq {k k' : Core} (hPrompts : k'.prompts = k.prompts) (hHeld : k'.held = k.held)
    (hSlot : k'.extension.slot = k.extension.slot) : k.Spares k' :=
  ⟨hPrompts, hHeld, fun _ h => hSlot ▸ h⟩

theorem Spares.trans {k₁ k₂ k₃ : Core} (h₁ : k₁.Spares k₂) (h₂ : k₂.Spares k₃) : k₁.Spares k₃ :=
  ⟨h₂.prompts.trans h₁.prompts, h₂.held.trans h₁.held,
    fun client h => h₁.slot client (h₂.slot client h)⟩

theorem spares_inPhase (k : Core) (phase : Phase) : k.Spares (k.inPhase phase) := Spares.of_eq rfl rfl rfl

theorem spares_shutdown (k : Core) : k.Spares k.shutdown := ⟨rfl, rfl, fun _ h => nomatch h⟩

theorem spares_watch (k : Core) (uri : String) (rg : Registration) : k.Spares (k.watch uri rg) := by
  unfold Core.watch
  split
  · exact Spares.of_eq rfl rfl rfl
  · exact Spares.of_eq rfl rfl rfl

theorem spares_begins (hBegins : k.Begins r) : k.Spares r.1 := by
  rcases hBegins with rfl | rfl
  · exact spares_inPhase k .inactive
  · exact spares_inPhase k .starting

theorem spares_handles (hHandles : k.Handles r) : k.Spares r.1 := by
  cases hHandles with
  | quiet w hQuiet => exact Spares.of_eq rfl rfl rfl
  | watched uri editor number => exact spares_watch k uri _
  | restarted hRestarts =>
    rcases hRestarts with ⟨-, hBegins⟩ | ⟨client, -, rfl⟩
    · exact (spares_shutdown k).trans (spares_begins hBegins)
    · exact spares_shutdown k

theorem spares_opens (hOpens : k.Opens r) : k.Spares r.1 := by
  cases hOpens with
  | nothing => exact Spares.of_eq rfl rfl rfl
  | activated hActivates =>
    rcases hActivates with rfl | ⟨-, preferences, rs, hBegins⟩
    · exact .of_eq rfl rfl rfl
    · have hEquip : k.Spares (k.equip preferences rs) := .of_eq rfl rfl rfl
      exact hEquip.trans (spares_begins hBegins)
  | deactivated =>
    have hRetire : k.Spares k.retire := Spares.of_eq rfl rfl rfl
    unfold Core.deactivated
    split
    · exact (hRetire.trans (spares_shutdown k.retire)).trans (spares_inPhase _ .inactive)
    · exact hRetire.trans (spares_shutdown k.retire)
  | handled hHandles => exact spares_handles hHandles

theorem spares_endStartup (k : Core) (epoch : Nat) (well : Bool) :
    k.Spares (k.endStartup epoch well).1 := by
  by_cases hEpoch : k.extension.epoch = epoch
  · rw [endStartup_current hEpoch]
    cases well <;> exact Spares.of_eq rfl rfl rfl
  · rw [endStartup_overtaken hEpoch]
    split
    · exact (spares_shutdown k).trans (spares_inPhase _ .inactive)
    · exact spares_shutdown k

/-- Only a client that has started comes into the slot with a reply. -/
theorem spares_receives {w : Wait} {reply : w.Reply} (hReceives : k.Receives w reply r) :
    k.Spares r.1 ∨ ∃ client, w.started? reply = some client ∧ (k.store client).Spares r.1 := by
  cases hReceives with
  | started epoch client => exact Or.inr ⟨client, rfl, spares_endStartup _ epoch true⟩
  | scriptsRefused epoch => exact Or.inl (spares_endStartup k epoch false)
  | startFailed epoch client =>
    have hClear : k.Spares k.clear := Spares.of_eq rfl rfl rfl
    exact Or.inl (hClear.trans (spares_endStartup k.clear epoch false))
  | startPanicked epoch client => exact Or.inl (spares_endStartup k epoch false)
  | restartStopped epoch client _ _ hBegins => exact Or.inl (spares_begins hBegins)
  | promptChosen epoch _ _ hBegins => exact Or.inl (spares_begins hBegins)
  | _ => exact Or.inl (Spares.of_eq rfl rfl rfl)

/-! ## The invariant on cores -/

/-- A core in a sequential run that waits for something or for nothing, when the clients in `terminated`
have stopped on their own. -/
structure InOrder (terminated : List Nat) (k : Core) (w : Option Wait) : Prop where
  between : k.Between w
  prompts : k.prompts = []
  held : k.held = true
  live : ∀ client, k.extension.slot = some client → client ∉ terminated

/-- A core in a sequential run after the server of the client that is held stopped. -/
structure Crashed (terminated : List Nat) (k : Core) : Prop where
  prompts : ∃ reason, k.prompts = [reason]
  held : k.held = true
  dead : ∀ client, k.extension.slot = some client → client ∈ terminated

theorem InOrder.spared {terminated : List Nat} {w : Option Wait} (h : k.InOrder terminated w)
    (hBetween : r.1.Between r.2) (hSpares : k.Spares r.1) : r.1.InOrder terminated r.2 where
  between := hBetween
  prompts := hSpares.prompts.trans h.prompts
  held := hSpares.held.trans h.held
  live client hSlot := h.live client (hSpares.slot client hSlot)

theorem Between.slot_of_started? {w : Wait} {reply : w.Reply} {client : Nat}
    (h : k.Between (some w)) (hStarted : w.started? reply = some client) :
    k.extension.slot = none := by
  cases w with
  | start epoch c => exact h.2.1
  | _ => cases hStarted

theorem InOrder.receives {terminated : List Nat} {w : Wait} {reply : w.Reply}
    (h : k.InOrder terminated (some w)) (hTracked : k.Tracked)
    (hPanic : w.startPanics reply = false)
    (hLive : ∀ client, w.started? reply = some client → client ∉ terminated)
    (hReceives : k.Receives w reply r) : r.1.InOrder terminated r.2 := by
  have hBetween := h.between.receives hTracked hPanic hReceives
  rcases spares_receives hReceives with hSpares | ⟨client, hStarted, hSpares⟩
  · exact h.spared hBetween hSpares
  · refine ⟨hBetween, hSpares.prompts.trans h.prompts, hSpares.held.trans h.held, ?_⟩
    intro other hOther
    cases hSpares.slot other hOther
    exact hLive client hStarted

end Core

namespace Stage

/-! ## Sequential runs -/

/-- Nothing is under way: no operation waits, and no task is still to begin. -/
def Quiet (g : Stage) : Prop := g.waiting = [] ∧ g.session.prompts = []

/-- The moves of a sequential run. An operation begins, or the server of the client that is held stops,
only when nothing is under way; the task about a stopped server begins next. No client panics when it
starts. What others do to editors, registrations, settings and files may come at any time. -/
inductive InTurn (g : Stage) : Move → Prop where
  | operation {m : Move} (hm : m.isOperation = true) (hQuiet : g.Quiet) : InTurn g m
  | serverStopped (client : Nat) (reason : Option String) (hQuiet : g.Quiet)
      (hHeld : g.session.extension.slot = some client) : InTurn g (.serverStopped client reason)
  | prompt (hWaiting : g.waiting = []) : InTurn g .prompt
  | reply (number : Nat) (answer : (w : Wait) → w.Reply)
      (hPanic : ∀ w : Wait, w.startPanics (answer w) = false) : InTurn g (.reply number answer)
  | foreign {m : Move} (hm : m.isForeign = true) : InTurn g m
  | dispose (r : Registration) (hr : r.isDidStop = false) : InTurn g (.dispose r)

/-- A run in which every operation has ended before the next one begins. -/
def Sequential (x : Surroundings) : Stage → List Move → Prop
  | _, [] => True
  | g, m :: moves => g.InTurn m ∧ Sequential x (g.play x m) moves

/-- What holds in every stage of a sequential run. -/
structure Ordered (started displaced terminated : List Nat) (g : Stage) : Prop where
  sound : g.Sound started displaced
  known : ∀ client ∈ terminated, client ∈ started
  lost : ∀ client ∈ displaced, client ∈ terminated
  turn : (∃ w : Option Wait, g.waits = w.toList ∧ g.session.core.InOrder terminated w) ∨
    g.waits = [] ∧ g.session.core.Crashed terminated

section

variable {x : Surroundings} {started displaced terminated : List Nat} {g : Stage}

theorem Ordered.inOrder_of_quiet (h : g.Ordered started displaced terminated) (hQuiet : g.Quiet) :
    g.waits = [] ∧ g.session.core.InOrder terminated none := by
  have hWaits : g.waits = [] := by
    unfold waits
    rw [hQuiet.1, List.map_nil]
  rcases h.turn with ⟨w, hw, hOrder⟩ | ⟨-, hCrashed⟩
  · rw [hWaits] at hw
    cases w with
    | none => exact ⟨hWaits, hOrder⟩
    | some w => cases hw
  · obtain ⟨reason, hReason⟩ := hCrashed.prompts
    have hNone : g.session.core.prompts = [] := hQuiet.2
    rw [hReason] at hNone
    cases hNone

theorem Ordered.inOrder_of_waiting (h : g.Ordered started displaced terminated) {number : Nat}
    {t : Suspended} (ht : g.waiting[number]? = some t) :
    g.waiting = [t] ∧ g.session.core.InOrder terminated (some t.wait) := by
  have hMem : t.wait ∈ g.waits := List.mem_map_of_mem (List.mem_of_getElem? ht)
  rcases h.turn with ⟨w, hWaits, hOrder⟩ | ⟨hWaits, -⟩
  · rw [hWaits, Option.mem_toList] at hMem
    cases hMem
    obtain ⟨only, hOnly, -⟩ := List.map_eq_singleton_iff.mp hWaits
    rw [hOnly] at ht
    cases List.mem_singleton.mp (List.mem_of_getElem? ht)
    exact ⟨hOnly, hOrder⟩
  · rw [hWaits] at hMem
    cases hMem

/-- An operation of a sequential run that has run up to where it waits or ends leaves an ordered
stage. -/
theorem turn_settle {starting : List Nat} {r : Session × Option Wait} {rest : Rest}
    (hSound : Core.SoundAfter started displaced starting (Session.coreOf r))
    (hr : r.1.core.InOrder terminated r.2) :
    ∃ w : Option Wait, (after [] (Session.settle x r rest)).waits = w.toList ∧
      (after [] (Session.settle x r rest)).session.core.InOrder terminated w := by
  obtain ⟨w, hw, hWaits⟩ := after_settle_sound (x := x)
    (J := fun k w => k.InOrder terminated w)
    (fun k r hCore hOrder hHandles => hOrder.spared
      (Core.Settled.handles hOrder.between hCore.tracked hCore.onEditors hHandles)
      (Core.spares_handles hHandles)) [] rest hSound hr
  exact ⟨w, hWaits, hw⟩

theorem Ordered.play_operation (h : g.Ordered started displaced terminated) {m : Move}
    (hm : m.isOperation = true) (hQuiet : g.Quiet) :
    (g.play x m).Ordered started displaced terminated := by
  obtain ⟨-, hOrder⟩ := h.inOrder_of_quiet hQuiet
  obtain ⟨r, rest, hPlay, hOpens⟩ := Stage.play_operation x g hm
  refine ⟨h.sound.play_operation hm, h.known, h.lost, Or.inl ?_⟩
  rw [hPlay, hQuiet.1]
  refine turn_settle (Core.Sound.opens h.sound hOpens) ?_
  exact hOrder.spared (r := Session.coreOf r)
    (Core.Settled.opens hOrder.between h.sound.tracked h.sound.onEditors hOpens)
    (Core.spares_opens hOpens)

theorem Ordered.of_core (h : g.Ordered started displaced terminated) {g' : Stage}
    (hSound : g'.Sound started displaced) (hWaits : g'.waits = g.waits)
    (hOrder : ∀ w, g.session.core.InOrder terminated w → g'.session.core.InOrder terminated w)
    (hCrashed : g.session.core.Crashed terminated → g'.session.core.Crashed terminated) :
    g'.Ordered started displaced terminated := by
  refine ⟨hSound, h.known, h.lost, ?_⟩
  rcases h.turn with ⟨w, hw, hTurn⟩ | ⟨hNone, hTurn⟩
  · exact Or.inl ⟨w, hWaits.trans hw, hOrder w hTurn⟩
  · exact Or.inr ⟨hWaits.trans hNone, hCrashed hTurn⟩

theorem Ordered.play_foreign (h : g.Ordered started displaced terminated) {m : Move}
    (hm : m.isForeign = true) : (g.play x m).Ordered started displaced terminated := by
  obtain ⟨hCore, hWaits⟩ := Stage.play_foreign x g hm
  refine h.of_core (h.sound.play_foreign hm) hWaits ?_ ?_
  · intro w hOrder
    rw [hCore]
    exact hOrder
  · intro hCrashed
    rw [hCore]
    exact hCrashed

theorem Ordered.play_dispose (h : g.Ordered started displaced terminated) {r : Registration}
    (hr : r.isDidStop = false) :
    (g.play x (.dispose r)).Ordered started displaced terminated := by
  obtain ⟨hCore, hWaits⟩ := Stage.play_dispose x g r
  have hDrop : g.session.core.drop r = g.session.core := by
    unfold Core.drop
    rw [Core.dropListener_of_isDidStop hr]
  rw [hDrop] at hCore
  refine h.of_core (h.sound.play_dispose r) hWaits ?_ ?_
  · intro w hOrder
    rw [hCore]
    exact hOrder
  · intro hCrashed
    rw [hCore]
    exact hCrashed

/-- The client that is held is told to have stopped by exactly one listener. -/
theorem Ordered.play_serverStopped (h : g.Ordered started displaced terminated) {client : Nat}
    (reason : Option String) (hQuiet : g.Quiet)
    (hHeld : g.session.extension.slot = some client) :
    (g.play x (.serverStopped client reason)).Ordered started displaced
      (terminated ++ [client]) := by
  obtain ⟨hWaits, hOrder⟩ := h.inOrder_of_quiet hQuiet
  obtain ⟨hCore, hSame⟩ := Stage.play_serverStopped x g client reason
  have hSlot : g.session.core.extension.slot = some client := hHeld
  have hAlive : g.session.alive = true := by
    have hHeldBy : g.session.held = true := hOrder.held
    simp [Session.alive, hHeldBy]
  have hListeners : (g.session.core.listeners client).length = 1 := by
    rcases hOrder.between with ⟨-, hNone, -⟩ | ⟨-, held, hSome, hHeard⟩
    · rw [hSlot] at hNone
      cases hNone
    · rw [hSlot] at hSome
      cases hSome
      exact hHeard.1
  rw [if_pos hAlive] at hCore
  refine ⟨h.sound.play_serverStopped client reason, ?_, ?_, Or.inr ⟨hSame.trans hWaits, ?_⟩⟩
  · intro other hOther
    rcases List.mem_append.mp hOther with hOther | hOther
    · exact h.known other hOther
    · rw [List.mem_singleton.mp hOther]
      exact h.sound.heldStarted client hSlot
  · intro other hOther
    exact List.mem_append_left _ (h.lost other hOther)
  · rw [hCore]
    obtain ⟨entry, hEntry⟩ := List.length_eq_one_iff.mp hListeners
    refine ⟨⟨reason, ?_⟩, hOrder.held, ?_⟩
    · rw [hEntry, hOrder.prompts]
      rfl
    · intro other hOther
      rw [hSlot] at hOther
      cases hOther
      exact List.mem_append_right _ (List.mem_singleton_self _)

theorem Ordered.play_prompt (h : g.Ordered started displaced terminated)
    (hWaiting : g.waiting = []) :
    (g.play x .prompt).Ordered started (displaced ++ (g.displacedBy .prompt).toList)
      terminated := by
  have hSound := h.sound.play_prompt (x := x)
  rcases Stage.play_prompt x g with ⟨hPrompts, hPlay⟩ | ⟨reason, rest, hPrompts, r, hPlay, hr⟩
  · rw [hPlay, displacedBy_prompt_nil hPrompts, Option.toList_none, List.append_nil]
    exact h
  · have hCrashed : g.session.core.Crashed terminated := by
      rcases h.turn with ⟨w, -, hOrder⟩ | ⟨-, hCrashed⟩
      · rw [hOrder.prompts] at hPrompts
        cases hPrompts
      · exact hCrashed
    have hRest : rest = [] := by
      obtain ⟨only, hOnly⟩ := hCrashed.prompts
      rw [hOnly] at hPrompts
      cases hPrompts
      rfl
    refine ⟨hSound, h.known, ?_, Or.inl ?_⟩
    · intro client hClient
      rcases List.mem_append.mp hClient with hClient | hClient
      · exact h.lost client hClient
      · rw [displacedBy_prompt_cons hPrompts] at hClient
        exact hCrashed.dead client (Option.mem_toList.mp hClient)
    · have hInOrder : r.1.core.InOrder terminated r.2 := by
        have hCore : r.1.core = (g.session.core.prompted rest).1 := congrArg Prod.fst hr
        have hWait : r.2 = (g.session.core.prompted rest).2 := congrArg Prod.snd hr
        rw [hCore, hWait, hRest]
        have hTracked : ({ g.session.core with prompts := [] } : Core).Tracked := h.sound.tracked
        exact ⟨⟨rfl, hTracked.bare_release⟩, rfl, hCrashed.held, fun _ hSlot => nomatch hSlot⟩
      have hAfter : Core.SoundAfter started (displaced ++ g.session.core.extension.slot.toList)
          g.starting (Session.coreOf r) := by
        rw [hr]
        exact Core.Sound.prompted h.sound rest
      rw [hPlay, hWaiting]
      exact turn_settle hAfter hInOrder

theorem Ordered.play_reply (h : g.Ordered started displaced terminated) (number : Nat)
    (answer : (w : Wait) → w.Reply) (hPanic : ∀ w : Wait, w.startPanics (answer w) = false) :
    (g.play x (.reply number answer)).Ordered
      (started ++ (g.startedBy (.reply number answer)).toList)
      (displaced ++ (g.displacedBy (.reply number answer)).toList) terminated := by
  have hSound := h.sound.play_reply (x := x) number answer
  rcases Stage.play_reply x g number answer with ⟨hNumber, hPlay⟩ | ⟨t, ht, r, hPlay, hReceives⟩
  · have hNone := startedBy_reply_none hNumber answer
    simp only [hPlay, displacedBy, hNone, Option.bind_none, Option.toList_none, List.append_nil]
    exact h
  · obtain ⟨hWaiting, hOrder⟩ := h.inOrder_of_waiting ht
    have hStarted := startedBy_reply_some ht answer
    have hStart : ∀ client, t.wait.started? (answer t.wait) = some client →
        client ∉ started := by
      intro client hClient
      refine h.sound.not_started_of_starting ?_
      unfold starting waits
      rw [hWaiting]
      simp [Wait.starting?_of_started? hClient]
    refine ⟨hSound, ?_, ?_, Or.inl ?_⟩
    · intro client hClient
      exact List.mem_append_left _ (h.known client hClient)
    · -- The slot is empty while a client starts, so nothing is displaced.
      intro client hClient
      rcases List.mem_append.mp hClient with hClient | hClient
      · exact h.lost client hClient
      · simp only [displacedBy, hStarted] at hClient
        cases hDone : t.wait.started? (answer t.wait) with
        | none =>
          rw [hDone] at hClient
          cases hClient
        | some other =>
          have hSlot : g.session.extension.slot = none :=
            hOrder.between.slot_of_started? hDone
          rw [hDone, Option.bind_some, hSlot] at hClient
          cases hClient
    · have hErased : g.waiting.eraseIdx number = [] := by
        rw [hWaiting] at ht ⊢
        cases number with
        | zero => rfl
        | succ number => cases ht
      rw [hPlay, hErased]
      refine turn_settle (h.sound.receives ht hReceives) ?_
      refine hOrder.receives (r := Session.coreOf r) h.sound.tracked (hPanic t.wait) ?_ hReceives
      intro client hClient hTerminated
      exact hStart client hClient (h.known client hTerminated)

/-- Every move of a sequential run leaves an ordered stage. -/
theorem Ordered.play (h : g.Ordered started displaced terminated) {m : Move} (hm : g.InTurn m) :
    (g.play x m).Ordered (started ++ (g.startedBy m).toList)
      (displaced ++ (g.displacedBy m).toList) (terminated ++ (g.terminatedBy m).toList) := by
  cases hm with
  | operation hm hQuiet =>
    obtain ⟨hStarted, hDisplaced, hTerminated⟩ := history_of_isOperation g hm
    simp only [hStarted, hDisplaced, hTerminated, Option.toList_none, List.append_nil]
    exact h.play_operation hm hQuiet
  | serverStopped client reason hQuiet hHeld =>
    simp only [startedBy, displacedBy, Option.toList_none, List.append_nil]
    exact h.play_serverStopped reason hQuiet hHeld
  | prompt hWaiting =>
    simp only [startedBy, terminatedBy, Option.toList_none, List.append_nil]
    exact h.play_prompt hWaiting
  | reply number answer hPanic =>
    simp only [terminatedBy, Option.toList_none, List.append_nil]
    exact h.play_reply number answer hPanic
  | foreign hm =>
    obtain ⟨hStarted, hDisplaced, hTerminated⟩ := history_of_isForeign g hm
    simp only [hStarted, hDisplaced, hTerminated, Option.toList_none, List.append_nil]
    exact h.play_foreign hm
  | dispose r hr =>
    simp only [startedBy, displacedBy, terminatedBy, Option.toList_none, List.append_nil]
    exact h.play_dispose hr

theorem ordered_playAll {moves : List Move} (h : g.Ordered started displaced terminated)
    (hRun : Sequential x g moves) :
    (g.playAll x moves).Ordered (started ++ collect x startedBy g moves)
      (displaced ++ collect x displacedBy g moves)
      (terminated ++ collect x terminatedBy g moves) := by
  induction moves generalizing started displaced terminated g with
  | nil =>
    simp only [collect, List.append_nil]
    exact h
  | cons m moves ih =>
    have hRest := ih (h.play hRun.1) hRun.2
    simp only [List.append_assoc] at hRest
    exact hRest

theorem ordered_fresh {s : Session} (hFresh : s.Fresh) : (⟨s, []⟩ : Stage).Ordered [] [] [] := by
  have hSlot : s.core.extension.slot = none := by simp [Session.core, hFresh.extension]
  have hUnheard : s.core.Unheard := by
    intro client
    simp [Core.listeners, Core.entriesAt, Session.core, hFresh.clients]
  refine ⟨sound_fresh hFresh, fun _ h => h, fun _ h => h, Or.inl ⟨none, rfl, ?_⟩⟩
  refine ⟨Or.inl ⟨?_, hSlot, hUnheard⟩, hFresh.prompts, hFresh.held, fun _ _ h => by cases h⟩
  simp [Session.core, hFresh.extension]

end

/-! ## The lifecycle invariant -/

/-- The phase, the slot, the listeners on the clients and what became of every client agree. `started`
are the clients that have started well, `terminated` those whose servers stopped on their own. -/
structure Consistent (started terminated : List Nat) (g : Stage) : Prop where
  phase : g.session.extension.phase = .inactive ∨ g.session.extension.phase = .running
  running : g.session.extension.phase = .running ↔ g.session.extension.slot.isSome
  held : ∀ client, g.session.extension.slot = some client →
    client ∈ started ∧ client ∉ g.session.core.stopped ∧ client ∉ terminated ∧
      g.session.core.HeardFrom client
  unheard : g.session.extension.slot = none → g.session.core.Unheard
  gone : ∀ client ∈ started, g.session.extension.slot ≠ some client →
    client ∈ g.session.core.stopped ∨ client ∈ terminated

/-- **The lifecycle invariant of sequential runs.** After every operation of a sequential run the
extension is inactive or runs; it runs exactly when a client is held; the client that is held has
started, was not asked to stop and did not stop on its own, and has the only listener that the extension
has on any client; every other client that has started was asked to stop or stopped on its own. -/
theorem consistent_of_sequential (x : Surroundings) {s : Session} (hFresh : s.Fresh)
    {moves : List Move} (hRun : Sequential x ⟨s, []⟩ moves)
    (hQuiet : (playAll x ⟨s, []⟩ moves).Quiet) :
    (playAll x ⟨s, []⟩ moves).Consistent (collect x startedBy ⟨s, []⟩ moves)
      (collect x terminatedBy ⟨s, []⟩ moves) := by
  have hOrdered := ordered_playAll (ordered_fresh hFresh) hRun
  simp only [List.nil_append] at hOrdered
  obtain ⟨-, hOrder⟩ := hOrdered.inOrder_of_quiet hQuiet
  have hSettled : (playAll x ⟨s, []⟩ moves).session.core.Settled := hOrder.between
  generalize hg : playAll x ⟨s, []⟩ moves = g at *
  have hGone : ∀ client ∈ collect x startedBy ⟨s, []⟩ moves,
      g.session.extension.slot ≠ some client →
        client ∈ g.session.core.stopped ∨ client ∈ collect x terminatedBy ⟨s, []⟩ moves := by
    intro client hStarted hSlot
    rcases hOrdered.sound.accounted client hStarted with hHeld | hStopped | hDisplaced
    · exact absurd hHeld hSlot
    · exact Or.inl hStopped
    · exact Or.inr (hOrdered.lost client hDisplaced)
  rcases hSettled with ⟨hPhase, hSlot, hUnheard⟩ | ⟨hPhase, client, hSlot, hHeard⟩
  · have hInactive : g.session.extension.phase = .inactive := hPhase
    have hNone : g.session.extension.slot = none := hSlot
    refine ⟨Or.inl hInactive, ?_, ?_, fun _ => hUnheard, hGone⟩
    · rw [hInactive, hNone]
      exact ⟨nofun, nofun⟩
    · intro client hClient
      rw [hNone] at hClient
      cases hClient
  · have hRunning : g.session.extension.phase = .running := hPhase
    have hSome : g.session.extension.slot = some client := hSlot
    refine ⟨Or.inr hRunning, ?_, ?_, ?_, hGone⟩
    · rw [hRunning, hSome]
      exact ⟨fun _ => rfl, fun _ => rfl⟩
    · intro other hOther
      rw [hSome] at hOther
      cases hOther
      exact ⟨hOrdered.sound.heldStarted client hSlot, hOrdered.sound.not_stopped_of_held hSlot,
        hOrder.live client hSlot, hHeard⟩
    · intro hNone
      rw [hSome] at hNone
      cases hNone

/-- The extension is activated, its server stops and is started again, and then it is restarted. -/
def activatedToRestarted : List Move :=
  [.activate, .reply 0 Wait.goodReply, .reply 0 Wait.goodReply, .serverStopped 0 none, .prompt,
    .reply 0 Wait.goodReply, .reply 0 Wait.goodReply, .reply 0 Wait.goodReply,
    .restart, .reply 0 Wait.goodReply, .reply 0 Wait.goodReply, .reply 0 Wait.goodReply]

theorem startPanics_goodReply (w : Wait) : w.startPanics w.goodReply = false := by
  cases w <;> rfl

theorem quiet_of_isEmpty {g : Stage} (hWaiting : g.waiting.isEmpty = true)
    (hPrompts : g.session.prompts = []) : g.Quiet := ⟨List.isEmpty_iff.mp hWaiting, hPrompts⟩

theorem consistent_activatedToRestarted :
    (playAll .plain ⟨.scripted, []⟩ activatedToRestarted).Consistent
      (collect .plain startedBy ⟨.scripted, []⟩ activatedToRestarted)
      (collect .plain terminatedBy ⟨.scripted, []⟩ activatedToRestarted) := by
  refine consistent_of_sequential .plain Session.fresh_scripted ?_
    (quiet_of_isEmpty (by decide +kernel) (by decide +kernel))
  have hReply : ∀ (g : Stage) (number : Nat), g.InTurn (.reply number Wait.goodReply) :=
    fun _ number => .reply number _ startPanics_goodReply
  refine ⟨.operation rfl ⟨rfl, rfl⟩, hReply _ 0, hReply _ 0, .serverStopped 0 none ?_ ?_,
    .prompt ?_, hReply _ 0, hReply _ 0, hReply _ 0, .operation rfl ?_, hReply _ 0, hReply _ 0,
    hReply _ 0, trivial⟩
  · exact quiet_of_isEmpty (by decide +kernel) (by decide +kernel)
  · decide +kernel
  · exact List.isEmpty_iff.mp (by decide +kernel)
  · exact quiet_of_isEmpty (by decide +kernel) (by decide +kernel)

end Stage

end ExtensionHost
