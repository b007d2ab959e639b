import ExtensionHost.Proofs.Lifecycle.Core

/-!
# What a step does to the core

Every step of the machine has one statement here about the core that it leaves and about what the
operation waits for afterwards. A startup either fails at once or waits, a startup that ends either is
the current one or was overtaken, and a client is asked to stop only when it is taken out of the slot.
What a whole run preserves is proved from these statements alone.
-/

namespace ExtensionHost

/-- Whether an operation waits for something that has no part in starting and stopping the server. -/
def Wait.isQuiet : Wait → Bool
  | .formatter _ _ | .serverEdits _ | .references | .other _ _ => true
  | _ => false

namespace Core

/-! ## Ends and beginnings of startups -/

/-- A startup begun in an epoch ends, well or not. One that was overtaken takes the client that is held
and asks it to stop. -/
def endStartup (k : Core) (epoch : Nat) (well : Bool) : Core × Option Wait :=
  if k.extension.epoch = epoch then
    if well then ({ k.inPhase .running with activations := k.activations + 1 }, none)
    else (k.inPhase .inactive, none)
  else
    match k.extension.slot with
    | none => (k.shutdown.inPhase .inactive, none)
    | some client => (k.shutdown, some (.staleStop client))

/-- A startup begins: it fails at once without launch scripts, or it waits for them. -/
def Begins (k : Core) (r : Core × Option Wait) : Prop :=
  r = (k.inPhase .inactive, none) ∨ r = (k.inPhase .starting, some (.chmod k.extension.epoch))

/-- A restart begins: a client that is held is asked to stop first. -/
def Restarts (k : Core) (r : Core × Option Wait) : Prop :=
  k.extension.slot = none ∧ k.shutdown.Begins r ∨
    ∃ client, k.extension.slot = some client ∧
      r = (k.shutdown, some (.restartStop k.extension.epoch client))

/-- An activation begins: only an inactive extension takes over preferences, registers its handlers and
begins to start the server. -/
def Activates (k : Core) (r : Core × Option Wait) : Prop :=
  r = (k, none) ∨
    k.extension.phase = .inactive ∧ ∃ preferences rs, (k.equip preferences rs).Begins r

/-- A deactivation begins: it ends at once when no client is held. -/
def deactivated (k : Core) : Core × Option Wait :=
  match k.extension.slot with
  | none => (k.retire.shutdown.inPhase .inactive, none)
  | some client => (k.retire.shutdown, some (.deactivateStop client))

/-- What a handler leaves that does not restart the server: the core as it was, with a quiet wait or
none; or an editor is watched. -/
inductive Tends (k : Core) : Core × Option Wait → Prop where
  | quiet (w : Option Wait) (hQuiet : ∀ w' ∈ w, w'.isQuiet = true) : Tends k (k, w)
  | watched (uri : String) (editor number : Nat) :
      Tends k (k.watch uri (.willSave editor number), none)

/-- What a handler leaves: the core as it was, with a quiet wait or none; or an editor is watched; or
the server is restarted. -/
inductive Handles (k : Core) : Core × Option Wait → Prop where
  | quiet (w : Option Wait) (hQuiet : ∀ w' ∈ w, w'.isQuiet = true) : Handles k (k, w)
  | watched (uri : String) (editor number : Nat) :
      Handles k (k.watch uri (.willSave editor number), none)
  | restarted {r : Core × Option Wait} (hRestarts : k.Restarts r) : Handles k r

theorem Tends.handles {k : Core} {r : Core × Option Wait} (h : k.Tends r) : k.Handles r := by
  cases h with
  | quiet w hQuiet => exact .quiet w hQuiet
  | watched uri editor number => exact .watched uri editor number

/-- What the beginning of an operation leaves. -/
inductive Opens (k : Core) : Core × Option Wait → Prop where
  | nothing : Opens k (k, none)
  | activated {r : Core × Option Wait} (hActivates : k.Activates r) : Opens k r
  | deactivated : Opens k k.deactivated
  | handled {r : Core × Option Wait} (hHandles : k.Handles r) : Opens k r

/-- What the task that was spawned when a server stopped leaves when it begins. -/
def prompted (k : Core) (rest : List (Option String)) : Core × Option Wait :=
  ({ k with prompts := rest }.release.inPhase .inactive, some (.prompt k.extension.epoch))

/-- What the reply to a wait leaves. -/
inductive Receives (k : Core) : (w : Wait) → w.Reply → Core × Option Wait → Prop where
  | scriptsRefused (epoch : Nat) (reply : (Wait.chmod epoch).Reply) :
      Receives k (.chmod epoch) reply (k.endStartup epoch false)
  | scriptsExecutable (epoch : Nat) (reply : (Wait.chmod epoch).Reply) :
      Receives k (.chmod epoch) reply (k.enroll, some (.start epoch k.clients.length))
  | started (epoch client : Nat) :
      Receives k (.start epoch client) (.done ()) ((k.store client).endStartup epoch true)
  | startFailed (epoch client : Nat) (cause : Cause) :
      Receives k (.start epoch client) (.failed cause) (k.clear.endStartup epoch false)
  | startPanicked (epoch client : Nat) (message : Option String) :
      Receives k (.start epoch client) (.panicked message) (k.endStartup epoch false)
  | staleStopped (client : Nat) (reply : (Wait.staleStop client).Reply) :
      Receives k (.staleStop client) reply (k.inPhase .inactive, none)
  | deactivateStopped (client : Nat) (reply : (Wait.deactivateStop client).Reply) :
      Receives k (.deactivateStop client) reply (k.inPhase .inactive, none)
  | restartOvertaken (epoch client : Nat) (reply : (Wait.restartStop epoch client).Reply)
      (hEpoch : k.extension.epoch ≠ epoch) :
      Receives k (.restartStop epoch client) reply (k, none)
  | restartStopped (epoch client : Nat) (reply : (Wait.restartStop epoch client).Reply)
      {r : Core × Option Wait} (hEpoch : k.extension.epoch = epoch) (hBegins : k.Begins r) :
      Receives k (.restartStop epoch client) reply r
  | promptLeft (epoch : Nat) (reply : (Wait.prompt epoch).Reply) :
      Receives k (.prompt epoch) reply (k, none)
  | promptChosen (epoch : Nat) (reply : (Wait.prompt epoch).Reply) {r : Core × Option Wait}
      (hEpoch : k.extension.epoch = epoch) (hBegins : k.Begins r) :
      Receives k (.prompt epoch) reply r
  | quiet (w : Wait) (reply : w.Reply) (hQuiet : w.isQuiet = true) : Receives k w reply (k, none)

theorem endStartup_current {k : Core} {epoch : Nat} (hEpoch : k.extension.epoch = epoch)
    (well : Bool) :
    k.endStartup epoch well =
      (if well then { k.inPhase .running with activations := k.activations + 1 }
        else k.inPhase .inactive, none) := by
  unfold endStartup
  rw [if_pos hEpoch]
  cases well <;> rfl

theorem endStartup_overtaken {k : Core} {epoch : Nat} (hEpoch : k.extension.epoch ≠ epoch)
    (well : Bool) :
    k.endStartup epoch well =
      match k.extension.slot with
      | none => (k.shutdown.inPhase .inactive, none)
      | some client => (k.shutdown, some (.staleStop client)) := if_neg hEpoch

end Core

namespace Session

/-- What a step leaves: the core, and what the step gives. -/
def coreOf {α : Type} (r : Session × α) : Core × α := (r.1.core, r.2)

/-! ## Stopping the client -/

@[simp] theorem core_disposeClientRegistrations (s : Session) :
    s.disposeClientRegistrations.core = s.core.clear := by
  unfold disposeClientRegistrations
  rw [core_disposeAll]
  rfl

theorem coreOf_takeClient (s : Session) :
    coreOf s.takeClient = (s.core.release, s.core.extension.slot) := by
  have hClear : s.disposeClientRegistrations.core = s.core.clear :=
    core_disposeClientRegistrations s
  change ({ s.disposeClientRegistrations.core with
      extension := { s.disposeClientRegistrations.core.extension with slot := none } },
    s.disposeClientRegistrations.core.extension.slot) = _
  rw [hClear]
  rfl

theorem coreOf_beginShutdown (s : Session) :
    coreOf s.beginShutdown = (s.core.shutdown, s.core.extension.slot) := by
  obtain ⟨hCore, hSlot⟩ := Prod.mk.inj (coreOf_takeClient s)
  unfold beginShutdown Core.shutdown
  rcases h : s.takeClient with ⟨s', _ | client⟩
  · rw [h] at hCore hSlot
    simp only [coreOf, hCore, ← hSlot, Option.toList_none, List.append_nil]
    rfl
  · rw [h] at hCore hSlot
    simp only [coreOf, core_recordStop, hCore, ← hSlot, Option.toList_some]
    rfl

@[simp] theorem core_reportStop (s : Session) (outcome : Outcome Unit) :
    (s.reportStop outcome).core = s.core := by
  unfold reportStop
  split
  · rfl
  · exact core_report s _

/-! ## Starting the client -/

theorem coreOf_endStartup (s : Session) (epoch : Nat) (outcome : Except ExtensionError Unit) :
    coreOf (s.endStartup epoch outcome) = s.core.endStartup epoch outcome.isOk := by
  obtain ⟨hCore, hSlot⟩ := Prod.mk.inj (coreOf_beginShutdown s)
  have hEpoch : s.extension.epoch = s.core.extension.epoch := rfl
  unfold endStartup Core.endStartup
  rw [hEpoch]
  split
  · cases outcome with
    | error e => simp [coreOf, Except.isOk, Except.toBool]
    | ok _ => simp [coreOf, Except.isOk, Except.toBool, Core.inPhase]
  · rcases h : s.beginShutdown with ⟨s', _ | client⟩
    · rw [h] at hCore hSlot
      simp only [coreOf, core_setPhase, hCore, ← hSlot]
    · rw [h] at hCore hSlot
      simp only [coreOf, hCore, ← hSlot]

/-- The core of a session that made a client, before anything is registered on it. -/
theorem core_addClient (s : Session) (e : Event) (hStop : e.stopOf? = none)
    (hActivated : e.isActivated = false) (made : Nat) (client : ClientRecord) :
    ({ s.record e with creations := made, clients := (s.record e).clients ++ [client] } :
      Session).core = { s.core with clients := s.core.clients ++ [client] } :=
  congrArg (fun k : Core => { k with clients := k.clients ++ [client] })
    (core_record hStop hActivated s)

/-- A listener is registered on a client, and the extension keeps the registration. -/
theorem core_listenDidStop (s : Session) (client : Nat) :
    ((s.registerDidStop client).1.mapExtension fun x =>
        { x with clientRegistrations :=
            x.clientRegistrations.add (s.registerDidStop client).2 }).core =
      s.core.listen client := rfl

theorem coreOf_startClient (x : Surroundings) (s : Session) (epoch : Nat) :
    coreOf (s.startClient x epoch) = s.core.endStartup epoch false ∨
      coreOf (s.startClient x epoch) =
        (s.core.enroll, some (.start epoch s.core.clients.length)) := by
  unfold startClient
  dsimp only
  split
  · left
    rw [coreOf_endStartup]
    exact congrArg (Core.endStartup · epoch false) (core_record rfl rfl s)
  · right
    refine congrArg (·, some (Wait.start epoch s.core.clients.length)) ?_
    rw [core_record rfl rfl]
    rw [core_listenDidStop, core_disposeClientRegistrations, core_addClient s _ rfl rfl]
    rfl

/-! ## Startups -/

theorem coreOf_clientStarted_done (s : Session) (epoch client : Nat) :
    coreOf (s.clientStarted epoch client (.done ())) =
      (s.core.store client).endStartup epoch true :=
  coreOf_endStartup _ epoch (.ok ())

theorem coreOf_clientStarted_failed (s : Session) (epoch client : Nat) (cause : Cause) :
    coreOf (s.clientStarted epoch client (.failed cause)) =
      s.core.clear.endStartup epoch false := by
  rw [← core_disposeClientRegistrations]
  exact coreOf_endStartup _ epoch _

theorem coreOf_clientStarted_panicked (s : Session) (epoch client : Nat)
    (message : Option String) :
    coreOf (s.clientStarted epoch client (.panicked message)) = s.core.endStartup epoch false :=
  coreOf_endStartup s epoch _

theorem coreOf_scriptsExecutable (x : Surroundings) (s : Session) (epoch : Nat)
    (outcome : Outcome ProcessOutput) :
    coreOf (s.scriptsExecutable x epoch outcome) = s.core.endStartup epoch false ∨
      coreOf (s.scriptsExecutable x epoch outcome) =
        (s.core.enroll, some (.start epoch s.core.clients.length)) := by
  unfold scriptsExecutable
  split
  · exact Or.inl (coreOf_endStartup s epoch _)
  · split
    · exact coreOf_startClient x s epoch
    · exact Or.inl (coreOf_endStartup s epoch _)

theorem begins_beginStartup (x : Surroundings) (s : Session) :
    s.core.Begins (coreOf (s.beginStartup x)) := by
  unfold beginStartup
  dsimp only
  split
  · left
    rw [coreOf_endStartup]
    exact if_pos rfl
  · right
    exact congrArg (·, some (Wait.chmod s.extension.epoch)) (core_record rfl rfl _)

/-! ## Activation and deactivation -/

/-- A session in which only registrations were added. -/
def Adds (s s' : Session) : Prop :=
  ∃ rs : List Registration, s'.core = s.core.equip s.core.extension.preferences rs

theorem Adds.trans {s₁ s₂ s₃ : Session} (h₁ : Adds s₁ s₂) (h₂ : Adds s₂ s₃) : Adds s₁ s₃ := by
  obtain ⟨rs₁, h₁⟩ := h₁
  obtain ⟨rs₂, h₂⟩ := h₂
  refine ⟨rs₁ ++ rs₂, ?_⟩
  rw [h₂, h₁]
  simp [Core.equip]

theorem adds_addCommand (s : Session) (id : String) (role : Role) :
    Adds s (s.addCommand id role) := ⟨[_], rfl⟩

theorem adds_addListener (s : Session) : Adds s s.addListener :=
  ⟨[.editorAdded ownHub _], rfl⟩

theorem adds_registerAll (s : Session) : Adds s s.registerAll :=
  (adds_addListener s).trans <| (adds_addCommand _ _ _).trans <| (adds_addCommand _ _ _).trans <|
    (adds_addCommand _ _ _).trans (adds_addCommand _ _ _)

theorem activates_beginActivate (x : Surroundings) (s : Session) :
    s.core.Activates (coreOf (s.beginActivate x)) := by
  unfold beginActivate
  split
  · exact Or.inl rfl
  · rename_i hPhase
    dsimp only
    generalize hNoted : (if x.dev then (s.log "Activating...").record
      (.notify Startup.serverName "Starting extension...") else s.log "Activating...") = noted
    have hCore : noted.core = s.core := by
      rw [← hNoted]
      split
      · rw [core_record rfl rfl, core_log (by decide)]
      · exact core_log (by decide) s
    obtain ⟨rs, hAdds⟩ := adds_registerAll (noted.mapExtension fun e =>
      { e with preferences := .resolve noted.workspaceSettings noted.globalSettings })
    have hBegins := begins_beginStartup x (noted.mapExtension fun e =>
      { e with preferences := .resolve noted.workspaceSettings noted.globalSettings }).registerAll
    rw [hAdds, core_mapExtension, hCore] at hBegins
    exact Or.inr ⟨Decidable.not_not.mp hPhase,
      .resolve noted.workspaceSettings noted.globalSettings, rs, hBegins⟩

theorem core_disposeRegistrations (s : Session) :
    s.disposeRegistrations.core =
      { s.core with
        extension := { s.core.extension with registrations := ⟨[]⟩ }
        clients := s.core.extension.registrations.items.reverse.foldl Core.dropListener
          s.core.clients } :=
  core_disposeAll _ _

theorem core_disposeEditorRegistrations (s : Session) :
    s.disposeEditorRegistrations.core =
      { s.core with
        extension := { s.core.extension with editorRegistrations := [] }
        clients := (s.core.extension.editorRegistrations.map Prod.snd).foldl Core.dropListener
          s.core.clients } :=
  core_disposeAll _ _

@[simp] theorem core_endDeactivate (s : Session) (outcome : Outcome Unit) :
    (s.endDeactivate outcome).core = s.core.inPhase .inactive := by
  unfold endDeactivate
  dsimp only
  split
  · exact core_log (by decide) _
  · exact core_report _ _

theorem coreOf_beginDeactivate (s : Session) : coreOf s.beginDeactivate = s.core.deactivated := by
  have hRetired : (((s.mapExtension fun x => { x with epoch := x.epoch + 1 }).log
      "Deactivating...").setPhase .stopping).disposeRegistrations.disposeEditorRegistrations.core =
      s.core.retire := by
    rw [core_disposeEditorRegistrations, core_disposeRegistrations, core_setPhase,
      core_log (by decide)]
    rfl
  obtain ⟨hCore, hSlot⟩ := Prod.mk.inj (coreOf_beginShutdown
    (((s.mapExtension fun x => { x with epoch := x.epoch + 1 }).log
      "Deactivating...").setPhase .stopping).disposeRegistrations.disposeEditorRegistrations)
  rw [hRetired] at hCore hSlot
  have hSame : s.core.retire.extension.slot = s.core.extension.slot := rfl
  unfold beginDeactivate Core.deactivated
  dsimp only
  rw [← hSame, ← hSlot]
  split
  · rename_i s' h
    rw [h] at hCore ⊢
    simp only [coreOf, core_endDeactivate, hCore]
  · rename_i s' client h
    rw [h] at hCore ⊢
    simp only [coreOf, hCore]

/-! ## Restarting, and servers that stop -/

theorem coreOf_endRestartStop (x : Surroundings) (s : Session) (epoch : Nat)
    (outcome : Outcome Unit) :
    s.core.extension.epoch ≠ epoch ∧ coreOf (s.endRestartStop x epoch outcome) = (s.core, none) ∨
      s.core.extension.epoch = epoch ∧
        s.core.Begins (coreOf (s.endRestartStop x epoch outcome)) := by
  have hCore := core_reportStop s outcome
  unfold endRestartStop
  dsimp only
  split
  · rename_i hEpoch
    refine Or.inr ⟨?_, ?_⟩
    · rw [← hCore]
      exact hEpoch
    · rw [← hCore]
      exact begins_beginStartup x _
  · rename_i hEpoch
    refine Or.inl ⟨?_, ?_⟩
    · rw [← hCore]
      exact hEpoch
    · rw [← hCore]
      rfl

theorem restarts_beginRestart (x : Surroundings) (s : Session) :
    s.core.Restarts (coreOf (s.beginRestart x)) := by
  have hLog : (s.log restarting).core = s.core := core_log (by decide) s
  obtain ⟨hCore, hSlot⟩ := Prod.mk.inj (coreOf_beginShutdown (s.log restarting))
  rw [hLog] at hCore hSlot
  unfold beginRestart
  dsimp only
  rcases h : (s.log restarting).beginShutdown with ⟨s', _ | client⟩
  · rw [h] at hCore hSlot
    left
    refine ⟨hSlot.symm, ?_⟩
    rcases coreOf_endRestartStop x s' s.extension.epoch (.done ()) with ⟨hEpoch, -⟩ | ⟨-, hBegins⟩
    · rw [hCore] at hEpoch
      exact absurd rfl hEpoch
    · rw [hCore] at hBegins
      exact hBegins
  · rw [h] at hCore hSlot
    right
    refine ⟨client, hSlot.symm, ?_⟩
    exact congrArg (·, some (Wait.restartStop s.extension.epoch client)) hCore

theorem coreOf_beginPrompt (s : Session) (rest : List (Option String)) (reason : Option String) :
    coreOf ({ s with prompts := rest }.beginPrompt reason) = s.core.prompted rest := by
  obtain ⟨hCore, -⟩ := Prod.mk.inj (coreOf_takeClient { s with prompts := rest })
  unfold beginPrompt
  refine congrArg (·, some (Wait.prompt s.core.extension.epoch)) ?_
  rw [core_record rfl rfl, core_setPhase]
  exact congrArg (Core.inPhase · .inactive) hCore

theorem coreOf_endPrompt (x : Surroundings) (s : Session) (epoch : Nat)
    (choice : Option (Option Nat)) :
    coreOf (s.endPrompt x epoch choice) = (s.core, none) ∨
      s.core.extension.epoch = epoch ∧ s.core.Begins (coreOf (s.endPrompt x epoch choice)) := by
  unfold endPrompt
  split
  · rename_i h
    refine Or.inr ⟨h.2, ?_⟩
    have hBegins := begins_beginStartup x (s.log restarting)
    rw [core_log (by decide)] at hBegins
    exact hBegins
  · exact Or.inl rfl

/-- Every answer but Restart leaves the core as it was, and so does every answer to a panel that was
shown in another epoch. -/
theorem coreOf_endPrompt_left (x : Surroundings) (s : Session) {epoch : Nat}
    {choice : Option (Option Nat)} (hLeft : choice = some (some 0) → s.core.extension.epoch ≠ epoch) :
    coreOf (s.endPrompt x epoch choice) = (s.core, none) := by
  unfold endPrompt
  rw [if_neg fun h => hLeft h.1 h.2]
  rfl

/-- Tells the listeners of a client: each spawns a task. -/
theorem core_serverStopped (s : Session) (client : Nat) (reason : Option String) :
    (s.serverStopped client reason).core =
      if s.alive then
        { s.core with
          prompts := s.core.prompts ++ (s.core.listeners client).map fun _ => reason }
      else s.core := by
  have hPrompts : ((((s.clients[client]?).getD {}).didStop).snapshot.map fun _ => reason) =
      (s.core.listeners client).map fun _ => reason := by
    rw [Listeners.snapshot, List.map_map]
    rfl
  unfold serverStopped
  dsimp only
  rw [hPrompts]
  split <;> rfl

/-! ## Handlers -/

theorem tends_of_core {s : Session} {r : Session × Option Wait} (hCore : r.1.core = s.core)
    (hQuiet : ∀ w ∈ r.2, w.isQuiet = true) : s.core.Tends (coreOf r) := by
  unfold coreOf
  rw [hCore]
  exact .quiet r.2 hQuiet

theorem tends_runHandler (x : Surroundings) (s : Session) {h : Handler} (hOther : h ≠ .own .restart)
    (editor : Nat) : s.core.Tends (coreOf (s.runHandler x h editor)) := by
  cases h with
  | other number => exact tends_of_core rfl (by simp [runHandler, Wait.isQuiet])
  | own role =>
    unfold runHandler
    dsimp only
    split
    · cases role with
      | formatDocument =>
        refine tends_of_core (core_askFormatter x s editor) ?_
        intro w hw
        obtain ⟨asked, -, rfl⟩ := Option.map_eq_some_iff.mp hw
        rfl
      | formatWithServer =>
        refine tends_of_core (core_askServerToFormat s editor) ?_
        intro w hw
        obtain ⟨asked, -, rfl⟩ := Option.map_eq_some_iff.mp hw
        rfl
      | findReferences =>
        exact tends_of_core (core_askForReferences s editor) (by simp [Wait.isQuiet])
      | restart => exact absurd rfl hOther
      | watchEditor =>
        rcases core_watchEditor s editor with hCore | ⟨uri, number, hCore⟩
        · exact tends_of_core hCore (by simp)
        · unfold coreOf
          rw [hCore]
          exact .watched uri editor number
    · exact tends_of_core rfl (by simp)

theorem handles_runHandler (x : Surroundings) (s : Session) (h : Handler) (editor : Nat) :
    s.core.Handles (coreOf (s.runHandler x h editor)) := by
  by_cases hRestart : h = .own .restart
  · subst hRestart
    unfold runHandler
    dsimp only
    split
    · exact .restarted (restarts_beginRestart x s)
    · exact .quiet none nofun
  · exact (tends_runHandler x s hRestart editor).handles

/-! ## Replies -/

theorem receives_receive (x : Surroundings) (s : Session) (w : Wait) (reply : w.Reply) :
    s.core.Receives w reply (coreOf (s.receive x w reply)) := by
  cases w with
  | chmod epoch =>
    rcases coreOf_scriptsExecutable x s epoch reply with hCore | hCore
    · exact hCore ▸ .scriptsRefused epoch reply
    · exact hCore ▸ .scriptsExecutable epoch reply
  | start epoch client =>
    change Outcome Unit at reply
    cases reply with
    | done => exact coreOf_clientStarted_done s epoch client ▸ .started epoch client
    | failed cause =>
      exact coreOf_clientStarted_failed s epoch client cause ▸ .startFailed epoch client cause
    | panicked message =>
      exact coreOf_clientStarted_panicked s epoch client message ▸
        .startPanicked epoch client message
  | staleStop client =>
    have hCore : coreOf (s.receive x (.staleStop client) reply) =
        (s.core.inPhase .inactive, none) :=
      congrArg (fun k => (Core.inPhase k .inactive, none)) (core_reportStop s reply)
    exact hCore ▸ .staleStopped client reply
  | deactivateStop client =>
    have hCore : coreOf (s.receive x (.deactivateStop client) reply) =
        (s.core.inPhase .inactive, none) :=
      congrArg (·, none) (core_endDeactivate s reply)
    exact hCore ▸ .deactivateStopped client reply
  | restartStop epoch client =>
    rcases coreOf_endRestartStop x s epoch reply with ⟨hEpoch, hCore⟩ | ⟨hEpoch, hBegins⟩
    · exact hCore ▸ .restartOvertaken epoch client reply hEpoch
    · exact .restartStopped epoch client reply hEpoch hBegins
  | prompt epoch =>
    rcases coreOf_endPrompt x s epoch reply with hCore | ⟨hEpoch, hBegins⟩
    · exact hCore ▸ .promptLeft epoch reply
    · exact .promptChosen epoch reply hEpoch hBegins
  | formatter mix f =>
    have hCore : coreOf (s.receive x (.formatter mix f) reply) = (s.core, none) :=
      congrArg (·, none) (core_applyFormatter s f reply)
    exact hCore ▸ .quiet _ reply rfl
  | serverEdits f =>
    have hCore : coreOf (s.receive x (.serverEdits f) reply) = (s.core, none) :=
      congrArg (·, none) (core_applyServerEdits s f reply)
    exact hCore ▸ .quiet _ reply rfl
  | references =>
    have hCore : coreOf (s.receive x .references reply) = (s.core, none) :=
      congrArg (·, none) (core_showReferences s reply)
    exact hCore ▸ .quiet _ reply rfl
  | other number editor => exact .quiet _ reply rfl

/-! ## What is left to do -/

@[simp] theorem core_writeDocument (x : Surroundings) (s : Session) (editor : Nat) :
    (s.writeDocument x editor).1.core = s.core := by
  unfold writeDocument
  split <;> rfl

@[simp] theorem core_suspend (s : Session) (w : Wait) (rest : Rest) :
    (s.suspend w rest).1.core = s.core := by
  unfold suspend
  dsimp only
  split <;> rfl

/-- What an operation leaves that goes on: it had nothing to do, or it ran handlers up to one that waits,
or it ran all handlers and perhaps wrote a document. -/
inductive GoesOn (x : Surroundings) (s : Session) : Session × Progress → Prop where
  | nothing : GoesOn x s (s, .ended (.ok ()))
  | suspended {editor : Nat} {handlers rest : List Handler} {s' : Session} {w : Wait} (next : Rest)
      (hRun : s.runHandlers x editor handlers = (s', some (w, rest))) :
      GoesOn x s (s'.suspend w next)
  | finished {editor : Nat} {handlers : List Handler} {s' : Session}
      (hRun : s.runHandlers x editor handlers = (s', none)) : GoesOn x s (s', .ended (.ok ()))
  | saved {editor : Nat} {handlers : List Handler} {s' : Session}
      (hRun : s.runHandlers x editor handlers = (s', none)) :
      GoesOn x s ((s'.writeDocument x editor).1, .ended (s'.writeDocument x editor).2)

theorem goesOn_goOn (x : Surroundings) (s : Session) (rest : Rest) :
    GoesOn x s (s.goOn x rest) := by
  cases rest with
  | nothing => exact .nothing
  | dispatch editor handlers =>
    unfold goOn
    dsimp only
    split
    · rename_i hRun
      exact .suspended _ hRun
    · rename_i hRun
      exact .finished hRun
  | save editor handlers =>
    unfold goOn
    dsimp only
    split
    · rename_i hRun
      exact .suspended _ hRun
    · rename_i hRun
      exact .saved hRun

end Session

end ExtensionHost
