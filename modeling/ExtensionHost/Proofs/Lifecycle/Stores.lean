import ExtensionHost.Proofs.Lifecycle.Calls

/-!
# What reads the stores of settings

The stores of settings are read in one place: an activation that is not ignored. Every other step of the
machine does the same in a session as in the session without its stores, and leaves the stores as they
are; each has one statement here that says so, and `Stage.play_withoutStores` gathers them for a move.
-/

namespace ExtensionHost

namespace Session

/-- A session with empty stores of settings. -/
def withoutStores (s : Session) : Session := { s with workspaceSettings := [], globalSettings := [] }

/-- The session of a result with empty stores of settings. -/
def storeless {α : Type} (r : Session × α) : Session × α := (r.1.withoutStores, r.2)

variable (x : Surroundings) (s : Session)

@[simp] theorem extension_withoutStores : s.withoutStores.extension = s.extension := rfl

@[simp] theorem buffer_withoutStores (editor : Nat) :
    s.withoutStores.buffer editor = s.buffer editor := rfl

@[simp] theorem alive_withoutStores : s.withoutStores.alive = s.alive := rfl

/-! ## Recording, registering and disposing -/

@[simp] theorem record_withoutStores (e : Event) :
    s.withoutStores.record e = (s.record e).withoutStores := rfl

@[simp] theorem log_withoutStores (text : String) :
    s.withoutStores.log text = (s.log text).withoutStores := rfl

@[simp] theorem report_withoutStores (e : ExtensionError) :
    s.withoutStores.report e = (s.report e).withoutStores := rfl

@[simp] theorem mapExtension_withoutStores (f : Extension → Extension) :
    s.withoutStores.mapExtension f = (s.mapExtension f).withoutStores := rfl

@[simp] theorem setPhase_withoutStores (phase : Phase) :
    s.withoutStores.setPhase phase = (s.setPhase phase).withoutStores := rfl

theorem edit_withoutStores (editor : Nat) (e : Extent) (replacement : List Char) :
    s.withoutStores.edit editor e replacement = storeless (s.edit editor e replacement) := by
  unfold edit
  rw [buffer_withoutStores]
  split <;> rfl

theorem registerWillSave_withoutStores (editor : Nat) (h : Handler) :
    s.withoutStores.registerWillSave editor h = storeless (s.registerWillSave editor h) := rfl

@[simp] theorem dispose_withoutStores (r : Registration) :
    s.withoutStores.dispose r = (s.dispose r).withoutStores := by
  cases r <;> rfl

@[simp] theorem disposeAll_withoutStores (rs : List Registration) :
    s.withoutStores.disposeAll rs = (s.disposeAll rs).withoutStores := by
  induction rs generalizing s with
  | nil => rfl
  | cons r rs ih =>
    have hFirst := congrArg (disposeAll · rs) (dispose_withoutStores s r)
    exact hFirst.trans (ih (s.dispose r))

/-! ## Starting and stopping the server -/

theorem takeClient_withoutStores : s.withoutStores.takeClient = storeless s.takeClient := by
  have hDisposed := disposeAll_withoutStores
    (s.mapExtension fun x => { x with clientRegistrations := s.extension.clientRegistrations.takeAll.1 })
    s.extension.clientRegistrations.takeAll.2
  exact congrArg (fun d => (d.mapExtension fun x => { x with slot := none }, d.extension.slot)) hDisposed

theorem beginShutdown_withoutStores : s.withoutStores.beginShutdown = storeless s.beginShutdown := by
  unfold beginShutdown
  rw [takeClient_withoutStores]
  rcases s.takeClient with ⟨s', _ | client⟩ <;> rfl

@[simp] theorem reportStop_withoutStores (outcome : Outcome Unit) :
    s.withoutStores.reportStop outcome = (s.reportStop outcome).withoutStores := by
  unfold reportStop
  split <;> rfl

theorem endStartup_withoutStores (epoch : Nat) (outcome : Except ExtensionError Unit) :
    s.withoutStores.endStartup epoch outcome = storeless (s.endStartup epoch outcome) := by
  unfold endStartup
  rw [beginShutdown_withoutStores, extension_withoutStores]
  split
  · split <;> rfl
  · rcases s.beginShutdown with ⟨s', _ | client⟩ <;> rfl

@[simp] theorem disposeClientRegistrations_withoutStores :
    s.withoutStores.disposeClientRegistrations = s.disposeClientRegistrations.withoutStores :=
  disposeAll_withoutStores (s.mapExtension fun x =>
    { x with clientRegistrations := s.extension.clientRegistrations.takeAll.1 }) _

theorem startClient_withoutStores (epoch : Nat) :
    s.withoutStores.startClient x epoch = storeless (s.startClient x epoch) := by
  let created : Session :=
    { s.record (.create Startup.serverId Startup.serverName (Startup.serverOptions x.extensionPath)
        (Startup.clientOptions x.root)) with creations := s.creations + 1 }
  let known : Session := { created with clients := created.clients ++ [({} : ClientRecord)] }
  unfold startClient
  dsimp only
  split
  · rename_i cause hMade
    split
    · rename_i cause' hMade'
      cases hMade.symm.trans hMade'
      exact endStartup_withoutStores created epoch (.error (startError cause))
    · rename_i hMade'
      cases hMade.symm.trans hMade'
  · rename_i hMade
    split
    · rename_i hMade'
      cases hMade.symm.trans hMade'
    · exact congrArg (fun d : Session =>
          (((d.registerDidStop s.clients.length).1.mapExtension fun x =>
            { x with clientRegistrations :=
                x.clientRegistrations.add (d.registerDidStop s.clients.length).2 }).record
              (.start s.clients.length), some (Wait.start epoch s.clients.length)))
        (disposeClientRegistrations_withoutStores known)

theorem clientStarted_withoutStores (epoch client : Nat) (outcome : Outcome Unit) :
    s.withoutStores.clientStarted epoch client outcome =
      storeless (s.clientStarted epoch client outcome) := by
  cases outcome with
  | done =>
    exact endStartup_withoutStores (s.mapExtension fun x => { x with slot := some client }) epoch (.ok ())
  | failed cause =>
    unfold clientStarted
    dsimp only
    rw [disposeClientRegistrations_withoutStores, endStartup_withoutStores]
  | panicked message => exact endStartup_withoutStores s epoch (.error (startError (.ofPanic message)))

theorem scriptsExecutable_withoutStores (epoch : Nat) (outcome : Outcome ProcessOutput) :
    s.withoutStores.scriptsExecutable x epoch outcome =
      storeless (s.scriptsExecutable x epoch outcome) := by
  unfold scriptsExecutable
  split
  · exact endStartup_withoutStores s epoch _
  · split
    · exact startClient_withoutStores x s epoch
    · exact endStartup_withoutStores s epoch _

theorem beginStartup_withoutStores :
    s.withoutStores.beginStartup x = storeless (s.beginStartup x) := by
  have hFiles : (s.withoutStores.setPhase .starting).files = (s.setPhase .starting).files := rfl
  unfold beginStartup
  dsimp only
  rw [hFiles]
  split
  · exact endStartup_withoutStores (s.setPhase .starting) _ _
  · rfl

/-! ## Operations of the extension -/

/-- An activation reads the stores, unless it is ignored. -/
theorem beginActivate_withoutStores (hPhase : s.extension.phase ≠ .inactive) :
    s.withoutStores.beginActivate x = storeless (s.beginActivate x) := by
  unfold beginActivate
  rw [extension_withoutStores, if_pos hPhase, if_pos hPhase]
  rfl

@[simp] theorem disposeRegistrations_withoutStores :
    s.withoutStores.disposeRegistrations = s.disposeRegistrations.withoutStores :=
  disposeAll_withoutStores (s.mapExtension fun x =>
    { x with registrations := s.extension.registrations.takeAll.1 }) _

@[simp] theorem disposeEditorRegistrations_withoutStores :
    s.withoutStores.disposeEditorRegistrations = s.disposeEditorRegistrations.withoutStores :=
  disposeAll_withoutStores (s.mapExtension fun x => { x with editorRegistrations := [] }) _

@[simp] theorem endDeactivate_withoutStores (outcome : Outcome Unit) :
    s.withoutStores.endDeactivate outcome = (s.endDeactivate outcome).withoutStores := by
  unfold endDeactivate
  dsimp only
  split <;> rfl

theorem beginDeactivate_withoutStores :
    s.withoutStores.beginDeactivate = storeless s.beginDeactivate := by
  unfold beginDeactivate
  dsimp only
  simp only [mapExtension_withoutStores, log_withoutStores, setPhase_withoutStores,
    disposeRegistrations_withoutStores, disposeEditorRegistrations_withoutStores,
    beginShutdown_withoutStores]
  generalize (beginShutdown _ : Session × Option Nat) = r
  rcases r with ⟨s', _ | client⟩
  · exact congrArg (·, none) (endDeactivate_withoutStores s' (.done ()))
  · rfl

theorem endRestartStop_withoutStores (epoch : Nat) (outcome : Outcome Unit) :
    s.withoutStores.endRestartStop x epoch outcome = storeless (s.endRestartStop x epoch outcome) := by
  unfold endRestartStop
  dsimp only
  rw [reportStop_withoutStores, extension_withoutStores]
  split
  · exact beginStartup_withoutStores x _
  · rfl

theorem beginRestart_withoutStores :
    s.withoutStores.beginRestart x = storeless (s.beginRestart x) := by
  unfold beginRestart
  dsimp only
  rw [log_withoutStores, beginShutdown_withoutStores, extension_withoutStores]
  rcases (s.log restarting).beginShutdown with ⟨s', _ | client⟩
  · exact endRestartStop_withoutStores x s' _ _
  · rfl

@[simp] theorem serverStopped_withoutStores (client : Nat) (reason : Option String) :
    s.withoutStores.serverStopped client reason = (s.serverStopped client reason).withoutStores := by
  unfold serverStopped
  dsimp only
  rw [alive_withoutStores]
  split <;> rfl

theorem beginPrompt_withoutStores (reason : Option String) :
    s.withoutStores.beginPrompt reason = storeless (s.beginPrompt reason) := by
  unfold beginPrompt
  dsimp only
  rw [takeClient_withoutStores]
  rfl

theorem endPrompt_withoutStores (epoch : Nat) (choice : Option (Option Nat)) :
    s.withoutStores.endPrompt x epoch choice = storeless (s.endPrompt x epoch choice) := by
  unfold endPrompt
  rw [extension_withoutStores]
  split
  · exact beginStartup_withoutStores x (s.log restarting)
  · rfl

/-! ## Handlers -/

theorem askFormatter_withoutStores (editor : Nat) :
    s.withoutStores.askFormatter x editor = storeless (s.askFormatter x editor) := by
  unfold askFormatter
  rw [extension_withoutStores]
  split <;> rfl

theorem askServerToFormat_withoutStores (editor : Nat) :
    s.withoutStores.askServerToFormat editor = storeless (s.askServerToFormat editor) := by
  unfold askServerToFormat
  rw [extension_withoutStores]
  split <;> rfl

theorem askForReferences_withoutStores (editor : Nat) :
    s.withoutStores.askForReferences editor = storeless (s.askForReferences editor) := by
  unfold askForReferences
  rw [extension_withoutStores]
  split <;> rfl

@[simp] theorem watchEditor_withoutStores (editor : Nat) :
    s.withoutStores.watchEditor editor = (s.watchEditor editor).withoutStores := by
  unfold watchEditor
  rw [buffer_withoutStores, extension_withoutStores]
  dsimp only
  split
  · rw [registerWillSave_withoutStores]
    dsimp only [storeless]
    simp only [extension_withoutStores, mapExtension_withoutStores]
    split
    · exact dispose_withoutStores _ _
    · rfl
  · rfl

theorem replaceText_withoutStores (editor : Nat) (e : Extent) (formatted : List Char) :
    s.withoutStores.replaceText editor e formatted =
      (s.replaceText editor e formatted).withoutStores := by
  unfold replaceText
  rw [edit_withoutStores]
  rcases s.edit editor e formatted with ⟨s', _ | _⟩ <;> rfl

theorem applyFormatter_withoutStores (f : Formatting) (outcome : Outcome ProcessOutput) :
    s.withoutStores.applyFormatter f outcome = (s.applyFormatter f outcome).withoutStores := by
  unfold applyFormatter
  split
  · rfl
  · exact replaceText_withoutStores s _ _ _

theorem applyServerEdits_withoutStores (f : Formatting) (outcome : Outcome Json) :
    s.withoutStores.applyServerEdits f outcome = (s.applyServerEdits f outcome).withoutStores := by
  unfold applyServerEdits
  split
  · rfl
  · split
    · rfl
    · exact replaceText_withoutStores s _ _ _

theorem showReferences_withoutStores (outcome : Outcome Json) :
    s.withoutStores.showReferences outcome = (s.showReferences outcome).withoutStores := by
  unfold showReferences
  split <;> rfl

theorem runHandler_withoutStores (h : Handler) (editor : Nat) :
    s.withoutStores.runHandler x h editor = storeless (s.runHandler x h editor) := by
  cases h with
  | other number => rfl
  | own role =>
    unfold runHandler
    dsimp only
    rw [alive_withoutStores]
    split
    · cases role with
      | formatDocument =>
        dsimp only
        rw [askFormatter_withoutStores]
        rfl
      | formatWithServer =>
        dsimp only
        rw [askServerToFormat_withoutStores]
        rfl
      | findReferences =>
        dsimp only
        rw [askForReferences_withoutStores]
        rfl
      | restart => exact beginRestart_withoutStores x s
      | watchEditor => exact Prod.ext (watchEditor_withoutStores s editor) rfl
    · rfl

theorem runHandlers_withoutStores (editor : Nat) (handlers : List Handler) :
    s.withoutStores.runHandlers x editor handlers = storeless (s.runHandlers x editor handlers) := by
  induction handlers generalizing s with
  | nil => rfl
  | cons h rest ih =>
    unfold runHandlers
    rw [runHandler_withoutStores]
    rcases s.runHandler x h editor with ⟨s', _ | w⟩
    · exact ih s'
    · rfl

theorem writeDocument_withoutStores (editor : Nat) :
    s.withoutStores.writeDocument x editor = storeless (s.writeDocument x editor) := by
  have hFiles : s.withoutStores.files = s.files := rfl
  unfold writeDocument
  rw [buffer_withoutStores, hFiles]
  split <;> rfl

/-! ## Steps -/

theorem suspend_withoutStores (w : Wait) (rest : Rest) :
    s.withoutStores.suspend w rest = storeless (s.suspend w rest) := by
  unfold suspend
  split <;> rfl

theorem goOn_withoutStores (rest : Rest) :
    s.withoutStores.goOn x rest = storeless (s.goOn x rest) := by
  cases rest with
  | nothing => rfl
  | dispatch editor handlers =>
    unfold goOn
    dsimp only
    rw [runHandlers_withoutStores]
    rcases s.runHandlers x editor handlers with ⟨s', _ | ⟨w, left⟩⟩
    · rfl
    · exact suspend_withoutStores s' w _
  | save editor handlers =>
    unfold goOn
    dsimp only
    rw [runHandlers_withoutStores]
    rcases s.runHandlers x editor handlers with ⟨s', _ | ⟨w, left⟩⟩
    · have hWritten := writeDocument_withoutStores x s' editor
      exact congrArg (fun r => (r.1, Progress.ended r.2)) hWritten
    · exact suspend_withoutStores s' w _

theorem settle_withoutStores (r : Session × Option Wait) (rest : Rest) :
    settle x (storeless r) rest = storeless (settle x r rest) := by
  obtain ⟨s', _ | w⟩ := r
  · exact goOn_withoutStores x s' rest
  · exact suspend_withoutStores s' w rest

theorem receive_withoutStores (w : Wait) (reply : w.Reply) :
    s.withoutStores.receive x w reply = storeless (s.receive x w reply) := by
  cases w with
  | chmod epoch => exact scriptsExecutable_withoutStores x s epoch reply
  | start epoch client => exact clientStarted_withoutStores s epoch client reply
  | staleStop client =>
    exact Prod.ext (congrArg (setPhase · .inactive) (reportStop_withoutStores s reply)) rfl
  | deactivateStop client => exact Prod.ext (endDeactivate_withoutStores s reply) rfl
  | restartStop epoch client => exact endRestartStop_withoutStores x s epoch reply
  | prompt epoch => exact endPrompt_withoutStores x s epoch reply
  | formatter mix f => exact Prod.ext (applyFormatter_withoutStores s f reply) rfl
  | serverEdits f => exact Prod.ext (applyServerEdits_withoutStores s f reply) rfl
  | references => exact Prod.ext (showReferences_withoutStores s reply) rfl
  | other number editor => rfl

end Session

/-- Whether a move changes the stores of settings. -/
def Move.changesStores : Move → Bool
  | .changeSettings _ _ => true
  | _ => false

namespace Stage

/-- A stage without the stores of settings. -/
def withoutStores (g : Stage) : Stage := ⟨g.session.withoutStores, g.waiting⟩

/-- A move takes over the settings: the activation of an extension that is inactive. -/
def TakesOver (g : Stage) (m : Move) : Prop := m = .activate ∧ g.session.extension.phase = .inactive

variable (x : Surroundings) (g : Stage)

theorem after_withoutStores (waiting : List Suspended) (r : Session × Progress) :
    after waiting (Session.storeless r) = (after waiting r).withoutStores := by
  obtain ⟨s, t | r⟩ := r <;> rfl

theorem after_settle_withoutStores (waiting : List Suspended) {r r' : Session × Option Wait}
    (h : r' = Session.storeless r) (rest : Rest) :
    after waiting (Session.settle x r' rest) = (after waiting (Session.settle x r rest)).withoutStores := by
  rw [h, Session.settle_withoutStores, after_withoutStores]

theorem replying_withoutStores (t : Suspended) :
    g.withoutStores.replying t = (g.replying t).withoutStores := by
  unfold replying
  split <;> rfl

/-- **A move that takes no settings over does not depend on the stores**, and leaves them alone unless it
changes them. -/
theorem play_withoutStores {m : Move} (hm : ¬ g.TakesOver m) (hStores : m.changesStores = false) :
    g.withoutStores.play x m = (g.play x m).withoutStores := by
  cases m with
  | activate =>
    exact after_settle_withoutStores x g.waiting
      (Session.beginActivate_withoutStores x g.session fun hPhase => hm ⟨rfl, hPhase⟩) .nothing
  | deactivate =>
    exact after_settle_withoutStores x g.waiting (Session.beginDeactivate_withoutStores g.session) .nothing
  | restart =>
    exact after_settle_withoutStores x g.waiting (Session.beginRestart_withoutStores x g.session) .nothing
  | invoke hub id editor =>
    have hHubs : g.withoutStores.session.hubs = g.session.hubs := rfl
    unfold play Session.invoke
    dsimp only
    rw [hHubs]
    split
    · rfl
    · exact after_settle_withoutStores x g.waiting
        (Session.runHandler_withoutStores x g.session _ editor) .nothing
  | addEditor hub editor =>
    exact after_settle_withoutStores x g.waiting (r := (g.session, none)) rfl _
  | save editor => exact after_settle_withoutStores x g.waiting (r := (g.session, none)) rfl _
  | serverStopped client reason =>
    exact congrArg (g.withSession ·) (Session.serverStopped_withoutStores g.session client reason)
  | prompt =>
    have hPrompts : g.withoutStores.session.prompts = g.session.prompts := rfl
    unfold play Session.runPrompt
    dsimp only
    rw [hPrompts]
    split
    · rfl
    · exact after_settle_withoutStores x g.waiting
        (Session.beginPrompt_withoutStores { g.session with prompts := _ } _) .nothing
  | reply number answer =>
    have hWaiting : g.withoutStores.waiting = g.waiting := rfl
    unfold play
    dsimp only
    rw [hWaiting]
    split
    · rename_i t ht
      have hReceived : (g.withoutStores.replying t).receive x t.wait (answer t.wait) =
          Session.storeless ((g.replying t).receive x t.wait (answer t.wait)) := by
        rw [replying_withoutStores]
        exact Session.receive_withoutStores x (g.replying t) t.wait _
      exact after_settle_withoutStores x _ hReceived t.rest
    · rfl
  | edit editor e replacement =>
    exact congrArg (g.withSession ·.1) (Session.edit_withoutStores g.session editor e replacement)
  | dispose r => exact congrArg (g.withSession ·) (Session.dispose_withoutStores g.session r)
  | openEditor | register | onEditorAdded | onWillSave | changeFiles => rfl
  | changeSettings => cases hStores

end Stage

end ExtensionHost
