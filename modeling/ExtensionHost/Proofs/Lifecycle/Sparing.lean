import ExtensionHost.Proofs.Lifecycle.Failing

/-!
# What is left alone on the side

Only a document that is saved is written to a file, and only an answer about references has locations to
show. Everything else that the extension does leaves the files as they are and shows no locations
(`stock_receive`, `stock_settle_nothing`).
-/

namespace ExtensionHost

/-- The locations that are shown when something is seen. -/
def Event.locations? : Event → Option (List Location)
  | .references locations => some locations
  | _ => none

namespace Session

/-! ## Files and locations -/

/-- The files, and the locations that were shown. -/
def stock (s : Session) : Files × List (List Location) :=
  (s.files, s.events.filterMap Event.locations?)

theorem files_of_stock {s s' : Session} (h : s'.stock = s.stock) : s'.files = s.files :=
  congrArg Prod.fst h

theorem stock_record (s : Session) {e : Event} (h : e.locations? = none) :
    (s.record e).stock = s.stock := by
  simp [stock, record, List.filterMap_append, h]

@[simp] theorem stock_log (s : Session) (text : String) : (s.log text).stock = s.stock :=
  stock_record s rfl

@[simp] theorem stock_logError (s : Session) (text : String) : (s.logError text).stock = s.stock :=
  stock_record s rfl

@[simp] theorem stock_report (s : Session) (e : ExtensionError) : (s.report e).stock = s.stock :=
  stock_logError s _

@[simp] theorem stock_mapExtension (s : Session) (f : Extension → Extension) :
    (s.mapExtension f).stock = s.stock := rfl

@[simp] theorem stock_setPhase (s : Session) (phase : Phase) : (s.setPhase phase).stock = s.stock := rfl

@[simp] theorem stock_dispose (s : Session) (r : Registration) : (s.dispose r).stock = s.stock := by
  cases r <;> rfl

@[simp] theorem stock_disposeAll (s : Session) (rs : List Registration) :
    (s.disposeAll rs).stock = s.stock := by
  induction rs generalizing s with
  | nil => rfl
  | cons r rs ih => exact (ih (s.dispose r)).trans (stock_dispose s r)

/-! ## The server -/

@[simp] theorem stock_takeClient (s : Session) : s.takeClient.1.stock = s.stock :=
  stock_disposeAll _ _

@[simp] theorem stock_beginShutdown (s : Session) : s.beginShutdown.1.stock = s.stock := by
  have hTaken := stock_takeClient s
  unfold beginShutdown
  rcases h : s.takeClient with ⟨s', _ | client⟩
  · rw [h] at hTaken
    exact hTaken
  · rw [h] at hTaken
    exact (stock_record s' rfl).trans hTaken

@[simp] theorem stock_reportStop (s : Session) (outcome : Outcome Unit) :
    (s.reportStop outcome).stock = s.stock := by
  unfold reportStop
  split
  · rfl
  · exact stock_report s _

@[simp] theorem stock_endStartup (s : Session) (epoch : Nat) (outcome : Except ExtensionError Unit) :
    (s.endStartup epoch outcome).1.stock = s.stock := by
  have hStopped := stock_beginShutdown s
  unfold endStartup
  split
  · split
    · exact stock_report _ _
    · exact stock_log _ _
  · rcases h : s.beginShutdown with ⟨s', _ | client⟩
    · rw [h] at hStopped
      exact hStopped
    · rw [h] at hStopped
      exact hStopped

@[simp] theorem stock_disposeClientRegistrations (s : Session) :
    s.disposeClientRegistrations.stock = s.stock := stock_disposeAll _ _

@[simp] theorem stock_startClient (x : Surroundings) (s : Session) (epoch : Nat) :
    (s.startClient x epoch).1.stock = s.stock := by
  have hCreated := stock_record s (e := .create Startup.serverId Startup.serverName
    (Startup.serverOptions x.extensionPath) (Startup.clientOptions x.root)) rfl
  unfold startClient
  dsimp only
  split
  · exact (stock_endStartup _ epoch _).trans hCreated
  · refine (stock_record _ rfl).trans (Eq.trans ?_ hCreated)
    exact stock_disposeClientRegistrations _

@[simp] theorem stock_clientStarted (s : Session) (epoch client : Nat) (outcome : Outcome Unit) :
    (s.clientStarted epoch client outcome).1.stock = s.stock := by
  cases outcome with
  | done => exact stock_endStartup _ epoch _
  | failed cause => exact (stock_endStartup _ epoch _).trans (stock_disposeClientRegistrations s)
  | panicked message => exact stock_endStartup s epoch _

@[simp] theorem stock_scriptsExecutable (x : Surroundings) (s : Session) (epoch : Nat)
    (outcome : Outcome ProcessOutput) : (s.scriptsExecutable x epoch outcome).1.stock = s.stock := by
  unfold scriptsExecutable
  split
  · exact stock_endStartup s epoch _
  · split
    · exact stock_startClient x s epoch
    · exact stock_endStartup s epoch _

@[simp] theorem stock_beginStartup (x : Surroundings) (s : Session) :
    (s.beginStartup x).1.stock = s.stock := by
  unfold beginStartup
  dsimp only
  split
  · exact stock_endStartup _ _ _
  · exact stock_record _ rfl

@[simp] theorem stock_endRestartStop (x : Surroundings) (s : Session) (epoch : Nat)
    (outcome : Outcome Unit) : (s.endRestartStop x epoch outcome).1.stock = s.stock := by
  unfold endRestartStop
  dsimp only
  split
  · exact (stock_beginStartup x _).trans (stock_reportStop s outcome)
  · exact stock_reportStop s outcome

@[simp] theorem stock_beginRestart (x : Surroundings) (s : Session) :
    (s.beginRestart x).1.stock = s.stock := by
  have hStopped := (stock_beginShutdown (s.log restarting)).trans (stock_log s restarting)
  unfold beginRestart
  dsimp only
  split
  · rename_i s' h
    rw [h] at hStopped
    exact (stock_endRestartStop x s' _ _).trans hStopped
  · rename_i s' client h
    rw [h] at hStopped
    exact hStopped

@[simp] theorem stock_beginPrompt (s : Session) (reason : Option String) :
    (s.beginPrompt reason).1.stock = s.stock :=
  (stock_record _ rfl).trans (stock_takeClient s)

@[simp] theorem stock_endPrompt (x : Surroundings) (s : Session) (epoch : Nat)
    (choice : Option (Option Nat)) : (s.endPrompt x epoch choice).1.stock = s.stock := by
  unfold endPrompt
  split
  · exact (stock_beginStartup x _).trans (stock_log s restarting)
  · rfl

/-! ## Activation and deactivation -/

@[simp] theorem stock_registerAll (s : Session) : s.registerAll.stock = s.stock := rfl

@[simp] theorem stock_equipped (x : Surroundings) (s : Session) :
    (s.equipped x).stock = s.stock := by
  unfold equipped
  dsimp only
  rw [stock_registerAll, stock_mapExtension]
  split
  · exact (stock_record _ rfl).trans (stock_log s _)
  · exact stock_log s _

@[simp] theorem stock_disposeRegistrations (s : Session) :
    s.disposeRegistrations.stock = s.stock := stock_disposeAll _ _

@[simp] theorem stock_disposeEditorRegistrations (s : Session) :
    s.disposeEditorRegistrations.stock = s.stock := stock_disposeAll _ _

@[simp] theorem stock_endDeactivate (s : Session) (outcome : Outcome Unit) :
    (s.endDeactivate outcome).stock = s.stock := by
  unfold endDeactivate
  dsimp only
  split
  · exact stock_log _ _
  · exact stock_report _ _

@[simp] theorem stock_beginDeactivate (s : Session) : s.beginDeactivate.1.stock = s.stock := by
  unfold beginDeactivate
  dsimp only
  generalize hs : (((s.mapExtension fun x => { x with epoch := x.epoch + 1 }).log
    "Deactivating...").setPhase .stopping) = stopping
  have hStopping : stopping.stock = s.stock := by
    rw [← hs, stock_setPhase, stock_log, stock_mapExtension]
  have hStopped := stock_beginShutdown stopping.disposeRegistrations.disposeEditorRegistrations
  rw [stock_disposeEditorRegistrations, stock_disposeRegistrations, hStopping] at hStopped
  split
  · rename_i s' h
    rw [h] at hStopped
    exact (stock_endDeactivate s' _).trans hStopped
  · rename_i s' client h
    rw [h] at hStopped
    exact hStopped

/-! ## Documents -/

@[simp] theorem stock_replaceText (s : Session) (editor : Nat) (e : Extent) (text : List Char) :
    (s.replaceText editor e text).stock = s.stock := by
  unfold replaceText edit
  split
  · rename_i s' h
    split at h
    · cases h
      exact stock_log _ _
    · cases h
  · rename_i s' err h
    split at h
    · cases h
    · cases h
      exact stock_logError s _

@[simp] theorem stock_applyFormatter (s : Session) (f : Formatting) (outcome : Outcome ProcessOutput) :
    (s.applyFormatter f outcome).stock = s.stock := by
  unfold applyFormatter
  split
  · exact stock_report s _
  · exact stock_replaceText s _ _ _

@[simp] theorem stock_applyServerEdits (s : Session) (f : Formatting) (outcome : Outcome Json) :
    (s.applyServerEdits f outcome).stock = s.stock := by
  unfold applyServerEdits
  split
  · exact stock_report s _
  · split
    · exact stock_log s _
    · exact stock_replaceText s _ _ _

@[simp] theorem stock_watchEditor (s : Session) (editor : Nat) :
    (s.watchEditor editor).stock = s.stock := by
  unfold watchEditor
  dsimp only
  split
  · split
    · exact stock_dispose _ _
    · rfl
  · rfl

theorem stock_askFormatter (x : Surroundings) (s : Session) (editor : Nat) :
    (s.askFormatter x editor).1.stock = s.stock := by
  unfold askFormatter
  split
  · exact stock_log s _
  · exact stock_record s rfl

theorem stock_askServerToFormat (s : Session) (editor : Nat) :
    (s.askServerToFormat editor).1.stock = s.stock := by
  unfold askServerToFormat
  split
  · exact stock_log s _
  · exact stock_record s rfl

theorem stock_askForReferences (s : Session) (editor : Nat) :
    (s.askForReferences editor).1.stock = s.stock := by
  unfold askForReferences
  split
  · exact stock_log s _
  · exact stock_record s rfl

/-- Whatever a handler does before it waits. -/
theorem stock_runHandler (x : Surroundings) (s : Session) (h : Handler) (editor : Nat) :
    (s.runHandler x h editor).1.stock = s.stock := by
  unfold runHandler
  split
  · rfl
  · split
    · split
      · exact stock_askFormatter x s editor
      · exact stock_askServerToFormat s editor
      · exact stock_askForReferences s editor
      · exact stock_beginRestart x s
      · exact stock_watchEditor s editor
    · rfl

/-! ## Steps -/

@[simp] theorem stock_suspend (s : Session) (w : Wait) (rest : Rest) :
    (s.suspend w rest).1.stock = s.stock := by
  unfold suspend
  dsimp only
  split <;> rfl

@[simp] theorem stock_resumed (s : Session) (w : Wait) : (s.resumed w).stock = s.stock := by
  unfold resumed
  split <;> rfl

/-- **What an operation does with a reply leaves the files alone and shows no locations**, unless the reply
is about references. -/
theorem stock_receive (x : Surroundings) (s : Session) {w : Wait} (hWait : w ≠ .references)
    (reply : w.Reply) : (s.receive x w reply).1.stock = s.stock := by
  cases w with
  | chmod epoch => exact stock_scriptsExecutable x s epoch reply
  | start epoch client => exact stock_clientStarted s epoch client reply
  | staleStop client => exact stock_reportStop s reply
  | deactivateStop client => exact stock_endDeactivate s reply
  | restartStop epoch client => exact stock_endRestartStop x s epoch reply
  | prompt epoch => exact stock_endPrompt x s epoch reply
  | formatter mix f => exact stock_applyFormatter s f reply
  | serverEdits f => exact stock_applyServerEdits s f reply
  | references => exact absurd rfl hWait
  | other number editor => rfl

/-- What an operation does with a reply leaves the files alone in any case. -/
theorem files_receive (x : Surroundings) (s : Session) (w : Wait) (reply : w.Reply) :
    (s.receive x w reply).1.files = s.files := by
  by_cases hWait : w = .references
  · subst hWait
    change (s.showReferences reply).files = s.files
    unfold showReferences
    split <;> rfl
  · exact files_of_stock (stock_receive x s hWait reply)

/-- An operation that has nothing left to do but to wait. -/
theorem stock_settle_nothing (x : Surroundings) (r : Session × Option Wait) :
    (settle x r .nothing).1.stock = r.1.stock := by
  obtain ⟨s, _ | w⟩ := r
  · rfl
  · exact stock_suspend s w .nothing

end Session

end ExtensionHost
