import ExtensionHost.Proofs.Lifecycle.Steps

/-!
# What leaves the documents alone

Only an edit changes a document. Everything else that the extension does, its registrations on editors
included, leaves the documents of all editors as they are; each step of the machine has one statement
here that says so, and `Stage.documents_play` gathers them for a move.
-/

namespace ExtensionHost

/-- The formatting that an operation waits for. -/
def Wait.formatting? : Wait → Option Session.Formatting
  | .formatter _ f => some f
  | .serverEdits f => some f
  | _ => none

namespace Session

/-- The documents of all editors. -/
def documents (s : Session) : List Buffer := s.editors.map Editor.buffer

theorem buffer_eq_documents (s : Session) (editor : Nat) :
    s.buffer editor = (s.documents[editor]?).getD {} := by
  simp [buffer, documents]

theorem buffer_congr {s s' : Session} (h : s'.documents = s.documents) (editor : Nat) :
    s'.buffer editor = s.buffer editor := by
  rw [buffer_eq_documents, buffer_eq_documents, h]

/-- A change of editors that leaves their documents as they are. -/
theorem documents_modify (editors : List Editor) (editor : Nat) (f : Editor → Editor)
    (hf : ∀ e, (f e).buffer = e.buffer) :
    (editors.modify editor f).map Editor.buffer = editors.map Editor.buffer := by
  apply List.ext_getElem?
  intro i
  rw [List.getElem?_map, List.getElem?_map, List.getElem?_modify]
  cases editors[i]? with
  | none => rfl
  | some e => by_cases hi : editor = i <;> simp [hi, hf]

/-! ## Recording, registering and disposing -/

@[simp] theorem documents_log (s : Session) (text : String) :
    (s.log text).documents = s.documents := rfl

@[simp] theorem documents_mapExtension (s : Session) (f : Extension → Extension) :
    (s.mapExtension f).documents = s.documents := rfl

@[simp] theorem documents_registerWillSave (s : Session) (editor : Nat) (h : Handler) :
    (s.registerWillSave editor h).1.documents = s.documents :=
  documents_modify _ _ _ fun _ => rfl

@[simp] theorem documents_dispose (s : Session) (r : Registration) :
    (s.dispose r).documents = s.documents := by
  cases r with
  | willSave editor number => exact documents_modify _ _ _ fun _ => rfl
  | _ => rfl

@[simp] theorem documents_disposeAll (s : Session) (rs : List Registration) :
    (s.disposeAll rs).documents = s.documents := by
  induction rs generalizing s with
  | nil => rfl
  | cons r rs ih => exact (ih (s.dispose r)).trans (documents_dispose s r)

/-! ## Starting and stopping the server -/

@[simp] theorem documents_takeClient (s : Session) : s.takeClient.1.documents = s.documents :=
  documents_disposeAll _ _

@[simp] theorem documents_beginShutdown (s : Session) :
    s.beginShutdown.1.documents = s.documents := by
  have hTaken := documents_takeClient s
  unfold beginShutdown
  rcases h : s.takeClient with ⟨s', _ | client⟩
  · rw [h] at hTaken
    exact hTaken
  · rw [h] at hTaken
    exact hTaken

@[simp] theorem documents_reportStop (s : Session) (outcome : Outcome Unit) :
    (s.reportStop outcome).documents = s.documents := by
  unfold reportStop
  split <;> rfl

@[simp] theorem documents_endStartup (s : Session) (epoch : Nat)
    (outcome : Except ExtensionError Unit) :
    (s.endStartup epoch outcome).1.documents = s.documents := by
  have hStopped := documents_beginShutdown s
  unfold endStartup
  split
  · split <;> rfl
  · rcases h : s.beginShutdown with ⟨s', _ | client⟩
    · rw [h] at hStopped
      exact hStopped
    · rw [h] at hStopped
      exact hStopped

@[simp] theorem documents_disposeClientRegistrations (s : Session) :
    s.disposeClientRegistrations.documents = s.documents := documents_disposeAll _ _

@[simp] theorem documents_startClient (x : Surroundings) (s : Session) (epoch : Nat) :
    (s.startClient x epoch).1.documents = s.documents := by
  unfold startClient
  dsimp only
  split
  · exact documents_endStartup _ epoch _
  · exact documents_disposeClientRegistrations _

@[simp] theorem documents_clientStarted (s : Session) (epoch client : Nat)
    (outcome : Outcome Unit) : (s.clientStarted epoch client outcome).1.documents = s.documents := by
  cases outcome with
  | done => exact documents_endStartup _ epoch _
  | failed cause =>
    exact (documents_endStartup _ epoch _).trans (documents_disposeClientRegistrations s)
  | panicked message => exact documents_endStartup s epoch _

@[simp] theorem documents_scriptsExecutable (x : Surroundings) (s : Session) (epoch : Nat)
    (outcome : Outcome ProcessOutput) :
    (s.scriptsExecutable x epoch outcome).1.documents = s.documents := by
  unfold scriptsExecutable
  split
  · exact documents_endStartup s epoch _
  · split
    · exact documents_startClient x s epoch
    · exact documents_endStartup s epoch _

@[simp] theorem documents_beginStartup (x : Surroundings) (s : Session) :
    (s.beginStartup x).1.documents = s.documents := by
  unfold beginStartup
  dsimp only
  split
  · exact documents_endStartup _ _ _
  · rfl

/-! ## Operations of the extension -/

@[simp] theorem documents_addCommand (s : Session) (id : String) (role : Role) :
    (s.addCommand id role).documents = s.documents := rfl

@[simp] theorem documents_addListener (s : Session) : s.addListener.documents = s.documents := rfl

@[simp] theorem documents_registerAll (s : Session) : s.registerAll.documents = s.documents := by
  unfold registerAll
  simp only [documents_addCommand, documents_addListener]

@[simp] theorem documents_beginActivate (x : Surroundings) (s : Session) :
    (s.beginActivate x).1.documents = s.documents := by
  unfold beginActivate
  split
  · rfl
  · dsimp only
    rw [documents_beginStartup, documents_registerAll, documents_mapExtension]
    split <;> rfl

@[simp] theorem documents_disposeRegistrations (s : Session) :
    s.disposeRegistrations.documents = s.documents := documents_disposeAll _ _

@[simp] theorem documents_disposeEditorRegistrations (s : Session) :
    s.disposeEditorRegistrations.documents = s.documents := documents_disposeAll _ _

@[simp] theorem documents_endDeactivate (s : Session) (outcome : Outcome Unit) :
    (s.endDeactivate outcome).documents = s.documents := by
  unfold endDeactivate
  dsimp only
  split <;> rfl

@[simp] theorem documents_beginDeactivate (s : Session) :
    s.beginDeactivate.1.documents = s.documents := by
  unfold beginDeactivate
  dsimp only
  generalize hs : (((s.mapExtension fun x => { x with epoch := x.epoch + 1 }).log
    "Deactivating...").setPhase .stopping) = stopping
  have hStopping : stopping.documents = s.documents := by
    rw [← hs]
    rfl
  have hStopped := documents_beginShutdown
    stopping.disposeRegistrations.disposeEditorRegistrations
  rw [documents_disposeEditorRegistrations, documents_disposeRegistrations, hStopping] at hStopped
  split
  · rename_i s' h
    rw [h] at hStopped
    exact (documents_endDeactivate s' _).trans hStopped
  · rename_i s' client h
    rw [h] at hStopped
    exact hStopped

@[simp] theorem documents_endRestartStop (x : Surroundings) (s : Session) (epoch : Nat)
    (outcome : Outcome Unit) : (s.endRestartStop x epoch outcome).1.documents = s.documents := by
  unfold endRestartStop
  dsimp only
  split
  · exact (documents_beginStartup x _).trans (documents_reportStop s outcome)
  · exact documents_reportStop s outcome

@[simp] theorem documents_beginRestart (x : Surroundings) (s : Session) :
    (s.beginRestart x).1.documents = s.documents := by
  have hStopped := documents_beginShutdown (s.log restarting)
  unfold beginRestart
  dsimp only
  split
  · rename_i s' h
    rw [h] at hStopped
    exact (documents_endRestartStop x s' _ _).trans hStopped
  · rename_i s' client h
    rw [h] at hStopped
    exact hStopped

@[simp] theorem documents_serverStopped (s : Session) (client : Nat) (reason : Option String) :
    (s.serverStopped client reason).documents = s.documents := by
  unfold serverStopped
  dsimp only
  split <;> rfl

@[simp] theorem documents_beginPrompt (s : Session) (reason : Option String) :
    (s.beginPrompt reason).1.documents = s.documents := documents_takeClient s

@[simp] theorem documents_endPrompt (x : Surroundings) (s : Session) (epoch : Nat)
    (choice : Option (Option Nat)) : (s.endPrompt x epoch choice).1.documents = s.documents := by
  unfold endPrompt
  split
  · exact documents_beginStartup x _
  · rfl

/-! ## Handlers -/

@[simp] theorem documents_askFormatter (x : Surroundings) (s : Session) (editor : Nat) :
    (s.askFormatter x editor).1.documents = s.documents := by
  unfold askFormatter
  split <;> rfl

@[simp] theorem documents_askServerToFormat (s : Session) (editor : Nat) :
    (s.askServerToFormat editor).1.documents = s.documents := by
  unfold askServerToFormat
  split <;> rfl

@[simp] theorem documents_askForReferences (s : Session) (editor : Nat) :
    (s.askForReferences editor).1.documents = s.documents := by
  unfold askForReferences
  split <;> rfl

@[simp] theorem documents_showReferences (s : Session) (outcome : Outcome Json) :
    (s.showReferences outcome).documents = s.documents := by
  unfold showReferences
  split <;> rfl

@[simp] theorem documents_watchEditor (s : Session) (editor : Nat) :
    (s.watchEditor editor).documents = s.documents := by
  unfold watchEditor
  dsimp only
  split
  · split
    · exact (documents_dispose _ _).trans (documents_registerWillSave s editor _)
    · exact documents_registerWillSave s editor _
  · rfl

@[simp] theorem documents_runHandler (x : Surroundings) (s : Session) (h : Handler) (editor : Nat) :
    (s.runHandler x h editor).1.documents = s.documents := by
  cases h with
  | other number => rfl
  | own role =>
    unfold runHandler
    dsimp only
    split
    · cases role with
      | formatDocument => exact documents_askFormatter x s editor
      | formatWithServer => exact documents_askServerToFormat s editor
      | findReferences => exact documents_askForReferences s editor
      | restart => exact documents_beginRestart x s
      | watchEditor => exact documents_watchEditor s editor
    · rfl

@[simp] theorem documents_runHandlers (x : Surroundings) (s : Session) (editor : Nat)
    (handlers : List Handler) : (s.runHandlers x editor handlers).1.documents = s.documents := by
  induction handlers generalizing s with
  | nil => rfl
  | cons h rest ih =>
    have hStep := documents_runHandler x s h editor
    unfold runHandlers
    rcases hRun : s.runHandler x h editor with ⟨s', _ | w⟩
    · rw [hRun] at hStep
      exact (ih s').trans hStep
    · rw [hRun] at hStep
      exact hStep

@[simp] theorem documents_writeDocument (x : Surroundings) (s : Session) (editor : Nat) :
    (s.writeDocument x editor).1.documents = s.documents := by
  unfold writeDocument
  split <;> rfl

@[simp] theorem documents_suspend (s : Session) (w : Wait) (rest : Rest) :
    (s.suspend w rest).1.documents = s.documents := by
  unfold suspend
  dsimp only
  split <;> rfl

@[simp] theorem documents_goOn (x : Surroundings) (s : Session) (rest : Rest) :
    (s.goOn x rest).1.documents = s.documents := by
  have hRan : ∀ {editor handlers s' left}, s.runHandlers x editor handlers = (s', left) →
      s'.documents = s.documents := by
    intro editor handlers s' left hRun
    rw [← documents_runHandlers x s editor handlers, hRun]
  have hGoes := goesOn_goOn x s rest
  generalize s.goOn x rest = r at hGoes ⊢
  cases hGoes with
  | nothing => rfl
  | suspended next hRun => exact (documents_suspend _ _ next).trans (hRan hRun)
  | finished hRun => exact hRan hRun
  | saved hRun => exact (documents_writeDocument x _ _).trans (hRan hRun)

@[simp] theorem documents_settle (x : Surroundings) (r : Session × Option Wait) (rest : Rest) :
    (settle x r rest).1.documents = r.1.documents := by
  obtain ⟨s, _ | w⟩ := r
  · exact documents_goOn x s rest
  · exact documents_suspend s w rest

theorem documents_resume (x : Surroundings) (s : Session) (t : Suspended)
    (reply : t.wait.Reply) :
    (s.resume x t reply).1.documents =
      ((if t.wait.isOwn then { s with inFlight := s.inFlight - 1 } else s).receive x t.wait
        reply).1.documents :=
  documents_settle x _ t.rest

theorem documents_receive (x : Surroundings) (s : Session) {w : Wait} (hw : w.formatting? = none)
    (reply : w.Reply) : (s.receive x w reply).1.documents = s.documents := by
  cases w with
  | chmod epoch => exact documents_scriptsExecutable x s epoch reply
  | start epoch client => exact documents_clientStarted s epoch client reply
  | staleStop client => exact documents_reportStop s reply
  | deactivateStop client => exact documents_endDeactivate s reply
  | restartStop epoch client => exact documents_endRestartStop x s epoch reply
  | prompt epoch => exact documents_endPrompt x s epoch reply
  | references => exact documents_showReferences s reply
  | other number editor => rfl
  | formatter | serverEdits => cases hw

end Session

namespace Stage

/-! ## Moves -/

theorem documents_after (waiting : List Suspended) (r : Session × Progress) :
    (after waiting r).session.documents = r.1.documents := by
  obtain ⟨s, t | r⟩ := r <;> rfl

/-- Moves that may change documents: someone opens or edits a document, or a formatting is answered. -/
def Edits (g : Stage) : Move → Prop
  | .openEditor _ | .edit _ _ _ => True
  | .reply number _ => ∃ t ∈ g.waiting[number]?, t.wait.formatting? ≠ none
  | _ => False

/-- Every other move leaves all documents as they are. -/
theorem documents_play (x : Surroundings) (g : Stage) {m : Move} (hm : ¬ g.Edits m) :
    (g.play x m).session.documents = g.session.documents := by
  cases m with
  | openEditor | edit => exact absurd trivial hm
  | activate =>
    exact (documents_after _ _).trans <| (Session.documents_settle x _ _).trans
      (Session.documents_beginActivate x g.session)
  | deactivate =>
    exact (documents_after _ _).trans <| (Session.documents_settle x _ _).trans
      (Session.documents_beginDeactivate g.session)
  | restart =>
    exact (documents_after _ _).trans <| (Session.documents_settle x _ _).trans
      (Session.documents_beginRestart x g.session)
  | invoke hub id editor =>
    refine (documents_after _ _).trans ?_
    unfold Session.invoke
    split
    · rfl
    · exact (Session.documents_settle x _ _).trans
        (Session.documents_runHandler x g.session _ editor)
  | addEditor hub editor => exact (documents_after _ _).trans (Session.documents_goOn x _ _)
  | save editor => exact (documents_after _ _).trans (Session.documents_goOn x _ _)
  | serverStopped client reason => exact Session.documents_serverStopped g.session client reason
  | prompt =>
    refine (documents_after _ _).trans ?_
    unfold Session.runPrompt
    split
    · rfl
    · exact (Session.documents_settle x _ _).trans (Session.documents_beginPrompt _ _)
  | reply number answer =>
    unfold play
    dsimp only
    split
    · rename_i t ht
      have hNone : t.wait.formatting? = none :=
        Decidable.byContradiction fun hSome => hm ⟨t, ht, hSome⟩
      rw [documents_after, Session.documents_resume, Session.documents_receive x _ hNone]
      split <;> rfl
    · rfl
  | dispose r => exact Session.documents_dispose g.session r
  | onWillSave editor other => exact Session.documents_registerWillSave g.session editor _
  | register | onEditorAdded | changeSettings | changeFiles => rfl

end Stage

end ExtensionHost
