import ExtensionHost.Proofs.Lifecycle.Teardown

/-!
# What is recorded about the server

A startup shows in the record: the call that makes the scripts executable, the client that is made and
started, and the line with which the startup ends. Together with the requests to clients these are the
events of the server. Everything in the machine but a startup adds requests at most, only to the client
that is held, and puts no client into the slot (`Session.Asks`).
-/

namespace ExtensionHost

/-! ## Events of the server -/

namespace Event

/-- Whether a text begins with a front. -/
def beginsWith (front text : String) : Bool := front.toList.isPrefixOf text.toList

/-- Whether an event is the error that says that the scripts could not be made executable. -/
def isScriptFailure : Event → Bool
  | .error text => beginsWith "Failed to make file executable" text
  | _ => false

/-- Whether an event is the error that says that the server could not be started. -/
def isStartFailure : Event → Bool
  | .error text => beginsWith "Failed to start language server" text
  | _ => false

/-- Whether an event is a line with which a startup ends. -/
def isOutcome (e : Event) : Bool := e.isActivated || e.isScriptFailure || e.isStartFailure

/-- Whether an event is a call of the program that changes permissions, by any program that runs others. -/
def isChmod : Event → Bool
  | .process r => r.args.head? = some "chmod"
  | _ => false

/-- Whether an event is a call of the factory of clients. -/
def isCreate : Event → Bool
  | .create _ _ _ _ => true
  | _ => false

/-- The client that an event hands a request to. -/
def requestOf? : Event → Option Nat
  | .request client _ _ => some client
  | _ => none

/-- Whether an event is one of the server. -/
def isOfServer : Event → Bool
  | .log text => text = "Activated"
  | .error text => isScriptFailure (.error text) || isStartFailure (.error text)
  | .process r => isChmod (.process r)
  | .create _ _ _ _ | .start _ | .request _ _ _ => true
  | _ => false

/-! ### Messages -/

theorem beginsWith_append_self (front rest : String) : beginsWith front (front ++ rest) = true := by
  unfold beginsWith
  rw [String.toList_append, List.isPrefixOf_iff_prefix]
  exact List.prefix_append _ _

/-- Neither of two texts begins with the other. -/
def Apart (front other : String) : Prop :=
  beginsWith front other = false ∧ beginsWith other front = false

instance (front other : String) : Decidable (Apart front other) :=
  inferInstanceAs (Decidable (_ ∧ _))

/-- A text that begins differently does not begin with a front. -/
theorem beginsWith_append {front other : String} (hApart : Apart front other) (rest : String) :
    beginsWith front (other ++ rest) = false := by
  unfold beginsWith
  rw [String.toList_append, Bool.eq_false_iff]
  intro h
  have hFront := List.isPrefixOf_iff_prefix.mp h
  have hOther : other.toList <+: other.toList ++ rest.toList := List.prefix_append _ _
  rcases List.prefix_or_prefix_of_prefix hFront hOther with hBegins | hBegins
  · exact Bool.eq_false_iff.mp hApart.1 (List.isPrefixOf_iff_prefix.mpr hBegins)
  · exact Bool.eq_false_iff.mp hApart.2 (List.isPrefixOf_iff_prefix.mpr hBegins)

/-- An error that is none of a startup's is no event of the server. -/
theorem isOfServer_error_append {other : String} (rest : String)
    (hScript : Apart "Failed to make file executable" other)
    (hStart : Apart "Failed to start language server" other) :
    (Event.error (other ++ rest)).isOfServer = false := by
  unfold isOfServer
  rw [Bool.or_eq_false_iff]
  exact ⟨beginsWith_append hScript rest, beginsWith_append hStart rest⟩

theorem isOfServer_log {text : String} (h : text ≠ "Activated") :
    (Event.log text).isOfServer = false := decide_eq_false h

theorem isOfServer_of_isOutcome {e : Event} (h : e.isOutcome = true) : e.isOfServer = true := by
  cases e with
  | log text => simpa [isOutcome, isActivated, isScriptFailure, isStartFailure, isOfServer] using h
  | error text => simpa [isOutcome, isActivated, isOfServer] using h
  | _ => cases h

theorem isOutcome_of_requestOf? {e : Event} {client : Nat} (h : e.requestOf? = some client) :
    e.isOutcome = false ∧ e.isCreate = false := by
  cases e <;> first | exact ⟨rfl, rfl⟩ | cases h

theorem of_isScriptFailure {e : Event} (h : e.isScriptFailure = true) :
    e.isOutcome = true ∧ e.isCreate = false ∧ e.isChmod = false := by
  cases e with
  | error text => exact ⟨by rw [isOutcome, h, Bool.or_true, Bool.true_or], rfl, rfl⟩
  | _ => cases h

theorem of_isStartFailure {e : Event} (h : e.isStartFailure = true) :
    e.isOutcome = true ∧ e.isCreate = false ∧ e.isChmod = false := by
  cases e with
  | error text => exact ⟨by rw [isOutcome, h, Bool.or_true], rfl, rfl⟩
  | _ => cases h

end Event

namespace Session

variable {s s' : Session}

/-- The events of the server. -/
def serverEvents (s : Session) : List Event := s.events.filter Event.isOfServer

theorem serverEvents_of_events (h : s'.events = s.events) : s'.serverEvents = s.serverEvents :=
  congrArg (List.filter Event.isOfServer) h

theorem serverEvents_record (s : Session) {e : Event} (he : e.isOfServer = true) :
    (s.record e).serverEvents = s.serverEvents ++ [e] := by
  simp [serverEvents, record, he]

theorem serverEvents_record_other (s : Session) {e : Event} (he : e.isOfServer = false) :
    (s.record e).serverEvents = s.serverEvents := by
  simp [serverEvents, record, he]

theorem serverEvents_log (s : Session) {text : String} (h : text ≠ "Activated") :
    (s.log text).serverEvents = s.serverEvents :=
  serverEvents_record_other s (Event.isOfServer_log h)

@[simp] theorem serverEvents_dispose (s : Session) (r : Registration) :
    (s.dispose r).serverEvents = s.serverEvents := serverEvents_of_events (events_dispose s r)

@[simp] theorem serverEvents_disposeAll (s : Session) (rs : List Registration) :
    (s.disposeAll rs).serverEvents = s.serverEvents := serverEvents_of_events (events_disposeAll s rs)

@[simp] theorem serverEvents_disposeClientRegistrations (s : Session) :
    s.disposeClientRegistrations.serverEvents = s.serverEvents := serverEvents_disposeAll _ _

@[simp] theorem serverEvents_takeClient (s : Session) :
    s.takeClient.1.serverEvents = s.serverEvents := serverEvents_disposeAll _ _

@[simp] theorem serverEvents_beginShutdown (s : Session) :
    s.beginShutdown.1.serverEvents = s.serverEvents := by
  unfold serverEvents
  rw [events_beginShutdown]
  cases s.extension.slot <;> simp [Event.isOfServer]

theorem serverEvents_reportShutdown (s : Session) (cause : Cause) :
    (s.report (shutdownError cause)).serverEvents = s.serverEvents :=
  serverEvents_record_other s
    (Event.isOfServer_error_append cause.full (by decide) (by decide))

@[simp] theorem serverEvents_reportStop (s : Session) (outcome : Outcome Unit) :
    (s.reportStop outcome).serverEvents = s.serverEvents := by
  unfold reportStop
  split
  · rfl
  · exact serverEvents_reportShutdown s _

@[simp] theorem serverEvents_endDeactivate (s : Session) (outcome : Outcome Unit) :
    (s.endDeactivate outcome).serverEvents = s.serverEvents := by
  unfold endDeactivate
  dsimp only
  split
  · exact serverEvents_log _ (by decide)
  · exact serverEvents_reportShutdown _ _

theorem serverEvents_beginDeactivate (s : Session) :
    s.beginDeactivate.1.serverEvents = s.serverEvents := by
  unfold beginDeactivate
  dsimp only
  generalize hs : (((s.mapExtension fun x => { x with epoch := x.epoch + 1 }).log
    "Deactivating...").setPhase .stopping) = stopping
  have hStopping : stopping.serverEvents = s.serverEvents := by
    rw [← hs]
    exact serverEvents_log _ (by decide)
  have hBegun := serverEvents_beginShutdown
    stopping.disposeRegistrations.disposeEditorRegistrations
  have hDisposed : stopping.disposeRegistrations.disposeEditorRegistrations.serverEvents =
      stopping.serverEvents := (serverEvents_disposeAll _ _).trans (serverEvents_disposeAll _ _)
  split
  · rename_i s' h
    rw [h] at hBegun
    rw [serverEvents_endDeactivate, hBegun, hDisposed, hStopping]
  · rename_i s' client h
    rw [h] at hBegun
    exact hBegun.trans (hDisposed.trans hStopping)

theorem serverEvents_beginPrompt (s : Session) (reason : Option String) :
    (s.beginPrompt reason).1.serverEvents = s.serverEvents := by
  unfold beginPrompt
  dsimp only
  rw [serverEvents_record_other _ rfl]
  exact serverEvents_takeClient s

/-! ## Handlers -/

theorem formattedText_error {outcome : Outcome ProcessOutput} {e : ExtensionError}
    (h : formattedText outcome = .error e) : ∃ cause, e = formatterError cause := by
  unfold formattedText at h
  split at h
  · exact ⟨_, (Except.error.inj h).symm⟩
  · rcases ite_eq_iff.mp h with ⟨-, hText⟩ | ⟨-, hError⟩
    · cases hText
    · exact ⟨_, (Except.error.inj hError).symm⟩

theorem editedText_error {text : List Char} {outcome : Outcome Json} {e : ExtensionError}
    (h : editedText text outcome = .error e) : ∃ cause, e = formatterError cause := by
  unfold editedText at h
  split at h
  · exact ⟨_, (Except.error.inj h).symm⟩
  · split at h
    · cases h
    · exact ⟨_, (Except.error.inj h).symm⟩

theorem locationsOf_error {outcome : Outcome Json} {e : ExtensionError}
    (h : locationsOf outcome = .error e) : ∃ cause, e = referencesError cause := by
  unfold locationsOf at h
  split at h
  · exact ⟨_, (Except.error.inj h).symm⟩
  · rename_i answer hAnswer
    cases hParsed : parseLocations answer with
    | error err =>
      rw [hParsed] at h
      exact ⟨_, (Except.error.inj h).symm⟩
    | ok locations =>
      rw [hParsed] at h
      cases h

@[simp] theorem serverEvents_edit (s : Session) (editor : Nat) (e : Extent) (text : List Char) :
    (s.edit editor e text).1.serverEvents = s.serverEvents := by
  unfold edit
  split <;> rfl

@[simp] theorem serverEvents_replaceText (s : Session) (editor : Nat) (e : Extent)
    (text : List Char) : (s.replaceText editor e text).serverEvents = s.serverEvents := by
  have hEdit := serverEvents_edit s editor e text
  unfold replaceText
  split
  · rename_i s' h
    rw [h] at hEdit
    rw [serverEvents_log _ (formatted_ne_activated _)]
    exact hEdit
  · rename_i s' err h
    rw [h] at hEdit
    refine (serverEvents_record_other _ ?_).trans hEdit
    exact Event.isOfServer_error_append err.message (by decide) (by decide)

theorem serverEvents_reportFormatter (s : Session) (cause : Cause) :
    (s.report (formatterError cause)).serverEvents = s.serverEvents :=
  serverEvents_record_other s
    (Event.isOfServer_error_append cause.full (by decide) (by decide))

@[simp] theorem serverEvents_applyFormatter (s : Session) (f : Formatting)
    (outcome : Outcome ProcessOutput) : (s.applyFormatter f outcome).serverEvents = s.serverEvents := by
  unfold applyFormatter
  split
  · rename_i e he
    obtain ⟨cause, rfl⟩ := formattedText_error he
    exact serverEvents_reportFormatter s cause
  · exact serverEvents_replaceText s _ _ _

@[simp] theorem serverEvents_applyServerEdits (s : Session) (f : Formatting)
    (outcome : Outcome Json) : (s.applyServerEdits f outcome).serverEvents = s.serverEvents := by
  unfold applyServerEdits
  split
  · rename_i e he
    obtain ⟨cause, rfl⟩ := editedText_error he
    exact serverEvents_reportFormatter s cause
  · split
    · exact serverEvents_log s (by decide)
    · exact serverEvents_replaceText s _ _ _

@[simp] theorem serverEvents_showReferences (s : Session) (outcome : Outcome Json) :
    (s.showReferences outcome).serverEvents = s.serverEvents := by
  unfold showReferences
  split
  · rename_i e he
    obtain ⟨cause, rfl⟩ := locationsOf_error he
    exact serverEvents_record_other s
      (Event.isOfServer_error_append cause.full (by decide) (by decide))
  · exact (serverEvents_log _ (by decide)).trans (serverEvents_record_other s rfl)

@[simp] theorem serverEvents_askFormatter (x : Surroundings) (s : Session) (editor : Nat) :
    (s.askFormatter x editor).1.serverEvents = s.serverEvents := by
  unfold askFormatter
  split
  · exact serverEvents_log s (by decide)
  · exact serverEvents_record_other s rfl

@[simp] theorem serverEvents_watchEditor (s : Session) (editor : Nat) :
    (s.watchEditor editor).serverEvents = s.serverEvents := by
  unfold watchEditor
  dsimp only
  split
  · split
    · exact serverEvents_dispose _ _
    · rfl
  · rfl

@[simp] theorem serverEvents_writeDocument (x : Surroundings) (s : Session) (editor : Nat) :
    (s.writeDocument x editor).1.serverEvents = s.serverEvents := by
  unfold writeDocument
  split <;> rfl

@[simp] theorem serverEvents_suspend (s : Session) (w : Wait) (rest : Rest) :
    (s.suspend w rest).1.serverEvents = s.serverEvents := by
  unfold suspend
  dsimp only
  split <;> rfl

/-! ## Steps that start no server -/

/-- A session after steps that start no server: only the client that is held is asked for anything, and
no other client comes into the slot. -/
structure Asks (s s' : Session) : Prop where
  slot : ∀ client, s'.extension.slot = some client → s.extension.slot = some client
  events : ∃ asked, s'.serverEvents = s.serverEvents ++ asked ∧
    ∀ e ∈ asked, ∃ client, e.requestOf? = some client ∧ s.extension.slot = some client

theorem Asks.of_eq
    (hSlot : ∀ client, s'.extension.slot = some client → s.extension.slot = some client)
    (hEvents : s'.serverEvents = s.serverEvents) : s.Asks s' :=
  ⟨hSlot, [], by rw [hEvents, List.append_nil], List.forall_mem_nil _⟩

theorem Asks.refl (s : Session) : s.Asks s := .of_eq (fun _ h => h) rfl

theorem Asks.trans {s₁ s₂ s₃ : Session} (h₁ : s₁.Asks s₂) (h₂ : s₂.Asks s₃) : s₁.Asks s₃ := by
  obtain ⟨first, hFirst, hFirstHeld⟩ := h₁.events
  obtain ⟨second, hSecond, hSecondHeld⟩ := h₂.events
  refine ⟨fun client h => h₁.slot client (h₂.slot client h), first ++ second, ?_, ?_⟩
  · rw [hSecond, hFirst, List.append_assoc]
  · intro e he
    rcases List.mem_append.mp he with he | he
    · exact hFirstHeld e he
    · obtain ⟨client, hRequest, hHeld⟩ := hSecondHeld e he
      exact ⟨client, hRequest, h₁.slot client hHeld⟩

end Session

/-- Whether a startup waits: for the scripts, for its client, or for the stop of the client that it took
because it was overtaken. -/
def Wait.inStartup : Wait → Bool
  | .chmod _ | .start _ _ | .staleStop _ => true
  | _ => false

theorem Wait.inStartup_of_isQuiet {w : Wait} (hQuiet : w.isQuiet = true) : w.inStartup = false := by
  cases w <;> first | rfl | cases hQuiet

theorem Core.Tends.slot {k : Core} {r : Core × Option Wait} (h : k.Tends r) :
    r.1.extension.slot = k.extension.slot := by
  cases h with
  | quiet => rfl
  | watched uri editor number =>
    unfold Core.watch
    split <;> rfl

theorem Core.Tends.isQuiet {k : Core} {r : Core × Option Wait} (h : k.Tends r) :
    ∀ w ∈ r.2, w.isQuiet = true := by
  cases h with
  | quiet w hQuiet => exact hQuiet
  | watched => exact nofun

namespace Session

variable {x : Surroundings} {s s' : Session}

/-- What a step leaves that starts no server. -/
structure Idles (s : Session) (r : Session × Option Wait) : Prop where
  asks : s.Asks r.1
  wait : ∀ w ∈ r.2, w.inStartup = false

theorem idles_same (s : Session) : s.Idles (s, none) := ⟨.refl s, nofun⟩

theorem asks_record (s : Session) {client : Nat} (method : String) (params : Json)
    (hHeld : s.extension.slot = some client) : s.Asks (s.record (.request client method params)) := by
  refine ⟨fun _ h => h, [.request client method params], serverEvents_record s rfl, ?_⟩
  intro e he
  cases List.mem_singleton.mp he
  exact ⟨client, rfl, hHeld⟩

theorem asks_log (s : Session) {text : String} (h : text ≠ "Activated") : s.Asks (s.log text) :=
  .of_eq (fun _ h => h) (serverEvents_log s h)

/-- Handlers that do not restart the server ask the client that is held at most. -/
theorem idles_runHandler (x : Surroundings) (s : Session) {h : Handler} (hOther : h ≠ .own .restart)
    (editor : Nat) : s.Idles (s.runHandler x h editor) := by
  have hTends := tends_runHandler x s hOther editor
  have hSlot : ∀ client, (s.runHandler x h editor).1.extension.slot = some client →
      s.extension.slot = some client := fun client hClient => hTends.slot.symm.trans hClient
  refine ⟨?_, fun w hw => Wait.inStartup_of_isQuiet (hTends.isQuiet w hw)⟩
  cases h with
  | other number => exact .refl s
  | own role =>
    unfold runHandler at hSlot ⊢
    dsimp only at hSlot ⊢
    split
    · rename_i hAlive
      rw [if_pos hAlive] at hSlot
      cases role with
      | formatDocument => exact .of_eq hSlot (serverEvents_askFormatter x s editor)
      | formatWithServer =>
        change s.Asks (s.askServerToFormat editor).1
        unfold askServerToFormat
        split
        · exact asks_log s (by decide)
        · rename_i client hHeld
          exact asks_record s _ _ hHeld
      | findReferences =>
        change s.Asks (s.askForReferences editor).1
        unfold askForReferences
        split
        · exact asks_log s (by decide)
        · rename_i client hHeld
          exact asks_record s _ _ hHeld
      | restart => exact absurd rfl hOther
      | watchEditor => exact .of_eq hSlot (serverEvents_watchEditor s editor)
    · exact .refl s

theorem idles_runHandlers (s : Session) {handlers : List Handler} (hOther : .own .restart ∉ handlers)
    (editor : Nat) : s.Idles ((s.runHandlers x editor handlers).1,
      (s.runHandlers x editor handlers).2.map Prod.fst) := by
  induction handlers generalizing s with
  | nil => exact idles_same s
  | cons h rest ih =>
    have hStep := idles_runHandler x s (fun hRestart => hOther (hRestart ▸ List.mem_cons_self)) editor
      (h := h)
    have hRest : .own .restart ∉ rest := fun hMem => hOther (List.mem_cons_of_mem _ hMem)
    unfold runHandlers
    rcases hRun : s.runHandler x h editor with ⟨s', _ | w⟩
    · rw [hRun] at hStep
      have hLater := ih s' hRest
      exact ⟨hStep.asks.trans hLater.asks, hLater.wait⟩
    · rw [hRun] at hStep
      exact hStep

theorem asks_of_core (hCore : s'.core = s.core) (hEvents : s'.serverEvents = s.serverEvents) :
    s.Asks s' :=
  .of_eq (fun _ hSlot => (congrArg (·.extension.slot) hCore).symm.trans hSlot) hEvents

theorem asks_suspend (s : Session) (w : Wait) (rest : Rest) : s.Asks (s.suspend w rest).1 :=
  asks_of_core (core_suspend s w rest) (serverEvents_suspend s w rest)

theorem asks_writeDocument (x : Surroundings) (s : Session) (editor : Nat) :
    s.Asks (s.writeDocument x editor).1 :=
  asks_of_core (core_writeDocument x s editor) (serverEvents_writeDocument x s editor)

theorem idles_goOn (s : Session) {rest : Rest} (hOther : .own .restart ∉ rest.handlers) :
    s.Idles ((s.goOn x rest).1, (s.goOn x rest).2.wait?) := by
  cases rest with
  | nothing => exact idles_same s
  | dispatch editor handlers =>
    have hHandlers := idles_runHandlers (x := x) s hOther editor
    rcases hRun : s.runHandlers x editor handlers with ⟨s', _ | ⟨w, left⟩⟩
    · simp only [Rest.handlers, hRun] at hHandlers
      simp only [goOn, hRun]
      exact hHandlers
    · simp only [Rest.handlers, hRun] at hHandlers
      simp only [goOn, hRun]
      exact ⟨hHandlers.asks.trans (asks_suspend s' w (.dispatch editor left)), hHandlers.wait⟩
  | save editor handlers =>
    have hHandlers := idles_runHandlers (x := x) s hOther editor
    rcases hRun : s.runHandlers x editor handlers with ⟨s', _ | ⟨w, left⟩⟩
    · simp only [Rest.handlers, hRun] at hHandlers
      simp only [goOn, hRun]
      refine ⟨hHandlers.asks.trans (asks_writeDocument x s' editor), ?_⟩
      rintro w hw
      cases hw
    · simp only [Rest.handlers, hRun] at hHandlers
      simp only [goOn, hRun]
      exact ⟨hHandlers.asks.trans (asks_suspend s' w (.save editor left)), hHandlers.wait⟩

theorem idles_settle {r : Session × Option Wait} (hr : s.Idles r) {rest : Rest}
    (hOther : .own .restart ∉ rest.handlers) :
    s.Idles ((settle x r rest).1, (settle x r rest).2.wait?) := by
  obtain ⟨s', _ | w⟩ := r
  · have hGoOn := idles_goOn (x := x) s' hOther
    exact ⟨hr.asks.trans hGoOn.asks, hGoOn.wait⟩
  · exact ⟨hr.asks.trans (asks_suspend s' w rest), hr.wait⟩

/-! ## Operations that start no server -/

/-- A step after which no client is held and which records nothing of the server. -/
theorem asks_of_absent (hAbsent : s'.extension.slot = none)
    (hEvents : s'.serverEvents = s.serverEvents) : s.Asks s' := by
  refine .of_eq ?_ hEvents
  intro client hSlot
  rw [hAbsent] at hSlot
  cases hSlot

theorem slot_beginShutdown (s : Session) : s.beginShutdown.1.extension.slot = none :=
  congrArg (fun p => p.1.extension.slot) (coreOf_beginShutdown s)

theorem idles_beginDeactivate (s : Session) : s.Idles s.beginDeactivate := by
  have hCore := coreOf_beginDeactivate s
  have hSlot : s.core.deactivated.1.extension.slot = none := by
    unfold Core.deactivated
    split <;> rfl
  have hWait : ∀ w ∈ s.core.deactivated.2, w.inStartup = false := by
    unfold Core.deactivated
    split
    · exact nofun
    · rintro w ⟨⟩
      rfl
  obtain ⟨hFirst, hSecond⟩ := Prod.mk.inj hCore
  have hAbsent : s.beginDeactivate.1.extension.slot = none :=
    (congrArg (·.extension.slot) hFirst).trans hSlot
  refine ⟨asks_of_absent hAbsent (serverEvents_beginDeactivate s), ?_⟩
  rw [hSecond]
  exact hWait

theorem idles_beginPrompt (s : Session) (rest : List (Option String)) (reason : Option String) :
    s.Idles ({ s with prompts := rest }.beginPrompt reason) := by
  have hCore := coreOf_beginPrompt s rest reason
  obtain ⟨hFirst, hSecond⟩ := Prod.mk.inj hCore
  have hAbsent : ({ s with prompts := rest }.beginPrompt reason).1.extension.slot = none :=
    congrArg (·.extension.slot) hFirst
  refine ⟨asks_of_absent hAbsent (serverEvents_beginPrompt _ reason), ?_⟩
  rw [hSecond]
  rintro w ⟨⟩
  rfl

/-- A restart that first stops the client that is held. -/
theorem beginRestart_held (x : Surroundings) (s : Session) {client : Nat}
    (hHeld : s.extension.slot = some client) :
    s.beginRestart x =
      ((s.log restarting).beginShutdown.1, some (.restartStop s.extension.epoch client)) := by
  obtain ⟨-, hSlot⟩ := Prod.mk.inj (coreOf_beginShutdown (s.log restarting))
  unfold beginRestart
  dsimp only
  rcases h : (s.log restarting).beginShutdown with ⟨s', _ | c⟩
  · rw [h] at hSlot
    exact absurd (hSlot.trans hHeld) nofun
  · rw [h] at hSlot
    cases hSlot.trans hHeld
    rfl

/-- A restart without a client to be stopped begins a startup. -/
theorem beginRestart_absent (x : Surroundings) (s : Session) (hAbsent : s.extension.slot = none) :
    s.beginRestart x = (s.log restarting).beginShutdown.1.beginStartup x := by
  obtain ⟨hCore, hSlot⟩ := Prod.mk.inj (coreOf_beginShutdown (s.log restarting))
  unfold beginRestart
  dsimp only
  rcases h : (s.log restarting).beginShutdown with ⟨s', _ | c⟩
  · rw [h] at hCore
    have hEpoch : s'.extension.epoch = s.extension.epoch := congrArg (·.extension.epoch) hCore
    exact if_pos hEpoch
  · rw [h] at hSlot
    exact absurd (hSlot.trans hAbsent) nofun

theorem idles_beginRestart (x : Surroundings) (s : Session) {client : Nat}
    (hHeld : s.extension.slot = some client) : s.Idles (s.beginRestart x) := by
  have hEvents : (s.log restarting).beginShutdown.1.serverEvents = s.serverEvents :=
    (serverEvents_beginShutdown _).trans (serverEvents_log s (by decide))
  rw [beginRestart_held x s hHeld]
  refine ⟨asks_of_absent (slot_beginShutdown _) hEvents, ?_⟩
  rintro w ⟨⟩
  rfl

end Session

end ExtensionHost
