import ExtensionHost.Lifecycle.Schedule

/-!
# The core of a session

Starting and stopping the server concerns only a part of a session: the extension, the clients with
their listeners, the clients that were asked to stop, how often the server was said to run, the tasks
that were spawned, and whether the extension is held. This part is the core of the session. Everything
that the handlers of the extension do with documents leaves the core as it is, except that watching an
editor changes the registrations on editors.
-/

namespace ExtensionHost

/-! ## The core -/

/-- The client that an event asks to stop. -/
def Event.stopOf? : Event → Option Nat
  | .stop client => some client
  | _ => none

/-- Whether an event is the line that says that the server runs. -/
def Event.isActivated : Event → Bool
  | .log text => text = "Activated"
  | _ => false

/-- Whether a registration is that of a listener on a client. -/
def Registration.isDidStop : Registration → Bool
  | .didStop _ _ => true
  | _ => false

/-- The part of a session that starting and stopping the server is about. -/
structure Core where
  extension : Extension
  clients : List ClientRecord
  stopped : List Nat
  activations : Nat
  prompts : List (Option String)
  held : Bool

/-- The core of a session. `stopped` are the clients that were asked to stop, in order. -/
def Session.core (s : Session) : Core where
  extension := s.extension
  clients := s.clients
  stopped := s.events.filterMap Event.stopOf?
  activations := s.events.countP Event.isActivated
  prompts := s.prompts
  held := s.held

namespace Core

/-- The listeners on one of several clients, under their numbers. -/
def entriesAt (clients : List ClientRecord) (client : Nat) : List (Nat × Unit) :=
  ((clients[client]?).getD {}).didStop.entries

/-- The listeners on a client, under their numbers. -/
def listeners (k : Core) (client : Nat) : List (Nat × Unit) := entriesAt k.clients client

/-- Puts the extension into a phase. -/
def inPhase (k : Core) (phase : Phase) : Core :=
  { k with extension := { k.extension with phase } }

/-- Clients without the listener that a registration stands for. -/
def dropListener (clients : List ClientRecord) : Registration → List ClientRecord
  | .didStop client number =>
    clients.modify client fun x => { x with didStop := x.didStop.remove number }
  | _ => clients

/-- Takes the listener away that a registration stands for. -/
def drop (k : Core) (r : Registration) : Core :=
  { k with clients := dropListener k.clients r }

/-- Takes all listeners away that the extension has on clients. -/
def clear (k : Core) : Core :=
  { k with
    extension := { k.extension with clientRegistrations := ⟨[]⟩ }
    clients := k.extension.clientRegistrations.items.reverse.foldl dropListener k.clients }

/-- Takes the client out of the slot. -/
def release (k : Core) : Core :=
  { k.clear with extension := { k.clear.extension with slot := none } }

/-- Takes the client out of the slot and asks it to stop. -/
def shutdown (k : Core) : Core :=
  { k.release with stopped := k.stopped ++ k.extension.slot.toList }

/-- Registers a listener on a client and keeps the registration. -/
def listen (k : Core) (client : Nat) : Core :=
  let number := (((k.clients[client]?).getD {}).didStop.add ()).2
  { k with
    extension := { k.extension with
      clientRegistrations := k.extension.clientRegistrations.add (.didStop client number) }
    clients := k.clients.modify client fun x => { x with didStop := (x.didStop.add ()).1 } }

/-- Makes a client with the only listener that the extension has on clients. -/
def enroll (k : Core) : Core :=
  ({ k with clients := k.clients ++ [({} : ClientRecord)] }.clear).listen k.clients.length

/-- Puts a client into the slot. -/
def store (k : Core) (client : Nat) : Core :=
  { k with extension := { k.extension with slot := some client } }

/-- Keeps the registration of a watched editor in place of the one under the same address. -/
def watch (k : Core) (uri : String) (r : Registration) : Core :=
  let watching := { k with extension := { k.extension with
    editorRegistrations := Keyed.insert uri r k.extension.editorRegistrations } }
  match Keyed.find? uri k.extension.editorRegistrations with
  | some previous => watching.drop previous
  | none => watching

/-- Takes over preferences and adds registrations, as an activation does. -/
def equip (k : Core) (preferences : UserPreferences) (rs : List Registration) : Core :=
  { k with extension := { k.extension with
    preferences, registrations := ⟨k.extension.registrations.items ++ rs⟩ } }

/-- What a deactivation does before it takes the client: the epoch ends, and everything that was
registered goes. -/
def retire (k : Core) : Core :=
  { k with
    extension := { k.extension with
      epoch := k.extension.epoch + 1
      phase := .stopping
      registrations := ⟨[]⟩
      editorRegistrations := [] }
    clients := (k.extension.editorRegistrations.map Prod.snd).foldl dropListener
      (k.extension.registrations.items.reverse.foldl dropListener k.clients) }

end Core

namespace Session

/-! ## Recording and disposing -/

theorem core_record {e : Event} (hStop : e.stopOf? = none) (hActivated : e.isActivated = false)
    (s : Session) : (s.record e).core = s.core := by
  simp [core, record, hStop, hActivated]

theorem core_log {text : String} (h : text ≠ "Activated") (s : Session) :
    (s.log text).core = s.core :=
  core_record rfl (by simpa [Event.isActivated] using h) s

@[simp] theorem core_logError (s : Session) (text : String) : (s.logError text).core = s.core :=
  core_record rfl rfl s

@[simp] theorem core_report (s : Session) (e : ExtensionError) : (s.report e).core = s.core :=
  core_logError s e.message

@[simp] theorem core_logActivated (s : Session) :
    (s.log "Activated").core = { s.core with activations := s.core.activations + 1 } := by
  simp [core, log, record, Event.stopOf?, Event.isActivated]

@[simp] theorem core_recordStop (s : Session) (client : Nat) :
    (s.record (.stop client)).core = { s.core with stopped := s.core.stopped ++ [client] } := by
  simp [core, record, Event.stopOf?, Event.isActivated]

@[simp] theorem core_setPhase (s : Session) (phase : Phase) :
    (s.setPhase phase).core = s.core.inPhase phase := rfl

@[simp] theorem core_mapExtension (s : Session) (f : Extension → Extension) :
    (s.mapExtension f).core = { s.core with extension := f s.core.extension } := rfl

@[simp] theorem core_dispose (s : Session) (r : Registration) :
    (s.dispose r).core = s.core.drop r := by
  cases r <;> rfl

@[simp] theorem core_disposeAll (s : Session) (rs : List Registration) :
    (s.disposeAll rs).core =
      { s.core with clients := rs.foldl Core.dropListener s.core.clients } := by
  induction rs generalizing s with
  | nil => rfl
  | cons r rs ih =>
    change ((s.dispose r).disposeAll rs).core = _
    rw [ih (s.dispose r), core_dispose]
    rfl

/-! ## Handlers -/

theorem formatted_ne_activated (name : String) : "Formatted " ++ name ≠ "Activated" := by
  intro h
  have hHead := congrArg (fun t => t.toList.head?) h
  simp at hHead

@[simp] theorem core_edit (s : Session) (editor : Nat) (e : Extent) (text : List Char) :
    (s.edit editor e text).1.core = s.core := by
  unfold edit
  split <;> rfl

@[simp] theorem core_replaceText (s : Session) (editor : Nat) (e : Extent) (text : List Char) :
    (s.replaceText editor e text).core = s.core := by
  unfold replaceText
  split
  · rename_i s' h
    rw [core_log (formatted_ne_activated _)]
    exact (congrArg (fun r => r.1.core) h).symm.trans (core_edit s editor e text)
  · rename_i s' err h
    rw [core_logError]
    exact (congrArg (fun r => r.1.core) h).symm.trans (core_edit s editor e text)

@[simp] theorem core_applyFormatter (s : Session) (f : Formatting)
    (outcome : Outcome ProcessOutput) : (s.applyFormatter f outcome).core = s.core := by
  unfold applyFormatter
  split <;> simp

@[simp] theorem core_applyServerEdits (s : Session) (f : Formatting) (outcome : Outcome Json) :
    (s.applyServerEdits f outcome).core = s.core := by
  unfold applyServerEdits
  split
  · simp
  · split
    · exact core_log (by decide) s
    · simp

@[simp] theorem core_showReferences (s : Session) (outcome : Outcome Json) :
    (s.showReferences outcome).core = s.core := by
  unfold showReferences
  split
  · simp
  · rw [core_log (by decide), core_record rfl rfl]

@[simp] theorem core_askFormatter (x : Surroundings) (s : Session) (editor : Nat) :
    (s.askFormatter x editor).1.core = s.core := by
  unfold askFormatter
  split
  · exact core_log (by decide) s
  · exact core_record rfl rfl s

@[simp] theorem core_askServerToFormat (s : Session) (editor : Nat) :
    (s.askServerToFormat editor).1.core = s.core := by
  unfold askServerToFormat
  split
  · exact core_log (by decide) s
  · exact core_record rfl rfl s

@[simp] theorem core_askForReferences (s : Session) (editor : Nat) :
    (s.askForReferences editor).1.core = s.core := by
  unfold askForReferences
  split
  · exact core_log (by decide) s
  · exact core_record rfl rfl s

theorem core_watchEditor (s : Session) (editor : Nat) :
    (s.watchEditor editor).core = s.core ∨
      ∃ uri number, (s.watchEditor editor).core = s.core.watch uri (.willSave editor number) := by
  have hSame : (s.registerWillSave editor (.own .formatDocument)).1.extension.editorRegistrations =
    s.core.extension.editorRegistrations := rfl
  unfold watchEditor
  dsimp only
  split
  · refine Or.inr ⟨(s.buffer editor).uri,
      (((s.editors[editor]?).getD {}).willSave.add (.own .formatDocument)).2, ?_⟩
    unfold Core.watch
    rw [hSame]
    cases Keyed.find? (s.buffer editor).uri s.core.extension.editorRegistrations with
    | none => rfl
    | some previous => exact core_dispose _ previous
  · exact Or.inl rfl

end Session

end ExtensionHost
