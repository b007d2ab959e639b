import ExtensionHost.Proofs.Lifecycle.Registries

/-!
# What the extension does with registries

Whatever the extension does, its registries change in a few ways only (`Registry.Alters`): it registers
a command or a listener and keeps the registration, it has an editor watched, it listens to a client, it
releases what it has on clients, or it lets go of everything. Each function of the machine has one
statement here that says so, and what holds of the registries is proved once for each of these ways. An
alteration notes the editors that were watched.
-/

namespace ExtensionHost

/-- What happens to the handlers of the extension that run before editors are saved: an editor is
watched, under the address of its document, or all of them go. -/
inductive Watch where
  | began (uri : String) (editor : Nat)
  | ended
  deriving Repr, DecidableEq

namespace Registry

/-! ## Registering -/

/-- A handler is registered under the identifier of a command. -/
def registerCommand (c : Registry) (hub : Nat) (id : String) (h : Handler) : Registry :=
  { c with hubs := c.hubs.modify hub fun x =>
      { x with commands := (x.commands.register id h).1 } }

/-- A handler is registered for added editors. -/
def registerEditorAdded (c : Registry) (hub : Nat) (h : Handler) : Registry :=
  { c with hubs := c.hubs.modify hub fun x =>
      { x with editorAdded := (x.editorAdded.add h).1 } }

/-- A handler is registered to run before an editor is saved. -/
def registerWillSave (c : Registry) (editor : Nat) (h : Handler) : Registry :=
  { c with willSave := c.willSave.modify editor fun l => (l.add h).1 }

section

variable {c : Registry} {hub : Nat}

theorem commands_registerCommand (hHub : hub < c.hubs.length) (id : String) (h : Handler) (i : Nat) :
    (c.registerCommand hub id h).commands i =
      if hub = i then ((c.commands i).register id h).1 else c.commands i := by
  simp only [registerCommand, commands, List.getElem?_modify]
  by_cases hSame : hub = i
  · subst hSame
    simp [List.getElem?_eq_getElem hHub]
  · simp [hSame]

theorem editorAdded_registerCommand (c : Registry) (hub : Nat) (id : String) (h : Handler) :
    (c.registerCommand hub id h).editorAdded = c.editorAdded := by
  funext i
  simp only [registerCommand, editorAdded, List.getElem?_modify]
  cases c.hubs[i]? with
  | none => rfl
  | some x => by_cases hSame : hub = i <;> simp [hSame]

theorem commands_registerEditorAdded (c : Registry) (hub : Nat) (h : Handler) :
    (c.registerEditorAdded hub h).commands = c.commands := by
  funext i
  simp only [registerEditorAdded, commands, List.getElem?_modify]
  cases c.hubs[i]? with
  | none => rfl
  | some x => by_cases hSame : hub = i <;> simp [hSame]

theorem editorAdded_registerEditorAdded (hHub : hub < c.hubs.length) (h : Handler) (i : Nat) :
    (c.registerEditorAdded hub h).editorAdded i =
      if hub = i then ((c.editorAdded i).add h).1 else c.editorAdded i := by
  simp only [registerEditorAdded, editorAdded, List.getElem?_modify]
  by_cases hSame : hub = i
  · subst hSame
    simp [List.getElem?_eq_getElem hHub]
  · simp [hSame]

theorem beforeSave_registerWillSave {editor : Nat} (hEditor : editor < c.willSave.length)
    (h : Handler) (i : Nat) :
    (c.registerWillSave editor h).beforeSave i =
      if editor = i then ((c.beforeSave i).add h).1 else c.beforeSave i := by
  simp only [registerWillSave, beforeSave, List.getElem?_modify]
  by_cases hSame : editor = i
  · subst hSame
    simp [List.getElem?_eq_getElem hEditor]
  · simp [hSame]

theorem adds_registerCommand (hHub : hub < c.hubs.length) (id : String) (h : Handler) :
    c.Adds h (.command hub id (c.commands hub).nextToken) (c.registerCommand hub id h) :=
  adds_command (commands_registerCommand hHub id h) (editorAdded_registerCommand c hub id h) rfl

theorem adds_registerEditorAdded (hHub : hub < c.hubs.length) (h : Handler) :
    c.Adds h (.editorAdded hub ((c.editorAdded hub).add h).2) (c.registerEditorAdded hub h) :=
  adds_editorAdded (commands_registerEditorAdded c hub h) (editorAdded_registerEditorAdded hHub h) rfl

theorem adds_registerWillSave {editor : Nat} (hEditor : editor < c.willSave.length) (h : Handler) :
    c.Adds h (.willSave editor ((c.beforeSave editor).add h).2) (c.registerWillSave editor h) :=
  adds_willSave rfl rfl (beforeSave_registerWillSave hEditor h)

end

/-! ## Alterations -/

/-- The extension registers the handler of a command. -/
def addCommand (c : Registry) (id : String) (role : Role) : Registry :=
  { c.registerCommand Session.ownHub id (.own role) with
    ofActivation := c.ofActivation ++
      [.command Session.ownHub id (c.commands Session.ownHub).nextToken] }

/-- The extension registers its listener for added editors. -/
def addListener (c : Registry) : Registry :=
  { c.registerEditorAdded Session.ownHub (.own .watchEditor) with
    ofActivation := c.ofActivation ++
      [.editorAdded Session.ownHub ((c.editorAdded Session.ownHub).add (.own .watchEditor)).2] }

/-- The extension keeps the registration of a listener on a client. -/
def listen (c : Registry) (r : Registration) : Registry := { c with onClients := c.onClients ++ [r] }

/-- The extension disposes of all its registrations on clients. -/
def releaseClients (c : Registry) : Registry :=
  { c with onClients := [] }.drops c.onClients.reverse

/-- The extension has an editor formatted before it is saved, and keeps the registration under the
address of the document in place of the one that it kept there. -/
def watch (c : Registry) (uri : String) (editor : Nat) : Registry :=
  { c.registerWillSave editor (.own .formatDocument) with
    onEditors := Keyed.insert uri
      (.willSave editor ((c.beforeSave editor).add (.own .formatDocument)).2) c.onEditors }.drops
    (Keyed.find? uri c.onEditors).toList

/-- What the extension does with registries, with the editors that it has watched meanwhile. -/
inductive Alters : Registry → List Watch → Registry → Prop where
  | nothing (c : Registry) : Alters c [] c
  | addCommand (c : Registry) (id : String) (role : Role) : Alters c [] (c.addCommand id role)
  | addListener (c : Registry) : Alters c [] c.addListener
  | listen (c : Registry) {r : Registration} (hr : r.isDidStop = true) : Alters c [] (c.listen r)
  | releaseClients (c : Registry) : Alters c [] c.releaseClients
  | watch (c : Registry) (uri : String) {editor : Nat} (hEditor : editor < c.willSave.length) :
      Alters c [.began uri editor] (c.watch uri editor)
  | clear (c : Registry) : Alters c [.ended] c.cleared
  | trans {c c' c'' : Registry} {ws ws' : List Watch} (h : Alters c ws c') (h' : Alters c' ws' c'') :
      Alters c (ws ++ ws') c''

/-- Two alterations of which the second one concerns no editor. -/
theorem Alters.then {c c' c'' : Registry} {ws : List Watch} (h : c.Alters ws c')
    (h' : c'.Alters [] c'') : c.Alters ws c'' :=
  List.append_nil ws ▸ h.trans h'

end Registry

namespace Session

/-! ## Disposing -/

theorem hubs_dispose (s : Session) (r : Registration) :
    (s.dispose r).hubs = s.hubs.mapIdx fun number h => Hub.drop number h r := by
  apply List.ext_getElem?
  intro i
  rw [List.getElem?_mapIdx]
  cases r with
  | command | editorAdded =>
    simp only [dispose, List.getElem?_modify, Hub.drop]
    rfl
  | willSave | didStop => exact Option.map_id'.symm

theorem willSave_dispose (s : Session) (r : Registration) :
    (s.dispose r).editors.map Editor.willSave =
      (s.editors.map Editor.willSave).mapIdx fun number l => Listeners.dropOn number l r := by
  apply List.ext_getElem?
  intro i
  rw [List.getElem?_mapIdx, List.getElem?_map, List.getElem?_map]
  cases r with
  | willSave editor number =>
    simp only [dispose, List.getElem?_modify, Listeners.dropOn]
    cases s.editors[i]? with
    | none => rfl
    | some e => by_cases hEditor : editor = i <;> simp [hEditor]
  | command | editorAdded | didStop => exact Option.map_id'.symm

theorem registry_dispose (s : Session) (r : Registration) :
    (s.dispose r).registry = s.registry.drops [r] := by
  unfold registry Registry.drops
  rw [hubs_dispose, willSave_dispose]
  cases r <;> rfl

theorem registry_disposeAll (s : Session) (rs : List Registration) :
    (s.disposeAll rs).registry = s.registry.drops rs := by
  induction rs generalizing s with
  | nil => exact (Registry.drops_nil _).symm
  | cons r rs ih =>
    rw [Registry.drops_cons, ← registry_dispose]
    exact ih (s.dispose r)

theorem registry_disposeClientRegistrations (s : Session) :
    s.disposeClientRegistrations.registry =
      s.registry.releaseClients :=
  registry_disposeAll _ _

theorem registry_takeClient (s : Session) :
    s.takeClient.1.registry =
      s.registry.releaseClients :=
  registry_disposeAll _ _

theorem registry_beginShutdown (s : Session) :
    s.beginShutdown.1.registry =
      s.registry.releaseClients := by
  have hTaken := registry_takeClient s
  unfold beginShutdown
  rcases h : s.takeClient with ⟨s', _ | client⟩
  · rw [h] at hTaken
    exact hTaken
  · rw [h] at hTaken
    exact hTaken

theorem registry_disposeRegistrations (s : Session) :
    s.disposeRegistrations.registry =
      { s.registry with ofActivation := [] }.drops s.registry.ofActivation.reverse :=
  registry_disposeAll _ _

theorem registry_disposeEditorRegistrations (s : Session) :
    s.disposeEditorRegistrations.registry =
      { s.registry with onEditors := [] }.drops (s.registry.onEditors.map Prod.snd) :=
  registry_disposeAll _ _

theorem registry_endDeactivate (s : Session) (outcome : Outcome Unit) :
    (s.endDeactivate outcome).registry = s.registry := by
  unfold endDeactivate
  dsimp only
  split <;> rfl

theorem registry_beginDeactivate (s : Session) :
    s.beginDeactivate.1.registry = s.registry.cleared := by
  unfold beginDeactivate
  dsimp only
  generalize hs : (((s.mapExtension fun x => { x with epoch := x.epoch + 1 }).log
    "Deactivating...").setPhase .stopping) = stopping
  have hStopping : stopping.registry = s.registry := by
    rw [← hs]
    rfl
  have hStopped := registry_beginShutdown
    stopping.disposeRegistrations.disposeEditorRegistrations
  rw [registry_disposeEditorRegistrations, registry_disposeRegistrations, hStopping] at hStopped
  have hCleared : stopping.disposeRegistrations.disposeEditorRegistrations.beginShutdown.1.registry =
      s.registry.cleared := by
    rw [hStopped, Registry.cleared, Registry.kept, ← Registry.drops_append, ← Registry.drops_append]
    rfl
  split
  · rename_i s' h
    rw [h] at hCleared
    exact (registry_endDeactivate s' _).trans hCleared
  · rename_i s' client h
    rw [h] at hCleared
    exact hCleared

theorem registry_setBuffer (s : Session) (editor : Nat) (b : Buffer) :
    (s.setBuffer editor b).registry = s.registry := by
  have hSave : (s.setBuffer editor b).editors.map Editor.willSave =
      s.editors.map Editor.willSave := by
    apply List.ext_getElem?
    intro i
    rw [List.getElem?_map, List.getElem?_map, setBuffer, List.getElem?_modify]
    cases s.editors[i]? with
    | none => rfl
    | some e => by_cases hSame : editor = i <;> simp [hSame]
  unfold registry
  rw [hSave]
  rfl

/-! ## Registering -/

theorem beforeSave_eq (s : Session) (editor : Nat) :
    s.registry.beforeSave editor = ((s.editors[editor]?).getD {}).willSave := by
  simp only [registry, Registry.beforeSave, List.getElem?_map]
  cases s.editors[editor]? <;> rfl

theorem registry_registerWillSave (s : Session) (editor : Nat) (h : Handler) :
    (s.registerWillSave editor h).1.registry = s.registry.registerWillSave editor h := by
  have hSave : (s.registerWillSave editor h).1.editors.map Editor.willSave =
      (s.editors.map Editor.willSave).modify editor fun l => (l.add h).1 := by
    apply List.ext_getElem?
    intro i
    rw [List.getElem?_modify, List.getElem?_map, List.getElem?_map, registerWillSave,
      List.getElem?_modify]
    cases s.editors[i]? with
    | none => rfl
    | some e => by_cases hSame : editor = i <;> simp [hSame]
  unfold registry Registry.registerWillSave
  rw [hSave]
  rfl

/-- Whether an editor is watched when it is added: it is one of the extension's syntax, and the
preferences say that documents are formatted when they are saved. -/
def Watches (s : Session) (editor : Nat) : Prop :=
  (s.buffer editor).syntaxName = some elixirSyntax ∧ s.extension.preferences.formatsOnSave = true

instance (s : Session) (editor : Nat) : Decidable (s.Watches editor) :=
  inferInstanceAs (Decidable (_ ∧ _))

theorem Watches.lt_length {s : Session} {editor : Nat} (h : s.Watches editor) :
    editor < s.editors.length := by
  by_contra hMissing
  have hSyntax := h.1
  rw [buffer, List.getElem?_eq_none (Nat.le_of_not_lt hMissing)] at hSyntax
  cases hSyntax

theorem registry_watchEditor {s : Session} {editor : Nat} (h : s.Watches editor) :
    (s.watchEditor editor).registry = s.registry.watch (s.buffer editor).uri editor := by
  have hWatching : ∀ r, ((s.registerWillSave editor (.own .formatDocument)).1.mapExtension fun x =>
      { x with editorRegistrations :=
          Keyed.insert (s.buffer editor).uri r x.editorRegistrations }).registry =
        { s.registry.registerWillSave editor (.own .formatDocument) with
          onEditors := Keyed.insert (s.buffer editor).uri r s.registry.onEditors } := by
    intro r
    rw [← registry_registerWillSave]
    rfl
  have hNumber : (s.registerWillSave editor (.own .formatDocument)).2 =
      .willSave editor ((s.registry.beforeSave editor).add (.own .formatDocument)).2 := by
    rw [beforeSave_eq]
    rfl
  have hBoth : (s.buffer editor).syntaxName = some elixirSyntax ∧
      s.extension.preferences.formatsOnSave = true := h
  unfold watchEditor Registry.watch
  dsimp only
  rw [if_pos hBoth, ← hWatching, ← hNumber]
  split
  · rename_i previous hPrevious
    have hFound : Keyed.find? (s.buffer editor).uri s.registry.onEditors = some previous := hPrevious
    rw [hFound]
    exact registry_dispose _ previous
  · rename_i hNone
    have hFound : Keyed.find? (s.buffer editor).uri s.registry.onEditors = none := hNone
    rw [hFound]
    exact (Registry.drops_nil _).symm

/-! ## Starting and stopping the server -/

/-- What the extension does with the registries of a session. -/
def Alters (s : Session) (ws : List Watch) (s' : Session) : Prop := s.registry.Alters ws s'.registry

theorem alters_of_eq {s s' : Session} (h : s'.registry = s.registry) : s.Alters [] s' := by
  unfold Alters
  rw [h]
  exact .nothing _

/-- What is done with the registries of a session is done with those of any other with the same. -/
theorem Alters.congr {s₀ s s' : Session} {ws : List Watch} (h : s.Alters ws s')
    (hSame : s₀.registry = s.registry) : s₀.Alters ws s' := by
  unfold Alters
  rw [hSame]
  exact h

theorem alters_disposeClientRegistrations (s : Session) :
    s.Alters [] s.disposeClientRegistrations := by
  unfold Alters
  rw [registry_disposeClientRegistrations]
  exact .releaseClients _

theorem alters_takeClient (s : Session) : s.Alters [] s.takeClient.1 := by
  unfold Alters
  rw [registry_takeClient]
  exact .releaseClients _

theorem alters_beginShutdown (s : Session) : s.Alters [] s.beginShutdown.1 := by
  unfold Alters
  rw [registry_beginShutdown]
  exact .releaseClients _

theorem registry_reportStop (s : Session) (outcome : Outcome Unit) :
    (s.reportStop outcome).registry = s.registry := by
  unfold reportStop
  split <;> rfl

theorem alters_endStartup (s : Session) (epoch : Nat) (outcome : Except ExtensionError Unit) :
    s.Alters [] (s.endStartup epoch outcome).1 := by
  have hStopped := alters_beginShutdown s
  unfold endStartup
  split
  · split <;> exact .nothing _
  · rcases hTaken : s.beginShutdown with ⟨s', _ | client⟩
    · rw [hTaken] at hStopped
      exact hStopped
    · rw [hTaken] at hStopped
      exact hStopped

theorem registry_record (s : Session) (e : Event) : (s.record e).registry = s.registry := rfl

/-- A listener on a client takes the place of all others. -/
theorem alters_listenDidStop (s : Session) (client : Nat) :
    s.Alters [] ((s.disposeClientRegistrations.registerDidStop client).1.mapExtension fun x =>
      { x with clientRegistrations :=
          x.clientRegistrations.add (s.disposeClientRegistrations.registerDidStop client).2 }) :=
  (alters_disposeClientRegistrations s).then (.listen _ (r := .didStop client _) rfl)

theorem alters_startClient (x : Surroundings) (s : Session) (epoch : Nat) :
    s.Alters [] (s.startClient x epoch).1 := by
  unfold startClient
  dsimp only
  split
  · exact (alters_endStartup _ epoch _).congr rfl
  · unfold Alters
    rw [registry_record]
    exact (alters_listenDidStop _ _).congr rfl

theorem alters_clientStarted (s : Session) (epoch client : Nat) (outcome : Outcome Unit) :
    s.Alters [] (s.clientStarted epoch client outcome).1 := by
  cases outcome with
  | done => exact (alters_endStartup _ epoch _).congr rfl
  | failed cause => exact (alters_disposeClientRegistrations s).then (alters_endStartup _ epoch _)
  | panicked message => exact alters_endStartup s epoch _

theorem alters_scriptsExecutable (x : Surroundings) (s : Session) (epoch : Nat)
    (outcome : Outcome ProcessOutput) : s.Alters [] (s.scriptsExecutable x epoch outcome).1 := by
  unfold scriptsExecutable
  split
  · exact alters_endStartup s epoch _
  · split
    · exact alters_startClient x s epoch
    · exact alters_endStartup s epoch _

theorem alters_beginStartup (x : Surroundings) (s : Session) :
    s.Alters [] (s.beginStartup x).1 := by
  unfold beginStartup
  dsimp only
  split
  · exact (alters_endStartup _ _ _).congr rfl
  · exact .nothing _

/-! ## Operations of the extension -/

theorem alters_addCommand (s : Session) (id : String) (role : Role) :
    s.Alters [] (s.addCommand id role) := .addCommand s.registry id role

theorem alters_addListener (s : Session) : s.Alters [] s.addListener := .addListener s.registry

theorem alters_registerAll (s : Session) : s.Alters [] s.registerAll :=
  (alters_addListener s).then <| (alters_addCommand _ _ _).then <| (alters_addCommand _ _ _).then <|
    (alters_addCommand _ _ _).then (alters_addCommand _ _ _)

theorem alters_beginActivate (x : Surroundings) (s : Session) :
    s.Alters [] (s.beginActivate x).1 := by
  unfold beginActivate
  split
  · exact .nothing _
  · dsimp only
    refine Registry.Alters.then ?_ (alters_beginStartup x _)
    refine (alters_registerAll _).congr ?_
    split <;> rfl

theorem alters_beginDeactivate (s : Session) : s.Alters [.ended] s.beginDeactivate.1 := by
  unfold Alters
  rw [registry_beginDeactivate]
  exact .clear _

theorem alters_endRestartStop (x : Surroundings) (s : Session) (epoch : Nat)
    (outcome : Outcome Unit) : s.Alters [] (s.endRestartStop x epoch outcome).1 := by
  have hReported := alters_of_eq (registry_reportStop s outcome)
  unfold endRestartStop
  dsimp only
  split
  · exact hReported.then (alters_beginStartup x _)
  · exact hReported

theorem alters_beginRestart (x : Surroundings) (s : Session) : s.Alters [] (s.beginRestart x).1 := by
  have hStopped : s.Alters [] (s.log restarting).beginShutdown.1 :=
    alters_beginShutdown (s.log restarting)
  unfold beginRestart
  dsimp only
  split
  · rename_i s' hTaken
    rw [hTaken] at hStopped
    exact hStopped.then (alters_endRestartStop x s' _ _)
  · rename_i s' client hTaken
    rw [hTaken] at hStopped
    exact hStopped

theorem registry_serverStopped (s : Session) (client : Nat) (reason : Option String) :
    (s.serverStopped client reason).registry = s.registry := by
  unfold serverStopped
  dsimp only
  split <;> rfl

theorem alters_beginPrompt (s : Session) (reason : Option String) :
    s.Alters [] (s.beginPrompt reason).1 := alters_takeClient s

theorem alters_endPrompt (x : Surroundings) (s : Session) (epoch : Nat)
    (choice : Option (Option Nat)) : s.Alters [] (s.endPrompt x epoch choice).1 := by
  unfold endPrompt
  split
  · exact (alters_beginStartup x _).congr rfl
  · exact .nothing _

/-! ## Handlers -/

theorem registry_edit (s : Session) (editor : Nat) (e : Extent) (text : List Char) :
    (s.edit editor e text).1.registry = s.registry := by
  unfold edit
  split
  · exact registry_setBuffer s editor _
  · rfl

theorem registry_replaceText (s : Session) (editor : Nat) (e : Extent) (text : List Char) :
    (s.replaceText editor e text).registry = s.registry := by
  have hEdited := registry_edit s editor e text
  unfold replaceText
  split
  · rename_i s' hEdit
    rw [hEdit] at hEdited
    exact hEdited
  · rename_i s' err hEdit
    rw [hEdit] at hEdited
    exact hEdited

theorem registry_applyFormatter (s : Session) (f : Formatting) (outcome : Outcome ProcessOutput) :
    (s.applyFormatter f outcome).registry = s.registry := by
  unfold applyFormatter
  split
  · rfl
  · exact registry_replaceText s _ _ _

theorem registry_applyServerEdits (s : Session) (f : Formatting) (outcome : Outcome Json) :
    (s.applyServerEdits f outcome).registry = s.registry := by
  unfold applyServerEdits
  split
  · rfl
  · split
    · rfl
    · exact registry_replaceText s _ _ _

theorem registry_showReferences (s : Session) (outcome : Outcome Json) :
    (s.showReferences outcome).registry = s.registry := by
  unfold showReferences
  split <;> rfl

theorem registry_askFormatter (x : Surroundings) (s : Session) (editor : Nat) :
    (s.askFormatter x editor).1.registry = s.registry := by
  unfold askFormatter
  split <;> rfl

theorem registry_askServerToFormat (s : Session) (editor : Nat) :
    (s.askServerToFormat editor).1.registry = s.registry := by
  unfold askServerToFormat
  split <;> rfl

theorem registry_askForReferences (s : Session) (editor : Nat) :
    (s.askForReferences editor).1.registry = s.registry := by
  unfold askForReferences
  split <;> rfl

/-- The editor that a handler has the extension watch, if it does. -/
def watchedBy (s : Session) (h : Handler) (editor : Nat) : List Watch :=
  if h = .own .watchEditor ∧ s.alive = true ∧ s.Watches editor then
    [.began (s.buffer editor).uri editor]
  else []

theorem alters_runHandler (x : Surroundings) (s : Session) (h : Handler) (editor : Nat) :
    s.Alters (s.watchedBy h editor) (s.runHandler x h editor).1 := by
  cases h with
  | other number => exact .nothing _
  | own role =>
    by_cases hAlive : s.alive = true
    · unfold runHandler
      dsimp only
      rw [if_pos hAlive]
      cases role with
      | formatDocument => exact alters_of_eq (registry_askFormatter x s editor)
      | formatWithServer => exact alters_of_eq (registry_askServerToFormat s editor)
      | findReferences => exact alters_of_eq (registry_askForReferences s editor)
      | restart => exact alters_beginRestart x s
      | watchEditor =>
        by_cases hWatches : s.Watches editor
        · have hEditor : editor < s.registry.willSave.length := by
            rw [registry, List.length_map]
            exact hWatches.lt_length
          unfold Alters watchedBy
          rw [if_pos ⟨rfl, hAlive, hWatches⟩]
          dsimp only
          rw [registry_watchEditor hWatches]
          exact .watch _ _ hEditor
        · unfold watchedBy
          rw [if_neg fun hBoth => hWatches hBoth.2.2]
          refine alters_of_eq (congrArg registry ?_)
          exact if_neg hWatches
    · unfold runHandler watchedBy
      dsimp only
      rw [if_neg hAlive, if_neg fun hBoth => hAlive hBoth.2.1]
      exact .nothing _

/-- The editors that handlers have the extension watch, when they run one after the other up to the
first that waits. -/
def watchedIn (x : Surroundings) (s : Session) (editor : Nat) : List Handler → List Watch
  | [] => []
  | h :: rest =>
    s.watchedBy h editor ++
      match s.runHandler x h editor with
      | (_, some _) => []
      | (s, none) => watchedIn x s editor rest

theorem alters_runHandlers (x : Surroundings) (s : Session) (editor : Nat) (handlers : List Handler) :
    s.Alters (s.watchedIn x editor handlers) (s.runHandlers x editor handlers).1 := by
  induction handlers generalizing s with
  | nil => exact .nothing _
  | cons h rest ih =>
    have hStep := alters_runHandler x s h editor
    unfold runHandlers watchedIn
    rcases hRun : s.runHandler x h editor with ⟨s', _ | w⟩
    · rw [hRun] at hStep
      exact hStep.trans (ih s')
    · rw [hRun] at hStep
      exact hStep.trans (.nothing s'.registry)

theorem registry_writeDocument (x : Surroundings) (s : Session) (editor : Nat) :
    (s.writeDocument x editor).1.registry = s.registry := by
  unfold writeDocument
  split <;> rfl

theorem registry_suspend (s : Session) (w : Wait) (rest : Rest) :
    (s.suspend w rest).1.registry = s.registry := by
  unfold suspend
  dsimp only
  split <;> rfl

/-- The editors that are watched when an operation goes on. -/
def watchedOn (x : Surroundings) (s : Session) : Rest → List Watch
  | .nothing => []
  | .dispatch editor handlers | .save editor handlers => s.watchedIn x editor handlers

theorem alters_goOn (x : Surroundings) (s : Session) (rest : Rest) :
    s.Alters (s.watchedOn x rest) (s.goOn x rest).1 := by
  cases rest with
  | nothing => exact .nothing _
  | dispatch editor handlers =>
    have hRan := alters_runHandlers x s editor handlers
    rcases hRun : s.runHandlers x editor handlers with ⟨s', _ | ⟨w, left⟩⟩
    · rw [hRun] at hRan
      simp only [goOn, hRun]
      exact hRan
    · rw [hRun] at hRan
      simp only [goOn, hRun]
      exact hRan.then (alters_of_eq (registry_suspend s' w _))
  | save editor handlers =>
    have hRan := alters_runHandlers x s editor handlers
    rcases hRun : s.runHandlers x editor handlers with ⟨s', _ | ⟨w, left⟩⟩
    · rw [hRun] at hRan
      simp only [goOn, hRun]
      exact hRan.then (alters_of_eq (registry_writeDocument x s' editor))
    · rw [hRun] at hRan
      simp only [goOn, hRun]
      exact hRan.then (alters_of_eq (registry_suspend s' w _))

/-- The editors that are watched when an operation goes on that does not wait. -/
def watchedAfter (x : Surroundings) (r : Session × Option Wait) (rest : Rest) : List Watch :=
  match r with
  | (_, some _) => []
  | (s, none) => s.watchedOn x rest

theorem alters_settle (x : Surroundings) (r : Session × Option Wait) (rest : Rest) :
    r.1.Alters (watchedAfter x r rest) (settle x r rest).1 := by
  obtain ⟨s, _ | w⟩ := r
  · exact alters_goOn x s rest
  · exact alters_of_eq (registry_suspend s w rest)

theorem alters_receive (x : Surroundings) (s : Session) (w : Wait) (reply : w.Reply) :
    s.Alters [] (s.receive x w reply).1 := by
  cases w with
  | chmod epoch => exact alters_scriptsExecutable x s epoch reply
  | start epoch client => exact alters_clientStarted s epoch client reply
  | staleStop client => exact alters_of_eq (registry_reportStop s reply)
  | deactivateStop client => exact alters_of_eq (registry_endDeactivate s reply)
  | restartStop epoch client => exact alters_endRestartStop x s epoch reply
  | prompt epoch => exact alters_endPrompt x s epoch reply
  | formatter mix f => exact alters_of_eq (registry_applyFormatter s f reply)
  | serverEdits f => exact alters_of_eq (registry_applyServerEdits s f reply)
  | references => exact alters_of_eq (registry_showReferences s reply)
  | other number editor => exact .nothing _

end Session

end ExtensionHost
