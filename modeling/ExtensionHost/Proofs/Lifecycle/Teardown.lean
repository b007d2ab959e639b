import ExtensionHost.Proofs.Lifecycle.Arising
import ExtensionHost.Proofs.Lifecycle.Documents

/-!
# What a deactivation leaves

A deactivation disposes of every registration that the extension keeps. Since these are exactly those of
its own handlers, in every stage that arises no handler of the extension is left in any registry, however
often the extension was activated, whoever replaced one of its commands and whatever became of its
clients; the handlers of others stand as before. The client that is held is asked to stop once, and one
error is written when it fails to.
-/

namespace ExtensionHost

/-! ## Without the extension -/

/-- Commands without those of the extension. -/
def Commands.withoutOwn (c : Commands Handler) : Commands Handler :=
  { c with entries := c.entries.filter fun e => !e.2.2.isOwn }

/-- Listeners without those of the extension. -/
def Listeners.withoutOwn (l : Listeners Handler) : Listeners Handler :=
  { l with entries := l.entries.filter fun e => !e.2.isOwn }

/-- A hub without the handlers of the extension. -/
def Hub.withoutOwn (h : Hub) : Hub := ⟨h.commands.withoutOwn, h.editorAdded.withoutOwn⟩

/-- An editor without the handlers of the extension. -/
def Editor.withoutOwn (e : Editor) : Editor := { e with willSave := e.willSave.withoutOwn }

/-- Whether an event is an error on the console. -/
def Event.isError : Event → Bool
  | .error _ => true
  | _ => false

/-- Whether a client fails to stop, or panics, when the extension is deactivated. -/
def Wait.stopFails : (w : Wait) → w.Reply → Bool
  | .deactivateStop _, .done () => false
  | .deactivateStop _, _ => true
  | _, _ => false

/-- What an operation ends with, if it has ended. -/
def Progress.result? : Progress → Option (Except HostError Unit)
  | .waiting _ => none
  | .ended r => some r

namespace Registry

variable {c : Registry}

/-- A handler whose registration the extension does not keep is one of someone else. -/
theorem Attributed.notMem_kept (h : c.Attributed) {handler : Handler} {r : Registration}
    (hHolds : c.Holds handler r) : decide (r ∉ c.kept) = !handler.isOwn := by
  have hOwn := h.own handler r hHolds
  cases hHandler : handler.isOwn with
  | true => exact decide_eq_false fun hOther => hOther (hOwn.mp hHandler)
  | false =>
    refine decide_eq_true fun hMem => ?_
    rw [hOwn.mpr hMem] at hHandler
    cases hHandler

theorem Attributed.commands_withoutOwn (h : c.Attributed) {number : Nat} {hub : Hub}
    (hHub : c.hubs[number]? = some hub) :
    (c.kept.foldl (Hub.drop number) hub).commands = hub.commands.withoutOwn := by
  have hCommands : c.commands number = hub.commands := by
    unfold commands
    rw [hHub]
    rfl
  have hEntries : (c.kept.foldl (Hub.drop number) hub).commands.entries =
      hub.commands.withoutOwn.entries := by
    rw [Hub.commands_drops c.kept (hCommands ▸ h.sorted number)]
    refine List.filter_congr fun e he => ?_
    rw [← hCommands] at he
    exact h.notMem_kept (r := .command number e.1 e.2.1) he
  have hToken : (c.kept.foldl (Hub.drop number) hub).commands.nextToken = hub.commands.nextToken :=
    Hub.nextToken_drops c.kept hub
  calc (c.kept.foldl (Hub.drop number) hub).commands
      = ⟨(c.kept.foldl (Hub.drop number) hub).commands.nextToken,
          (c.kept.foldl (Hub.drop number) hub).commands.entries⟩ := rfl
    _ = hub.commands.withoutOwn := by rw [hToken, hEntries]; rfl

theorem Attributed.editorAdded_withoutOwn (h : c.Attributed) {number : Nat} {hub : Hub}
    (hHub : c.hubs[number]? = some hub) :
    (c.kept.foldl (Hub.drop number) hub).editorAdded = hub.editorAdded.withoutOwn := by
  have hAdded : c.editorAdded number = hub.editorAdded := by
    unfold editorAdded
    rw [hHub]
    rfl
  have hEntries : (c.kept.foldl (Hub.drop number) hub).editorAdded.entries =
      hub.editorAdded.withoutOwn.entries := by
    rw [Hub.editorAdded_drops c.kept]
    refine List.filter_congr fun e he => ?_
    rw [← hAdded] at he
    exact h.notMem_kept (r := .editorAdded number e.1) he
  have hNumber : (c.kept.foldl (Hub.drop number) hub).editorAdded.lastNumber =
      hub.editorAdded.lastNumber := Hub.lastNumber_drops c.kept hub
  calc (c.kept.foldl (Hub.drop number) hub).editorAdded
      = ⟨(c.kept.foldl (Hub.drop number) hub).editorAdded.lastNumber,
          (c.kept.foldl (Hub.drop number) hub).editorAdded.entries⟩ := rfl
    _ = hub.editorAdded.withoutOwn := by rw [hNumber, hEntries]; rfl

theorem Attributed.willSave_withoutOwn (h : c.Attributed) {editor : Nat} {l : Listeners Handler}
    (hEditor : c.willSave[editor]? = some l) :
    c.kept.foldl (Listeners.dropOn editor) l = l.withoutOwn := by
  have hSave : c.beforeSave editor = l := by
    unfold beforeSave
    rw [hEditor]
    rfl
  have hEntries : (c.kept.foldl (Listeners.dropOn editor) l).entries = l.withoutOwn.entries := by
    rw [Listeners.entries_dropsOn c.kept]
    refine List.filter_congr fun e he => ?_
    rw [← hSave] at he
    exact h.notMem_kept (r := .willSave editor e.1) he
  have hNumber : (c.kept.foldl (Listeners.dropOn editor) l).lastNumber = l.lastNumber :=
    Listeners.lastNumber_dropsOn c.kept l
  calc c.kept.foldl (Listeners.dropOn editor) l
      = ⟨(c.kept.foldl (Listeners.dropOn editor) l).lastNumber,
          (c.kept.foldl (Listeners.dropOn editor) l).entries⟩ := rfl
    _ = l.withoutOwn := by rw [hNumber, hEntries]; rfl

/-- All that was kept is disposed of: the handlers of the extension go, and no others. -/
theorem Attributed.hubs_cleared (h : c.Attributed) :
    c.cleared.hubs = c.hubs.map Hub.withoutOwn := by
  apply List.ext_getElem?
  intro number
  rw [Registry.cleared, drops, List.getElem?_mapIdx, List.getElem?_map]
  cases hHub : c.hubs[number]? with
  | none => rfl
  | some hub =>
    have hCommands := h.commands_withoutOwn hHub
    have hAdded := h.editorAdded_withoutOwn hHub
    calc some (c.kept.foldl (Hub.drop number) hub)
        = some ⟨(c.kept.foldl (Hub.drop number) hub).commands,
            (c.kept.foldl (Hub.drop number) hub).editorAdded⟩ := rfl
      _ = some hub.withoutOwn := by rw [hCommands, hAdded]; rfl

theorem Attributed.willSave_cleared (h : c.Attributed) :
    c.cleared.willSave = c.willSave.map Listeners.withoutOwn := by
  apply List.ext_getElem?
  intro editor
  rw [Registry.cleared, drops, List.getElem?_mapIdx, List.getElem?_map]
  cases hEditor : c.willSave[editor]? with
  | none => rfl
  | some l => exact congrArg some (h.willSave_withoutOwn hEditor)

end Registry

namespace Session

/-! ## What a deactivation records -/

@[simp] theorem events_dispose (s : Session) (r : Registration) : (s.dispose r).events = s.events := by
  cases r <;> rfl

@[simp] theorem events_disposeAll (s : Session) (rs : List Registration) :
    (s.disposeAll rs).events = s.events := by
  induction rs generalizing s with
  | nil => rfl
  | cons r rs ih => exact (ih (s.dispose r)).trans (events_dispose s r)

theorem events_beginShutdown (s : Session) :
    s.beginShutdown.1.events = s.events ++ s.extension.slot.toList.map Event.stop := by
  have hTaken : s.takeClient.1.events = s.events := events_disposeAll _ _
  obtain ⟨-, hSlot⟩ := Prod.mk.inj (coreOf_takeClient s)
  have hSame : s.core.extension.slot = s.extension.slot := rfl
  unfold beginShutdown
  rcases h : s.takeClient with ⟨s', _ | client⟩
  · rw [h] at hTaken hSlot
    rw [← hSame, ← hSlot]
    simpa using hTaken
  · rw [h] at hTaken hSlot
    rw [← hSame, ← hSlot]
    simpa [record] using hTaken

/-- A deactivation that ends writes one line, an error when the client failed to stop. -/
theorem events_endDeactivate (s : Session) (client : Nat) (outcome : Outcome Unit) :
    ∃ e : Event, (s.endDeactivate outcome).events = s.events ++ [e] ∧ e.stopOf? = none ∧
      e.isError = Wait.stopFails (.deactivateStop client) outcome := by
  cases outcome with
  | done => exact ⟨.log "Deactivated. Come back soon :)", rfl, rfl, rfl⟩
  | failed cause => exact ⟨.error (shutdownError cause).message, rfl, rfl, rfl⟩
  | panicked message => exact ⟨.error (shutdownError (.ofPanic message)).message, rfl, rfl, rfl⟩

/-- A deactivation asks the client that is held to stop, and writes no error before that. -/
theorem events_beginDeactivate (s : Session) :
    ∃ seen, s.beginDeactivate.1.events = s.events ++ seen ∧
      seen.filterMap Event.stopOf? = s.extension.slot.toList ∧ seen.countP Event.isError = 0 := by
  unfold beginDeactivate
  dsimp only
  generalize hs : (((s.mapExtension fun x => { x with epoch := x.epoch + 1 }).log
    "Deactivating...").setPhase .stopping) = stopping
  have hBegun : stopping.disposeRegistrations.disposeEditorRegistrations.events =
      s.events ++ [.log "Deactivating..."] := by
    refine (events_disposeAll _ _).trans ((events_disposeAll _ _).trans ?_)
    rw [← hs]
    rfl
  have hSlot : stopping.disposeRegistrations.disposeEditorRegistrations.extension.slot =
      s.extension.slot := by
    have hCore := core_disposeEditorRegistrations stopping.disposeRegistrations
    rw [core_disposeRegistrations, ← hs] at hCore
    rw [← hs]
    exact congrArg (·.extension.slot) hCore
  have hStopped := events_beginShutdown stopping.disposeRegistrations.disposeEditorRegistrations
  obtain ⟨-, hClient⟩ := Prod.mk.inj
    (coreOf_beginShutdown stopping.disposeRegistrations.disposeEditorRegistrations)
  rw [hBegun, hSlot, List.append_assoc] at hStopped
  rw [show stopping.disposeRegistrations.disposeEditorRegistrations.core.extension.slot =
    s.extension.slot from hSlot] at hClient
  split
  · rename_i s' hTaken
    rw [hTaken] at hStopped hClient
    refine ⟨[.log "Deactivating...", .log "Deactivated. Come back soon :)"], ?_, ?_, rfl⟩
    · calc (s'.endDeactivate (.done ())).events
          = s'.events ++ [.log "Deactivated. Come back soon :)"] := rfl
        _ = s.events ++ [.log "Deactivating...", .log "Deactivated. Come back soon :)"] := by
            rw [hStopped, ← hClient, List.append_assoc]
            rfl
    · rw [← hClient]
      rfl
  · rename_i s' client hTaken
    rw [hTaken] at hStopped hClient
    refine ⟨[.log "Deactivating...", .stop client], ?_, ?_, rfl⟩
    · rw [hStopped, ← hClient]
      rfl
    · rw [← hClient]
      rfl

end Session

namespace Stage

/-- What the operation ends with that a move begins or goes on with, if it ends. -/
def endedBy (x : Surroundings) (g : Stage) : Move → Option (Except HostError Unit)
  | .activate => (g.session.activate x).2.result?
  | .deactivate => (g.session.deactivate x).2.result?
  | .restart => (g.session.restart x).2.result?
  | .invoke hub id editor => (g.session.invoke x hub id editor).2.result?
  | .addEditor hub editor => (g.session.addEditor x hub editor).2.result?
  | .save editor => (g.session.save x editor).2.result?
  | .prompt => (g.session.runPrompt x).2.result?
  | .reply number answer =>
    (g.waiting[number]?).bind fun t => (g.session.resume x t (answer t.wait)).2.result?
  | _ => none

/-- The extension was deactivated in a stage, and its client, if it held one, was asked to stop and gave
an answer. The deactivation has ended without a failure. No handler of the extension is left in a hub, on
an editor or on a client, and the handlers of others stand as before. No client is held, the extension is
inactive, the client that was held was asked to stop, and one error was written if it failed to. -/
structure TornDown (x : Surroundings) (answer : (w : Wait) → w.Reply) (g f : Stage) : Prop where
  ended : collect x (endedBy x) g [.deactivate, .reply g.waiting.length answer] = [.ok ()]
  waiting : f.waiting = g.waiting
  hubs : f.session.hubs = g.session.hubs.map Hub.withoutOwn
  editors : f.session.editors = g.session.editors.map Editor.withoutOwn
  unheard : f.session.core.Unheard
  slot : f.session.extension.slot = none
  phase : f.session.extension.phase = .inactive
  events : ∃ seen, f.session.events = g.session.events ++ seen ∧
    seen.filterMap Event.stopOf? = g.session.extension.slot.toList ∧
    seen.countP Event.isError =
      if ∃ client ∈ g.session.extension.slot,
        Wait.stopFails (.deactivateStop client) (answer (.deactivateStop client)) then 1 else 0

section

variable {x : Surroundings} {g : Stage}

/-- A deactivation runs to its end: at once when no client is held, else when the client has answered. -/
theorem playAll_deactivate (x : Surroundings) (g : Stage) (answer : (w : Wait) → w.Reply) :
    collect x (endedBy x) g [.deactivate, .reply g.waiting.length answer] = [.ok ()] ∧
      (g.session.extension.slot = none ∧
          g.playAll x [.deactivate, .reply g.waiting.length answer] =
            ⟨g.session.beginDeactivate.1, g.waiting⟩ ∨
        ∃ client, g.session.extension.slot = some client ∧
          g.playAll x [.deactivate, .reply g.waiting.length answer] =
            ⟨g.session.beginDeactivate.1.endDeactivate (answer (.deactivateStop client)),
              g.waiting⟩) := by
  have hWait : g.session.beginDeactivate.2 = g.session.core.deactivated.2 :=
    congrArg Prod.snd (Session.coreOf_beginDeactivate g.session)
  have hSame : g.session.core.extension.slot = g.session.extension.slot := rfl
  unfold Core.deactivated at hWait
  rw [hSame] at hWait
  rcases hBegun : g.session.beginDeactivate with ⟨s, w⟩
  rw [hBegun] at hWait
  cases hSlot : g.session.extension.slot with
  | none =>
    rw [hSlot] at hWait
    cases hWait
    have hDeactivated : g.session.deactivate x = (s, .ended (.ok ())) := by
      unfold Session.deactivate
      rw [hBegun]
      rfl
    have hPlay : g.play x .deactivate = ⟨s, g.waiting⟩ := congrArg (after g.waiting) hDeactivated
    have hNobody : g.waiting[g.waiting.length]? = none := List.getElem?_eq_none (Nat.le_refl _)
    refine ⟨?_, Or.inl ⟨rfl, ?_⟩⟩
    · simp only [collect, endedBy, hDeactivated, hPlay, hNobody]
      rfl
    · rw [playAll_cons, playAll_cons, playAll_nil, hPlay]
      simp only [play, hNobody]
  | some client =>
    rw [hSlot] at hWait
    cases hWait
    have hDeactivated : g.session.deactivate x = ({ s with inFlight := s.inFlight + 1 },
        .waiting ⟨.deactivateStop client, .nothing⟩) := by
      unfold Session.deactivate
      rw [hBegun]
      rfl
    have hPlay : g.play x .deactivate = ⟨{ s with inFlight := s.inFlight + 1 },
        g.waiting ++ [⟨.deactivateStop client, .nothing⟩]⟩ := congrArg (after g.waiting) hDeactivated
    have hLast : (g.waiting ++ [(⟨.deactivateStop client, .nothing⟩ : Suspended)])[
        g.waiting.length]? = some ⟨.deactivateStop client, .nothing⟩ := List.getElem?_concat_length
    have hOthers : (g.waiting ++ [(⟨.deactivateStop client, .nothing⟩ : Suspended)]).eraseIdx
        g.waiting.length = g.waiting := by
      rw [List.eraseIdx_append_of_length_le (Nat.le_refl _), Nat.sub_self]
      exact List.append_nil _
    refine ⟨?_, Or.inr ⟨client, rfl, ?_⟩⟩
    · simp only [collect, endedBy, hDeactivated, hPlay, hLast]
      rfl
    · rw [playAll_cons, playAll_cons, playAll_nil, hPlay]
      simp only [play, hLast, hOthers]
      rfl

/-- What a deactivation that has run to its end leaves of the registries, the documents and the core, and
what it recorded. -/
theorem session_deactivate (x : Surroundings) (g : Stage) (answer : (w : Wait) → w.Reply) :
    ∃ s, g.playAll x [.deactivate, .reply g.waiting.length answer] = ⟨s, g.waiting⟩ ∧
      s.registry = g.session.registry.cleared ∧ s.documents = g.session.documents ∧
      s.core = g.session.core.retire.shutdown.inPhase .inactive ∧
      ∃ seen, s.events = g.session.events ++ seen ∧
        seen.filterMap Event.stopOf? = g.session.extension.slot.toList ∧
        seen.countP Event.isError =
          if ∃ client ∈ g.session.extension.slot,
            Wait.stopFails (.deactivateStop client) (answer (.deactivateStop client)) then 1 else 0 := by
  have hRegistry := Session.registry_beginDeactivate g.session
  have hDocuments := Session.documents_beginDeactivate g.session
  have hCore : g.session.beginDeactivate.1.core = g.session.core.deactivated.1 :=
    congrArg Prod.fst (Session.coreOf_beginDeactivate g.session)
  have hSame : g.session.core.extension.slot = g.session.extension.slot := rfl
  unfold Core.deactivated at hCore
  rw [hSame] at hCore
  obtain ⟨seen, hEvents, hStopped, hErrors⟩ := Session.events_beginDeactivate g.session
  obtain ⟨-, ⟨hSlot, hFinal⟩ | ⟨client, hSlot, hFinal⟩⟩ := playAll_deactivate x g answer
  · rw [hSlot] at hCore hStopped
    refine ⟨_, hFinal, hRegistry, hDocuments, hCore, seen, hEvents, ?_⟩
    rw [hSlot]
    exact ⟨hStopped, hErrors.trans (if_neg (by simp)).symm⟩
  · rw [hSlot] at hCore hStopped
    obtain ⟨e, hLast, hStop, hError⟩ := Session.events_endDeactivate g.session.beginDeactivate.1
      client (answer (.deactivateStop client))
    refine ⟨_, hFinal, ?_, ?_, ?_, seen ++ [e], ?_, ?_, ?_⟩
    · exact (Session.registry_endDeactivate _ _).trans hRegistry
    · exact (Session.documents_endDeactivate _ _).trans hDocuments
    · exact (Session.core_endDeactivate _ _).trans (congrArg (Core.inPhase · .inactive) hCore)
    · exact hLast.trans (by rw [hEvents, List.append_assoc])
    · rw [List.filterMap_append, hStopped, hSlot]
      simp [hStop]
    · rw [List.countP_append, hErrors, List.countP_singleton, hError, hSlot]
      simp

theorem editors_ext {editors editors' : List Editor}
    (hBuffer : editors.map Editor.buffer = editors'.map Editor.buffer)
    (hSave : editors.map Editor.willSave = editors'.map Editor.willSave) : editors = editors' := by
  induction editors generalizing editors' with
  | nil =>
    cases editors' with
    | nil => rfl
    | cons => cases hBuffer
  | cons e rest ih =>
    cases editors' with
    | nil => cases hBuffer
    | cons e' rest' =>
      obtain ⟨hBuffer, hBuffers⟩ := List.cons.inj hBuffer
      obtain ⟨hSave, hSaves⟩ := List.cons.inj hSave
      obtain ⟨b, l⟩ := e
      obtain ⟨b', l'⟩ := e'
      rw [ih hBuffers hSaves, show b = b' from hBuffer, show l = l' from hSave]

/-- **A deactivation is a complete teardown.** In every stage that arises, whatever the client that is
held answers when it is asked to stop, the deactivation leaves nothing of the extension in the host and
everything of others where it was. -/
theorem tornDown_deactivate (hArises : g.Arises x) (answer : (w : Wait) → w.Reply) :
    TornDown x answer g (g.playAll x [.deactivate, .reply g.waiting.length answer]) := by
  have hAttributed := hArises.orderly.attributed
  obtain ⟨s, hFinal, hRegistry, hDocuments, hCore, hEvents⟩ := session_deactivate x g answer
  obtain ⟨hEnded, -⟩ := playAll_deactivate x g answer
  have hHubs : s.hubs = g.session.hubs.map Hub.withoutOwn :=
    (congrArg Registry.hubs hRegistry).trans (Registry.Attributed.hubs_cleared hAttributed)
  have hSave : s.editors.map Editor.willSave =
      (g.session.editors.map Editor.willSave).map Listeners.withoutOwn :=
    (congrArg Registry.willSave hRegistry).trans (Registry.Attributed.willSave_cleared hAttributed)
  rw [hFinal]
  refine ⟨hEnded, rfl, hHubs, ?_, ?_, ?_, ?_, hEvents⟩
  · refine editors_ext ?_ ?_
    · rw [List.map_map]
      exact hDocuments
    · rw [hSave, List.map_map, List.map_map]
      rfl
  · change s.core.Unheard
    rw [hCore]
    exact hArises.reached.tracked.retire.unheard_clear
  · exact congrArg (·.extension.slot) hCore
  · exact congrArg (·.extension.phase) hCore

end

/-- The extension runs after an activation that failed, so that its listener is there twice. An editor was
added twice. Others have replaced a command of the extension and listen as well. -/
def crowded : Stage :=
  playAll .plain ⟨.scripted, []⟩
    [.changeSettings [(Settings.formatOnSaveKey, .bool true)] [], .activate, .reply 0 Wait.badReply,
      .activate, .reply 0 Wait.goodReply, .reply 0 Wait.goodReply,
      .openEditor { syntaxName := some elixirSyntax }, .addEditor 0 0, .addEditor 0 0,
      .register 0 Command.formatDocument 7, .onEditorAdded 0 8, .onWillSave 0 9]

/-- The client panics when it is asked to stop. The handlers of others are all that is left. -/
theorem tornDown_crowded :
    TornDown .plain Wait.badReply crowded
        (crowded.playAll .plain [.deactivate, .reply crowded.waiting.length Wait.badReply]) ∧
      crowded.session.extension.slot = some 0 ∧
      (crowded.session.hubs.map Hub.withoutOwn).map (fun h => (h.commands.ids, h.editorAdded.snapshot)) =
        [([Command.formatDocument], [.other 8])] ∧
      (crowded.session.editors.map Editor.withoutOwn).map (fun e => e.willSave.snapshot) =
        [[.other 9]] :=
  ⟨tornDown_deactivate ⟨.scripted, _, Session.pristine_scripted, rfl⟩ Wait.badReply,
    by decide +kernel, by decide +kernel, by decide +kernel⟩

end Stage

end ExtensionHost
