import ExtensionHost.Proofs.Lifecycle.Alterations
import ExtensionHost.Proofs.Lifecycle.Calls
import ExtensionHost.Proofs.Lifecycle.Formatting
import ExtensionHost.Proofs.Lifecycle.Notices

/-!
# What editors are watched by

Whether an added editor is watched depends on the syntax of its document and on the preferences, and it
is watched under the address of the document. The handlers that a move runs, and the reply that it
brings, leave all of this as it is (`Session.Agrees`). So which editors a move has the extension watch
can be told from the handlers that it calls and from the stage before it (`Stage.watched`), and that is
what it does with the registries (`Stage.alters_play`).
-/

namespace ExtensionHost

namespace Core

variable {k : Core} {r : Core × Option Wait}

/-! ## Preferences -/

theorem preferences_begins (hBegins : k.Begins r) :
    r.1.extension.preferences = k.extension.preferences := by
  rcases hBegins with rfl | rfl <;> rfl

theorem preferences_handles (hHandles : k.Handles r) :
    r.1.extension.preferences = k.extension.preferences := by
  cases hHandles with
  | quiet => rfl
  | watched uri editor number =>
    unfold watch
    split <;> rfl
  | restarted hRestarts =>
    rcases hRestarts with ⟨-, hBegins⟩ | ⟨client, -, rfl⟩
    · exact preferences_begins (k := k.shutdown) hBegins
    · rfl

theorem preferences_endStartup (k : Core) (epoch : Nat) (well : Bool) :
    (k.endStartup epoch well).1.extension.preferences = k.extension.preferences := by
  by_cases hEpoch : k.extension.epoch = epoch
  · rw [endStartup_current hEpoch]
    cases well <;> rfl
  · rw [endStartup_overtaken hEpoch]
    split <;> rfl

theorem preferences_receives {w : Wait} {reply : w.Reply} (hReceives : k.Receives w reply r) :
    r.1.extension.preferences = k.extension.preferences := by
  cases hReceives with
  | scriptsRefused epoch => exact preferences_endStartup k epoch false
  | started epoch client => exact preferences_endStartup _ epoch true
  | startFailed epoch => exact preferences_endStartup k.clear epoch false
  | startPanicked epoch => exact preferences_endStartup k epoch false
  | restartStopped _ _ _ _ hBegins => exact preferences_begins hBegins
  | promptChosen _ _ _ hBegins => exact preferences_begins hBegins
  | _ => rfl

theorem held_receives {w : Wait} {reply : w.Reply} (hReceives : k.Receives w reply r) :
    r.1.held = k.held := by
  rcases spares_receives hReceives with hSpares | ⟨client, -, hSpares⟩
  · exact hSpares.held
  · exact hSpares.held

end Core

namespace Session

variable {x : Surroundings} {s s' s'' : Session}

/-! ## Addresses -/

/-- The addresses of the documents of all editors, with their syntaxes. -/
def addresses (s : Session) : List (String × Option String) :=
  s.documents.map fun b => (b.uri, b.syntaxName)

theorem addresses_congr (h : s'.documents = s.documents) : s'.addresses = s.addresses :=
  congrArg (List.map _) h

/-- An edit changes the text of a document, and neither its address nor its syntax. -/
theorem addresses_edit (s : Session) (editor : Nat) (e : Extent) (text : List Char) :
    (s.edit editor e text).1.addresses = s.addresses := by
  unfold addresses
  rw [documents_edit]
  cases hEdited : (s.buffer editor).edit e text with
  | error err => rfl
  | ok b =>
    have hSame : (b.uri, b.syntaxName) = ((s.buffer editor).uri, (s.buffer editor).syntaxName) := by
      rw [Buffer.edit_eq] at hEdited
      split at hEdited
      · cases hEdited
        rfl
      · cases hEdited
    rw [List.map_set, hSame, buffer_eq_documents]
    apply List.ext_getElem?
    intro i
    rw [List.getElem?_set, List.length_map, List.getElem?_map]
    by_cases hi : editor = i
    · subst hi
      cases hDocument : s.documents[editor]? with
      | none => simp [List.getElem?_eq_none_iff.mp hDocument]
      | some b' => simp [(List.getElem?_eq_some_iff.mp hDocument).1]
    · simp [hi]

theorem addresses_receive (x : Surroundings) (s : Session) (w : Wait) (reply : w.Reply) :
    (s.receive x w reply).1.addresses = s.addresses := by
  cases hw : w.formatting? with
  | none => exact addresses_congr (documents_receive x s hw reply)
  | some f =>
    refine (addresses_congr (documents_receive_formatting x s hw reply)).trans ?_
    cases w.newText? reply with
    | none => rfl
    | some text => exact addresses_edit s f.editor f.extent text

/-! ## Sessions that agree -/

/-- Two sessions agree on what editors are watched by. -/
structure Agrees (s s' : Session) : Prop where
  addresses : s'.addresses = s.addresses
  preferences : s'.extension.preferences = s.extension.preferences
  held : s'.held = s.held

theorem Agrees.trans (h : s.Agrees s') (h' : s'.Agrees s'') : s.Agrees s'' :=
  ⟨h'.addresses.trans h.addresses, h'.preferences.trans h.preferences, h'.held.trans h.held⟩

theorem Agrees.buffer (h : s.Agrees s') (editor : Nat) :
    (s'.buffer editor).uri = (s.buffer editor).uri ∧
      (s'.buffer editor).syntaxName = (s.buffer editor).syntaxName := by
  have hAt := congrArg (·[editor]?) h.addresses
  simp only [Session.addresses, List.getElem?_map] at hAt
  rw [buffer_eq_documents, buffer_eq_documents]
  cases hOld : s.documents[editor]? with
  | none =>
    rw [hOld] at hAt
    rw [Option.map_eq_none_iff.mp hAt]
    exact ⟨rfl, rfl⟩
  | some b =>
    rw [hOld] at hAt
    obtain ⟨b', hNew, hSame⟩ := Option.map_eq_some_iff.mp hAt
    rw [hNew]
    exact Prod.mk.inj hSame

theorem agrees_runHandler (x : Surroundings) (s : Session) (h : Handler) (editor : Nat) :
    s.Agrees (s.runHandler x h editor).1 where
  addresses := addresses_congr (documents_runHandler x s h editor)
  preferences := Core.preferences_handles (handles_runHandler x s h editor)
  held := (Core.spares_handles (handles_runHandler x s h editor)).held

theorem agrees_receive (x : Surroundings) (s : Session) (w : Wait) (reply : w.Reply) :
    s.Agrees (s.receive x w reply).1 where
  addresses := addresses_receive x s w reply
  preferences := Core.preferences_receives (receives_receive x s w reply)
  held := Core.held_receives (receives_receive x s w reply)

/-! ## Editors that are watched -/

/-- The editor that a call has the extension watch, if it does. -/
def watch? (s : Session) (c : Call) : Option Watch :=
  if c.handler = .own .watchEditor ∧ s.Watches c.editor then
    some (.began (s.buffer c.editor).uri c.editor)
  else none

theorem Agrees.watch? (h : s.Agrees s') : s'.watch? = s.watch? := by
  funext c
  obtain ⟨hUri, hSyntax⟩ := h.buffer c.editor
  have hWatches : s'.Watches c.editor ↔ s.Watches c.editor := by
    unfold Watches
    rw [hSyntax, h.preferences]
  simp only [Session.watch?, hUri, hWatches]

theorem watchedBy_eq (hHeld : s.held = true) (occasion : Occasion) (h : Handler) (editor : Nat) :
    s.watchedBy h editor = (s.watch? ⟨occasion, h, editor⟩).toList := by
  have hAlive : s.alive = true := by simp [alive, hHeld]
  unfold watchedBy watch?
  simp only [hAlive, true_and]
  split <;> rfl

theorem watchedIn_eq (hHeld : s.held = true) (occasion : Occasion) (editor : Nat)
    (handlers : List Handler) :
    s.watchedIn x editor handlers =
      (Call.all occasion editor (s.ran x editor handlers)).filterMap s.watch? := by
  induction handlers generalizing s with
  | nil => rfl
  | cons h rest ih =>
    -- Whatever the first handler does, the others are judged as it was.
    have hAgrees := agrees_runHandler x s h editor
    have hCons : ∀ left, (Call.all occasion editor (h :: left)).filterMap s.watch? =
        s.watchedBy h editor ++ (Call.all occasion editor left).filterMap s.watch? := by
      intro left
      rw [watchedBy_eq hHeld occasion, Call.all, List.map_cons, List.filterMap_cons]
      cases s.watch? ⟨occasion, h, editor⟩ <;> rfl
    unfold watchedIn ran
    rw [hCons]
    rcases hRun : s.runHandler x h editor with ⟨s', _ | w⟩
    · rw [hRun] at hAgrees
      have hRest : s'.watchedIn x editor rest =
          (Call.all occasion editor (s'.ran x editor rest)).filterMap s.watch? :=
        hAgrees.watch? ▸ ih (hAgrees.held.trans hHeld)
      exact congrArg (s.watchedBy h editor ++ ·) hRest
    · rfl

theorem watchedOn_eq (hHeld : s.held = true) (rest : Rest) :
    s.watchedOn x rest = (s.made x rest).filterMap s.watch? := by
  cases rest with
  | nothing => rfl
  | dispatch editor handlers => exact watchedIn_eq hHeld .added editor handlers
  | save editor handlers => exact watchedIn_eq hHeld .saving editor handlers

theorem watchedAfter_eq {r : Session × Option Wait} (hAgrees : s.Agrees r.1) (hHeld : s.held = true)
    (rest : Rest) : watchedAfter x r rest = (madeAfter x r rest).filterMap s.watch? := by
  obtain ⟨s', _ | w⟩ := r
  · rw [← hAgrees.watch?]
    exact watchedOn_eq (hAgrees.held.trans hHeld) rest
  · rfl

end Session

/-- Whether a move is one in which someone else opens a document, registers a handler or disposes of a
registration. -/
def Move.registers : Move → Bool
  | .openEditor _ | .register _ _ _ | .onEditorAdded _ _ | .onWillSave _ _ | .dispose _ => true
  | _ => false

namespace Stage

variable {x : Surroundings} {g : Stage}

/-- What a move does about the editors that are watched: it has those watched which it tells the
extension of and which are to be watched, and a deactivation ends all. -/
def watched (x : Surroundings) (g : Stage) (m : Move) : List Watch :=
  (calls x g m).filterMap g.session.watch? ++
    match m with
    | .deactivate => [.ended]
    | _ => []

/-- Only a document that is opened brings another address. -/
theorem addresses_play (x : Surroundings) (g : Stage) {m : Move} (hm : ∀ b, m ≠ .openEditor b) :
    (g.play x m).session.addresses = g.session.addresses := by
  by_cases hEdits : g.Edits m
  · cases m with
    | openEditor b => exact absurd rfl (hm b)
    | edit editor e replacement => exact Session.addresses_edit g.session editor e replacement
    | reply number answer =>
      obtain ⟨t, ht, -⟩ := hEdits
      have ht : g.waiting[number]? = some t := ht
      unfold play
      dsimp only
      rw [ht]
      dsimp only
      rw [Session.addresses_congr ((documents_after _ _).trans (Session.documents_resume x _ t _))]
      refine (Session.addresses_receive x _ t.wait _).trans ?_
      split <;> rfl
    | _ => exact hEdits.elim
  · exact Session.addresses_congr (documents_play x g hEdits)

theorem registry_settle_nothing (x : Surroundings) (waiting : List Suspended)
    (r : Session × Option Wait) :
    (after waiting (Session.settle x r .nothing)).session.registry = r.1.registry := by
  rw [session_after]
  obtain ⟨s, _ | w⟩ := r
  · rfl
  · exact Session.registry_suspend s w .nothing

theorem alters_settle_nothing (x : Surroundings) (waiting : List Suspended)
    (r : Session × Option Wait) :
    r.1.Alters [] (after waiting (Session.settle x r .nothing)).session :=
  Session.alters_of_eq (registry_settle_nothing x waiting r)

/-- **What a move of the extension does with the registries.** -/
theorem alters_play (x : Surroundings) (hHeld : g.session.held = true) {m : Move}
    (hm : m.registers = false) : g.session.Alters (watched x g m) (g.play x m).session := by
  have hBegun : ∀ {ws : List Watch} {r : Session × Option Wait}, g.session.Alters ws r.1 →
      g.session.Alters ws (after g.waiting (Session.settle x r .nothing)).session := by
    intro ws r hr
    exact Registry.Alters.then hr (alters_settle_nothing x g.waiting r)
  have hGoes : ∀ (rest : Rest) {m : Move}, calls x g m = g.session.made x rest →
      watched x g m = (calls x g m).filterMap g.session.watch? ++ [] →
      g.session.Alters (watched x g m) (after g.waiting (g.session.goOn x rest)).session := by
    intro rest m hCalls hWatched
    rw [hWatched, hCalls, List.append_nil, ← Session.watchedOn_eq hHeld, session_after]
    exact Session.alters_goOn x g.session rest
  cases m with
  | activate => exact hBegun (Session.alters_beginActivate x g.session)
  | deactivate => exact hBegun (Session.alters_beginDeactivate g.session)
  | restart => exact hBegun (Session.alters_beginRestart x g.session)
  | invoke hub id editor =>
    unfold watched calls due play Session.invoke
    dsimp only
    cases ((g.session.hubs[hub]?).getD {}).commands.handler? id with
    | none => exact Registry.Alters.nothing _
    | some h =>
      have hRun := Session.alters_runHandler x g.session h editor
      rw [Session.watchedBy_eq hHeld .invoked] at hRun
      have hOnly : (Call.all .invoked editor (some h).toList).filterMap g.session.watch? ++ [] =
          (g.session.watch? ⟨.invoked, h, editor⟩).toList := by
        rw [List.append_nil, Call.all, Option.toList_some, List.map_singleton, List.filterMap_cons]
        cases g.session.watch? ⟨.invoked, h, editor⟩ <;> rfl
      rw [hOnly]
      exact hBegun hRun
  | addEditor hub editor => exact hGoes (.dispatch editor _) rfl rfl
  | save editor => exact hGoes (.save editor _) rfl rfl
  | serverStopped client reason =>
    exact Session.alters_of_eq (Session.registry_serverStopped g.session client reason)
  | prompt =>
    have hSame : watched x g .prompt = [] := rfl
    rw [hSame]
    unfold play Session.runPrompt
    dsimp only
    split
    · exact Registry.Alters.nothing _
    · exact hBegun ((Session.alters_beginPrompt _ _).congr rfl)
  | reply number answer =>
    unfold watched calls play
    dsimp only
    cases ht : g.waiting[number]? with
    | none => exact Registry.Alters.nothing _
    | some t =>
      have hReplying : g.session.Agrees (g.replying t) := by
        unfold replying
        split <;> exact ⟨rfl, rfl, rfl⟩
      have hSame : (g.replying t).registry = g.session.registry := by
        unfold replying
        split <;> rfl
      have hReceived := Session.alters_receive x (g.replying t) t.wait (answer t.wait)
      have hAgrees := hReplying.trans
        (Session.agrees_receive x (g.replying t) t.wait (answer t.wait))
      dsimp only
      rw [List.append_nil, ← Session.watchedAfter_eq hAgrees hHeld, session_after]
      exact Registry.Alters.trans (hReceived.congr hSame.symm) (Session.alters_settle x _ t.rest)
  | edit editor e replacement =>
    exact Session.alters_of_eq (Session.registry_edit g.session editor e replacement)
  | changeSettings | changeFiles => exact Registry.Alters.nothing _
  | openEditor | register | onEditorAdded | onWillSave | dispose => cases hm

/-! ## Preferences of a run -/

theorem preferences_settle (x : Surroundings) (waiting : List Suspended) (rest : Rest)
    (r : Session × Option Wait) :
    (after waiting (Session.settle x r rest)).session.extension.preferences =
      r.1.extension.preferences := by
  obtain ⟨w, hSame, -⟩ := after_settle (x := x)
    (J := fun k _ => k.extension.preferences = r.1.extension.preferences)
    (fun k r hk hHandles => (Core.preferences_handles hHandles).trans hk) waiting rest rfl
  exact hSame

/-- Only an activation takes over preferences. -/
theorem preferences_play (x : Surroundings) (g : Stage) {m : Move} (hm : m ≠ .activate) :
    (g.play x m).session.extension.preferences = g.session.extension.preferences := by
  have hOutside : ∀ {m : Move}, m.isOutside = true →
      (g.play x m).session.extension.preferences = g.session.extension.preferences := by
    intro m hm
    obtain ⟨⟨rs, told, hCore⟩, -⟩ := play_outside x g hm
    exact congrArg (·.extension.preferences) hCore
  cases m with
  | activate => exact absurd rfl hm
  | deactivate =>
    have hCore : g.session.beginDeactivate.1.core = g.session.core.deactivated.1 :=
      congrArg Prod.fst (Session.coreOf_beginDeactivate g.session)
    have hBegun : g.session.beginDeactivate.1.extension.preferences =
        g.session.core.deactivated.1.extension.preferences :=
      congrArg (·.extension.preferences) hCore
    have hPlay : g.play x .deactivate =
        after g.waiting (Session.settle x g.session.beginDeactivate .nothing) := rfl
    rw [hPlay, preferences_settle, hBegun]
    unfold Core.deactivated
    split <;> rfl
  | restart =>
    exact (preferences_settle x _ _ _).trans <|
      Core.preferences_handles (.restarted (Session.restarts_beginRestart x g.session))
  | invoke hub id editor =>
    unfold play Session.invoke
    dsimp only
    split
    · rfl
    · exact (preferences_settle x _ _ _).trans <|
        Core.preferences_handles (Session.handles_runHandler x g.session _ editor)
  | addEditor hub editor => exact preferences_settle x _ _ (g.session, none)
  | save editor => exact preferences_settle x _ _ (g.session, none)
  | prompt =>
    rcases play_prompt x g with ⟨-, hPlay⟩ | ⟨reason, rest, -, r, hPlay, hr⟩
    · rw [hPlay]
    · rw [hPlay]
      exact (preferences_settle x _ _ r).trans (congrArg (·.1.extension.preferences) hr)
  | reply number answer =>
    rcases play_reply x g number answer with ⟨-, hPlay⟩ | ⟨t, -, r, hPlay, hReceives⟩
    · rw [hPlay]
    · rw [hPlay]
      exact (preferences_settle x _ _ r).trans (Core.preferences_receives hReceives)
  | serverStopped | dispose | openEditor | edit | register | onEditorAdded | onWillSave
    | changeSettings | changeFiles => exact hOutside rfl

theorem preferences_activate (x : Surroundings) (hPhase : g.session.extension.phase = .inactive) :
    (g.play x .activate).session.extension.preferences =
      .resolve g.session.workspaceSettings g.session.globalSettings := by
  have hPlay : g.play x .activate =
      after g.waiting (Session.settle x (g.session.beginActivate x) .nothing) := rfl
  rw [hPlay, preferences_settle]
  unfold Session.beginActivate
  rw [if_neg fun hOther => hOther hPhase]
  dsimp only
  generalize hNoted : (Session.mapExtension _ _ : Session) = noted
  have hBegins : (noted.registerAll.beginStartup x).1.extension.preferences =
      noted.registerAll.extension.preferences :=
    Core.preferences_begins (Session.begins_beginStartup x noted.registerAll)
  rw [hBegins, ← hNoted]
  split <;> rfl

theorem preferences_playAll (x : Surroundings) {moves : List Move} (hMoves : .activate ∉ moves) :
    (g.playAll x moves).session.extension.preferences = g.session.extension.preferences := by
  induction moves generalizing g with
  | nil => rfl
  | cons m moves ih =>
    obtain ⟨hFirst, hRest⟩ := List.ne_and_not_mem_of_not_mem_cons hMoves
    exact (ih hRest).trans (preferences_play x g (Ne.symm hFirst))

end Stage

end ExtensionHost
