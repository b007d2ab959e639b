import ExtensionHost.CommandLine.Run
import ExtensionHost.Proofs.CommandLine.Driving
import ExtensionHost.Proofs.Lifecycle.Verdicts

/-!
# Commands on an open document

In a host whose extension is active and that has one document open (`Session.Stands`), a command that
formats succeeds and leaves the document as a verdict says that the one who was asked comes to, and nothing
else changed (`succeeds_invoke`), and saving writes what the document is then (`ends_saveEditor`). When the
document is formatted as it is saved, what is written is what the verdict left.
-/

namespace ExtensionHost

namespace Session

variable {x : Surroundings} {s s' : Session} {preferences : UserPreferences} {b : Buffer}
  {documents : List Buffer} {willSave : List (Listeners Handler)} {handlers : Listeners Handler}

/-! ## An active extension -/

/-- The hubs of a session in which nothing was registered but what an activation registers. -/
def equippedHubs : List Hub := ({} : Session).registerAll.hubs

/-- The extension is active and held, with preferences; documents are open, with handlers that run before
they are saved; and nothing else was registered. -/
structure Stands (preferences : UserPreferences) (documents : List Buffer)
    (willSave : List (Listeners Handler)) (s : Session) : Prop where
  hubs : s.hubs = equippedHubs
  listens : s.registry.ListensOnly
  documents : s.documents = documents
  willSave : s.registry.willSave = willSave
  preferences : s.extension.preferences = preferences
  held : s.held = true

theorem Stands.openEditor (h : s.Stands preferences documents willSave) (buffer : Buffer) :
    ({ s with editors := s.editors ++ [{ buffer }] } : Session).Stands preferences
      (documents ++ [buffer]) (willSave ++ [({} : Listeners Handler)]) where
  hubs := h.hubs
  listens := h.listens
  documents := by
    change List.map Editor.buffer (s.editors ++ [({ buffer } : Editor)]) = _
    rw [List.map_append]
    exact congrArg (· ++ [buffer]) h.documents
  willSave := by
    change List.map Editor.willSave (s.editors ++ [({ buffer } : Editor)]) = _
    rw [List.map_append]
    exact congrArg (· ++ [({} : Listeners Handler)]) h.willSave
  preferences := h.preferences
  held := h.held

theorem Stands.alive (h : s.Stands preferences documents willSave) : s.alive = true := by
  simp [Session.alive, h.held]

theorem Stands.length_editors (h : s.Stands preferences documents willSave) :
    s.editors.length = documents.length := by
  rw [← h.documents, Session.documents, List.length_map]

theorem Stands.buffer (h : s.Stands preferences [b] willSave) : s.buffer 0 = b := by
  rw [buffer_eq_documents, h.documents]
  rfl

/-! ## Formatting -/

/-- The document after a command that formats came to a verdict, or had nothing to ask. -/
def concluded (b : Buffer) : Option Verdict → Buffer
  | none => b
  | some v => v.document b

/-- The reply to a formatting that took all of a document. -/
theorem Stands.receive (x : Surroundings) (h : s.Stands preferences [b] willSave) {w : Wait} {f : Formatting}
    (hWait : w.formatting? = some f) (hEditor : f.editor = 0) (hExtent : f.extent = b.fullExtent)
    (reply : w.Reply) :
    (s.receive x w reply).1.Stands preferences [(w.verdict reply).document b] willSave := by
  have hAgrees := agrees_receive x s w reply
  have hRegistry : (s.receive x w reply).1.registry = s.registry := by
    cases w with
    | formatter mix f => exact registry_applyFormatter s f reply
    | serverEdits f => exact registry_applyServerEdits s f reply
    | _ => cases hWait
  have hConcludes := concludes_receive x s hWait
    (by rw [hEditor, h.length_editors]; exact Nat.one_pos)
    (by rw [hEditor, h.buffer]; exact hExtent) reply
  refine ⟨?_, hRegistry ▸ h.listens, ?_, hRegistry ▸ h.willSave,
    hAgrees.preferences.trans h.preferences, hAgrees.held.trans h.held⟩
  · exact (congrArg Registry.hubs hRegistry).trans h.hubs
  · have hDocument := hConcludes.document
    rw [hEditor, h.buffer, buffer_eq_documents] at hDocument
    have hLength := congrArg List.length hAgrees.addresses
    rw [Session.addresses, Session.addresses, List.length_map, List.length_map, h.documents] at hLength
    obtain ⟨b', hOnly⟩ := List.length_eq_one_iff.mp hLength
    rw [hOnly] at hDocument ⊢
    exact congrArg (fun b => [b]) hDocument

/-! ## Watching -/

/-- Whether a document is formatted when it is saved. -/
def watches (preferences : UserPreferences) (b : Buffer) : Bool :=
  b.syntaxName = some elixirSyntax ∧ preferences.formatsOnSave

/-- An editor that is added is watched if its document is to be formatted when it is saved. -/
theorem Stands.watchEditor (x : Surroundings) (h : s.Stands preferences [b] [({} : Listeners Handler)])
    (hFirst : s.extension.editorRegistrations = []) :
    ∃ handlers : Listeners Handler, (s.watchEditor 0).Stands preferences [b] [handlers] ∧
      handlers.snapshot = if watches preferences b then [.own .formatDocument] else [] := by
  have hRun : (s.runHandler x (.own .watchEditor) 0).1 = s.watchEditor 0 := by
    simp only [runHandler, h.alive, if_true]
  have hAgrees := agrees_runHandler x s (.own .watchEditor) 0
  rw [hRun] at hAgrees
  have hWatches : s.Watches 0 ↔ watches preferences b = true := by
    unfold Watches watches
    rw [h.buffer, h.preferences, decide_eq_true_iff]
  by_cases hWatched : s.Watches 0
  · have hRegistry := registry_watchEditor hWatched
    have hNone : Keyed.find? (s.buffer 0).uri s.registry.onEditors = none := by
      rw [registry, hFirst]
      rfl
    rw [Registry.watch, hNone, Option.toList_none, Registry.drops_nil] at hRegistry
    refine ⟨(({} : Listeners Handler).add (.own .formatDocument)).1, ⟨?_, ?_, ?_, ?_, ?_, ?_⟩, ?_⟩
    · exact (congrArg Registry.hubs hRegistry).trans h.hubs
    · rw [hRegistry]
      exact h.listens
    · exact (documents_watchEditor s 0).trans h.documents
    · rw [hRegistry, Registry.registerWillSave, h.willSave]
      rfl
    · exact hAgrees.preferences.trans h.preferences
    · exact hAgrees.held.trans h.held
    · rw [if_pos (hWatches.mp hWatched)]
      rfl
  · refine ⟨{}, ?_, ?_⟩
    · have hSame : s.watchEditor 0 = s := if_neg hWatched
      rw [hSame]
      exact h
    · rw [if_neg fun hYes => hWatched (hWatches.mpr hYes)]
      rfl

/-! ## Saving -/

/-- A document is saved after the handlers that run before that. -/
theorem Stands.save (h : s.Stands preferences [b] [handlers]) (x : Surroundings) :
    s.save x 0 = s.goOn x (.save 0 handlers.snapshot) := by
  have hBefore := beforeSave_eq s 0
  rw [Registry.beforeSave, h.willSave] at hBefore
  unfold Session.save
  rw [← hBefore]
  rfl

end Session

namespace CommandLine

open Headless

variable {x : Setting} {h : Headless} {preferences : UserPreferences} {b : Buffer}
  {willSave : List (Listeners Handler)} {role : Role}

/-! ## What formatting comes to in a host -/

/-- The verdict on the first document that a command comes to in a host: what the reply says of the one who
is asked, or none if there is nobody to ask. -/
def Comes (x : Setting) (h : Headless) (role : Role) (v : Option Verdict) : Prop :=
  match role.question? x.surroundings h.session 0 with
  | none => v = none
  | some (e, w) => ∃ reply, Replies x h (some e) w reply ∧ v = some (w.verdict reply)

/-- The reply to a formatting depends on the files and on the conversations of a host only. -/
theorem Replies.congr {h' : Headless} {asked : Option Event} {w : Wait} {reply : w.Reply}
    (hReplies : Replies x h' asked w reply) (hFiles : h'.session.files = h.session.files)
    (hConversations : h'.conversations = h.conversations) : Replies x h asked w reply := by
  cases w with
  | formatter mix f =>
    intro request hAsked
    rw [← hFiles]
    exact hReplies request hAsked
  | serverEdits f =>
    intro client method params hAsked
    rw [← hConversations]
    exact hReplies client method params hAsked
  | _ => trivial

/-- A file that is there under a full name. -/
structure Standing (files : Files) (name : String) : Prop where
  full : files.Full name
  file : ∃ content executable, files.entry? name = some (.file content executable)

theorem Standing.matches {files other : Files} {name : String} (h : Standing files name)
    (hMatches : files.Matches other) : Standing other name := by
  obtain ⟨content, executable, hEntry⟩ := h.file
  obtain ⟨e, hOther, hSame⟩ := hMatches.entry? hEntry
  refine ⟨h.full.matches hMatches, ?_⟩
  cases e with
  | directory => cases hSame
  | file content' executable' => exact ⟨content', executable', hOther⟩

end CommandLine

end ExtensionHost
