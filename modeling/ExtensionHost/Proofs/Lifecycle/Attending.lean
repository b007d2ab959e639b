import ExtensionHost.Proofs.Lifecycle.Failing

/-!
# What attending to the server leaves alone

While the extension attends to its server, starting it, stopping it and asking the user about it, it leaves
alone the documents, the handlers that stand in registries, and the preferences (`Session.Undisturbed`). What
such an operation waits for next is again about the server (`attending_receive`).
-/

namespace ExtensionHost

/-! ## Waits -/

/-- Whether an operation waits for something about the server that it starts, or has started. -/
def Wait.attends : Wait → Bool
  | .chmod _ | .start _ _ | .staleStop _ | .restartStop _ _ | .prompt _ => true
  | _ => false

/-- What is waited for, if anything, is about the server. -/
def Attending (w : Option Wait) : Prop := ∀ w' ∈ w, w'.attends = true

theorem attending_none : Attending none := nofun

namespace Core

variable {k : Core} {r : Core × Option Wait} {w : Wait}

theorem attending_begins (h : k.Begins r) : Attending r.2 := by
  rcases h with rfl | rfl
  · exact attending_none
  · rintro w ⟨⟩
    rfl

/-- After the end of a startup at most the stop of a client is waited for. -/
theorem staleStop_of_endStartup {epoch : Nat} {well : Bool} (h : w ∈ (k.endStartup epoch well).2) :
    ∃ client, w = .staleStop client := by
  by_cases hEpoch : k.extension.epoch = epoch
  · rw [endStartup_current hEpoch] at h
    cases h
  · rw [endStartup_overtaken hEpoch] at h
    split at h
    · cases h
    · cases h
      exact ⟨_, rfl⟩

theorem attending_endStartup (k : Core) (epoch : Nat) (well : Bool) :
    Attending (k.endStartup epoch well).2 := by
  intro w hw
  obtain ⟨client, rfl⟩ := staleStop_of_endStartup hw
  rfl

theorem attending_receives {reply : w.Reply} (h : k.Receives w reply r) : Attending r.2 := by
  cases h with
  | scriptsRefused epoch => exact attending_endStartup k epoch false
  | scriptsExecutable epoch =>
    rintro w ⟨⟩
    rfl
  | started epoch client => exact attending_endStartup _ epoch true
  | startFailed epoch => exact attending_endStartup _ epoch false
  | startPanicked epoch => exact attending_endStartup k epoch false
  | restartStopped _ _ _ _ hBegins => exact attending_begins hBegins
  | promptChosen _ _ _ hBegins => exact attending_begins hBegins
  | _ => exact attending_none

end Core

namespace Session

variable {x : Surroundings} {s s' s'' : Session}

/-- After a reply, whatever it was waited for, at most the server is waited for. -/
theorem attending_receive (x : Surroundings) (s : Session) (w : Wait) (reply : w.Reply) :
    Attending (s.receive x w reply).2 := Core.attending_receives (receives_receive x s w reply)

theorem attending_beginStartup (x : Surroundings) (s : Session) :
    Attending (s.beginStartup x).2 := Core.attending_begins (begins_beginStartup x s)

/-! ## Programs -/

/-- What the extension has run: the program that makes launch scripts executable, and a formatter. -/
inductive Runs : ProcessRequest → Prop where
  | chmod (scripts : List String) :
      Runs { program := "/usr/bin/env", args := "chmod" :: "a+x" :: scripts }
  | formatter (mix : String) (cwd : Option String) (text : List Char) :
      Runs (formatterRequest mix cwd text)

/-- A session in which documents, handlers in registries and preferences are as before, and on clients
the extension keeps registrations of listeners only. -/
structure Undisturbed (s s' : Session) : Prop extends s.Relistens s' where
  documents : s'.documents = s.documents
  preferences : s'.extension.preferences = s.extension.preferences
  held : s'.held = s.held

theorem Undisturbed.trans (h : s.Undisturbed s') (h' : s'.Undisturbed s'') : s.Undisturbed s'' where
  toRelistens := h.toRelistens.trans h'.toRelistens
  documents := h'.documents.trans h.documents
  preferences := h'.preferences.trans h.preferences
  held := h'.held.trans h.held

theorem undisturbed_of_eq (h : s.registry.ListensOnly) (hHubs : s'.hubs = s.hubs)
    (hEditors : s'.editors = s.editors) (hExtension : s'.extension = s.extension)
    (hHeld : s'.held = s.held) : s.Undisturbed s' where
  toRelistens := relistens_of_eq h (by rw [registry, registry, hHubs, hEditors, hExtension])
  documents := by rw [documents, documents, hEditors]
  preferences := by rw [hExtension]
  held := hHeld

end Session

end ExtensionHost
