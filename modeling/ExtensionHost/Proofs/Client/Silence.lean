import ExtensionHost.Proofs.Client.Courses

/-!
# Servers that change no files

A conversation changes files only where its servers do. `Silent` is the invariant that no server that takes
part has changed any; every turn of a conversation keeps it and leaves the files alone
(`Conversation.Spares`), so whatever a conversation comes to does so as well.
-/

namespace ExtensionHost

/-- Whatever a server takes, it changes no files. -/
def Server.Silent (s : Server) : Prop := ∀ taken closed slept, (s taken closed slept).changes = []

namespace Conversation

/-- No server of a conversation changes files, and none has changed any. -/
structure Silent (c : Conversation) : Prop where
  servers : ∀ r, (c.servers r).Silent
  partners : ∀ p ∈ c.partners, p.conduct.changes = []

/-- What happens in a conversation spares the files. -/
structure Spares (c d : Conversation) : Prop where
  files : d.files = c.files
  silent : d.Silent

variable {c d e : Conversation}

theorem Spares.refl (h : c.Silent) : c.Spares c := ⟨rfl, h⟩

theorem Spares.trans (h : c.Spares d) (h' : d.Spares e) : c.Spares e :=
  ⟨h'.files.trans h.files, h'.silent⟩

theorem Silent.partner (h : c.Silent) (r : Nat) : (c.partner r).conduct.changes = [] := by
  unfold Conversation.partner
  cases hPartner : c.partners[r]? with
  | none => rfl
  | some p => exact h.partners p (List.mem_of_getElem? hPartner)

end Conversation

end ExtensionHost
