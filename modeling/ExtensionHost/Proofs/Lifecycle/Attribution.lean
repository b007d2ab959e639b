import ExtensionHost.Proofs.Lifecycle.Alterations

/-!
# Whose registrations are whose

Whatever the extension does leaves the registries of a session attributed, and so does everything that
others may do: they register handlers of their own, open documents and dispose of registrations.
-/

namespace ExtensionHost

/-- Attributed registries stay attributed, whatever the extension does with them. -/
theorem Registry.Attributed.alters {c c' : Registry} {ws : List Watch} (h : c.Attributed)
    (hAlters : c.Alters ws c') : c'.Attributed := by
  induction hAlters with
  | nothing c => exact h
  | addCommand c id role =>
    exact h.addOwn ((adds_registerCommand h.hosted id (.own role)).keep _ _ _)
      (List.length_modify _ _ _) h.sortedEditors (mem_kept_add c _) fun _ => rfl
  | addListener c =>
    exact h.addOwn ((adds_registerEditorAdded h.hosted (.own .watchEditor)).keep _ _ _)
      (List.length_modify _ _ _) h.sortedEditors (mem_kept_add c _) nofun
  | listen c hr => exact h.listens hr
  | releaseClients c => exact h.releaseClients
  | watch c uri hEditor =>
    exact h.watches uri (adds_registerWillSave hEditor (.own .formatDocument)) rfl rfl rfl
  | clear c => exact h.cleared
  | trans _ _ ih ih' => exact ih' (ih h)

namespace Session

/-- The registries of a session are attributed. -/
def Attributed (s : Session) : Prop := s.registry.Attributed

/-- Nothing runs before an editor is saved that was just opened. -/
theorem beforeSave_openEditor (s : Session) (buffer : Buffer) :
    ({ s with editors := s.editors ++ [{ buffer }] } : Session).registry.beforeSave =
      s.registry.beforeSave := by
  funext i
  rw [beforeSave_eq, beforeSave_eq]
  rcases Nat.lt_trichotomy i s.editors.length with hi | hi | hi
  · simp [List.getElem?_append_left hi]
  · subst hi
    simp
  · rw [List.getElem?_eq_none (by simp; omega), List.getElem?_eq_none (by omega)]

namespace Attributed

variable {s s' : Session}

theorem alters (h : s.Attributed) {ws : List Watch} (hAlters : s.Alters ws s') : s'.Attributed :=
  Registry.Attributed.alters h hAlters

theorem congr (h : s.Attributed) (hSame : s'.registry = s.registry) : s'.Attributed :=
  h.alters (alters_of_eq hSame)

/-! ## What others do -/

theorem dispose (h : s.Attributed) (r : Registration) : (s.dispose r).Attributed := by
  unfold Attributed
  rw [registry_dispose]
  exact Registry.Attributed.release h [r] rfl rfl h.sortedEditors (fun _ hr => hr)
    fun _ hr _ => hr

theorem openEditor (h : s.Attributed) (buffer : Buffer) :
    ({ s with editors := s.editors ++ [{ buffer }] } : Session).Attributed := by
  have hSave := beforeSave_openEditor s buffer
  have hHolds : ∀ handler r, Registry.Holds
      ({ s with editors := s.editors ++ [{ buffer }] } : Session).registry handler r ↔
        s.registry.Holds handler r := by
    intro handler r
    cases r with
    | willSave => simp only [Registry.Holds, hSave]
    | _ => exact Iff.rfl
  have hIssued : ∀ r, Registry.Issued
      ({ s with editors := s.editors ++ [{ buffer }] } : Session).registry r ↔
        s.registry.Issued r := by
    intro r
    cases r with
    | willSave => simp only [Registry.Issued, hSave]
    | _ => exact Iff.rfl
  exact {
    hosted := h.hosted
    sorted := h.sorted
    sortedEditors := h.sortedEditors
    standing := fun handler r hr => (hIssued r).mpr (h.standing handler r ((hHolds handler r).mp hr))
    issued := fun r hr => (hIssued r).mpr (h.issued r hr)
    own := fun handler r hr => h.own handler r ((hHolds handler r).mp hr)
    restart := fun r hr => h.restart r ((hHolds _ r).mp hr) }

theorem register (h : s.Attributed) (hub : Nat) (id : String) (other : Nat) :
    (s.registerCommand hub id (.other other)).1.Attributed := by
  rcases Nat.lt_or_ge hub s.hubs.length with hHub | hHub
  · exact Registry.Attributed.addOther h (Registry.adds_registerCommand hHub id (.other other))
      (List.length_modify _ _ _) rfl rfl
  · unfold Attributed registerCommand
    rw [List.modify_eq_self hHub]
    exact h

theorem onEditorAdded (h : s.Attributed) (hub other : Nat) :
    (s.registerEditorAdded hub (.other other)).1.Attributed := by
  rcases Nat.lt_or_ge hub s.hubs.length with hHub | hHub
  · exact Registry.Attributed.addOther h (Registry.adds_registerEditorAdded hHub (.other other))
      (List.length_modify _ _ _) rfl rfl
  · unfold Attributed registerEditorAdded
    rw [List.modify_eq_self hHub]
    exact h

theorem onWillSave (h : s.Attributed) (editor other : Nat) :
    (s.registerWillSave editor (.other other)).1.Attributed := by
  rcases Nat.lt_or_ge editor s.editors.length with hEditor | hEditor
  · have hSave : editor < s.registry.willSave.length := by
      rw [registry, List.length_map]
      exact hEditor
    unfold Attributed
    rw [registry_registerWillSave]
    exact Registry.Attributed.addOther h (Registry.adds_registerWillSave hSave (.other other))
      rfl rfl rfl
  · unfold Attributed registerWillSave
    rw [List.modify_eq_self hEditor]
    exact h

end Attributed

end Session

end ExtensionHost
