import ExtensionHost.Proofs.Lifecycle.Attribution
import ExtensionHost.Proofs.Lifecycle.Overtaken

/-!
# Stages that arise in a host

A run begins in a host in which every handler is someone else's and was issued by its registry
(`Session.Pristine`). In every stage of such a run the registries are attributed and only the handler of
a command restarts the server, so nothing that an operation still has to run does (`Stage.Orderly`).
-/

namespace ExtensionHost

/-- A session in which nothing has happened yet. The hub that the extension uses is there; the handlers
in all registries are those of others and were issued by their registries. -/
structure Session.Pristine (s : Session) : Prop extends Session.Fresh s where
  hosted : Session.ownHub < s.hubs.length
  sorted : s.registry.Sorted
  standing : ∀ h r, s.registry.Holds h r → s.registry.Issued r
  others : ∀ h r, s.registry.Holds h r → h.isOwn = false

theorem Session.Pristine.attributed {s : Session} (h : s.Pristine) : s.Attributed := by
  have hNone : s.registry.kept = [] := by
    simp [registry, Registry.kept, h.extension]
  refine ⟨h.hosted, h.sorted, ?_, h.standing, ?_, ?_, ?_⟩
  · simp [registry, h.extension, Keyed.Sorted, Keyed.keys]
  · intro r hr
    rw [hNone] at hr
    cases hr
  · intro handler r hHolds
    rw [hNone, h.others handler r hHolds]
    exact ⟨(fun hOwn => by cases hOwn), (fun hMem => by cases hMem)⟩
  · intro r hHolds
    cases h.others _ r hHolds

theorem Session.pristine_scripted : Session.scripted.Pristine where
  toFresh := Session.fresh_scripted
  hosted := by decide
  sorted hub := by
    have hNone : (Session.scripted.registry.commands hub).entries = [] := by
      rcases hub with _ | hub <;> rfl
    rw [hNone]
    exact List.Pairwise.nil
  standing h r hHolds := by
    cases r with
    | command hub id token => rcases hub with _ | hub <;> cases hHolds
    | editorAdded hub number => rcases hub with _ | hub <;> cases hHolds
    | willSave editor number => cases hHolds
    | didStop => exact hHolds.elim
  others h r hHolds := by
    cases r with
    | command hub id token => rcases hub with _ | hub <;> cases hHolds
    | editorAdded hub number => rcases hub with _ | hub <;> cases hHolds
    | willSave editor number => cases hHolds
    | didStop => exact hHolds.elim

/-- No handler that is left restarts the server, and only an operation with a quiet wait has handlers
left. -/
structure Suspended.Mild (t : Suspended) : Prop where
  handlers : .own .restart ∉ t.rest.handlers
  wait : t.rest = .nothing ∨ t.wait.isQuiet = true

namespace Session

variable {x : Surroundings} {s : Session}

/-! ## What is left to run -/

theorem runHandlers_suffix (x : Surroundings) (s : Session) (editor : Nat)
    (handlers : List Handler) :
    ∀ p ∈ (s.runHandlers x editor handlers).2, p.2 <:+ handlers := by
  induction handlers generalizing s with
  | nil => exact nofun
  | cons h rest ih =>
    unfold runHandlers
    rcases s.runHandler x h editor with ⟨s', _ | w⟩
    · exact fun p hp => (ih s' p hp).trans (List.suffix_cons h rest)
    · rintro p ⟨⟩
      exact List.suffix_cons h rest

theorem runHandlers_isQuiet {handlers : List Handler} (hOther : .own .restart ∉ handlers)
    (editor : Nat) : ∀ p ∈ (s.runHandlers x editor handlers).2, p.1.isQuiet = true := by
  have hCarries : Carries x (fun _ w => ∀ w' ∈ w, Wait.isQuiet w' = true) handlers := by
    refine carries_of_tends ?_ hOther
    intro k r _ hTends
    cases hTends with
    | quiet w hQuiet => exact hQuiet
    | watched => exact nofun
  intro p hp
  exact runHandlers_preserves hCarries editor (s := s) nofun p.1 (Option.mem_map_of_mem Prod.fst hp)

/-- The operation that waits after handlers ran is mild. -/
theorem mild_runHandlers {handlers left : List Handler} {editor : Nat} {s' : Session} {w : Wait}
    (hOther : .own .restart ∉ handlers) (hRun : s.runHandlers x editor handlers = (s', some (w, left)))
    {rest : Rest} (hRest : rest.handlers = left) : Suspended.Mild ⟨w, rest⟩ := by
  have hLeft := runHandlers_suffix x s editor handlers
  have hQuiet := runHandlers_isQuiet (x := x) (s := s) hOther editor
  rw [hRun] at hLeft hQuiet
  refine ⟨?_, Or.inr (hQuiet _ rfl)⟩
  rw [hRest]
  exact fun hMem => hOther ((hLeft _ rfl).subset hMem)

theorem mild_goOn {rest : Rest} (hOther : .own .restart ∉ rest.handlers) {t : Suspended}
    (hWaits : (s.goOn x rest).2 = .waiting t) : t.Mild := by
  cases rest with
  | nothing => cases hWaits
  | dispatch editor handlers =>
    rcases hRun : s.runHandlers x editor handlers with ⟨s', _ | ⟨w, left⟩⟩
    · simp only [goOn, hRun] at hWaits
      cases hWaits
    · simp only [goOn, hRun] at hWaits
      cases hWaits
      exact mild_runHandlers hOther hRun rfl
  | save editor handlers =>
    rcases hRun : s.runHandlers x editor handlers with ⟨s', _ | ⟨w, left⟩⟩
    · simp only [goOn, hRun] at hWaits
      cases hWaits
    · simp only [goOn, hRun] at hWaits
      cases hWaits
      exact mild_runHandlers hOther hRun rfl

theorem mild_settle {r : Session × Option Wait} {rest : Rest}
    (hOther : .own .restart ∉ rest.handlers)
    (hWait : rest = .nothing ∨ ∀ w ∈ r.2, w.isQuiet = true) {t : Suspended}
    (hWaits : (settle x r rest).2 = .waiting t) : t.Mild := by
  obtain ⟨s, _ | w⟩ := r
  · exact mild_goOn hOther hWaits
  · cases hWaits
    exact ⟨hOther, hWait.imp_right fun hQuiet => hQuiet w rfl⟩

/-- An operation with a quiet wait has ended when it has got its reply. -/
theorem receive_of_isQuiet {w : Wait} (hQuiet : w.isQuiet = true) (reply : w.Reply) :
    (s.receive x w reply).2 = none := by
  cases w <;> first | rfl | cases hQuiet

namespace Attributed

/-! ## Handlers in registries -/

theorem restart_notMem_editorAdded (h : s.Attributed) (hub : Nat) :
    .own .restart ∉ ((s.hubs[hub]?).getD {}).editorAdded.snapshot := by
  intro hMem
  obtain ⟨⟨number, handler⟩, hEntry, rfl⟩ := List.mem_map.mp hMem
  cases h.restart (.editorAdded hub number) hEntry

theorem restart_notMem_willSave (h : s.Attributed) (editor : Nat) :
    .own .restart ∉ ((s.editors[editor]?).getD {}).willSave.snapshot := by
  rw [← beforeSave_eq]
  intro hMem
  obtain ⟨⟨number, handler⟩, hEntry, rfl⟩ := List.mem_map.mp hMem
  cases h.restart (.willSave editor number) hEntry

end Attributed

end Session

namespace Stage

variable {x : Surroundings} {g : Stage}

/-! ## Orderly stages -/

/-- The registries of a stage are attributed, and its operations are mild. -/
structure Orderly (g : Stage) : Prop where
  attributed : g.session.Attributed
  mild : ∀ t ∈ g.waiting, t.Mild

theorem orderly_settle {waiting : List Suspended} (hMild : ∀ t ∈ waiting, t.Mild)
    {r : Session × Option Wait} (hr : r.1.Attributed) {rest : Rest}
    (hOther : .own .restart ∉ rest.handlers)
    (hWait : rest = .nothing ∨ ∀ w ∈ r.2, w.isQuiet = true) :
    (after waiting (Session.settle x r rest)).Orderly := by
  have hAttributed := hr.alters (Session.alters_settle x r rest)
  have hNext : ∀ t, (Session.settle x r rest).2 = .waiting t → t.Mild :=
    fun t => Session.mild_settle hOther hWait
  rcases hSettle : Session.settle x r rest with ⟨s, t | ended⟩
  · rw [hSettle] at hAttributed hNext
    refine ⟨hAttributed, ?_⟩
    intro t' ht'
    rcases List.mem_append.mp ht' with hOld | hNew
    · exact hMild t' hOld
    · exact List.mem_singleton.mp hNew ▸ hNext t rfl
  · rw [hSettle] at hAttributed
    exact ⟨hAttributed, hMild⟩

theorem Orderly.play_reply (h : g.Orderly) (number : Nat) (answer : (w : Wait) → w.Reply) :
    (g.play x (.reply number answer)).Orderly := by
  unfold Stage.play
  dsimp only
  split
  · rename_i t ht
    have hMild := h.mild t (List.mem_of_getElem? ht)
    refine orderly_settle ?_ ?_ hMild.handlers ?_
    · exact fun t' ht' => h.mild t' (List.mem_of_mem_eraseIdx ht')
    · refine Session.Attributed.alters ?_ (Session.alters_receive x _ t.wait _)
      split <;> exact h.attributed
    · rcases hMild.wait with hNothing | hQuiet
      · exact Or.inl hNothing
      · right
        rw [Session.receive_of_isQuiet hQuiet]
        exact nofun
  · exact h

theorem Orderly.play (h : g.Orderly) (x : Surroundings) (m : Move) : (g.play x m).Orderly := by
  have hBegun : ∀ {r : Session × Option Wait}, r.1.Attributed →
      (after g.waiting (Session.settle x r .nothing)).Orderly :=
    fun hr => orderly_settle h.mild hr List.not_mem_nil (Or.inl rfl)
  cases m with
  | activate => exact hBegun (h.attributed.alters (Session.alters_beginActivate x _))
  | deactivate => exact hBegun (h.attributed.alters (Session.alters_beginDeactivate _))
  | restart => exact hBegun (h.attributed.alters (Session.alters_beginRestart x _))
  | invoke hub id editor =>
    unfold Stage.play Session.invoke
    dsimp only
    split
    · exact h
    · exact hBegun (h.attributed.alters (Session.alters_runHandler x _ _ editor))
  | addEditor hub editor =>
    exact orderly_settle (r := (g.session, none)) h.mild h.attributed
      (h.attributed.restart_notMem_editorAdded hub) (Or.inr nofun)
  | save editor =>
    exact orderly_settle (r := (g.session, none)) h.mild h.attributed
      (h.attributed.restart_notMem_willSave editor) (Or.inr nofun)
  | serverStopped client reason => exact ⟨h.attributed.congr (Session.registry_serverStopped _ client reason), h.mild⟩
  | prompt =>
    unfold Stage.play Session.runPrompt
    dsimp only
    split
    · exact h
    · refine hBegun (Session.Attributed.alters ?_ (Session.alters_beginPrompt _ _))
      exact h.attributed
  | reply number answer => exact h.play_reply number answer
  | openEditor buffer => exact ⟨h.attributed.openEditor buffer, h.mild⟩
  | edit editor e replacement => exact ⟨h.attributed.congr (Session.registry_edit _ editor e replacement), h.mild⟩
  | register hub id other => exact ⟨h.attributed.register hub id other, h.mild⟩
  | onEditorAdded hub other => exact ⟨h.attributed.onEditorAdded hub other, h.mild⟩
  | onWillSave editor other => exact ⟨h.attributed.onWillSave editor other, h.mild⟩
  | dispose r => exact ⟨h.attributed.dispose r, h.mild⟩
  | changeSettings workspaceSettings globalSettings => exact ⟨h.attributed, h.mild⟩
  | changeFiles files => exact ⟨h.attributed, h.mild⟩

theorem Orderly.playAll (h : g.Orderly) (x : Surroundings) (moves : List Move) :
    (g.playAll x moves).Orderly := by
  induction moves generalizing g with
  | nil => exact h
  | cons m moves ih => exact ih (h.play x m)

/-! ## Stages that arise -/

/-- A stage that some run reaches in a host with the handlers of others. -/
def Arises (x : Surroundings) (g : Stage) : Prop :=
  ∃ s moves, s.Pristine ∧ g = playAll x ⟨s, []⟩ moves

theorem Arises.playAll (h : g.Arises x) (moves : List Move) : (g.playAll x moves).Arises x := by
  obtain ⟨s, first, hPristine, rfl⟩ := h
  exact ⟨s, first ++ moves, hPristine, (playAll_append x _ first moves).symm⟩

theorem Arises.play (h : g.Arises x) (m : Move) : (g.play x m).Arises x := h.playAll [m]

theorem Arises.reached (h : g.Arises x) : g.Reached x := by
  obtain ⟨s, moves, hPristine, rfl⟩ := h
  exact ⟨s, moves, hPristine.toFresh, rfl⟩

theorem Arises.orderly (h : g.Arises x) : g.Orderly := by
  obtain ⟨s, moves, hPristine, rfl⟩ := h
  exact Orderly.playAll ⟨hPristine.attributed, List.forall_mem_nil _⟩ x moves

end Stage

end ExtensionHost
