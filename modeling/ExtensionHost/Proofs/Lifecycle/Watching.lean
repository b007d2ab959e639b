import ExtensionHost.Proofs.Lifecycle.Attribution

/-!
# Which editors are watched

The extension keeps one registration for each address: that of the editor which it watched last. Watching
another editor with the address disposes of the one before. So of all editors exactly those are formatted
before they are saved that were watched last under the addresses of their documents, once each
(`Registry.Watched`). Everything that the extension does with registries preserves this, and so does
what others do, as long as they dispose of registrations of their own only.
-/

namespace ExtensionHost

/-- The editor that was watched last under an address, since all handlers went. -/
def Watch.latest? (uri : String) (ws : List Watch) : Option Nat :=
  ws.foldl (fun last w =>
    match w with
    | .began uri' editor => if uri' = uri then some editor else last
    | .ended => none) none

theorem Watch.latest?_began (uri uri' : String) (editor : Nat) (ws : List Watch) :
    Watch.latest? uri (ws ++ [.began uri' editor]) =
      if uri' = uri then some editor else Watch.latest? uri ws := by
  rw [latest?, List.foldl_append]
  rfl

theorem Watch.latest?_ended (uri : String) (ws : List Watch) :
    Watch.latest? uri (ws ++ [.ended]) = none := by
  rw [latest?, List.foldl_append]
  rfl

/-- The editors of a list were watched under their addresses. -/
def Watch.Addressed (address : Nat → String) (ws : List Watch) : Prop :=
  ∀ uri editor, .began uri editor ∈ ws → uri = address editor

theorem Watch.addressed_append {address : Nat → String} {ws ws' : List Watch} :
    Watch.Addressed address (ws ++ ws') ↔ Watch.Addressed address ws ∧ Watch.Addressed address ws' := by
  constructor
  · intro h
    exact ⟨fun uri editor hMem => h uri editor (List.mem_append_left _ hMem),
      fun uri editor hMem => h uri editor (List.mem_append_right _ hMem)⟩
  · rintro ⟨h, h'⟩ uri editor hMem
    exact (List.mem_append.mp hMem).elim (h uri editor) (h' uri editor)

namespace Registry

variable {c c' : Registry} {address : Nat → String} {ws : List Watch}

/-! ## The extension's handlers on an editor -/

/-- The handlers of the extension that run before an editor is saved, under their numbers. -/
def ownBefore (c : Registry) (editor : Nat) : List (Nat × Handler) :=
  (c.beforeSave editor).entries.filter fun e => e.2.isOwn

theorem mem_ownBefore {editor : Nat} {e : Nat × Handler} (h : e ∈ c.ownBefore editor) :
    c.Holds e.2 (.willSave editor e.1) ∧ e.2.isOwn = true := List.mem_filter.mp h

theorem ownBefore_congr (h : c'.beforeSave = c.beforeSave) : c'.ownBefore = c.ownBefore := by
  funext editor
  rw [ownBefore, h]
  rfl

theorem ownBefore_drops (rs : List Registration) (editor : Nat) :
    (c.drops rs).ownBefore editor =
      (c.ownBefore editor).filter fun e => .willSave editor e.1 ∉ rs := by
  rw [ownBefore, beforeSave_drops, Listeners.entries_dropsOn, List.filter_comm]
  rfl

theorem ownBefore_registerWillSave {editor : Nat} (hEditor : editor < c.willSave.length) (h : Handler)
    (i : Nat) :
    (c.registerWillSave editor h).ownBefore i =
      if editor = i ∧ h.isOwn = true then
        c.ownBefore i ++ [(((c.beforeSave i).add h).2, h)]
      else c.ownBefore i := by
  rw [ownBefore, beforeSave_registerWillSave hEditor]
  by_cases hSame : editor = i
  · subst hSame
    cases hOwn : h.isOwn <;> simp [ownBefore, Listeners.add, hOwn]
  · simp [ownBefore, hSame]

/-- The extension's handlers on an editor stay when registrations are disposed of under which no handler
of the extension stands there. -/
theorem ownBefore_drops_of_notMem {rs : List Registration} {editor : Nat}
    (h : ∀ e ∈ c.ownBefore editor, .willSave editor e.1 ∉ rs) :
    (c.drops rs).ownBefore editor = c.ownBefore editor := by
  rw [ownBefore_drops]
  exact List.filter_eq_self.mpr fun e he => decide_eq_true (h e he)

/-! ## Watched editors -/

/-- The extension formats editors before they are saved exactly as the editors say that it watched, when
editors have addresses. -/
structure Watched (address : Nat → String) (ws : List Watch) (c : Registry) : Prop where
  /-- On clients there are only registrations of listeners. -/
  clients : ∀ r ∈ c.onClients, r.isDidStop = true
  /-- The editor that was watched last under an address has one handler of the extension, and the
  extension keeps its registration under the address. -/
  found : ∀ uri editor, Watch.latest? uri ws = some editor →
    address editor = uri ∧ ∃ number,
      Keyed.find? uri c.onEditors = some (.willSave editor number) ∧
        c.ownBefore editor = [(number, .own .formatDocument)]
  /-- Where no editor is watched, nothing is kept. -/
  absent : ∀ uri, Watch.latest? uri ws = none → Keyed.find? uri c.onEditors = none
  /-- Every other editor has no handler of the extension. -/
  others : ∀ editor, Watch.latest? (address editor) ws ≠ some editor → c.ownBefore editor = []

/-- The format handler runs before an editor is saved exactly once if the editor was watched last under
its address, and otherwise never. -/
theorem Watched.count_formatDocument (h : c.Watched address ws) (editor : Nat) :
    (c.beforeSave editor).snapshot.count (.own .formatDocument) =
      if Watch.latest? (address editor) ws = some editor then 1 else 0 := by
  have hOwn : (c.beforeSave editor).snapshot.count (.own .formatDocument) =
      ((c.ownBefore editor).map Prod.snd).count (.own .formatDocument) := by
    rw [Listeners.snapshot, List.count_eq_countP, List.count_eq_countP, List.countP_map,
      List.countP_map, ownBefore, List.countP_filter]
    refine List.countP_congr fun e _ => ?_
    rcases e with ⟨number, role | other⟩ <;> simp [Handler.isOwn]
  rw [hOwn]
  split
  · rename_i hLatest
    obtain ⟨-, number, -, hOnly⟩ := h.found _ editor hLatest
    rw [hOnly]
    rfl
  · rename_i hOther
    rw [h.others editor hOther]
    rfl

theorem Watched.congr (h : c.Watched address ws) (hSave : c'.ownBefore = c.ownBefore)
    (hEditors : c'.onEditors = c.onEditors) (hClients : ∀ r ∈ c'.onClients, r.isDidStop = true) :
    c'.Watched address ws where
  clients := hClients
  found uri editor := by
    rw [hEditors, hSave]
    exact h.found uri editor
  absent uri := by
    rw [hEditors]
    exact h.absent uri
  others editor := by
    rw [hSave]
    exact h.others editor

/-- What the extension keeps on editors are registrations of handlers there. -/
theorem Watched.willSave_of_find? (h : c.Watched address ws) {uri : String} {r : Registration}
    (hFound : Keyed.find? uri c.onEditors = some r) :
    ∃ editor number, Watch.latest? uri ws = some editor ∧ r = .willSave editor number ∧
      c.ownBefore editor = [(number, .own .formatDocument)] := by
  cases hLatest : Watch.latest? uri ws with
  | none =>
    rw [h.absent uri hLatest] at hFound
    cases hFound
  | some editor =>
    obtain ⟨-, number, hKept, hOnly⟩ := h.found uri editor hLatest
    rw [hKept] at hFound
    exact ⟨editor, number, rfl, (Option.some.inj hFound).symm, hOnly⟩

/-- The registration that is kept under an address is that of the extension's handler on an editor with
the address. -/
theorem Watched.mem_find?_iff (h : c.Watched address ws) (uri : String) {editor : Nat}
    {e : Nat × Handler} (he : e ∈ c.ownBefore editor) :
    .willSave editor e.1 ∈ (Keyed.find? uri c.onEditors).toList ↔ address editor = uri := by
  rw [Option.mem_toList]
  constructor
  · intro hFound
    obtain ⟨editor', number, hLatest, hSame, -⟩ := h.willSave_of_find? hFound
    cases hSame
    exact (h.found uri editor hLatest).1
  · rintro rfl
    have hLatest : Watch.latest? (address editor) ws = some editor := by
      by_contra hOther
      rw [h.others editor hOther] at he
      cases he
    obtain ⟨-, number, hFound, hOnly⟩ := h.found _ editor hLatest
    rw [hOnly, List.mem_singleton] at he
    rw [he]
    exact hFound

/-- The extension's handlers on an editor after one was watched: the others with its address have none,
and it has a new one. -/
theorem Watched.ownBefore_watch (h : c.Watched address ws) (hAttributed : c.Attributed) {editor : Nat}
    (hEditor : editor < c.willSave.length) (i : Nat) :
    (c.watch (address editor) editor).ownBefore i =
      (if address i = address editor then [] else c.ownBefore i) ++
        if editor = i then
          [(((c.beforeSave editor).add (.own .formatDocument)).2, .own .formatDocument)]
        else [] := by
  have hOld : (c.ownBefore i).filter (fun e =>
      .willSave i e.1 ∉ (Keyed.find? (address editor) c.onEditors).toList) =
        if address i = address editor then [] else c.ownBefore i := by
    split
    · rename_i hSame
      refine List.filter_eq_nil_iff.mpr fun e he hKept => ?_
      exact of_decide_eq_true hKept ((h.mem_find?_iff _ he).mpr hSame)
    · rename_i hOther
      refine List.filter_eq_self.mpr fun e he => decide_eq_true ?_
      exact fun hMem => hOther ((h.mem_find?_iff _ he).mp hMem)
  -- The new registration was not issued before, so it is not the one that goes.
  have hNew : .willSave editor ((c.beforeSave editor).add (.own .formatDocument)).2 ∉
      (Keyed.find? (address editor) c.onEditors).toList := by
    intro hMem
    obtain ⟨editor', number, -, hSame, hOnly⟩ := h.willSave_of_find? (Option.mem_toList.mp hMem)
    cases hSame
    have hHolds := (mem_ownBefore (hOnly ▸ List.mem_singleton_self _)).1
    exact Nat.not_succ_le_self _ (hAttributed.standing _ _ hHolds)
  rw [← hOld, watch]
  refine (ownBefore_drops _ i).trans ?_
  change List.filter _ ((c.registerWillSave editor (.own .formatDocument)).ownBefore i) = _
  rw [ownBefore_registerWillSave hEditor]
  by_cases hSame : editor = i
  · subst hSame
    rw [if_pos ⟨rfl, rfl⟩, if_pos rfl, List.filter_append]
    refine congrArg (List.filter _ _ ++ ·) (List.filter_eq_self.mpr fun e he => ?_)
    exact decide_eq_true (List.mem_singleton.mp he ▸ hNew)
  · rw [if_neg fun hBoth => hSame hBoth.1, if_neg hSame, List.append_nil]

/-- An editor is watched under its address: the one that was watched there before is not any more. -/
theorem Watched.watch (h : c.Watched address ws) (hAttributed : c.Attributed) {editor : Nat}
    (hEditor : editor < c.willSave.length) :
    (c.watch (address editor) editor).Watched address
      (ws ++ [.began (address editor) editor]) where
  clients := h.clients
  found uri editor' hLatest := by
    rw [Watch.latest?_began] at hLatest
    rw [h.ownBefore_watch hAttributed hEditor]
    split at hLatest
    · rename_i hSame
      cases hLatest
      subst hSame
      refine ⟨rfl, _, Keyed.find?_insert_self _ _ _, ?_⟩
      rw [if_pos rfl, if_pos rfl]
      rfl
    · rename_i hOther
      obtain ⟨rfl, number, hFound, hOnly⟩ := h.found uri editor' hLatest
      refine ⟨rfl, number, ?_, ?_⟩
      · exact (Keyed.find?_insert_of_ne (Ne.symm hOther) _ _).trans hFound
      · rw [if_neg (Ne.symm hOther), if_neg fun hSame => hOther (congrArg address hSame), hOnly]
        rfl
  absent uri hLatest := by
    rw [Watch.latest?_began] at hLatest
    split at hLatest
    · cases hLatest
    · rename_i hOther
      exact (Keyed.find?_insert_of_ne (Ne.symm hOther) _ _).trans (h.absent uri hLatest)
  others editor' hLatest := by
    rw [Watch.latest?_began] at hLatest
    rw [h.ownBefore_watch hAttributed hEditor]
    split at hLatest
    · rename_i hSame
      rw [if_pos hSame.symm, if_neg fun hEq => hLatest (congrArg some hEq)]
      rfl
    · rename_i hOther
      rw [if_neg (Ne.symm hOther), if_neg fun hSame => hOther (congrArg address hSame),
        h.others editor' hLatest]
      rfl

theorem Watched.cleared (h : c.Attributed) : c.cleared.Watched address (ws ++ [.ended]) where
  clients := nofun
  found uri editor hLatest := by
    rw [Watch.latest?_ended] at hLatest
    cases hLatest
  absent uri _ := rfl
  others editor _ := by
    refine (ownBefore_drops _ editor).trans (List.filter_eq_nil_iff.mpr fun e he hKept => ?_)
    obtain ⟨hHolds, hOwn⟩ := mem_ownBefore (c := c) he
    exact of_decide_eq_true hKept ((h.own _ _ hHolds).mp hOwn)

theorem Watched.releaseClients (h : c.Watched address ws) : c.releaseClients.Watched address ws := by
  refine h.congr ?_ rfl nofun
  funext editor
  refine ownBefore_drops_of_notMem fun e _ hMem => ?_
  cases h.clients _ (List.mem_reverse.mp hMem)

/-- **Whatever the extension does, it formats the editors that it watched last.** -/
theorem Watched.alters {began : List Watch} (h : c.Watched address ws) (hAttributed : c.Attributed)
    (hAlters : c.Alters began c') (hAddress : Watch.Addressed address began) :
    c'.Watched address (ws ++ began) := by
  induction hAlters generalizing ws with
  | nothing c => exact (List.append_nil ws).symm ▸ h
  | addCommand c id role =>
    rw [List.append_nil]
    exact h.congr rfl rfl h.clients
  | addListener c =>
    rw [List.append_nil]
    exact h.congr rfl rfl h.clients
  | listen c hr =>
    rw [List.append_nil]
    refine h.congr rfl rfl fun r hMem => ?_
    rcases List.mem_append.mp hMem with hOld | hNew
    · exact h.clients r hOld
    · exact List.mem_singleton.mp hNew ▸ hr
  | releaseClients c =>
    rw [List.append_nil]
    exact h.releaseClients
  | watch c uri hEditor =>
    obtain rfl := hAddress uri _ (List.mem_singleton_self _)
    exact h.watch hAttributed hEditor
  | clear c => exact Watched.cleared hAttributed
  | trans hFirst hSecond ih ih' =>
    obtain ⟨hFirstAddress, hSecondAddress⟩ := Watch.addressed_append.mp hAddress
    rw [← List.append_assoc]
    exact ih' (ih h hAttributed hFirstAddress) (hAttributed.alters hFirst) hSecondAddress

/-! ## The listener for added editors -/

/-- The extension is told of added editors. -/
def Listening (c : Registry) : Prop :=
  ∃ number, c.Holds (.own .watchEditor) (.editorAdded Session.ownHub number)

theorem Listening.drops (h : c.Listening) (hSorted : c.Sorted) {rs : List Registration}
    (hOther : ∀ hub number, .editorAdded hub number ∉ rs) : (c.drops rs).Listening := by
  obtain ⟨number, hHolds⟩ := h
  exact ⟨number, (holds_drops hSorted).mpr ⟨hHolds, hOther _ _⟩⟩

theorem Listening.congr (h : c.Listening) (hSame : c'.editorAdded = c.editorAdded) : c'.Listening := by
  obtain ⟨number, hHolds⟩ := h
  refine ⟨number, ?_⟩
  unfold Holds
  rw [hSame]
  exact hHolds

theorem Listening.registerEditorAdded (h : c.Listening) {hub : Nat} (hHub : hub < c.hubs.length)
    (handler : Handler) : (c.registerEditorAdded hub handler).Listening := by
  obtain ⟨number, hHolds⟩ := h
  refine ⟨number, ?_⟩
  change (_, _) ∈ ((c.registerEditorAdded hub handler).editorAdded Session.ownHub).entries
  rw [editorAdded_registerEditorAdded hHub]
  split
  · exact List.mem_append_left _ hHolds
  · exact hHolds

theorem listening_addListener (hHub : Session.ownHub < c.hubs.length) : c.addListener.Listening := by
  refine ⟨((c.editorAdded Session.ownHub).add (.own .watchEditor)).2, ?_⟩
  change (_, _) ∈ ((c.registerEditorAdded Session.ownHub _).editorAdded Session.ownHub).entries
  rw [editorAdded_registerEditorAdded hHub, if_pos rfl]
  exact List.mem_append_right _ (List.mem_singleton_self _)

/-- The extension is told of added editors as long as it is not deactivated. -/
theorem Listening.alters {began : List Watch} (h : c.Listening) (hAttributed : c.Attributed)
    (hWatched : c.Watched address ws) (hAlters : c.Alters began c')
    (hAddress : Watch.Addressed address began) (hActive : .ended ∉ began) : c'.Listening := by
  induction hAlters generalizing ws with
  | nothing c => exact h
  | addCommand c id role => exact h.congr (editorAdded_registerCommand c _ id _)
  | addListener c => exact listening_addListener hAttributed.hosted
  | listen c hr => exact h
  | releaseClients c =>
    refine Listening.drops (c := { c with onClients := [] }) h hAttributed.sorted fun hub number hMem => ?_
    cases hWatched.clients _ (List.mem_reverse.mp hMem)
  | @watch c uri editor hEditor =>
    refine Listening.drops (c := { c.registerWillSave editor (.own .formatDocument) with
      onEditors := _ }) h hAttributed.sorted fun hub number hMem => ?_
    obtain ⟨_, _, _, hSame, _⟩ := hWatched.willSave_of_find? (Option.mem_toList.mp hMem)
    cases hSame
  | clear c => exact absurd (List.mem_singleton_self _) hActive
  | trans hFirst hSecond ih ih' =>
    obtain ⟨hFirstAddress, hSecondAddress⟩ := Watch.addressed_append.mp hAddress
    refine ih' (ih h hAttributed hWatched hFirstAddress ?_) (hAttributed.alters hFirst)
      (hWatched.alters hAttributed hFirst hFirstAddress) hSecondAddress ?_
    · exact fun hMem => hActive (List.mem_append_left _ hMem)
    · exact fun hMem => hActive (List.mem_append_right _ hMem)

end Registry

end ExtensionHost
