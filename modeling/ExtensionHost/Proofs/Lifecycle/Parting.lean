import ExtensionHost.Proofs.Lifecycle.Evolution
import ExtensionHost.Proofs.Lifecycle.OnSave

/-!
# Saves after a deactivation

A deactivation takes the handlers of the extension off all editors. `StopsFormatting` claims that none
comes back before the next activation, and that no save runs the format handler. Both fail for operations
under way: they call the handlers that were listed when they began. A dispatch still tells the extension
of the editor, which is then watched anew, and a save still has its document formatted. `windsDown` says
that nothing else does: the extension is told of an editor once for each dispatch that was under way, and
where there was none, no handler comes back and only saves that were under way run the format handler.
-/

namespace ExtensionHost

/-- Whether a call tells the extension that an editor was added. -/
def Call.tells (editor : Nat) (c : Call) : Bool := c.handler = .own .watchEditor ∧ c.editor = editor

namespace Registry

variable {c c' : Registry} {ws : List Watch} {editor : Nat} {e : Nat × Handler}

/-! ## Where handlers on editors come from -/

theorem mem_ownBefore_drops {rs : List Registration} (h : e ∈ (c.drops rs).ownBefore editor) :
    e ∈ c.ownBefore editor := by
  rw [ownBefore_drops] at h
  exact List.mem_of_mem_filter h

/-- A handler of the extension on an editor was there before, or the editor was watched. -/
theorem Alters.ownBefore (hAlters : c.Alters ws c') (h : e ∈ c'.ownBefore editor) :
    e ∈ c.ownBefore editor ∨ e.2 = .own .formatDocument ∧ ∃ uri, .began uri editor ∈ ws := by
  induction hAlters with
  | nothing | addCommand | addListener | listen => exact Or.inl h
  | releaseClients c => exact Or.inl (mem_ownBefore_drops (c := { c with onClients := [] }) h)
  | clear c => exact Or.inl (mem_ownBefore_drops (c := { c with onClients := [] }) h)
  | @watch c uri watched hEditor =>
    have hRegistered : e ∈ (c.registerWillSave watched (.own .formatDocument)).ownBefore editor :=
      mem_ownBefore_drops (c := { c.registerWillSave watched (.own .formatDocument) with
        onEditors := _ }) h
    rw [ownBefore_registerWillSave hEditor] at hRegistered
    split at hRegistered
    · rename_i hBoth
      obtain ⟨rfl, -⟩ := hBoth
      rcases List.mem_append.mp hRegistered with hOld | hNew
      · exact Or.inl hOld
      · obtain rfl := List.mem_singleton.mp hNew
        exact Or.inr ⟨rfl, uri, List.mem_singleton_self _⟩
    · exact Or.inl hRegistered
  | trans _ _ ih ih' =>
    rcases ih' h with hBetween | ⟨hFormat, uri, hMem⟩
    · refine (ih hBetween).imp_right ?_
      rintro ⟨hFormat, uri, hMem⟩
      exact ⟨hFormat, uri, List.mem_append_left _ hMem⟩
    · exact Or.inr ⟨hFormat, uri, List.mem_append_right _ hMem⟩

theorem Attributed.ownBefore_cleared (h : c.Attributed) (editor : Nat) :
    c.cleared.ownBefore editor = [] := by
  have hWatched : c.cleared.Watched (fun _ => "") ([] ++ [.ended]) := .cleared h
  refine hWatched.others editor ?_
  rw [Watch.latest?_ended]
  exact nofun

end Registry

/-- Handlers that others register are none of the extension's. -/
theorem Session.ownBefore_registerOther (s : Session) (editor other : Nat) :
    (s.registerWillSave editor (.other other)).1.registry.ownBefore = s.registry.ownBefore := by
  rcases Nat.lt_or_ge editor s.editors.length with hEditor | hEditor
  · have hSave : editor < s.registry.willSave.length := by
      rw [registry, List.length_map]
      exact hEditor
    funext i
    rw [registry_registerWillSave, Registry.ownBefore_registerWillSave hSave,
      if_neg (by rintro ⟨-, hOwn⟩; cases hOwn)]
  · unfold registerWillSave
    dsimp only
    rw [List.modify_eq_self hEditor]

namespace Stage

variable {x : Surroundings} {g : Stage} {m : Move} {editor : Nat} {e : Nat × Handler}
  {made : List Call}

/-! ## Handlers that a move adds -/

theorem tells_of_watched {uri : String} (h : .began uri editor ∈ watched x g m) :
    ∃ c ∈ calls x g m, c.tells editor = true := by
  rcases List.mem_append.mp h with hCall | hEnd
  · obtain ⟨c, hc, hWatch⟩ := List.mem_filterMap.mp hCall
    obtain ⟨⟨hHandler, -⟩, hBegan⟩ := Option.ite_none_right_eq_some.mp hWatch
    cases hBegan
    exact ⟨c, hc, decide_eq_true ⟨hHandler, rfl⟩⟩
  · split at hEnd
    · cases List.mem_singleton.mp hEnd
    · cases hEnd

/-- A handler of the extension on an editor was there before, or the move has told the extension of the
editor. -/
theorem ownBefore_play (x : Surroundings) (hHeld : g.session.held = true)
    (h : e ∈ (g.play x m).session.registry.ownBefore editor) :
    e ∈ g.session.registry.ownBefore editor ∨
      e.2 = .own .formatDocument ∧ ∃ c ∈ calls x g m, c.tells editor = true := by
  by_cases hRegisters : m.registers = false
  · refine (Registry.Alters.ownBefore (alters_play x hHeld hRegisters) h).imp_right ?_
    rintro ⟨hFormat, uri, hMem⟩
    exact ⟨hFormat, tells_of_watched hMem⟩
  · refine Or.inl ?_
    cases m with
    | register | onEditorAdded => exact h
    | openEditor buffer =>
      rw [← Registry.ownBefore_congr (Session.beforeSave_openEditor g.session buffer)]
      exact h
    | onWillSave editor' other =>
      rw [← Session.ownBefore_registerOther g.session editor' other]
      exact h
    | dispose r =>
      have hDropped := Session.registry_dispose g.session r
      exact Registry.mem_ownBefore_drops (hDropped ▸ h)
    | _ => exact absurd rfl hRegisters

/-! ## Between a deactivation and an activation -/

/-- Since a deactivation the extension has registered nothing but format handlers on editors that it was
told of, by calls that were made since then. -/
structure Parting (made : List Call) (g : Stage) : Prop where
  registrations : g.session.extension.registrations.items = []
  editors : ∀ editor, ∀ e ∈ g.session.registry.ownBefore editor,
    e.2 = .own .formatDocument ∧ ∃ c ∈ made, c.tells editor = true

theorem registry_deactivate (x : Surroundings) (g : Stage) :
    (g.play x .deactivate).session.registry = g.session.registry.cleared :=
  (registry_settle_nothing x g.waiting _).trans (Session.registry_beginDeactivate g.session)

theorem parting_deactivate (hArises : g.Arises x) : (g.play x .deactivate).Parting [] where
  registrations := by
    have hActivation : ∀ s : Session, s.registry.ofActivation = s.extension.registrations.items :=
      fun _ => rfl
    rw [← hActivation, registry_deactivate]
    rfl
  editors editor e he := by
    rw [registry_deactivate,
      Registry.Attributed.ownBefore_cleared hArises.orderly.attributed] at he
    cases he

theorem Parting.play (h : Parting made g) (hReached : g.Reached x) (hm : m ≠ .activate) :
    (g.play x m).Parting (made ++ calls x g m) where
  registrations := unregistered_play h.registrations hm
  editors editor e he := by
    rcases ownBefore_play x hReached.held he with hOld | ⟨hFormat, c, hc, hTells⟩
    · obtain ⟨hFormat, c, hc, hTells⟩ := h.editors editor e hOld
      exact ⟨hFormat, c, List.mem_append_left _ hc, hTells⟩
    · exact ⟨hFormat, c, List.mem_append_right _ hc, hTells⟩

/-- A handler of the extension that stands in a registry runs before an editor is saved. -/
theorem Parting.isWillSave (h : Parting made g) (hArises : g.Arises x) {handler : Handler}
    {r : Registration} (hHolds : g.session.registry.Holds handler r) (hOwn : handler.isOwn = true) :
    r.isWillSave = true := by
  have hAttributed : g.session.registry.Attributed := hArises.orderly.attributed
  have hPlace := hArises.reached.inPlace
  -- The extension keeps a registration of each of its handlers, and none that an activation made.
  have hMem := (hAttributed.own handler r hHolds).mp hOwn
  rw [Registry.kept, show g.session.registry.ofActivation = [] from h.registrations,
    List.reverse_nil, List.nil_append] at hMem
  rcases List.mem_append.mp hMem with hEditor | hClient
  · obtain ⟨p, hp, rfl⟩ := List.mem_map.mp hEditor
    exact hPlace.editors p hp
  · have hListener := hPlace.clients r (List.mem_reverse.mp hClient)
    cases r with
    | didStop => exact hHolds.elim
    | _ => cases hListener

/-- No handler of the extension is called anew, apart from format handlers when an editor is saved that
the extension was told of. -/
theorem Parting.formats_of_due (h : Parting made g) (hArises : g.Arises x) {c : Call}
    (hc : c ∈ g.due m) (hOwn : c.handler.isOwn = true) :
    c.handler = .own .formatDocument ∧ ∃ c' ∈ made, c'.tells c.editor = true := by
  cases m with
  | invoke hub id editor =>
    obtain ⟨_, hHandler, rfl⟩ := List.mem_map.mp hc
    obtain ⟨⟨token, handler⟩, hFound, rfl⟩ :=
      Option.map_eq_some_iff.mp (Option.mem_toList.mp hHandler)
    have hHolds : g.session.registry.Holds handler (.command hub id token) :=
      Keyed.mem_of_find? hFound
    cases h.isWillSave hArises hHolds hOwn
  | addEditor hub editor =>
    obtain ⟨_, hHandler, rfl⟩ := List.mem_map.mp hc
    obtain ⟨⟨number, handler⟩, hEntry, rfl⟩ := List.mem_map.mp hHandler
    have hHolds : g.session.registry.Holds handler (.editorAdded hub number) := hEntry
    cases h.isWillSave hArises hHolds hOwn
  | save editor =>
    obtain ⟨handler, hHandler, rfl⟩ := List.mem_map.mp hc
    obtain ⟨e, hEntry, rfl⟩ := List.mem_map.mp hHandler
    rw [← Session.beforeSave_eq] at hEntry
    exact h.editors editor e (List.mem_filter.mpr ⟨hEntry, hOwn⟩)
  | _ => cases hc

/-- What holds of a stage holds after every run without an activation, and every handler of the extension
that is called anew in it formats an editor that the extension was told of. -/
theorem Parting.playAll (h : Parting made g) (hArises : g.Arises x) {later : List Move}
    (hLater : .activate ∉ later) :
    (g.playAll x later).Parting (made ++ gather x (calls x) g later) ∧
      ∀ c ∈ gather x due g later, c.handler.isOwn = true → c.handler = .own .formatDocument ∧
        ∃ c' ∈ made ++ gather x (calls x) g later, c'.tells c.editor = true := by
  induction later generalizing g made with
  | nil =>
    rw [gather, List.append_nil]
    refine ⟨h, ?_⟩
    intro c hc
    cases hc
  | cons m later ih =>
    obtain ⟨hFirst, hRest⟩ := List.ne_and_not_mem_of_not_mem_cons hLater
    have hNext := h.play hArises.reached (Ne.symm hFirst)
    obtain ⟨hParting, hDue⟩ := ih hNext (hArises.play m) hRest
    rw [List.append_assoc] at hParting hDue
    refine ⟨hParting, ?_⟩
    intro c hc hOwn
    rcases List.mem_append.mp hc with hNow | hSoon
    · obtain ⟨hFormat, c', hc', hTells⟩ := h.formats_of_due hArises hNow hOwn
      exact ⟨hFormat, c', List.mem_append_left _ hc', hTells⟩
    · exact hDue c hSoon hOwn

/-! ## What operations under way still do -/

/-- After some moves no handler of the extension is on an editor, and in them no save of the editor has run
the format handler. -/
structure NoFormats (x : Surroundings) (g : Stage) (moves : List Move) (editor : Nat) : Prop where
  handlers : (g.playAll x moves).session.registry.ownBefore editor = []
  calls : ⟨.saving, .own .formatDocument, editor⟩ ∉ gather x (calls x) g moves

/-- What the extension does about editors from a deactivation on, through some moves. -/
structure WindsDown (x : Surroundings) (g : Stage) (later : List Move) : Prop where
  /-- It is told of an editor once for each dispatch that was to tell it. -/
  told : ∀ editor, (gather x (calls x) g (.deactivate :: later)).countP (Call.tells editor) +
      (g.playAll x (.deactivate :: later)).ahead.countP (Call.tells editor) =
    g.ahead.countP (Call.tells editor)
  /-- Its handlers are format handlers on editors that it was told of. -/
  handlers : ∀ editor, ∀ e ∈ (g.playAll x (.deactivate :: later)).session.registry.ownBefore editor,
    e.2 = .own .formatDocument ∧
      ∃ c ∈ gather x (calls x) g (.deactivate :: later), c.tells editor = true
  /-- An editor that it was not told of is formatted once for each save that was to have it formatted. -/
  formatted : ∀ editor,
    (∀ c ∈ gather x (calls x) g (.deactivate :: later), c.tells editor = false) →
    (gather x (calls x) g (.deactivate :: later)).count ⟨.saving, .own .formatDocument, editor⟩ +
        (g.playAll x (.deactivate :: later)).ahead.count ⟨.saving, .own .formatDocument, editor⟩ =
      g.ahead.count ⟨.saving, .own .formatDocument, editor⟩
  /-- Without such a dispatch and such a save, nothing is formatted any more. -/
  noFormats : ∀ editor, (∀ c ∈ g.ahead, c.tells editor = false) →
    ⟨.saving, .own .formatDocument, editor⟩ ∉ g.ahead → NoFormats x (g.play x .deactivate) later editor

/-- Calls of a kind that nothing calls for anew are made once for each that was to be made. -/
theorem countP_calls (x : Surroundings) (g : Stage) (moves : List Move) {kind : Call → Bool}
    (hDue : ∀ c ∈ gather x due g moves, kind c = false) :
    (gather x (calls x) g moves).countP kind + (g.playAll x moves).ahead.countP kind =
      g.ahead.countP kind := by
  have hNone : (gather x due g moves).countP kind = 0 :=
    List.countP_eq_zero.mpr fun c hc => Bool.eq_false_iff.mp (hDue c hc)
  have hCount := (calls_perm x g moves).countP_eq kind
  rw [List.countP_append, List.countP_append, hNone] at hCount
  exact hCount

/-- Where no handler of the extension but format handlers is called anew, it is told of an editor once for
each dispatch that was to tell it. -/
theorem countP_tells (moves : List Move)
    (hDue : ∀ c ∈ gather x due g moves, c.handler.isOwn = true → c.handler = .own .formatDocument)
    (editor : Nat) :
    (gather x (calls x) g moves).countP (Call.tells editor) +
      (g.playAll x moves).ahead.countP (Call.tells editor) = g.ahead.countP (Call.tells editor) := by
  refine countP_calls x g moves ?_
  intro c hc
  refine Bool.eq_false_iff.mpr fun hTells => ?_
  obtain ⟨hHandler, -⟩ := of_decide_eq_true hTells
  have hFormat := hDue c hc (hHandler ▸ rfl)
  rw [hHandler] at hFormat
  cases hFormat

/-- Where handlers of the extension are called anew only for editors that it is told of, another editor is
formatted once for each save that was to have it formatted. -/
theorem count_formats (moves : List Move)
    (hDue : ∀ c ∈ gather x due g moves, c.handler.isOwn = true →
      ∃ c' ∈ gather x (calls x) g moves, c'.tells c.editor = true) (editor : Nat)
    (hUntold : ∀ c ∈ gather x (calls x) g moves, c.tells editor = false) :
    (gather x (calls x) g moves).count ⟨.saving, .own .formatDocument, editor⟩ +
        (g.playAll x moves).ahead.count ⟨.saving, .own .formatDocument, editor⟩ =
      g.ahead.count ⟨.saving, .own .formatDocument, editor⟩ := by
  refine countP_calls x g moves ?_
  intro c hc
  refine Bool.eq_false_iff.mpr fun hSame => ?_
  obtain rfl := eq_of_beq hSame
  obtain ⟨c, hMade, hTells⟩ := hDue _ hc rfl
  rw [hUntold c hMade] at hTells
  cases hTells

/-- **After a deactivation only operations under way concern editors.** In a stage that arises the
extension is deactivated, and any moves follow without an activation. -/
theorem windsDown (hArises : g.Arises x) {later : List Move} (hLater : .activate ∉ later) :
    WindsDown x g later := by
  obtain ⟨hParting, hDue⟩ := (parting_deactivate hArises).playAll (hArises.play .deactivate) hLater
  -- A deactivation calls no handlers, so what is called anew is called by the moves that follow.
  have hTold := countP_tells (g := g) (.deactivate :: later) fun c hc hOwn => (hDue c hc hOwn).1
  have hFormatted := count_formats (g := g) (.deactivate :: later) fun c hc hOwn => (hDue c hc hOwn).2
  refine ⟨hTold, hParting.editors, hFormatted, ?_⟩
  intro editor hDispatch hSave
  have hUntold : ∀ c ∈ gather x (calls x) g (.deactivate :: later), c.tells editor = false := by
    have hZero := hTold editor
    rw [List.countP_eq_zero.mpr fun c hc => Bool.eq_false_iff.mp (hDispatch c hc)] at hZero
    intro c hc
    exact Bool.eq_false_iff.mpr (List.countP_eq_zero.mp (Nat.eq_zero_of_add_eq_zero_right hZero) c hc)
  refine ⟨?_, ?_⟩
  · refine List.eq_nil_iff_forall_not_mem.mpr fun e he => ?_
    obtain ⟨-, c, hc, hTells⟩ := hParting.editors editor e he
    rw [hUntold c hc] at hTells
    cases hTells
  · have hZero := hFormatted editor hUntold
    rw [List.count_eq_zero.mpr hSave] at hZero
    exact List.count_eq_zero.mp (Nat.eq_zero_of_add_eq_zero_right hZero)

/-- Someone else's listener for added editors runs before the extension's when an elixir editor is
added, and waits. -/
def addedBefore : List Move :=
  .onEditorAdded 0 7 :: twoOfOneFile ++
    [.activate, .reply 0 Wait.goodReply, .reply 0 Wait.goodReply, .addEditor 0 0]

/-- The listener goes on, and the editor is saved. -/
def savedAfter : List Move := [.reply 0 Wait.goodReply, .save 0]

theorem arises_addedBefore : (playAll .plain ⟨.scripted, []⟩ addedBefore).Arises .plain :=
  ⟨.scripted, addedBefore, Session.pristine_scripted, rfl⟩

/-- The editor whose dispatch was under way is watched once more, and the other one is not. -/
theorem windsDown_addedBefore :
    WindsDown .plain (playAll .plain ⟨.scripted, []⟩ addedBefore)
        (.reply 1 Wait.goodReply :: savedAfter) ∧
      NoFormats .plain ((playAll .plain ⟨.scripted, []⟩ addedBefore).play .plain .deactivate)
        (.reply 1 Wait.goodReply :: savedAfter) 1 := by
  have hLater : .activate ∉ .reply 1 Wait.goodReply :: savedAfter := by simp [savedAfter]
  have hWindsDown := windsDown arises_addedBefore hLater
  exact ⟨hWindsDown, hWindsDown.noFormats 1 (by decide +kernel) (by decide +kernel)⟩

/-- From the end of a deactivation to the next activation no handler of the extension is on any editor,
and no save runs the format handler, whatever was under way when the extension was deactivated. -/
def StopsFormatting : Prop :=
  ∀ (x : Surroundings) (g : Stage), g.Arises x → ∀ during : List Move,
    (∀ client, .deactivateStop client ∉ (g.playAll x (.deactivate :: during)).waits) →
      ∀ later : List Move, .activate ∉ during ++ later →
        ∀ editor, NoFormats x (g.playAll x (.deactivate :: during)) later editor

/-- The editor whose dispatch was under way is formatted when it is saved. -/
theorem not_stopsFormatting : ¬ StopsFormatting := by
  intro h
  have hWaits : ((playAll .plain ⟨.scripted, []⟩ addedBefore).playAll .plain
      [.deactivate, .reply 1 Wait.goodReply]).waits = [.other 7 0] := by decide +kernel
  have hEnded : ∀ client, .deactivateStop client ∉
      ((playAll .plain ⟨.scripted, []⟩ addedBefore).playAll .plain
        [.deactivate, .reply 1 Wait.goodReply]).waits := by
    intro client hMem
    rw [hWaits] at hMem
    cases List.mem_singleton.mp hMem
  have hNone := (h .plain _ arises_addedBefore [.reply 1 Wait.goodReply] hEnded savedAfter
    (by simp [savedAfter]) 0).calls
  revert hNone
  decide +kernel

end Stage

end ExtensionHost
