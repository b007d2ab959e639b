import ExtensionHost.Proofs.Lifecycle.Addresses
import ExtensionHost.Proofs.Lifecycle.Arising
import ExtensionHost.Proofs.Lifecycle.Watching

/-!
# Formatting on save

`FormatsEverySave` states that every save of an elixir editor formats its document once that was added
since the extension was activated. It fails: the extension keeps one registration for each address, so of
two editors of one file only the one that was added last is formatted. `formatsLatest` says what every
run does: which editors the extension is told of, which of them are formatted when they are saved, and
that no handler is passed over or called twice.
-/

namespace ExtensionHost

/-- Whether a move adds an editor, saves one or brings a reply. -/
def Move.concernsEditors : Move → Bool
  | .addEditor _ _ | .save _ | .reply _ _ => true
  | _ => false

namespace Registry

variable {c : Registry} {address address' : Nat → String} {ws : List Watch}

/-! ## What others do with registries -/

theorem Watched.readdress (h : c.Watched address ws)
    (hSame : ∀ editor, c.ownBefore editor ≠ [] → address' editor = address editor) :
    c.Watched address' ws where
  clients := h.clients
  found uri editor hLatest := by
    obtain ⟨rfl, number, hFound, hOnly⟩ := h.found uri editor hLatest
    refine ⟨hSame editor ?_, number, hFound, hOnly⟩
    rw [hOnly]
    exact List.cons_ne_nil _ _
  absent := h.absent
  others editor hOther := by
    by_contra hOwn
    rw [hSame editor hOwn] at hOther
    exact hOwn (h.others editor hOther)

theorem Watched.registerOther (h : c.Watched address ws) {editor : Nat}
    (hEditor : editor < c.willSave.length) (other : Nat) :
    (c.registerWillSave editor (.other other)).Watched address ws := by
  refine h.congr ?_ rfl h.clients
  funext i
  rw [ownBefore_registerWillSave hEditor, if_neg fun hBoth => nomatch hBoth.2]

/-- Whoever disposes of a registration that is not the extension's leaves the extension's handlers. -/
theorem Watched.dropOther (h : c.Watched address ws) (hAttributed : c.Attributed) {r : Registration}
    (hr : r ∉ c.kept) : (c.drops [r]).Watched address ws := by
  refine h.congr ?_ rfl h.clients
  funext editor
  refine ownBefore_drops_of_notMem fun e he hMem => ?_
  obtain ⟨hHolds, hOwn⟩ := mem_ownBefore he
  exact hr (List.mem_singleton.mp hMem ▸ (hAttributed.own _ _ hHolds).mp hOwn)

theorem Listening.dropOther (h : c.Listening) (hAttributed : c.Attributed) {r : Registration}
    (hr : r ∉ c.kept) : (c.drops [r]).Listening := by
  obtain ⟨number, hHolds⟩ := h
  refine ⟨number, (holds_drops hAttributed.sorted).mpr ⟨hHolds, fun hMem => ?_⟩⟩
  exact hr (List.mem_singleton.mp hMem ▸ (hAttributed.own _ _ hHolds).mp rfl)

end Registry

namespace Session

variable {x : Surroundings} {s s' : Session} {ws : List Watch}

/-- The address of the document of an editor. -/
def address (s : Session) (editor : Nat) : String := (s.buffer editor).uri

theorem address_congr (h : s'.addresses = s.addresses) : s'.address = s.address := by
  have hAt : ∀ (s : Session) (editor : Nat),
      s.address editor = ((s.addresses[editor]?).getD (({} : Buffer).uri, none)).1 := by
    intro s editor
    rw [address, buffer_eq_documents, addresses, List.getElem?_map]
    cases s.documents[editor]? <;> rfl
  funext editor
  rw [hAt, hAt, h]

/-- The editors of a session are watched as a list of what happened to them says. -/
def Watched (ws : List Watch) (s : Session) : Prop := s.registry.Watched s.address ws

theorem addressed_filterMap (s : Session) (calls : List Call) :
    Watch.Addressed s.address (calls.filterMap s.watch?) := by
  intro uri editor hMem
  obtain ⟨c, -, hWatch⟩ := List.mem_filterMap.mp hMem
  unfold watch? at hWatch
  split at hWatch
  · cases hWatch
    rfl
  · cases hWatch

theorem Watched.openEditor (h : s.Watched ws) (buffer : Buffer) :
    ({ s with editors := s.editors ++ [{ buffer }] } : Session).Watched ws := by
  have hSave := beforeSave_openEditor s buffer
  refine (Registry.Watched.congr h (Registry.ownBefore_congr hSave) rfl h.clients).readdress ?_
  intro editor hOwn
  -- The editor that is opened has no handlers, so it is another one.
  have hEditor : editor < s.editors.length := by
    by_contra hMissing
    refine hOwn ?_
    rw [Registry.ownBefore_congr hSave, Registry.ownBefore, beforeSave_eq,
      List.getElem?_eq_none (Nat.le_of_not_lt hMissing)]
    rfl
  simp only [address, Session.buffer, List.getElem?_append_left hEditor]

end Session

namespace Stage

variable {x : Surroundings} {g : Stage} {ws : List Watch}

/-! ## Runs -/

/-- The registration of the extension that someone else disposes of with a move, if any. -/
def disposedOwn (g : Stage) : Move → Option Registration
  | .dispose r => if r ∈ g.session.registry.kept then some r else none
  | _ => none

/-- A stage that some run may reach, with what happened to editors that were watched. -/
structure Tended (ws : List Watch) (g : Stage) : Prop where
  orderly : g.Orderly
  editors : g.session.Watched ws
  held : g.session.held = true

theorem notMem_of_disposedOwn {r : Registration} (h : disposedOwn g (.dispose r) = none) :
    r ∉ g.session.registry.kept := by
  intro hMem
  rw [disposedOwn, if_pos hMem] at h
  cases h

theorem addressed_watched (x : Surroundings) (g : Stage) (m : Move) :
    Watch.Addressed g.session.address (watched x g m) := by
  refine Watch.addressed_append.mpr ⟨Session.addressed_filterMap g.session _, ?_⟩
  intro uri editor hEnd
  split at hEnd
  · cases List.mem_singleton.mp hEnd
  · cases hEnd

theorem Tended.editors_play (h : g.Tended ws) (x : Surroundings) {m : Move}
    (hm : disposedOwn g m = none) : (g.play x m).session.Watched (ws ++ watched x g m) := by
  have hAttributed := h.orderly.attributed
  have hOutside : ∀ {m : Move}, watched x g m = [] → (g.play x m).session.Watched ws →
      (g.play x m).session.Watched (ws ++ watched x g m) := by
    intro m hNothing hPlay
    rw [hNothing, List.append_nil]
    exact hPlay
  by_cases hRegisters : m.registers = false
  · have hAddress := Session.address_congr (addresses_play x g (m := m) (by rintro b rfl; cases hRegisters))
    unfold Session.Watched
    rw [hAddress]
    exact Registry.Watched.alters h.editors hAttributed (alters_play x h.held hRegisters)
      (addressed_watched x g m)
  · cases m with
    | openEditor buffer => exact hOutside rfl (h.editors.openEditor buffer)
    | register hub id other =>
      exact hOutside rfl (Registry.Watched.congr h.editors rfl rfl h.editors.clients)
    | onEditorAdded hub other =>
      exact hOutside rfl (Registry.Watched.congr h.editors rfl rfl h.editors.clients)
    | onWillSave editor other =>
      refine hOutside rfl ?_
      have hAddress : (g.play x (.onWillSave editor other)).session.address = g.session.address :=
        Session.address_congr (addresses_play x g (by rintro b hb; cases hb))
      unfold Session.Watched
      rw [hAddress]
      rcases Nat.lt_or_ge editor g.session.editors.length with hEditor | hEditor
      · refine (Session.registry_registerWillSave g.session editor (.other other)).symm ▸ ?_
        refine Registry.Watched.registerOther h.editors ?_ other
        rw [Session.registry, List.length_map]
        exact hEditor
      · unfold play Session.registerWillSave
        dsimp only [withSession]
        rw [List.modify_eq_self hEditor]
        exact h.editors
    | dispose r =>
      refine hOutside rfl ?_
      have hAddress : (g.play x (.dispose r)).session.address = g.session.address :=
        Session.address_congr (addresses_play x g (by rintro b hb; cases hb))
      unfold Session.Watched
      rw [hAddress]
      refine (Session.registry_dispose g.session r).symm ▸ ?_
      exact Registry.Watched.dropOther h.editors hAttributed (notMem_of_disposedOwn hm)
    | _ => exact absurd rfl hRegisters

theorem Tended.play (h : g.Tended ws) (x : Surroundings) {m : Move} (hm : disposedOwn g m = none) :
    (g.play x m).Tended (ws ++ watched x g m) where
  orderly := h.orderly.play x m
  editors := h.editors_play x hm
  held := (queues_play x g m).held.trans h.held

theorem Tended.playAll (h : g.Tended ws) (x : Surroundings) {moves : List Move}
    (hMoves : collect x disposedOwn g moves = []) :
    (g.playAll x moves).Tended (ws ++ gather x (watched x) g moves) := by
  induction moves generalizing g ws with
  | nil => exact (List.append_nil ws).symm ▸ h
  | cons m moves ih =>
    obtain ⟨hFirst, hRest⟩ := List.append_eq_nil_iff.mp hMoves
    rw [gather, ← List.append_assoc]
    exact ih (h.play x (Option.toList_eq_nil_iff.mp hFirst)) hRest

theorem tended_pristine {s : Session} (h : s.Pristine) : (⟨s, []⟩ : Stage).Tended [] where
  orderly := ⟨h.attributed, List.forall_mem_nil _⟩
  held := h.held
  editors := by
    have hNone : ∀ editor, s.registry.ownBefore editor = [] := by
      intro editor
      refine List.filter_eq_nil_iff.mpr fun e he hOwn => ?_
      rw [h.others e.2 (.willSave editor e.1) he] at hOwn
      cases hOwn
    refine ⟨?_, nofun, ?_, fun editor _ => hNone editor⟩
    · simp [Session.registry, h.extension]
    · simp [Session.registry, h.extension]

/-! ## Being told of added editors -/

/-- The extension is told of added editors until it is deactivated. -/
theorem Tended.listening_play (h : g.Tended ws) (hListening : g.session.registry.Listening)
    (x : Surroundings) {m : Move} (hm : disposedOwn g m = none) (hActive : m ≠ .deactivate) :
    (g.play x m).session.registry.Listening := by
  have hAttributed := h.orderly.attributed
  by_cases hRegisters : m.registers = false
  · refine hListening.alters hAttributed h.editors (alters_play x h.held hRegisters)
      (addressed_watched x g m) fun hMem => ?_
    rcases List.mem_append.mp hMem with hCall | hEnd
    · obtain ⟨c, -, hWatch⟩ := List.mem_filterMap.mp hCall
      unfold Session.watch? at hWatch
      split at hWatch <;> cases hWatch
    · split at hEnd
      · exact hActive rfl
      · cases hEnd
  · cases m with
    | openEditor => exact hListening.congr rfl
    | register hub id other => 
      exact hListening.congr (Registry.editorAdded_registerCommand g.session.registry hub id (.other other))
    | onEditorAdded hub other =>
      rcases Nat.lt_or_ge hub g.session.hubs.length with hHub | hHub
      · exact hListening.registerEditorAdded (c := g.session.registry) hHub (.other other)
      · unfold Stage.play Session.registerEditorAdded
        dsimp only [withSession]
        rw [List.modify_eq_self hHub]
        exact hListening
    | onWillSave editor other => exact hListening.congr rfl
    | dispose r =>
      refine (Session.registry_dispose g.session r).symm ▸ ?_
      exact hListening.dropOther hAttributed (notMem_of_disposedOwn hm)
    | _ => exact absurd rfl hRegisters

theorem Tended.listening_playAll (h : g.Tended ws) (hListening : g.session.registry.Listening)
    (x : Surroundings) {moves : List Move} (hMoves : collect x disposedOwn g moves = [])
    (hActive : .deactivate ∉ moves) : (g.playAll x moves).session.registry.Listening := by
  induction moves generalizing g ws with
  | nil => exact hListening
  | cons m moves ih =>
    obtain ⟨hFirst, hRest⟩ := List.append_eq_nil_iff.mp hMoves
    have hm := Option.toList_eq_nil_iff.mp hFirst
    obtain ⟨hNow, hLater⟩ := List.ne_and_not_mem_of_not_mem_cons hActive
    exact ih (h.play x hm) (h.listening_play hListening x hm (Ne.symm hNow)) hRest hLater

theorem Tended.listening_activate (h : g.Tended ws) (x : Surroundings)
    (hPhase : g.session.extension.phase = .inactive) :
    (g.play x .activate).session.registry.Listening := by
  unfold Stage.play Session.activate Session.beginActivate
  dsimp only
  rw [if_neg fun hOther => hOther hPhase]
  generalize hNoted : (Session.mapExtension _ _ : Session) = noted
  have hSame : noted.registry = g.session.registry := by
    rw [← hNoted]
    split <;> rfl
  have hRegistered : g.session.Alters [] noted.registerAll :=
    (Session.alters_registerAll noted).congr hSame.symm
  have hAttributed : noted.registerAll.Attributed := h.orderly.attributed.alters hRegistered
  have hWatched := Registry.Watched.alters h.editors h.orderly.attributed hRegistered nofun
  have hHosted : Session.ownHub < noted.registry.hubs.length :=
    hSame ▸ h.orderly.attributed.hosted
  -- The listener is registered first, and the commands leave it alone.
  have hCommand : ∀ (s : Session) (id : String) (role : Role),
      (s.addCommand id role).registry.editorAdded = s.registry.editorAdded :=
    fun s id role => Registry.editorAdded_registerCommand s.registry Session.ownHub id (.own role)
  have hListening : noted.registerAll.registry.Listening := by
    refine (Registry.listening_addListener hHosted).congr ?_
    unfold Session.registerAll
    simp only [hCommand]
    rfl
  exact hListening.alters hAttributed hWatched
    ((Session.alters_beginStartup x _).then (alters_settle_nothing x g.waiting _)) nofun nofun

theorem mem_due_addEditor (h : g.session.registry.Listening) (editor : Nat) :
    ⟨.added, .own .watchEditor, editor⟩ ∈ g.due (.addEditor Session.ownHub editor) := by
  obtain ⟨number, hHolds⟩ := h
  exact List.mem_map_of_mem (List.mem_map_of_mem hHolds)

theorem Tended.count_due_save (h : g.Tended ws) (editor : Nat) :
    (g.due (.save editor)).count ⟨.saving, .own .formatDocument, editor⟩ =
      if Watch.latest? (g.session.address editor) ws = some editor then 1 else 0 := by
  refine (Call.count_all _ _ _ _).trans ?_
  rw [← Session.beforeSave_eq]
  exact Registry.Watched.count_formatDocument h.editors editor

/-! ## What every run does -/

/-- What a run from a session does about editors that are added and saved. -/
structure FormatsLatest (x : Surroundings) (s : Session) (moves : List Move) : Prop where
  /-- What was called, with what the operations under way still have to call, is what was due: no handler
  is passed over, and none is called twice. -/
  called : (gather x (calls x) ⟨s, []⟩ moves ++ (playAll x ⟨s, []⟩ moves).ahead).Perm
    (gather x due ⟨s, []⟩ moves)
  /-- Since the extension was activated and until it is deactivated, it is told of each editor that is
  added. -/
  told : ∀ first rest, moves = first ++ .activate :: rest →
    (playAll x ⟨s, []⟩ first).session.extension.phase = .inactive → .deactivate ∉ rest →
    ∀ editor, ⟨.added, .own .watchEditor, editor⟩ ∈
      (playAll x ⟨s, []⟩ moves).due (.addEditor Session.ownHub editor)
  /-- The preferences are those in the settings when the extension was activated. -/
  chosen : ∀ first rest, moves = first ++ .activate :: rest →
    (playAll x ⟨s, []⟩ first).session.extension.phase = .inactive → .activate ∉ rest →
    (playAll x ⟨s, []⟩ moves).session.extension.preferences =
      .resolve (playAll x ⟨s, []⟩ first).session.workspaceSettings
        (playAll x ⟨s, []⟩ first).session.globalSettings
  /-- The save of an editor runs the format handler once if the editor is the one that the extension
  watched last under the address of its document, and otherwise never. -/
  saved : ∀ editor,
    ((playAll x ⟨s, []⟩ moves).due (.save editor)).count ⟨.saving, .own .formatDocument, editor⟩ =
      if Watch.latest? ((playAll x ⟨s, []⟩ moves).session.address editor)
        (gather x (watched x) ⟨s, []⟩ moves) = some editor then 1 else 0

/-- **Of the editors with one address, the one that was added last is formatted once on every save, and
no other is.** So it is in every run in which others dispose of registrations of their own only, however
operations overlap. An editor is watched when the extension is told of it, if its document is an elixir
document and the preferences say so. -/
theorem formatsLatest (x : Surroundings) {s : Session} (h : s.Pristine) {moves : List Move}
    (hMoves : collect x disposedOwn ⟨s, []⟩ moves = []) : FormatsLatest x s moves := by
  have hTended := (tended_pristine h).playAll x hMoves
  refine ⟨calls_perm x ⟨s, []⟩ moves, ?_, ?_, hTended.count_due_save⟩
  · rintro first rest rfl hPhase hActive editor
    rw [collect_append, List.append_eq_nil_iff] at hMoves
    have hFirst := (tended_pristine h).playAll x hMoves.1
    rw [playAll_append, playAll_cons]
    exact mem_due_addEditor ((hFirst.play x rfl).listening_playAll (hFirst.listening_activate x hPhase) x
      hMoves.2 hActive) editor
  · rintro first rest rfl hPhase hOnce
    rw [playAll_append, playAll_cons]
    exact (preferences_playAll x hOnce).trans (preferences_activate x hPhase)

/-! ## Two editors of one file -/

/-- A document of the extension's syntax, in any number of editors. -/
def elixirDocument : Buffer := { syntaxName := some elixirSyntax }

/-- Someone opens two editors of one file and one of another syntax, and chooses to format documents when
they are saved. -/
def twoOfOneFile : List Move :=
  [.openEditor elixirDocument, .openEditor elixirDocument, .openEditor {},
    .changeSettings [(Settings.mixPathKey, .string "mix"), (Settings.formatOnSaveKey, .bool true)] []]

/-- The server starts, and all three editors are added. -/
def allAdded : List Move :=
  [.reply 0 Wait.goodReply, .reply 0 Wait.goodReply, .addEditor 0 0, .addEditor 0 1, .addEditor 0 2]

/-- All editors are saved. Of the two with one address, the one that was added last is formatted; while it
waits for the formatter, it is saved once more. -/
theorem formatsLatest_twoOfOneFile :
    let moves := twoOfOneFile ++ .activate :: allAdded ++ [.save 0, .save 1, .save 2, .save 1]
    FormatsLatest .plain .scripted moves ∧
      (gather .plain (calls .plain) ⟨.scripted, []⟩ moves).filter (·.occasion = .saving) =
        [⟨.saving, .own .formatDocument, 1⟩, ⟨.saving, .own .formatDocument, 1⟩] :=
  ⟨formatsLatest .plain Session.pristine_scripted (by decide +kernel), by decide +kernel⟩

/-- Every save of an elixir editor formats its document exactly once, if the editor was added since the
extension was activated with the choice to format on save, and a save of any other editor never does: for
every sequence of editors that are added and saved in a host that others have prepared. -/
def FormatsEverySave : Prop :=
  ∀ (x : Surroundings) (s : Session) (before moves : List Move) (editor : Nat), s.Pristine →
    (∀ m ∈ before, m.isForeign = true) → (∀ m ∈ moves, m.concernsEditors = true) →
    let prepared := playAll x ⟨s, []⟩ before
    let g := prepared.playAll x (.activate :: moves)
    (UserPreferences.resolve prepared.session.workspaceSettings
      prepared.session.globalSettings).formatsOnSave = true →
    g.waiting = [] →
    let formats := (g.due (.save editor)).count ⟨.saving, .own .formatDocument, editor⟩
    let added := (g.session.buffer editor).syntaxName = some elixirSyntax ∧
      .addEditor Session.ownHub editor ∈ moves
    (added → formats = 1) ∧ (¬ added → formats = 0)

/-- The editor that was added first is not formatted: the one of the same file took its place. -/
theorem not_formatsEverySave : ¬ FormatsEverySave := by
  intro h
  obtain ⟨hOnce, -⟩ := h .plain .scripted twoOfOneFile allAdded 0 Session.pristine_scripted (by decide)
    (by decide) (by decide +kernel) (by decide +kernel)
  have hAdded : Move.addEditor Session.ownHub 0 ∈ allAdded := by simp [allAdded, Session.ownHub]
  have hFormats := hOnce ⟨by decide +kernel, hAdded⟩
  revert hFormats
  decide +kernel

end Stage

end ExtensionHost
