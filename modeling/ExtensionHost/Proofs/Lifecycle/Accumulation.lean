import ExtensionHost.Proofs.Lifecycle.Dispatching
import ExtensionHost.Proofs.Lifecycle.Parting

/-!
# How often the extension is told of added editors

An activation registers a listener for added editors and disposes of none. A startup that fails and a panel
that is left make the extension inactive without a deactivation, so that it can be activated again and has
one listener more. `accumulates` says what every run does: the extension has one listener for each
activation that was not ignored since the last deactivation, and an editor that is added is told to each.
The listeners that the extension has are those whose registrations it keeps of its activations
(`Registry.Enlisted`), and only an activation adds to these (`Stage.registrations_play`).
-/

namespace ExtensionHost

/-- The listener for added editors that stands under a registration which the extension keeps of an
activation. -/
def Registration.listener? : Registration → Option (Nat × Handler)
  | .editorAdded hub number =>
    if hub = Session.ownHub then some (number, .own .watchEditor) else none
  | _ => none

theorem Registration.eq_of_listener? {r : Registration} {e : Nat × Handler}
    (h : r.listener? = some e) : r = .editorAdded Session.ownHub e.1 ∧ e.2 = .own .watchEditor := by
  cases r with
  | editorAdded hub number =>
    obtain ⟨rfl, hEntry⟩ := Option.ite_none_right_eq_some.mp h
    cases hEntry
    exact ⟨rfl, rfl⟩
  | _ => cases h

namespace Registry

variable {c c' : Registry}

/-! ## The extension's listeners -/

/-- The extension's listeners for added editors, under their numbers. -/
def ownAdded (c : Registry) : List (Nat × Handler) :=
  (c.editorAdded Session.ownHub).entries.filter fun e => e.2.isOwn

theorem ownAdded_congr (h : c'.editorAdded = c.editorAdded) : c'.ownAdded = c.ownAdded := by
  rw [ownAdded, h]
  rfl

theorem ownAdded_drops (rs : List Registration) :
    (c.drops rs).ownAdded =
      c.ownAdded.filter fun e => .editorAdded Session.ownHub e.1 ∉ rs := by
  rw [ownAdded, editorAdded_drops, List.filter_comm]
  rfl

/-- The extension's listeners stay when registrations are disposed of under which none of them stands. -/
theorem ownAdded_drops_of_notMem {rs : List Registration}
    (h : ∀ e ∈ c.ownAdded, .editorAdded Session.ownHub e.1 ∉ rs) :
    (c.drops rs).ownAdded = c.ownAdded := by
  rw [ownAdded_drops]
  exact List.filter_eq_self.mpr fun e he => decide_eq_true (h e he)

theorem ownAdded_registerEditorAdded {hub : Nat} (hHub : hub < c.hubs.length) (h : Handler) :
    (c.registerEditorAdded hub h).ownAdded =
      if hub = Session.ownHub ∧ h.isOwn = true then
        c.ownAdded ++ [(((c.editorAdded Session.ownHub).add h).2, h)]
      else c.ownAdded := by
  rw [ownAdded, editorAdded_registerEditorAdded hHub]
  by_cases hSame : hub = Session.ownHub
  · cases hOwn : h.isOwn <;> simp [ownAdded, Listeners.add, hSame, hOwn]
  · simp [ownAdded, hSame]

/-- The listeners for added editors whose registrations the extension keeps of its activations. -/
def listed (c : Registry) : List (Nat × Handler) := c.ofActivation.filterMap Registration.listener?

theorem listed_addListener (c : Registry) :
    c.addListener.listed = c.listed ++
      [(((c.editorAdded Session.ownHub).add (.own .watchEditor)).2, .own .watchEditor)] :=
  List.filterMap_append

theorem listed_addCommand (c : Registry) (id : String) (role : Role) :
    (c.addCommand id role).listed = c.listed :=
  List.filterMap_append.trans (List.append_nil _)

/-- The extension's listeners for added editors are those whose registrations it keeps of its activations.
It keeps no such registrations elsewhere. -/
structure Enlisted (c : Registry) : Prop where
  clients : ∀ r ∈ c.onClients, r.isDidStop = true
  editors : ∀ p ∈ c.onEditors, p.2.isWillSave = true
  listeners : c.ownAdded = c.listed

theorem Enlisted.congr (h : c.Enlisted) (hAdded : c'.ownAdded = c.ownAdded)
    (hActivation : c'.ofActivation = c.ofActivation)
    (hEditors : ∀ p ∈ c'.onEditors, p.2.isWillSave = true)
    (hClients : ∀ r ∈ c'.onClients, r.isDidStop = true) : c'.Enlisted where
  clients := hClients
  editors := hEditors
  listeners := by rw [hAdded, listed, hActivation, h.listeners, listed]

/-- The extension keeps the registrations of its listeners. -/
theorem Enlisted.mem_ofActivation (h : c.Enlisted) {e : Nat × Handler} (he : e ∈ c.ownAdded) :
    .editorAdded Session.ownHub e.1 ∈ c.ofActivation := by
  rw [h.listeners] at he
  obtain ⟨r, hr, hEntry⟩ := List.mem_filterMap.mp he
  exact (Registration.eq_of_listener? hEntry).1 ▸ hr

theorem Enlisted.addListener (h : c.Enlisted) (hHosted : Session.ownHub < c.hubs.length) :
    c.addListener.Enlisted where
  clients := h.clients
  editors := h.editors
  listeners := by
    have hAdded : c.addListener.ownAdded =
        (c.registerEditorAdded Session.ownHub (.own .watchEditor)).ownAdded := rfl
    rw [hAdded, ownAdded_registerEditorAdded hHosted, if_pos ⟨rfl, rfl⟩, h.listeners,
      listed_addListener]

theorem Enlisted.addCommand (h : c.Enlisted) (id : String) (role : Role) :
    (c.addCommand id role).Enlisted where
  clients := h.clients
  editors := h.editors
  listeners := by
    have hAdded : (c.addCommand id role).ownAdded = c.ownAdded :=
      ownAdded_congr (editorAdded_registerCommand c Session.ownHub id (.own role))
    rw [hAdded, h.listeners, listed_addCommand]

theorem Enlisted.watch (h : c.Enlisted) (uri : String) (editor : Nat) :
    (c.watch uri editor).Enlisted := by
  refine h.congr (ownAdded_drops_of_notMem fun e _ hMem => ?_) rfl ?_ h.clients
  · have hPlace := h.editors _ (Keyed.mem_of_find? (Option.mem_toList.mp hMem))
    cases hPlace
  · intro p hp
    rcases Keyed.mem_insert hp with rfl | hOld
    · rfl
    · exact h.editors p hOld

theorem Enlisted.releaseClients (h : c.Enlisted) : c.releaseClients.Enlisted := by
  refine h.congr (ownAdded_drops_of_notMem fun e _ hMem => ?_) rfl h.editors nofun
  cases h.clients _ (List.mem_reverse.mp hMem)

theorem Enlisted.cleared (h : c.Enlisted) : c.cleared.Enlisted where
  clients := nofun
  editors := nofun
  listeners := by
    refine (ownAdded_drops c.kept).trans (List.filter_eq_nil_iff.mpr fun e he hKept => ?_)
    exact of_decide_eq_true hKept
      (List.mem_append_left _ (List.mem_reverse.mpr (h.mem_ofActivation he)))

/-- **Whatever the extension does, its listeners are those whose registrations it keeps.** -/
theorem Enlisted.alters {ws : List Watch} (h : c.Enlisted) (hAttributed : c.Attributed)
    (hAlters : c.Alters ws c') : c'.Enlisted := by
  induction hAlters with
  | nothing c => exact h
  | addCommand c id role => exact h.addCommand id role
  | addListener c => exact h.addListener hAttributed.hosted
  | listen c hr =>
    refine h.congr rfl rfl h.editors fun r hMem => ?_
    rcases List.mem_append.mp hMem with hOld | hNew
    · exact h.clients r hOld
    · exact List.mem_singleton.mp hNew ▸ hr
  | releaseClients c => exact h.releaseClients
  | watch c uri => exact h.watch uri _
  | clear c => exact h.cleared
  | trans hFirst _ ih ih' => exact ih' (ih h hAttributed) (hAttributed.alters hFirst)

/-- Whoever disposes of a registration that is not the extension's leaves the extension's listeners. -/
theorem Enlisted.dropOther (h : c.Enlisted) {r : Registration} (hr : r ∉ c.kept) :
    (c.drops [r]).Enlisted := by
  refine h.congr (ownAdded_drops_of_notMem fun e he hMem => hr ?_) rfl h.editors h.clients
  rw [← List.mem_singleton.mp hMem]
  exact List.mem_append_left _ (List.mem_reverse.mpr (h.mem_ofActivation he))

end Registry

/-! ## Registrations of activations -/

/-- What the extension keeps of its activations stays as it is within an epoch in which nothing activates
it. -/
theorem Core.registrations_evolves {k k' : Core} (hEvolves : k.Evolves false k') :
    k.extension.epoch ≤ k'.extension.epoch ∧
      (k'.extension.registrations = k.extension.registrations ∨
        k.extension.epoch < k'.extension.epoch) := by
  induction hEvolves with
  | retire k => exact ⟨Nat.le_succ _, .inr (Nat.lt_succ_self _)⟩
  | watch k uri editor number =>
    unfold watch
    split <;> exact ⟨Nat.le_refl _, .inl rfl⟩
  | equip _ _ _ hActivating => cases hActivating
  | trans _ _ ih ih' =>
    obtain ⟨hLe, hSame⟩ := ih
    obtain ⟨hLe', hSame'⟩ := ih'
    refine ⟨hLe.trans hLe', ?_⟩
    rcases hSame with hSame | hLater
    · rcases hSame' with hSame' | hLater
      · exact .inl (hSame'.trans hSame)
      · exact .inr (hLe.trans_lt hLater)
    · exact .inr (hLater.trans_le hLe')
  | _ => exact ⟨Nat.le_refl _, .inl rfl⟩

namespace Stage

variable {x : Surroundings} {g : Stage}

/-- **Only an activation and a deactivation change what the extension keeps of its activations.** -/
theorem registrations_play (hDated : g.Dated) (x : Surroundings) {m : Move} (hActivates : m ≠ .activate)
    (hDeactivates : m ≠ .deactivate) :
    (g.play x m).session.extension.registrations = g.session.extension.registrations := by
  have hEvolves := evolves_play x g m
  have hEpoch := (hDated.play x m).1
  rw [show m.activates = false by cases m <;> first | rfl | exact absurd rfl hActivates] at hEvolves
  rw [show m.epochs = 0 by cases m <;> first | rfl | exact absurd rfl hDeactivates] at hEpoch
  exact (Core.registrations_evolves hEvolves).2.resolve_right (Nat.not_lt_of_le (Nat.le_of_eq hEpoch))

/-- An activation that is not ignored adds one listener for added editors. -/
theorem listed_equipped (x : Surroundings) (s : Session) :
    ∃ number, (s.equipped x).registry.listed = s.registry.listed ++ [(number, .own .watchEditor)] := by
  unfold Session.equipped
  dsimp only
  generalize hNoted : (Session.mapExtension _ _ : Session) = noted
  have hSame : noted.registry = s.registry := by
    rw [← hNoted]
    split <;> rfl
  have hRegistered : noted.registerAll.registry =
      ((((noted.registry.addListener.addCommand Command.formatDocument .formatDocument).addCommand
        Command.formatWithServer .formatWithServer).addCommand
        Command.findReferences .findReferences).addCommand Command.restart .restart) := rfl
  rw [hRegistered, hSame]
  simp only [Registry.listed_addCommand]
  exact ⟨_, Registry.listed_addListener s.registry⟩

/-- The registrations that an activation keeps are there when it begins. -/
theorem ofActivation_activate (x : Surroundings) (hPhase : g.session.extension.phase = .inactive) :
    (g.play x .activate).session.registry.ofActivation =
      (g.session.equipped x).registry.ofActivation := by
  have hRegistry : (g.play x .activate).session.registry = (g.session.beginActivate x).1.registry :=
    registry_settle_nothing x g.waiting _
  rw [hRegistry, Session.beginActivate_equipped x hPhase]
  have hKept : ∀ {k : Core} {r : Core × Option Wait}, k.Begins r →
      r.1.extension.registrations = k.extension.registrations := by
    rintro k r (rfl | rfl) <;> rfl
  exact congrArg Composite.items (hKept (Session.begins_beginStartup x (g.session.equipped x)))

/-! ## What is counted -/

/-- How many activations a move leaves of those that were not ignored since the last deactivation. -/
def leaves (g : Stage) (n : Nat) : Move → Nat
  | .activate => if g.session.extension.phase = .inactive then n + 1 else n
  | .deactivate => 0
  | _ => n

/-- How many activations were not ignored since the last deactivation, when there were `n` before. -/
def standing (x : Surroundings) : Nat → Stage → List Move → Nat
  | n, _, [] => n
  | n, g, m :: moves => standing x (g.leaves n m) (g.play x m) moves

/-- A stage that some run may reach, in which `n` activations were not ignored since the last
deactivation. -/
structure Accumulated (n : Nat) (g : Stage) : Prop where
  tended : ∃ ws, g.Tended ws
  dated : g.Dated
  enlisted : g.session.registry.Enlisted
  count : g.session.registry.listed.length = n

/-- **In every move the extension's listeners are those whose registrations it keeps**, as long as others
dispose of registrations of their own only. -/
theorem enlisted_play {ws : List Watch} (hTended : g.Tended ws) (h : g.session.registry.Enlisted)
    (x : Surroundings) {m : Move} (hm : disposedOwn g m = none) :
    (g.play x m).session.registry.Enlisted := by
  by_cases hRegisters : m.registers = false
  · exact h.alters hTended.orderly.attributed (alters_play x hTended.held hRegisters)
  · -- What is left are the moves with which others register and dispose of handlers.
    cases m with
    | openEditor buffer => exact h.congr rfl rfl h.editors h.clients
    | register hub id other =>
      exact h.congr (Registry.ownAdded_congr
        (Registry.editorAdded_registerCommand g.session.registry hub id (.other other))) rfl h.editors
        h.clients
    | onEditorAdded hub other =>
      rcases Nat.lt_or_ge hub g.session.hubs.length with hHub | hHub
      · refine h.congr ?_ rfl h.editors h.clients
        exact (Registry.ownAdded_registerEditorAdded (c := g.session.registry) hHub (.other other)).trans
          (if_neg fun hBoth => nomatch hBoth.2)
      · unfold Stage.play Session.registerEditorAdded
        dsimp only [withSession]
        rw [List.modify_eq_self hHub]
        exact h
    | onWillSave editor other => exact h.congr rfl rfl h.editors h.clients
    | dispose r =>
      refine (Session.registry_dispose g.session r).symm ▸ ?_
      exact h.dropOther (notMem_of_disposedOwn hm)
    | _ => exact absurd rfl hRegisters

variable {n : Nat}

theorem Accumulated.play (h : g.Accumulated n) (x : Surroundings) {m : Move}
    (hm : disposedOwn g m = none) : (g.play x m).Accumulated (g.leaves n m) := by
  obtain ⟨ws, hTended⟩ := h.tended
  refine ⟨⟨_, hTended.play x hm⟩, (h.dated.play x m).2, enlisted_play hTended h.enlisted x hm, ?_⟩
  -- A restart, a failed startup and an answer to the panel keep what earlier activations registered.
  have hKept : ∀ {m : Move}, m ≠ .activate → m ≠ .deactivate →
      (g.play x m).session.registry.listed.length = n := by
    intro m hActivates hDeactivates
    have hSame : (g.play x m).session.registry.ofActivation = g.session.registry.ofActivation :=
      congrArg Composite.items (registrations_play h.dated x hActivates hDeactivates)
    rw [Registry.listed, hSame]
    exact h.count
  cases m with
  | activate =>
    unfold leaves
    dsimp only
    split
    · rename_i hPhase
      obtain ⟨number, hListed⟩ := listed_equipped x g.session
      rw [Registry.listed, ofActivation_activate x hPhase]
      change (g.session.equipped x).registry.listed.length = n + 1
      rw [hListed, List.length_append, h.count]
      rfl
    · rename_i hPhase
      have hIgnored : g.play x .activate = g := by
        unfold Stage.play Session.activate Session.beginActivate
        rw [if_pos hPhase]
        rfl
      rw [hIgnored]
      exact h.count
  | deactivate =>
    rw [registry_deactivate]
    rfl
  | _ => exact hKept nofun nofun

theorem Accumulated.playAll (h : g.Accumulated n) (x : Surroundings) {moves : List Move}
    (hMoves : collect x disposedOwn g moves = []) :
    (g.playAll x moves).Accumulated (standing x n g moves) := by
  induction moves generalizing g n with
  | nil => exact h
  | cons m moves ih =>
    obtain ⟨hFirst, hRest⟩ := List.append_eq_nil_iff.mp hMoves
    exact ih (h.play x (Option.toList_eq_nil_iff.mp hFirst)) hRest

theorem accumulated_pristine {s : Session} (h : s.Pristine) : (⟨s, []⟩ : Stage).Accumulated 0 where
  tended := ⟨[], tended_pristine h⟩
  dated := List.forall_mem_nil _
  enlisted := by
    have hNone : s.registry.ownAdded = [] := by
      refine List.filter_eq_nil_iff.mpr fun e he hOwn => ?_
      rw [h.others e.2 (.editorAdded Session.ownHub e.1) he] at hOwn
      cases hOwn
    refine ⟨?_, ?_, ?_⟩
    · simp [Session.registry, h.extension]
    · simp [Session.registry, h.extension]
    · rw [hNone]
      simp [Session.registry, Registry.listed, h.extension]
  count := by simp [Session.registry, Registry.listed, h.extension]

/-! ## Being told of an added editor -/

/-- The listeners that the extension has are alike, and as many as activations were counted. -/
theorem Accumulated.snapshot (h : g.Accumulated n) :
    (g.session.registry.editorAdded Session.ownHub).snapshot.filter Handler.isOwn =
      List.replicate n (.own .watchEditor) := by
  have hOwn : (g.session.registry.editorAdded Session.ownHub).snapshot.filter Handler.isOwn =
      g.session.registry.listed.map Prod.snd := by
    rw [← h.enlisted.listeners, Listeners.snapshot, List.filter_map]
    rfl
  rw [hOwn, List.eq_replicate_iff, List.length_map]
  refine ⟨h.count, fun handler hHandler => ?_⟩
  obtain ⟨e, he, rfl⟩ := List.mem_map.mp hHandler
  obtain ⟨r, -, hEntry⟩ := List.mem_filterMap.mp he
  exact (Registration.eq_of_listener? hEntry).2

/-- The extension's calls that are due when an editor is added are as many as activations were counted. -/
theorem Accumulated.due (h : g.Accumulated n) (editor : Nat) :
    (g.due (.addEditor Session.ownHub editor)).filter (·.handler.isOwn) =
      List.replicate n ⟨.added, .own .watchEditor, editor⟩ := by
  have hFilter : (g.due (.addEditor Session.ownHub editor)).filter (·.handler.isOwn) =
      Call.all .added editor
        ((g.session.registry.editorAdded Session.ownHub).snapshot.filter Handler.isOwn) :=
    List.filter_map
  rw [hFilter, h.snapshot, Call.all, List.map_replicate]

/-- A step of a run is made in the stage that the moves before it lead to. -/
theorem before_of_mem_gather {p : Step} {moves : List Move}
    (hp : p ∈ gather x (fun g m => [⟨g, m⟩]) g moves) :
    ∃ before after, moves = before ++ p.move :: after ∧ p.stage = g.playAll x before := by
  induction moves generalizing g with
  | nil => cases hp
  | cons m moves ih =>
    rcases List.mem_append.mp hp with hFirst | hRest
    · obtain rfl := List.mem_singleton.mp hFirst
      exact ⟨[], moves, rfl, rfl⟩
    · obtain ⟨before, after, rfl, hStage⟩ := ih hRest
      exact ⟨m :: before, after, rfl, hStage⟩

end Stage

/-- An operation of a run that has ended made the calls that were due where it began. -/
theorem Courses.began {x : Surroundings} {s : Session} {moves : List Move} {steps : List Step}
    (hEnded : steps ∈ (Courses.playAll x {} ⟨s, []⟩ moves).ended) :
    ∃ m before after, moves = before ++ m :: after ∧
      steps.head? = some ⟨Stage.playAll x ⟨s, []⟩ before, m⟩ ∧
      callsOf x steps = (Stage.playAll x ⟨s, []⟩ before).due m := by
  have hNone : Courses.Follow x {} ⟨s, []⟩ := ⟨.nil, List.forall_mem_nil _⟩
  obtain ⟨⟨stage, m⟩, hFirst, hCalls⟩ := ((hNone.playAll moves).ended steps hEnded).calls
  have hStep : ⟨stage, m⟩ ∈ (Courses.playAll x {} ⟨s, []⟩ moves).total :=
    List.mem_append_right _ (List.mem_flatten_of_mem hEnded (List.mem_of_head? hFirst))
  obtain ⟨before, after, hMoves, hStage⟩ :=
    Stage.before_of_mem_gather ((Courses.total_playAll x {} ⟨s, []⟩ moves).subset hStep)
  dsimp only at hStage
  subst hStage
  exact ⟨m, before, after, hMoves, hFirst, hCalls⟩

namespace Stage

variable {x : Surroundings}

/-! ## The main statement -/

/-- The extension has a listener for added editors for each activation that was not ignored since the last
deactivation, and an operation that adds an editor, when it has ended, has told the extension of it as
often as there were such activations where it began. -/
structure Accumulates (x : Surroundings) (s : Session) (moves : List Move) : Prop where
  held : ((playAll x ⟨s, []⟩ moves).session.registry.editorAdded Session.ownHub).snapshot.filter
    Handler.isOwn = List.replicate (standing x 0 ⟨s, []⟩ moves) (.own .watchEditor)
  told : ∀ steps ∈ (Courses.playAll x {} ⟨s, []⟩ moves).ended,
    ∃ m before after, moves = before ++ m :: after ∧
      steps.head? = some ⟨playAll x ⟨s, []⟩ before, m⟩ ∧
      ∀ editor, m = .addEditor Session.ownHub editor →
        (callsOf x steps).filter (·.handler.isOwn) =
          List.replicate (standing x 0 ⟨s, []⟩ before) ⟨.added, .own .watchEditor, editor⟩

/-- **Activations accumulate listeners.** In every run, with operations that overlap or follow one another
and whatever they end with, as long as others dispose of registrations of their own only: the listeners of
the extension for added editors are as many as the activations that were not ignored since the last
deactivation, and an editor that is added is told to each of them once. A startup that fails and a panel
that is left take none away. -/
theorem accumulates (x : Surroundings) {s : Session} (hPristine : s.Pristine) {moves : List Move}
    (hMoves : collect x disposedOwn ⟨s, []⟩ moves = []) : Accumulates x s moves where
  held := ((accumulated_pristine hPristine).playAll x hMoves).snapshot
  told steps hEnded := by
    obtain ⟨m, before, after, rfl, hFirst, hCalls⟩ := Courses.began hEnded
    refine ⟨m, before, after, rfl, hFirst, ?_⟩
    rintro editor rfl
    rw [collect_append] at hMoves
    have hBefore := (accumulated_pristine hPristine).playAll x (List.append_eq_nil_iff.mp hMoves).1
    rw [hCalls]
    exact hBefore.due editor

/-- The scripts cannot be made executable, so that the first startup fails. Nothing else does. -/
def refusesScripts : (w : Wait) → w.Reply
  | .chmod _ => Outcome.done { status := some 1 }
  | w => w.goodReply

/-- An activation whose startup fails, and another one, whose startup goes well. -/
def activatedTwice : List Move :=
  [.activate, .reply 0 refusesScripts, .activate, .reply 0 Wait.goodReply, .reply 0 Wait.goodReply]

/-- An editor that is added then is told to two listeners of the extension. -/
theorem accumulates_activatedTwice :
    let moves := activatedTwice ++ [.addEditor 0 0]
    Accumulates .plain .scripted moves ∧ standing .plain 0 ⟨.scripted, []⟩ moves = 2 ∧
      callsOf .plain ((Courses.playAll .plain {} ⟨.scripted, []⟩ moves).ended.getLast?.getD []) =
        [⟨.added, .own .watchEditor, 0⟩, ⟨.added, .own .watchEditor, 0⟩] :=
  ⟨accumulates .plain Session.pristine_scripted (by decide +kernel), by decide +kernel, by decide +kernel⟩

/-- However often the extension is activated, with every operation at its end before the next one begins, it
has at most one listener for added editors, and an editor that is added is told to it at most once. -/
def ListensOnce : Prop :=
  ∀ (x : Surroundings) (s : Session), s.Pristine → ∀ moves : List Move, Sequential x ⟨s, []⟩ moves →
    let g := playAll x ⟨s, []⟩ moves
    ((g.session.registry.editorAdded Session.ownHub).snapshot.filter Handler.isOwn).length ≤ 1 ∧
      ∀ editor, ((g.due (.addEditor Session.ownHub editor)).filter (·.handler.isOwn)).length ≤ 1

theorem startPanics_refusesScripts (w : Wait) : w.startPanics (refusesScripts w) = false := by
  cases w <;> rfl

/-- After a startup that failed the extension listens twice. -/
theorem not_listensOnce : ¬ ListensOnce := by
  intro h
  have hSequential : Sequential .plain ⟨.scripted, []⟩ activatedTwice :=
    ⟨.operation rfl ⟨rfl, rfl⟩, .reply 0 refusesScripts startPanics_refusesScripts,
      .operation rfl (by unfold Quiet; decide +kernel), .reply 0 Wait.goodReply startPanics_goodReply,
      .reply 0 Wait.goodReply startPanics_goodReply, trivial⟩
  have hHeld := (h .plain .scripted Session.pristine_scripted activatedTwice hSequential).1
  revert hHeld
  decide +kernel

end Stage

end ExtensionHost
