import ExtensionHost.Proofs.Lifecycle.Notices

/-!
# How cores evolve

Every move changes the core of a session in a few ways only (`Core.Evolves`), and only an activation adds
to the registrations that the extension keeps of its activations. What each of these ways preserves, a run
preserves: the extension keeps registrations of listeners on clients and of handlers on editors, each in
its place (`Reached.inPlace`), and a client that was made gets no listener any more (`forgets_playAll`).
-/

namespace ExtensionHost

/-- Whether a registration is that of a handler that runs before an editor is saved. -/
def Registration.isWillSave : Registration → Bool
  | .willSave _ _ => true
  | _ => false

/-- Whether a move activates the extension. -/
def Move.activates : Move → Bool
  | .activate => true
  | _ => false

namespace Core

/-! ## Evolution -/

/-- What happens to a core in moves of which some or none activate the extension. -/
inductive Evolves (activating : Bool) : Core → Core → Prop where
  | refl (k : Core) : Evolves activating k k
  | inPhase (k : Core) (phase : Phase) : Evolves activating k (k.inPhase phase)
  | noted (k : Core) (stopped : List Nat) (activations : Nat) (prompts : List (Option String)) :
      Evolves activating k { k with stopped, activations, prompts }
  | slotted (k : Core) (slot : Option Nat) :
      Evolves activating k { k with extension := { k.extension with slot } }
  | drops (k : Core) (rs : List Registration) :
      Evolves activating k { k with clients := rs.foldl dropListener k.clients }
  | clear (k : Core) : Evolves activating k k.clear
  | enroll (k : Core) : Evolves activating k k.enroll
  | watch (k : Core) (uri : String) (editor number : Nat) :
      Evolves activating k (k.watch uri (.willSave editor number))
  | retire (k : Core) : Evolves activating k k.retire
  | equip (k : Core) (preferences : UserPreferences) (rs : List Registration)
      (hActivating : activating = true) : Evolves activating k (k.equip preferences rs)
  | trans {k k' k'' : Core} (h : Evolves activating k k') (h' : Evolves activating k' k'') :
      Evolves activating k k''

variable {activating : Bool} {k k' : Core} {r : Core × Option Wait}

theorem evolves_release (k : Core) : k.Evolves activating k.release :=
  .trans (.clear k) (.slotted _ none)

theorem evolves_shutdown (k : Core) : k.Evolves activating k.shutdown :=
  (evolves_release k).trans (.noted _ _ _ _)

theorem evolves_begins (hBegins : k.Begins r) : k.Evolves activating r.1 := by
  rcases hBegins with rfl | rfl
  · exact .inPhase k _
  · exact .inPhase k _

theorem evolves_restarts (hRestarts : k.Restarts r) : k.Evolves activating r.1 := by
  rcases hRestarts with ⟨-, hBegins⟩ | ⟨client, -, rfl⟩
  · exact (evolves_shutdown k).trans (evolves_begins hBegins)
  · exact evolves_shutdown k

theorem evolves_handles (hHandles : k.Handles r) : k.Evolves activating r.1 := by
  cases hHandles with
  | quiet => exact .refl k
  | watched uri editor number => exact .watch k uri editor number
  | restarted hRestarts => exact evolves_restarts hRestarts

theorem evolves_activates (hActivates : k.Activates r) : k.Evolves true r.1 := by
  rcases hActivates with rfl | ⟨-, preferences, rs, hBegins⟩
  · exact .refl k
  · exact .trans (.equip k preferences rs rfl) (evolves_begins hBegins)

theorem evolves_deactivated (k : Core) : k.Evolves activating k.deactivated.1 := by
  have hRetired : k.Evolves activating k.retire.shutdown := .trans (.retire k) (evolves_shutdown _)
  unfold deactivated
  split
  · exact hRetired.trans (.inPhase _ _)
  · exact hRetired

theorem evolves_endStartup (k : Core) (epoch : Nat) (well : Bool) :
    k.Evolves activating (k.endStartup epoch well).1 := by
  by_cases hEpoch : k.extension.epoch = epoch
  · rw [endStartup_current hEpoch]
    cases well with
    | true => exact .trans (.inPhase k .running) (.noted _ _ _ _)
    | false => exact .inPhase k .inactive
  · rw [endStartup_overtaken hEpoch]
    split
    · exact (evolves_shutdown k).trans (.inPhase _ _)
    · exact evolves_shutdown k

theorem evolves_prompted (k : Core) (rest : List (Option String)) :
    k.Evolves activating (k.prompted rest).1 :=
  .trans (.noted k k.stopped k.activations rest) ((evolves_release _).trans (.inPhase _ _))

theorem evolves_receives {w : Wait} {reply : w.Reply} (hReceives : k.Receives w reply r) :
    k.Evolves activating r.1 := by
  cases hReceives with
  | scriptsRefused epoch => exact evolves_endStartup k epoch false
  | scriptsExecutable => exact .enroll k
  | started epoch client => exact .trans (.slotted k (some client)) (evolves_endStartup _ epoch true)
  | startFailed epoch => exact .trans (.clear k) (evolves_endStartup _ epoch false)
  | startPanicked epoch => exact evolves_endStartup k epoch false
  | staleStopped | deactivateStopped => exact .inPhase k _
  | restartOvertaken | promptLeft | quiet => exact .refl k
  | restartStopped _ _ _ _ hBegins => exact evolves_begins hBegins
  | promptChosen _ _ _ hBegins => exact evolves_begins hBegins

/-! ## What is preserved -/

/-- Among the registrations on clients there are only listeners, and among those on editors only handlers
that run before a save. -/
structure InPlace (k : Core) : Prop where
  clients : ∀ r ∈ k.extension.clientRegistrations.items, r.isDidStop = true
  editors : ∀ p ∈ k.extension.editorRegistrations, p.2.isWillSave = true

theorem InPlace.watch (h : k.InPlace) (uri : String) (editor number : Nat) :
    (k.watch uri (.willSave editor number)).InPlace := by
  have hEditors : ∀ p ∈ Keyed.insert uri (.willSave editor number) k.extension.editorRegistrations,
      p.2.isWillSave = true := by
    intro p hp
    rcases Keyed.mem_insert hp with rfl | hOld
    · rfl
    · exact h.editors p hOld
  unfold Core.watch
  split <;> exact ⟨h.clients, hEditors⟩

theorem InPlace.evolves (h : k.InPlace) (hEvolves : k.Evolves activating k') : k'.InPlace := by
  induction hEvolves with
  | clear k => exact ⟨nofun, h.editors⟩
  | enroll k =>
    refine ⟨?_, h.editors⟩
    intro r hr
    obtain rfl := List.mem_singleton.mp hr
    rfl
  | watch k uri editor number => exact h.watch uri editor number
  | retire k => exact ⟨h.clients, nofun⟩
  | trans _ _ ih ih' => exact ih' (ih h)
  | _ => exact ⟨h.clients, h.editors⟩

/-- What was kept of activations stays gone as long as nothing activates the extension. -/
theorem unregistered_evolves (h : k.extension.registrations.items = [])
    (hEvolves : k.Evolves false k') : k'.extension.registrations.items = [] := by
  induction hEvolves with
  | retire k => rfl
  | watch k uri editor number =>
    unfold watch
    split <;> exact h
  | equip _ _ _ hActivating => cases hActivating
  | trans _ _ ih ih' => exact ih' (ih h)
  | _ => exact h

/-- No client that was made has a listener that it did not have before. -/
structure Forgets (k k' : Core) : Prop where
  made : k.clients.length ≤ k'.clients.length
  listeners : ∀ client < k.clients.length, k'.listeners client ⊆ k.listeners client

theorem forgets_drops (rs : List Registration)
    (hClients : k'.clients = rs.foldl dropListener k.clients) : k.Forgets k' where
  made := by rw [hClients, length_dropListeners]
  listeners client _ := by
    unfold Core.listeners
    rw [hClients]
    exact fun entry hEntry => (mem_entriesAt_drops.mp hEntry).1

theorem forgets_of_eq (hClients : k'.clients = k.clients) : k.Forgets k' := forgets_drops [] hClients

theorem Forgets.trans {k'' : Core} (h : k.Forgets k') (h' : k'.Forgets k'') : k.Forgets k'' where
  made := h.made.trans h'.made
  listeners client hClient :=
    List.Subset.trans (h'.listeners client (hClient.trans_le h.made)) (h.listeners client hClient)

/-- The client that is made is the only one that is listened to anew. -/
theorem forgets_enroll (k : Core) : k.Forgets k.enroll := by
  -- The client is made, then listeners on all clients are dropped, then the new one is listened to.
  let made : Core := { k with clients := k.clients ++ [({} : ClientRecord)] }
  have hLength : k.enroll.clients.length = k.clients.length + 1 := by
    rw [enroll, listen, List.length_modify, clear, length_dropListeners, List.length_append]
    rfl
  refine ⟨hLength ▸ Nat.le_succ _, ?_⟩
  intro client hClient
  have hCleared : made.Forgets made.clear := forgets_drops _ rfl
  have hMade : made.clear.listeners client ⊆ made.listeners client :=
    hCleared.listeners client (hClient.trans_le (List.length_append ▸ Nat.le_add_right _ _))
  have hOther : k.enroll.listeners client = made.clear.listeners client :=
    listeners_listen_ne (Nat.ne_of_lt hClient)
  have hSame : made.listeners client = k.listeners client := entriesAt_made k.clients client
  rw [hOther, ← hSame]
  exact hMade

theorem forgets_evolves (hEvolves : k.Evolves activating k') : k.Forgets k' := by
  induction hEvolves with
  | drops k rs => exact forgets_drops rs rfl
  | clear k => exact forgets_drops _ rfl
  | enroll k => exact forgets_enroll k
  | watch k uri editor number =>
    unfold watch
    split
    · exact forgets_drops [_] rfl
    · exact forgets_of_eq rfl
  | retire k =>
    refine forgets_drops (k.extension.registrations.items.reverse ++
      k.extension.editorRegistrations.map Prod.snd) ?_
    rw [List.foldl_append]
    rfl
  | trans _ _ ih ih' => exact ih.trans ih'
  | _ => exact forgets_of_eq rfl

end Core

namespace Stage

variable {x : Surroundings} {g : Stage}

/-! ## Moves -/

theorem evolves_settle {activating : Bool} {k : Core} {waiting : List Suspended} {rest : Rest}
    {r : Session × Option Wait} (hr : k.Evolves activating r.1.core) :
    k.Evolves activating (after waiting (Session.settle x r rest)).session.core := by
  obtain ⟨w, hEvolves, -⟩ := after_settle (x := x) (J := fun k' _ => k.Evolves activating k')
    (fun k' r hk hHandles => hk.trans (Core.evolves_handles hHandles)) waiting rest hr
  exact hEvolves

/-- **Every move is an evolution of the core**, and only an activation is one that activates. -/
theorem evolves_play (x : Surroundings) (g : Stage) (m : Move) :
    g.session.core.Evolves m.activates (g.play x m).session.core := by
  have hOutside : ∀ {m : Move}, m.isOutside = true →
      g.session.core.Evolves m.activates (g.play x m).session.core := by
    intro m hm
    obtain ⟨⟨rs, told, hCore⟩, -⟩ := play_outside x g hm
    rw [hCore]
    exact .trans (.drops _ rs) (.noted _ _ _ _)
  cases m with
  | activate =>
    exact evolves_settle (Core.evolves_activates (Session.activates_beginActivate x g.session))
  | deactivate =>
    have hCore : g.session.beginDeactivate.1.core = g.session.core.deactivated.1 :=
      congrArg Prod.fst (Session.coreOf_beginDeactivate g.session)
    refine evolves_settle (r := g.session.beginDeactivate) ?_
    rw [hCore]
    exact Core.evolves_deactivated _
  | restart =>
    exact evolves_settle (Core.evolves_restarts (Session.restarts_beginRestart x g.session))
  | invoke hub id editor =>
    unfold play Session.invoke
    dsimp only
    split
    · exact .refl _
    · exact evolves_settle (Core.evolves_handles (Session.handles_runHandler x g.session _ editor))
  | addEditor hub editor => exact evolves_settle (r := (g.session, none)) (.refl _)
  | save editor => exact evolves_settle (r := (g.session, none)) (.refl _)
  | prompt =>
    rcases play_prompt x g with ⟨-, hPlay⟩ | ⟨reason, rest, -, r, hPlay, hr⟩
    · rw [hPlay]
      exact .refl _
    · rw [hPlay]
      refine evolves_settle ?_
      rw [show r.1.core = (g.session.core.prompted rest).1 from congrArg Prod.fst hr]
      exact Core.evolves_prompted _ rest
  | reply number answer =>
    rcases play_reply x g number answer with ⟨-, hPlay⟩ | ⟨t, -, r, hPlay, hReceives⟩
    · rw [hPlay]
      exact .refl _
    · rw [hPlay]
      exact evolves_settle (Core.evolves_receives hReceives)
  | serverStopped | dispose | openEditor | edit | register | onEditorAdded | onWillSave
    | changeSettings | changeFiles => exact hOutside rfl

/-! ## Runs -/

theorem forgets_playAll (x : Surroundings) (g : Stage) (moves : List Move) :
    g.session.core.Forgets (g.playAll x moves).session.core := by
  induction moves generalizing g with
  | nil => exact Core.forgets_of_eq rfl
  | cons m moves ih => exact (Core.forgets_evolves (evolves_play x g m)).trans (ih _)

theorem Reached.held (h : g.Reached x) : g.session.held = true := by
  obtain ⟨s, moves, hFresh, rfl⟩ := h
  exact (held_playAll x ⟨s, []⟩ moves).trans hFresh.held

theorem inPlace_playAll (h : g.session.core.InPlace) (x : Surroundings) (moves : List Move) :
    (g.playAll x moves).session.core.InPlace := by
  induction moves generalizing g with
  | nil => exact h
  | cons m moves ih => exact ih (h.evolves (evolves_play x g m))

theorem Reached.inPlace (h : g.Reached x) : g.session.core.InPlace := by
  obtain ⟨s, moves, hFresh, rfl⟩ := h
  have hNew : s.core.extension = {} := hFresh.extension
  have hBefore : s.core.InPlace := by
    refine ⟨?_, ?_⟩
    · rw [hNew]
      exact nofun
    · rw [hNew]
      exact nofun
  exact inPlace_playAll (g := ⟨s, []⟩) hBefore x moves

theorem unregistered_play (h : g.session.extension.registrations.items = []) {m : Move}
    (hm : m ≠ .activate) : (g.play x m).session.extension.registrations.items = [] := by
  have hEvolves := evolves_play x g m
  rw [show m.activates = false by cases m <;> first | rfl | exact absurd rfl hm] at hEvolves
  exact Core.unregistered_evolves h hEvolves

end Stage

end ExtensionHost
