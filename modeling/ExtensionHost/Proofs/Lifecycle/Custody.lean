import ExtensionHost.Proofs.Lifecycle.Listeners
import ExtensionHost.Proofs.Lifecycle.Runs
import Mathlib.Data.List.Perm.Basic

/-!
# Where the clients are

Every client that was made is in at most one place: it starts, or it is held in the slot, or it was asked
to stop, or it was displaced, which means that it was taken out of the slot without being asked to stop.
`Core.Sound` states this of a core, together with the registrations that the extension keeps; it is
preserved by everything that a step does to a core, and so by every run.
-/

namespace ExtensionHost

/-- The client that starts while an operation waits. -/
def Wait.starting? : Wait → Option Nat
  | .start _ client => some client
  | _ => none

/-- The client that has started well with the reply to a wait. -/
def Wait.started? : (w : Wait) → w.Reply → Option Nat
  | .start _ client, .done () => some client
  | _, _ => none

theorem Wait.starting?_of_isQuiet {w : Wait} (hQuiet : w.isQuiet = true) : w.starting? = none := by
  cases w <;> first | rfl | cases hQuiet

theorem Wait.starting?_of_started? {w : Wait} {reply : w.Reply} {client : Nat}
    (h : w.started? reply = some client) : w.starting? = some client := by
  cases w with
  | start epoch c =>
    change Outcome Unit at reply
    cases reply with
    | done => exact h
    | _ => cases h
  | _ => cases h

theorem Wait.started?_of_isQuiet {w : Wait} (hQuiet : w.isQuiet = true) (reply : w.Reply) :
    w.started? reply = none := by
  cases w <;> first | rfl | cases hQuiet

namespace Core

/-! ## Custody -/

/-- The number of places that a client is in. -/
def places (displaced starting : List Nat) (k : Core) (client : Nat) : Nat :=
  displaced.count client + k.extension.slot.toList.count client + starting.count client +
    k.stopped.count client

/-- A core that lost no client: `started` are the clients that started well so far, `displaced` those
that were taken out of the slot without being asked to stop, `starting` those that start now. -/
structure Sound (started displaced starting : List Nat) (k : Core) : Prop where
  tracked : k.Tracked
  onEditors : ∀ p ∈ k.extension.editorRegistrations, p.2.isDidStop = false
  custody : ∀ client, k.places displaced starting client ≤
    if client < k.clients.length then 1 else 0
  accounted : ∀ client ∈ started,
    k.extension.slot = some client ∨ client ∈ k.stopped ∨ client ∈ displaced
  heldStarted : ∀ client, k.extension.slot = some client → client ∈ started
  displacedStarted : ∀ client ∈ displaced, client ∈ started

namespace Sound

variable {started displaced starting : List Nat} {k : Core}

theorem weaken (h : Sound started displaced starting k) {starting' : List Nat}
    (hStarting : ∀ client, starting'.count client ≤ starting.count client) :
    Sound started displaced starting' k where
  tracked := h.tracked
  onEditors := h.onEditors
  custody client := by
    have hCustody := h.custody client
    have hCount := hStarting client
    unfold places at hCustody ⊢
    omega
  accounted := h.accounted
  heldStarted := h.heldStarted
  displacedStarted := h.displacedStarted

theorem inPhase (h : Sound started displaced starting k) (phase : Phase) :
    Sound started displaced starting (k.inPhase phase) :=
  ⟨h.tracked, h.onEditors, h.custody, h.accounted, h.heldStarted, h.displacedStarted⟩

theorem drops (h : Sound started displaced starting k) (rs : List Registration) :
    Sound started displaced starting { k with clients := rs.foldl dropListener k.clients } where
  tracked client entry hEntry := h.tracked client entry (mem_entriesAt_drops.mp hEntry).1
  onEditors := h.onEditors
  custody client := by
    rw [length_dropListeners]
    exact h.custody client
  accounted := h.accounted
  heldStarted := h.heldStarted
  displacedStarted := h.displacedStarted

theorem clear (h : Sound started displaced starting k) : Sound started displaced starting k.clear where
  tracked := h.tracked.unheard_clear.tracked
  onEditors := h.onEditors
  custody client := by
    rw [Core.clear, length_dropListeners]
    exact h.custody client
  accounted := h.accounted
  heldStarted := h.heldStarted
  displacedStarted := h.displacedStarted

theorem release (h : Sound started displaced starting k) :
    Sound started (displaced ++ k.extension.slot.toList) starting k.release where
  tracked := h.tracked.unheard_clear.tracked
  onEditors := h.onEditors
  custody client := by
    refine Nat.le_trans ?_ (h.clear.custody client)
    simp only [places, Core.release, Core.clear, Option.toList_none, List.count_nil,
      List.count_append]
    omega
  accounted client hStarted := by
    rcases h.accounted client hStarted with hSlot | hStopped | hDisplaced
    · simp [hSlot]
    · exact Or.inr (Or.inl hStopped)
    · exact Or.inr (Or.inr (List.mem_append_left _ hDisplaced))
  heldStarted client hSlot := by cases hSlot
  displacedStarted client hDisplaced := by
    rcases List.mem_append.mp hDisplaced with hDisplaced | hHeld
    · exact h.displacedStarted client hDisplaced
    · exact h.heldStarted client (Option.mem_toList.mp hHeld)

theorem shutdown (h : Sound started displaced starting k) :
    Sound started displaced starting k.shutdown where
  tracked := h.tracked.unheard_clear.tracked
  onEditors := h.onEditors
  custody client := by
    refine Nat.le_trans ?_ (h.clear.custody client)
    simp only [places, Core.shutdown, Core.release, Core.clear, Option.toList_none, List.count_nil,
      List.count_append]
    omega
  accounted client hStarted := by
    right
    rcases h.accounted client hStarted with hSlot | hStopped | hDisplaced
    · simp [Core.shutdown, hSlot]
    · exact Or.inl (List.mem_append_left _ hStopped)
    · exact Or.inr hDisplaced
  heldStarted client hSlot := by cases hSlot
  displacedStarted := h.displacedStarted

theorem enroll (h : Sound started displaced starting k) :
    Sound started displaced (starting ++ [k.clients.length]) k.enroll where
  tracked := h.tracked.heardFrom_enroll.2
  onEditors := h.onEditors
  custody client := by
    have hCustody := h.custody client
    have hLength : k.enroll.clients.length = k.clients.length + 1 := by
      simp only [Core.enroll, Core.listen, List.length_modify, Core.clear, length_dropListeners,
        List.length_append, List.length_cons, List.length_nil]
    rw [hLength]
    have hPlaces : k.enroll.places displaced (starting ++ [k.clients.length]) client =
        k.places displaced starting client + if client = k.clients.length then 1 else 0 := by
      simp only [places, Core.enroll, Core.listen, Core.clear, List.count_append,
        List.count_singleton, beq_iff_eq]
      grind
    rw [hPlaces]
    grind
  accounted := h.accounted
  heldStarted := h.heldStarted
  displacedStarted := h.displacedStarted

theorem store {client : Nat} (h : Sound started displaced (client :: starting) k) :
    Sound (started ++ [client]) (displaced ++ k.extension.slot.toList) starting
      (k.store client) where
  tracked := h.tracked
  onEditors := h.onEditors
  custody other := by
    refine Nat.le_trans ?_ (h.custody other)
    simp only [places, Core.store, Option.toList_some, List.count_append, List.count_cons,
      List.count_nil]
    omega
  accounted other hStarted := by
    rcases List.mem_append.mp hStarted with hStarted | hStarted
    · rcases h.accounted other hStarted with hSlot | hStopped | hDisplaced
      · simp [hSlot]
      · exact Or.inr (Or.inl hStopped)
      · exact Or.inr (Or.inr (List.mem_append_left _ hDisplaced))
    · exact Or.inl (congrArg some (List.mem_singleton.mp hStarted).symm)
  heldStarted other hSlot := by
    cases hSlot
    exact List.mem_append_right _ (List.mem_singleton_self _)
  displacedStarted other hDisplaced := by
    refine List.mem_append_left _ ?_
    rcases List.mem_append.mp hDisplaced with hDisplaced | hHeld
    · exact h.displacedStarted other hDisplaced
    · exact h.heldStarted other (Option.mem_toList.mp hHeld)

theorem equip (h : Sound started displaced starting k) (preferences : UserPreferences)
    (rs : List Registration) : Sound started displaced starting (k.equip preferences rs) :=
  ⟨h.tracked, h.onEditors, h.custody, h.accounted, h.heldStarted, h.displacedStarted⟩

theorem watch (h : Sound started displaced starting k) (uri : String) {r : Registration}
    (hr : r.isDidStop = false) : Sound started displaced starting (k.watch uri r) := by
  have hWatching : Sound started displaced starting { k with extension := { k.extension with
      editorRegistrations := Keyed.insert uri r k.extension.editorRegistrations } } := by
    refine ⟨h.tracked, ?_, h.custody, h.accounted, h.heldStarted, h.displacedStarted⟩
    intro p hp
    rcases Keyed.mem_insert hp with rfl | hp
    · exact hr
    · exact h.onEditors p hp
  unfold Core.watch
  split
  · exact hWatching.drops [_]
  · exact hWatching

theorem retire (h : Sound started displaced starting k) :
    Sound started displaced starting k.retire := by
  have hDropped := (h.drops k.extension.registrations.items.reverse).drops
    (k.extension.editorRegistrations.map Prod.snd)
  refine ⟨hDropped.tracked, ?_, hDropped.custody, hDropped.accounted, hDropped.heldStarted,
    hDropped.displacedStarted⟩
  intro p hp
  cases hp

/-! ### One place at a time -/

theorem not_held_of_displaced (h : Sound started displaced starting k) {client : Nat}
    (hDisplaced : client ∈ displaced) : k.extension.slot ≠ some client := by
  intro hSlot
  have hCustody := h.custody client
  have hCount := List.count_pos_iff.mpr hDisplaced
  unfold places at hCustody
  rw [hSlot, Option.toList_some, List.count_singleton_self] at hCustody
  split at hCustody <;> omega

theorem not_stopped_of_held (h : Sound started displaced starting k) {client : Nat}
    (hSlot : k.extension.slot = some client) : client ∉ k.stopped := by
  intro hStopped
  have hCustody := h.custody client
  have hCount := List.count_pos_iff.mpr hStopped
  unfold places at hCustody
  rw [hSlot, Option.toList_some, List.count_singleton_self] at hCustody
  split at hCustody <;> omega

theorem count_stopped_le_one (h : Sound started displaced starting k) (client : Nat) :
    k.stopped.count client ≤ 1 := by
  have hCustody := h.custody client
  unfold places at hCustody
  split at hCustody <;> omega

theorem not_started_of_starting (h : Sound started displaced starting k) {client : Nat}
    (hStarting : client ∈ starting) : client ∉ started := by
  intro hStarted
  have hCustody := h.custody client
  have hCount := List.count_pos_iff.mpr hStarting
  unfold places at hCustody
  rcases h.accounted client hStarted with hSlot | hStopped | hDisplaced
  · rw [hSlot, Option.toList_some, List.count_singleton_self] at hCustody
    split at hCustody <;> omega
  · have hCount' := List.count_pos_iff.mpr hStopped
    split at hCustody <;> omega
  · have hCount' := List.count_pos_iff.mpr hDisplaced
    split at hCustody <;> omega

theorem not_stopped_of_displaced (h : Sound started displaced starting k) {client : Nat}
    (hDisplaced : client ∈ displaced) : client ∉ k.stopped := by
  intro hStopped
  have hCustody := h.custody client
  have hCount := List.count_pos_iff.mpr hDisplaced
  have hCount' := List.count_pos_iff.mpr hStopped
  unfold places at hCustody
  split at hCustody <;> omega

end Sound

/-! ## Custody after a step -/

/-- What a step leaves is sound: its core is, with the client that starts now if the step waits for
one. -/
def SoundAfter (started displaced starting : List Nat) (r : Core × Option Wait) : Prop :=
  Sound started displaced (starting ++ (r.2.bind Wait.starting?).toList) r.1

section

variable {started displaced starting : List Nat} {k : Core}

theorem Sound.after (h : Sound started displaced starting k) {w : Option Wait}
    (hw : w.bind Wait.starting? = none) : SoundAfter started displaced starting (k, w) := by
  unfold SoundAfter
  rw [hw, Option.toList_none, List.append_nil]
  exact h

theorem Sound.endStartup (h : Sound started displaced starting k) (epoch : Nat) (well : Bool) :
    SoundAfter started displaced starting (k.endStartup epoch well) := by
  unfold Core.endStartup
  split
  · split
    · have hRunning : Sound started displaced starting
          { k.inPhase .running with activations := k.activations + 1 } :=
        ⟨h.tracked, h.onEditors, h.custody, h.accounted, h.heldStarted, h.displacedStarted⟩
      exact hRunning.after rfl
    · exact (h.inPhase .inactive).after rfl
  · split
    · exact (h.shutdown.inPhase .inactive).after rfl
    · exact h.shutdown.after rfl

theorem Sound.begins (h : Sound started displaced starting k) {r : Core × Option Wait}
    (hBegins : k.Begins r) : SoundAfter started displaced starting r := by
  rcases hBegins with rfl | rfl
  · exact (h.inPhase .inactive).after rfl
  · exact (h.inPhase .starting).after rfl

theorem Sound.handles (h : Sound started displaced starting k) {r : Core × Option Wait}
    (hHandles : k.Handles r) : SoundAfter started displaced starting r := by
  cases hHandles with
  | quiet w hQuiet =>
    refine h.after (Option.bind_eq_none_iff.mpr ?_)
    intro w' hw'
    exact Wait.starting?_of_isQuiet (hQuiet w' hw')
  | watched uri editor number => exact (h.watch uri rfl).after rfl
  | restarted hRestarts =>
    rcases hRestarts with ⟨-, hBegins⟩ | ⟨client, -, rfl⟩
    · exact h.shutdown.begins hBegins
    · exact h.shutdown.after rfl

theorem Sound.opens (h : Sound started displaced starting k) {r : Core × Option Wait}
    (hOpens : k.Opens r) : SoundAfter started displaced starting r := by
  cases hOpens with
  | nothing => exact h.after rfl
  | activated hActivates =>
    rcases hActivates with rfl | ⟨-, preferences, rs, hBegins⟩
    · exact h.after rfl
    · exact (h.equip preferences rs).begins hBegins
  | deactivated =>
    unfold Core.deactivated
    split
    · exact (h.retire.shutdown.inPhase .inactive).after rfl
    · exact h.retire.shutdown.after rfl
  | handled hHandles => exact h.handles hHandles

theorem Sound.prompted (h : Sound started displaced starting k) (rest : List (Option String)) :
    SoundAfter started (displaced ++ k.extension.slot.toList) starting (k.prompted rest) := by
  have hRest : Sound started displaced starting { k with prompts := rest } :=
    ⟨h.tracked, h.onEditors, h.custody, h.accounted, h.heldStarted, h.displacedStarted⟩
  exact (hRest.release.inPhase .inactive).after rfl

/-- A reply with which no client has started adds nothing to what started and what was displaced. -/
theorem SoundAfter.unchanged {r : Core × Option Wait} (h : SoundAfter started displaced starting r)
    {client slot : Option Nat} (hClient : client = none) :
    SoundAfter (started ++ client.toList) (displaced ++ (client.bind fun _ => slot).toList)
      starting r := by
  subst hClient
  rw [Option.bind_none, Option.toList_none, List.append_nil, List.append_nil]
  exact h

theorem Sound.receives {w : Wait} {reply : w.Reply}
    (h : Sound started displaced (w.starting?.toList ++ starting) k) {r : Core × Option Wait}
    (hReceives : k.Receives w reply r) :
    SoundAfter (started ++ (w.started? reply).toList)
      (displaced ++ ((w.started? reply).bind fun _ => k.extension.slot).toList) starting r := by
  have hForgotten : Sound started displaced starting k := by
    refine h.weaken ?_
    intro client
    rw [List.count_append]
    exact Nat.le_add_left _ _
  cases hReceives with
  | scriptsRefused epoch => exact (hForgotten.endStartup epoch false).unchanged rfl
  | scriptsExecutable epoch =>
    have hEnrolled : SoundAfter started displaced starting
        (k.enroll, some (.start epoch k.clients.length)) := hForgotten.enroll
    exact hEnrolled.unchanged rfl
  | started epoch client => exact Sound.endStartup (Sound.store h) epoch true
  | startFailed epoch client => exact (hForgotten.clear.endStartup epoch false).unchanged rfl
  | startPanicked epoch client => exact (hForgotten.endStartup epoch false).unchanged rfl
  | staleStopped client => exact ((hForgotten.inPhase .inactive).after rfl).unchanged rfl
  | deactivateStopped client => exact ((hForgotten.inPhase .inactive).after rfl).unchanged rfl
  | restartOvertaken epoch client => exact (hForgotten.after rfl).unchanged rfl
  | restartStopped epoch client _ _ hBegins => exact (hForgotten.begins hBegins).unchanged rfl
  | promptLeft epoch => exact (hForgotten.after rfl).unchanged rfl
  | promptChosen epoch _ _ hBegins => exact (hForgotten.begins hBegins).unchanged rfl
  | quiet _ _ hQuiet => exact (hForgotten.after rfl).unchanged (Wait.started?_of_isQuiet hQuiet reply)

end

end Core

namespace Stage

/-! ## Custody along a run -/

/-- The client that has started well with a move. -/
def startedBy (g : Stage) : Move → Option Nat
  | .reply number answer => (g.waiting[number]?).bind fun t => t.wait.started? (answer t.wait)
  | _ => none

/-- The client whose server stops on its own with a move. -/
def terminatedBy (_ : Stage) : Move → Option Nat
  | .serverStopped client _ => some client
  | _ => none

/-- The client that a move takes out of the slot without asking it to stop: the one that is held when
another has started well, and the one that is held when the task about a stopped server begins. -/
def displacedBy (g : Stage) : Move → Option Nat
  | .reply number answer => (g.startedBy (.reply number answer)).bind fun _ => g.session.extension.slot
  | .prompt => if g.session.prompts = [] then none else g.session.extension.slot
  | _ => none

theorem history_of_isOperation (g : Stage) {m : Move} (hm : m.isOperation = true) :
    g.startedBy m = none ∧ g.displacedBy m = none ∧ g.terminatedBy m = none := by
  cases m <;> first | exact ⟨rfl, rfl, rfl⟩ | cases hm

theorem history_of_isForeign (g : Stage) {m : Move} (hm : m.isForeign = true) :
    g.startedBy m = none ∧ g.displacedBy m = none ∧ g.terminatedBy m = none := by
  cases m <;> first | exact ⟨rfl, rfl, rfl⟩ | cases hm

theorem displacedBy_prompt_nil {g : Stage} (hPrompts : g.session.core.prompts = []) :
    g.displacedBy .prompt = none := if_pos hPrompts

theorem displacedBy_prompt_cons {g : Stage} {reason : Option String} {rest : List (Option String)}
    (hPrompts : g.session.core.prompts = reason :: rest) :
    g.displacedBy .prompt = g.session.core.extension.slot := by
  refine if_neg ?_
  intro hNone
  rw [show g.session.prompts = reason :: rest from hPrompts] at hNone
  cases hNone

theorem startedBy_reply_none {g : Stage} {number : Nat} (hNumber : g.waiting[number]? = none)
    (answer : (w : Wait) → w.Reply) : g.startedBy (.reply number answer) = none := by
  simp [startedBy, hNumber]

theorem startedBy_reply_some {g : Stage} {number : Nat} {t : Suspended}
    (ht : g.waiting[number]? = some t) (answer : (w : Wait) → w.Reply) :
    g.startedBy (.reply number answer) = t.wait.started? (answer t.wait) := by
  simp [startedBy, ht]

/-- The clients that start in a stage. -/
def starting (g : Stage) : List Nat := g.waits.filterMap Wait.starting?

/-- The core of a stage is sound with the clients that start in it. -/
def Sound (started displaced : List Nat) (g : Stage) : Prop :=
  Core.Sound started displaced g.starting g.session.core

section

variable {x : Surroundings} {started displaced : List Nat} {g : Stage}

theorem Sound.of_core (h : g.Sound started displaced) {g' : Stage}
    (hCore : g'.session.core = g.session.core) (hWaits : g'.waits = g.waits) :
    g'.Sound started displaced := by
  unfold Sound starting
  rw [hCore, hWaits]
  exact h

/-- What handlers preserve of sound cores holds of what an operation leaves when it waits or has
ended. -/
theorem after_settle_sound {J : Core → Option Wait → Prop} {starting : List Nat}
    (hHandles : ∀ k r, Core.Sound started displaced starting k → J k none → k.Handles r → J r.1 r.2)
    (waiting : List Suspended) (rest : Rest) {r : Session × Option Wait}
    (hSound : Core.SoundAfter started displaced starting (Session.coreOf r))
    (hr : J r.1.core r.2) :
    ∃ w : Option Wait, J (after waiting (Session.settle x r rest)).session.core w ∧
      (after waiting (Session.settle x r rest)).waits =
        waiting.map Suspended.wait ++ w.toList := by
  obtain ⟨w, ⟨-, hw⟩, hWaits⟩ := after_settle (x := x)
    (J := fun k w => Core.SoundAfter started displaced starting (k, w) ∧ J k w)
    (fun k r ⟨hk, hJ⟩ hHandle => by
      have hCore : Core.Sound started displaced (starting ++ []) k := hk
      rw [List.append_nil] at hCore
      exact ⟨hCore.handles hHandle, hHandles k r hCore hJ hHandle⟩) waiting rest ⟨hSound, hr⟩
  exact ⟨w, hw, hWaits⟩

/-- An operation that has run up to where it waits or ends leaves a sound stage. -/
theorem sound_settle {waiting : List Suspended} {r : Session × Option Wait} {rest : Rest}
    (hr : Core.SoundAfter started displaced
      ((waiting.map Suspended.wait).filterMap Wait.starting?) (Session.coreOf r)) :
    (after waiting (Session.settle x r rest)).Sound started displaced := by
  obtain ⟨w, hw, hWaits⟩ := after_settle_sound (x := x)
    (J := fun k w => Core.SoundAfter started displaced
      ((waiting.map Suspended.wait).filterMap Wait.starting?) (k, w))
    (fun k r hCore _ hHandle => hCore.handles hHandle) waiting rest hr hr
  unfold Sound starting
  rw [hWaits, List.filterMap_append]
  have hStarting : w.toList.filterMap Wait.starting? = (w.bind Wait.starting?).toList := by
    cases w with
    | none => rfl
    | some w => cases h : w.starting? <;> simp [h]
  rw [hStarting]
  exact hw

/-- The clients that start in a stage are that of one operation and those of the others. -/
theorem count_starting {number : Nat} {t : Suspended} (ht : g.waiting[number]? = some t)
    (client : Nat) :
    (t.wait.starting?.toList ++
        ((g.waiting.eraseIdx number).map Suspended.wait).filterMap Wait.starting?).count client =
      g.starting.count client := by
  obtain ⟨hNumber, rfl⟩ := List.getElem?_eq_some_iff.mp ht
  have hPerm : (g.waiting[number] :: g.waiting.eraseIdx number).Perm g.waiting :=
    List.getElem_cons_eraseIdx_perm hNumber
  have hStarting := ((hPerm.map Suspended.wait).filterMap Wait.starting?).count_eq client
  unfold starting waits
  rw [← hStarting]
  cases h : g.waiting[number].wait.starting? <;> simp [h]

theorem Sound.play_operation (h : g.Sound started displaced) {m : Move}
    (hm : m.isOperation = true) : (g.play x m).Sound started displaced := by
  obtain ⟨r, rest, hPlay, hOpens⟩ := Stage.play_operation x g hm
  rw [hPlay]
  exact sound_settle (Core.Sound.opens h hOpens)

theorem Sound.play_foreign (h : g.Sound started displaced) {m : Move} (hm : m.isForeign = true) :
    (g.play x m).Sound started displaced :=
  h.of_core (Stage.play_foreign x g hm).1 (Stage.play_foreign x g hm).2

theorem Sound.play_dispose (h : g.Sound started displaced) (r : Registration) :
    (g.play x (.dispose r)).Sound started displaced := by
  obtain ⟨hCore, hWaits⟩ := Stage.play_dispose x g r
  unfold Sound starting
  rw [hCore, hWaits]
  exact Core.Sound.drops h [r]

theorem Sound.play_serverStopped (h : g.Sound started displaced) (client : Nat)
    (reason : Option String) :
    (g.play x (.serverStopped client reason)).Sound started displaced := by
  obtain ⟨hCore, hWaits⟩ := Stage.play_serverStopped x g client reason
  unfold Sound starting
  rw [hCore, hWaits]
  split
  · exact ⟨h.tracked, h.onEditors, h.custody, h.accounted, h.heldStarted, h.displacedStarted⟩
  · exact h

theorem Sound.play_prompt (h : g.Sound started displaced) :
    (g.play x .prompt).Sound started (displaced ++ (g.displacedBy .prompt).toList) := by
  rcases Stage.play_prompt x g with ⟨hPrompts, hPlay⟩ | ⟨reason, rest, hPrompts, r, hPlay, hr⟩
  · rw [hPlay, displacedBy_prompt_nil hPrompts, Option.toList_none, List.append_nil]
    exact h
  · rw [hPlay, displacedBy_prompt_cons hPrompts]
    refine sound_settle ?_
    rw [hr]
    exact Core.Sound.prompted h rest

theorem Sound.receives (h : g.Sound started displaced) {number : Nat} {t : Suspended}
    (ht : g.waiting[number]? = some t) {reply : t.wait.Reply} {r : Core × Option Wait}
    (hReceives : g.session.core.Receives t.wait reply r) :
    Core.SoundAfter (started ++ (t.wait.started? reply).toList)
      (displaced ++ ((t.wait.started? reply).bind fun _ => g.session.extension.slot).toList)
      (((g.waiting.eraseIdx number).map Suspended.wait).filterMap Wait.starting?) r := by
  refine Core.Sound.receives (Core.Sound.weaken h ?_) hReceives
  intro client
  exact Nat.le_of_eq (count_starting ht client)

theorem Sound.play_reply (h : g.Sound started displaced) (number : Nat)
    (answer : (w : Wait) → w.Reply) :
    (g.play x (.reply number answer)).Sound
      (started ++ (g.startedBy (.reply number answer)).toList)
      (displaced ++ (g.displacedBy (.reply number answer)).toList) := by
  rcases Stage.play_reply x g number answer with ⟨hNumber, hPlay⟩ | ⟨t, ht, r, hPlay, hReceives⟩
  · have hNone := startedBy_reply_none hNumber answer
    simp only [hPlay, displacedBy, hNone, Option.bind_none, Option.toList_none, List.append_nil]
    exact h
  · have hStarted := startedBy_reply_some ht answer
    simp only [hPlay, displacedBy, hStarted]
    exact sound_settle (h.receives ht hReceives)

/-- **Every move keeps a stage sound**, with what it started and what it displaced. -/
theorem Sound.play (h : g.Sound started displaced) (m : Move) :
    (g.play x m).Sound (started ++ (g.startedBy m).toList)
      (displaced ++ (g.displacedBy m).toList) := by
  cases m with
  | reply number answer => exact h.play_reply number answer
  | prompt =>
    simp only [startedBy, Option.toList_none, List.append_nil]
    exact h.play_prompt
  | activate | deactivate | restart | invoke | addEditor | save =>
    simp only [startedBy, displacedBy, Option.toList_none, List.append_nil]
    exact h.play_operation rfl
  | serverStopped client reason =>
    simp only [startedBy, displacedBy, Option.toList_none, List.append_nil]
    exact h.play_serverStopped client reason
  | dispose r =>
    simp only [startedBy, displacedBy, Option.toList_none, List.append_nil]
    exact h.play_dispose r
  | openEditor | edit | register | onEditorAdded | onWillSave | changeSettings | changeFiles =>
    simp only [startedBy, displacedBy, Option.toList_none, List.append_nil]
    exact h.play_foreign rfl

theorem sound_fresh {s : Session} (hFresh : s.Fresh) : (⟨s, []⟩ : Stage).Sound [] [] := by
  refine ⟨?_, ?_, ?_, ?_, ?_, fun _ h => h⟩
  · intro client entry hEntry
    simp [Core.listeners, Core.entriesAt, Session.core, hFresh.clients] at hEntry
  · intro p hp
    simp [Session.core, hFresh.extension] at hp
  · intro client
    simp [Core.places, starting, waits, Session.core, hFresh.extension, hFresh.events]
  · intro client hStarted
    cases hStarted
  · intro client hSlot
    simp [Session.core, hFresh.extension] at hSlot

/-- **Every stage of a run is sound**, with what the run started and what it displaced. -/
theorem sound_playAll (x : Surroundings) {s : Session} (hFresh : s.Fresh) (moves : List Move) :
    (playAll x ⟨s, []⟩ moves).Sound (collect x startedBy ⟨s, []⟩ moves)
      (collect x displacedBy ⟨s, []⟩ moves) := by
  induction moves using List.reverseRecOn with
  | nil => exact sound_fresh hFresh
  | append_singleton moves m ih =>
    rw [playAll_concat, collect_concat, collect_concat]
    exact ih.play m

end

end Stage

end ExtensionHost
