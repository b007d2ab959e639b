import ExtensionHost.Proofs.Lifecycle.Overtaken
import Mathlib

/-!
# Epochs

Only a deactivation ends an epoch. An operation that starts the server, and the panel about a server that
stopped, note the epoch in which they began, so no wait is later than the current epoch (`Stage.Dated`),
and after a deactivation every wait that was there before is from another epoch.
-/

namespace ExtensionHost

/-- The epoch that an operation noted when it began, if it noted one. -/
def Wait.epoch? : Wait → Option Nat
  | .chmod epoch | .start epoch _ | .restartStop epoch _ | .prompt epoch => some epoch
  | _ => none

theorem Wait.epoch?_of_isQuiet {w : Wait} (hQuiet : w.isQuiet = true) : w.epoch? = none := by
  cases w <;> first | rfl | cases hQuiet

/-- How many epochs a move ends. -/
def Move.epochs : Move → Nat
  | .deactivate => 1
  | _ => 0

namespace Core

/-- A step leaves a core in an epoch, and waits for nothing of a later epoch. -/
structure DatedIn (epoch : Nat) (r : Core × Option Wait) : Prop where
  current : r.1.extension.epoch = epoch
  wait : ∀ w ∈ r.2, ∀ e ∈ w.epoch?, e ≤ epoch

variable {k : Core} {r : Core × Option Wait} {epoch : Nat}

theorem dated_none (hEpoch : k.extension.epoch = epoch) : DatedIn epoch (k, none) := ⟨hEpoch, nofun⟩

theorem dated_some {w : Wait} (hEpoch : k.extension.epoch = epoch) (hWait : ∀ e ∈ w.epoch?, e ≤ epoch) :
    DatedIn epoch (k, some w) := by
  refine ⟨hEpoch, ?_⟩
  rintro w' ⟨⟩
  exact hWait

theorem dated_noted {w : Wait} {noted : Nat} (hEpoch : k.extension.epoch = epoch)
    (hWait : w.epoch? = some noted) (hNoted : noted ≤ epoch) : DatedIn epoch (k, some w) := by
  refine dated_some hEpoch ?_
  rw [hWait]
  rintro e ⟨⟩
  exact hNoted

theorem epoch_watch (k : Core) (uri : String) (rg : Registration) :
    (k.watch uri rg).extension.epoch = k.extension.epoch := by
  unfold watch
  split <;> rfl

theorem dated_begins (hEpoch : k.extension.epoch = epoch) (hBegins : k.Begins r) : DatedIn epoch r := by
  rcases hBegins with rfl | rfl
  · exact dated_none hEpoch
  · exact dated_noted hEpoch rfl (Nat.le_of_eq hEpoch)

theorem dated_restarts (hEpoch : k.extension.epoch = epoch) (hRestarts : k.Restarts r) :
    DatedIn epoch r := by
  rcases hRestarts with ⟨-, hBegins⟩ | ⟨client, -, rfl⟩
  · exact dated_begins (k := k.shutdown) hEpoch hBegins
  · exact dated_noted hEpoch rfl (Nat.le_of_eq hEpoch)

theorem dated_activates (hEpoch : k.extension.epoch = epoch) (hActivates : k.Activates r) :
    DatedIn epoch r := by
  rcases hActivates with rfl | ⟨-, preferences, rs, hBegins⟩
  · exact dated_none hEpoch
  · exact dated_begins (k := k.equip preferences rs) hEpoch hBegins

theorem dated_handles (hEpoch : k.extension.epoch = epoch) (hHandles : k.Handles r) :
    DatedIn epoch r := by
  cases hHandles with
  | quiet w hQuiet =>
    refine ⟨hEpoch, fun w' hw' e he => ?_⟩
    rw [Wait.epoch?_of_isQuiet (hQuiet w' hw')] at he
    cases he
  | watched uri editor number => exact dated_none ((epoch_watch k uri _).trans hEpoch)
  | restarted hRestarts => exact dated_restarts hEpoch hRestarts

theorem dated_deactivated (k : Core) : DatedIn (k.extension.epoch + 1) k.deactivated := by
  unfold deactivated
  split
  · exact dated_none rfl
  · exact dated_some rfl nofun

theorem dated_endStartup (hEpoch : k.extension.epoch = epoch) (noted : Nat) (well : Bool) :
    DatedIn epoch (k.endStartup noted well) := by
  unfold endStartup
  split
  · split
    · exact dated_none hEpoch
    · exact dated_none hEpoch
  · split
    · exact dated_none hEpoch
    · exact dated_some hEpoch nofun

theorem dated_receives {w : Wait} {reply : w.Reply} (hEpoch : k.extension.epoch = epoch)
    (hWait : ∀ e ∈ w.epoch?, e ≤ epoch) (hReceives : k.Receives w reply r) : DatedIn epoch r := by
  cases hReceives with
  | scriptsRefused noted => exact dated_endStartup hEpoch noted false
  | scriptsExecutable noted => exact dated_noted hEpoch rfl (hWait noted rfl)
  | started noted client => exact dated_endStartup (k := k.store client) hEpoch noted true
  | startFailed noted => exact dated_endStartup (k := k.clear) hEpoch noted false
  | startPanicked noted => exact dated_endStartup hEpoch noted false
  | staleStopped | deactivateStopped | restartOvertaken | promptLeft | quiet => exact dated_none hEpoch
  | restartStopped _ _ _ _ hBegins => exact dated_begins hEpoch hBegins
  | promptChosen _ _ _ hBegins => exact dated_begins hEpoch hBegins

end Core

namespace Stage

/-- The current epoch of a stage. -/
def epoch (g : Stage) : Nat := g.session.core.extension.epoch

/-- No wait of a stage is of a later epoch than the current one. -/
def Dated (g : Stage) : Prop := ∀ w ∈ g.waits, ∀ e ∈ w.epoch?, e ≤ g.epoch

variable {x : Surroundings} {g : Stage}

theorem dated_settle {waiting : List Suspended} {epoch : Nat} {r : Session × Option Wait} {rest : Rest}
    (hWaiting : ∀ w ∈ waiting.map Suspended.wait, ∀ e ∈ w.epoch?, e ≤ epoch)
    (hr : Core.DatedIn epoch (Session.coreOf r)) :
    (after waiting (Session.settle x r rest)).epoch = epoch ∧
      (after waiting (Session.settle x r rest)).Dated := by
  obtain ⟨w, hDated, hWaits⟩ := after_settle (x := x) (J := fun k w => Core.DatedIn epoch (k, w))
    (fun k r hk hHandles => Core.dated_handles hk.current hHandles) waiting rest hr
  refine ⟨hDated.current, ?_⟩
  unfold Dated
  rw [hWaits, show (after waiting (Session.settle x r rest)).epoch = epoch from hDated.current]
  intro w' hw'
  rcases List.mem_append.mp hw' with hOld | hNew
  · exact hWaiting w' hOld
  · exact hDated.wait w' (Option.mem_toList.mp hNew)

/-- **Only a deactivation ends an epoch**, and no wait gets ahead of the current one. -/
theorem Dated.play (h : g.Dated) (x : Surroundings) (m : Move) :
    (g.play x m).epoch = g.epoch + m.epochs ∧ (g.play x m).Dated := by
  have hOutside : ∀ {m : Move}, m.isOutside = true →
      (g.play x m).epoch = g.epoch ∧ (g.play x m).Dated := by
    intro m hm
    obtain ⟨⟨rs, told, hCore⟩, hWaits⟩ := play_outside x g hm
    have hEpoch : (g.play x m).epoch = g.epoch := congrArg (·.extension.epoch) hCore
    refine ⟨hEpoch, ?_⟩
    unfold Dated
    rw [hWaits, hEpoch]
    exact h
  have hBegun : ∀ {r : Session × Option Wait} {rest : Rest},
      Core.DatedIn g.epoch (Session.coreOf r) →
        (after g.waiting (Session.settle x r rest)).epoch = g.epoch ∧
          (after g.waiting (Session.settle x r rest)).Dated := fun hr => dated_settle h hr
  cases m with
  | activate => exact hBegun (Core.dated_activates rfl (Session.activates_beginActivate x g.session))
  | restart => exact hBegun (Core.dated_restarts rfl (Session.restarts_beginRestart x g.session))
  | invoke hub id editor =>
    unfold Stage.play Session.invoke
    dsimp only
    split
    · exact ⟨rfl, h⟩
    · exact hBegun (Core.dated_handles rfl (Session.handles_runHandler x g.session _ editor))
  | addEditor hub editor => exact hBegun (r := (g.session, none)) (Core.dated_none rfl)
  | save editor => exact hBegun (r := (g.session, none)) (Core.dated_none rfl)
  | deactivate =>
    -- The waits that were there are now of an epoch that is over.
    refine dated_settle (fun w hw e he => Nat.le_succ_of_le (h w hw e he)) ?_
    rw [Session.coreOf_beginDeactivate]
    exact Core.dated_deactivated g.session.core
  | prompt =>
    rcases play_prompt x g with ⟨-, hPlay⟩ | ⟨reason, rest, -, r, hPlay, hr⟩
    · rw [hPlay]
      exact ⟨rfl, h⟩
    · rw [hPlay]
      refine hBegun ?_
      rw [hr]
      exact Core.dated_noted rfl rfl (Nat.le_refl _)
  | reply number answer =>
    rcases play_reply x g number answer with ⟨-, hPlay⟩ | ⟨t, ht, r, hPlay, hReceives⟩
    · rw [hPlay]
      exact ⟨rfl, h⟩
    · rw [hPlay]
      refine dated_settle ?_ (Core.dated_receives rfl (h t.wait ?_) hReceives)
      · intro w hw
        obtain ⟨t', ht', rfl⟩ := List.mem_map.mp hw
        exact h t'.wait (List.mem_map_of_mem (List.mem_of_mem_eraseIdx ht'))
      · exact List.mem_map_of_mem (List.mem_of_getElem? ht)
  | serverStopped | dispose | openEditor | edit | register | onEditorAdded | onWillSave
  | changeSettings | changeFiles => exact hOutside rfl

theorem Dated.playAll (h : g.Dated) (x : Surroundings) (moves : List Move) :
    (g.playAll x moves).epoch = g.epoch + (moves.map Move.epochs).sum ∧ (g.playAll x moves).Dated := by
  induction moves generalizing g with
  | nil => exact ⟨rfl, h⟩
  | cons m moves ih =>
    obtain ⟨hEpoch, hDated⟩ := h.play x m
    obtain ⟨hEpochs, hLast⟩ := ih hDated
    refine ⟨?_, hLast⟩
    rw [playAll_cons, hEpochs, hEpoch, List.map_cons, List.sum_cons, Nat.add_assoc]

theorem Reached.dated (h : g.Reached x) : g.Dated := by
  obtain ⟨s, moves, -, rfl⟩ := h
  have hNone : (⟨s, []⟩ : Stage).Dated := List.forall_mem_nil _
  exact (hNone.playAll x moves).2

theorem epochs_replies {number : Nat} {moves : List Move} (h : Replies number moves) :
    (moves.map Move.epochs).sum = 0 := by
  induction moves with
  | nil => rfl
  | cons m moves ih =>
    obtain ⟨⟨answer, rfl⟩, hRest⟩ := replies_cons h
    simpa [Move.epochs] using ih hRest

/-! ## A deactivation that ends -/

/-- What a deactivation does to the core when it ends before any other operation goes on. -/
theorem core_deactivate {stops : List Move} (hStops : Replies g.waiting.length stops)
    (hEnded : (g.playAll x (.deactivate :: stops)).waiting = g.waiting) :
    (g.playAll x (.deactivate :: stops)).session.core =
      g.session.core.retire.shutdown.inPhase .inactive := by
  obtain ⟨hCore, hWaiting⟩ := after_settle_nothing x g.waiting g.session.beginDeactivate
  have hBegun := Session.coreOf_beginDeactivate g.session
  have hStep : (g.play x .deactivate).session.core = g.session.core.deactivated.1 :=
    hCore.trans (congrArg Prod.fst hBegun)
  have hNext : (g.play x .deactivate).waiting = g.waiting ++ alone g.session.core.deactivated.2 := by
    rw [← congrArg Prod.snd hBegun]
    exact hWaiting
  rw [playAll_cons] at hEnded ⊢
  generalize g.play x .deactivate = begun at hStep hNext hEnded ⊢
  unfold Core.deactivated at hStep hNext
  cases hSlot : g.session.core.extension.slot with
  | none =>
    rw [hSlot] at hStep hNext
    rw [playAll_unanswered (hNext.trans (List.append_nil _)) hStops]
    exact hStep
  | some client =>
    rw [hSlot] at hStep hNext
    cases stops with
    | nil => cases eq_none_of_ended (hNext.symm.trans hEnded)
    | cons m stops =>
      obtain ⟨⟨answer, rfl⟩, hRest⟩ := replies_cons hStops
      rcases play_alone (x := x) hNext answer with
        ⟨hNone, -⟩ | ⟨w, r, hSome, hReceives, hLast, hLeft, -⟩
      · cases hNone
      · cases hSome
        cases hReceives with
        | deactivateStopped =>
          rw [playAll_cons, playAll_unanswered (hLeft.trans (List.append_nil _)) hRest, hLast, hStep]
        | quiet _ _ hQuiet => cases hQuiet

end Stage

end ExtensionHost
