import ExtensionHost.Proofs.Lifecycle.Arising
import ExtensionHost.Proofs.Lifecycle.Epochs

/-!
# Startups that end too late

A startup waits while the extension is deactivated and activated again. When it goes on it notices the
other epoch and means to leave no client behind; but what it takes is whatever client is held, and the
phase and the listeners that it leaves are those of an inactive extension. `NoStaleDisturbance` states
that the newer activation is left alone, and it fails. `endedLate_reply` says what the startup leaves
instead: only one that waits for the stop of a restart leaves the newer activation as it was.
-/

namespace ExtensionHost

/-- Whether a startup waits, or the restart before it. -/
def Wait.isStartup : Wait → Bool
  | .chmod _ | .start _ _ | .staleStop _ | .restartStop _ _ => true
  | _ => false

theorem Wait.isQuiet_of_isStartup {w : Wait} (h : w.isStartup = true) : w.isQuiet = false := by
  cases w <;> first | rfl | cases h

namespace Core

/-- A startup that was overtaken has taken the client: the one that was held in a core before it went on,
or those that it has started itself. -/
structure TakenLate (k : Core) (own : List Nat) (k' : Core) : Prop where
  slot : k'.extension.slot = none
  unheard : k'.Unheard
  stopped : k'.stopped = k.stopped ++ if own = [] then k.extension.slot.toList else own

/-- A startup that was overtaken goes on from a core. Until it has ended it waits for the scripts or for
its client in an epoch that is over, or for the stop of the client that it took. -/
inductive Lingers (k : Core) : List Nat → Core → Option Wait → Prop where
  | chmod {k' : Core} (epoch : Nat) (hEpoch : k'.extension.epoch ≠ epoch)
      (hSlot : k'.extension.slot = k.extension.slot) (hStopped : k'.stopped = k.stopped) :
      Lingers k [] k' (some (.chmod epoch))
  | start {k' : Core} (epoch client : Nat) (hEpoch : k'.extension.epoch ≠ epoch)
      (hSlot : k'.extension.slot = k.extension.slot) (hStopped : k'.stopped = k.stopped) :
      Lingers k [] k' (some (.start epoch client))
  | stop {own : List Nat} {k' : Core} (client : Nat) (hTaken : k.TakenLate own k') :
      Lingers k own k' (some (.staleStop client))
  | ended {own : List Nat} {k' : Core} (hTaken : k.TakenLate own k')
      (hPhase : k'.extension.phase = .inactive) : Lingers k own k' none

variable {k k' : Core} {own : List Nat} {w : Wait}

theorem Lingers.takenLate (h : k.Lingers own k' none) :
    k.TakenLate own k' ∧ k'.extension.phase = .inactive := by
  cases h with
  | ended hTaken hPhase => exact ⟨hTaken, hPhase⟩

/-- A startup that was overtaken and did not start a client takes the one that is held. -/
theorem lingers_endStartup_held {epoch : Nat} (hTracked : k'.Tracked)
    (hEpoch : k'.extension.epoch ≠ epoch) (hSlot : k'.extension.slot = k.extension.slot)
    (hStopped : k'.stopped = k.stopped) (well : Bool) :
    k.Lingers [] (k'.endStartup epoch well).1 (k'.endStartup epoch well).2 := by
  have hTaken : k.TakenLate [] k'.shutdown := by
    refine ⟨rfl, hTracked.unheard_clear, ?_⟩
    rw [Core.shutdown, hStopped, hSlot]
    rfl
  rw [endStartup_overtaken hEpoch]
  split
  · exact .ended ⟨hTaken.slot, hTaken.unheard, hTaken.stopped⟩ rfl
  · exact .stop _ hTaken

/-- A startup that was overtaken and has started a client takes that one. -/
theorem lingers_endStartup_store {epoch client : Nat} (hTracked : k'.Tracked)
    (hEpoch : k'.extension.epoch ≠ epoch) (hStopped : k'.stopped = k.stopped) (well : Bool) :
    k.Lingers [client] ((k'.store client).endStartup epoch well).1
      ((k'.store client).endStartup epoch well).2 := by
  have hStored : (k'.store client).Tracked := hTracked
  have hLate : (k'.store client).extension.epoch ≠ epoch := hEpoch
  rw [endStartup_overtaken hLate]
  refine .stop client ⟨rfl, hStored.unheard_clear, ?_⟩
  rw [Core.shutdown, show (k'.store client).stopped = k.stopped from hStopped]
  rfl

theorem Lingers.receives (h : k.Lingers own k' (some w)) (hTracked : k'.Tracked) {reply : w.Reply}
    {r : Core × Option Wait} (hReceives : k'.Receives w reply r) :
    k.Lingers (own ++ (w.started? reply).toList) r.1 r.2 := by
  cases h with
  | chmod epoch hEpoch hSlot hStopped =>
    cases hReceives with
    | scriptsRefused => exact lingers_endStartup_held hTracked hEpoch hSlot hStopped false
    | scriptsExecutable => exact .start epoch _ hEpoch hSlot hStopped
    | quiet _ _ hQuiet => cases hQuiet
  | start epoch client hEpoch hSlot hStopped =>
    cases hReceives with
    | started => exact lingers_endStartup_store hTracked hEpoch hStopped true
    | startFailed =>
      have hCleared : k'.clear.Tracked := hTracked.unheard_clear.tracked
      exact lingers_endStartup_held hCleared hEpoch hSlot hStopped false
    | startPanicked => exact lingers_endStartup_held hTracked hEpoch hSlot hStopped false
    | quiet _ _ hQuiet => cases hQuiet
  | stop client hTaken =>
    cases hReceives with
    | staleStopped =>
      rw [show Wait.started? (.staleStop client) reply = none from rfl, Option.toList_none,
        List.append_nil]
      exact .ended ⟨hTaken.slot, hTaken.unheard, hTaken.stopped⟩ rfl
    | quiet _ _ hQuiet => cases hQuiet

/-- The newer activation is left alone, and no client was asked to stop but those that the startup itself
has started. -/
structure Undisturbed (k : Core) (own : List Nat) (k' : Core) : Prop extends k.Keeps k' where
  stopped : ∃ seen, k'.stopped = k.stopped ++ seen ∧ ∀ client ∈ seen, client ∈ own

/-- What an operation that starts the server leaves when it was overtaken, went on from a core with the
reply to a wait, started some clients and ended. -/
def EndedLate (k : Core) (own : List Nat) (k' : Core) : Wait → Prop
  | .restartStop _ _ => k' = k
  | .staleStop _ => k' = k.inPhase .inactive
  | _ => k.TakenLate own k' ∧ k'.extension.phase = .inactive

end Core

namespace Stage

section

variable {x : Surroundings} {g : Stage} {base : List Suspended} {w : Option Wait}
  {moves : List Move} {number : Nat} {t : Suspended}

/-- The replies to an operation that starts the server and was overtaken, up to its end. -/
theorem endedLate_playAll (hReached : g.Reached x) (ht : g.waiting[number]? = some t)
    (hRest : t.rest = .nothing) (hStartup : t.wait.isStartup = true)
    (hEpoch : ∀ e ∈ t.wait.epoch?, g.epoch ≠ e) (answer : (w : Wait) → w.Reply)
    (hMoves : Replies (g.waiting.eraseIdx number).length moves)
    (hEnded : (g.playAll x (.reply number answer :: moves)).waiting = g.waiting.eraseIdx number) :
    g.session.core.EndedLate (collect x startedBy g (.reply number answer :: moves))
      (g.playAll x (.reply number answer :: moves)).session.core t.wait := by
  obtain ⟨r, hReceives, hCore, hNext, hStarted⟩ := play_reply_nothing (x := x) ht hRest answer
  -- A startup that has not stopped a client yet takes one in the end, after however many replies.
  have hLate : ∀ {own}, g.session.core.Lingers own g.session.core (some t.wait) → own = [] →
      g.session.core.TakenLate (collect x startedBy g (.reply number answer :: moves))
          (g.playAll x (.reply number answer :: moves)).session.core ∧
        (g.playAll x (.reply number answer :: moves)).session.core.extension.phase = .inactive := by
    rintro _ hLingers rfl
    have hStep := hLingers.receives hReached.tracked hReceives
    rw [← hCore, List.nil_append] at hStep
    obtain ⟨w, hWaiting, hLast⟩ := playAll_alone
      (fun hTracked hBefore hReceives => hBefore.receives hTracked hReceives)
      (hReached.play _) hMoves hNext hStep
    have hOver := eq_none_of_ended (hWaiting.symm.trans hEnded)
    subst hOver
    rw [collect, hStarted]
    exact hLast.takenLate
  -- One that waits for a stop ends with its first reply, and the others reach nobody.
  have hDone : r.2 = none → (g.playAll x (.reply number answer :: moves)).session.core = r.1 := by
    intro hNone
    rw [hNone] at hNext
    rw [playAll_cons, playAll_unanswered (hNext.trans (List.append_nil _)) hMoves]
    exact hCore
  obtain ⟨wait, rest⟩ := t
  cases wait with
  | chmod epoch => exact hLate (.chmod epoch (hEpoch epoch rfl) rfl rfl) rfl
  | start epoch client => exact hLate (.start epoch client (hEpoch epoch rfl) rfl rfl) rfl
  | staleStop client =>
    cases hReceives with
    | staleStopped => exact hDone rfl
    | quiet _ _ hQuiet => cases hQuiet
  | restartStop epoch client =>
    cases hReceives with
    | restartOvertaken => exact hDone rfl
    | restartStopped _ _ _ hSame => exact absurd hSame (hEpoch epoch rfl)
    | quiet _ _ hQuiet => cases hQuiet
  | _ => cases hStartup

/-- **What a startup leaves that ends too late.** A startup waits in a stage that arises. The extension is
deactivated and activated again, and both have ended when the startup gets its reply; it gets further
replies until it has ended. If it waited for the stop of a restart, it leaves the newer activation as it
was. If it waited for the stop of a client it took, the extension is inactive afterwards whatever it was.
Otherwise no client is held and none is heard, and the extension is inactive: a startup that has started
no client has asked that of the newer activation to stop, and one that has started a client has asked that
one. -/
theorem endedLate_reply (hArises : g.Arises x) (ht : g.waiting[number]? = some t)
    (hStartup : t.wait.isStartup = true) {stops starts more : List Move}
    (hStops : Replies g.waiting.length stops) (hStarts : Replies g.waiting.length starts)
    (hActivated : (g.playAll x (.deactivate :: stops ++ .activate :: starts)).waiting = g.waiting)
    (answer : (w : Wait) → w.Reply) (hMore : Replies (g.waiting.eraseIdx number).length more)
    (hEnded : ((g.playAll x (.deactivate :: stops ++ .activate :: starts)).playAll x
      (.reply number answer :: more)).waiting = g.waiting.eraseIdx number) :
    (g.playAll x (.deactivate :: stops ++ .activate :: starts)).session.core.EndedLate
      (collect x startedBy (g.playAll x (.deactivate :: stops ++ .activate :: starts))
        (.reply number answer :: more))
      ((g.playAll x (.deactivate :: stops ++ .activate :: starts)).playAll x
        (.reply number answer :: more)).session.core t.wait := by
  have hMem := List.mem_of_getElem? ht
  have hDated := hArises.reached.dated
  obtain ⟨hEpoch, -⟩ := hDated.playAll x (.deactivate :: stops ++ .activate :: starts)
  have hNext : (g.playAll x (.deactivate :: stops ++ .activate :: starts)).epoch = g.epoch + 1 := by
    rw [hEpoch]
    simp [Move.epochs, epochs_replies hStops, epochs_replies hStarts]
  have hRest : t.rest = .nothing := by
    refine (hArises.orderly.mild t hMem).wait.resolve_right ?_
    rw [Wait.isQuiet_of_isStartup hStartup]
    exact Bool.false_ne_true
  rw [← hActivated] at ht hMore hEnded
  refine endedLate_playAll (hArises.reached.playAll _) ht hRest hStartup ?_ answer hMore hEnded
  intro e he
  have hBefore := hDated t.wait (List.mem_map_of_mem hMem) e he
  omega

end

/-- An activation waits for the scripts. -/
def activating : Stage := playAll .plain ⟨.scripted, []⟩ [.activate]

/-- The extension is deactivated and activated again. -/
def activatedAnew : List Move :=
  .deactivate :: [] ++ .activate :: List.replicate 2 (.reply 1 Wait.goodReply)

theorem arises_activating : activating.Arises .plain :=
  ⟨.scripted, [.activate], Session.pristine_scripted, rfl⟩

theorem waiting_activating : activating.waiting = [⟨.chmod 0, .nothing⟩] := by decide +kernel

theorem replies_activatedAnew :
    Replies activating.waiting.length (List.replicate 2 (.reply 1 Wait.goodReply)) := by
  rw [waiting_activating]
  exact replies_goodReply 1 2

theorem replies_scriptsFailed :
    Replies (activating.waiting.eraseIdx 0).length (List.replicate 1 (.reply 0 Wait.goodReply)) := by
  rw [waiting_activating]
  exact replies_goodReply 0 1

/-- The scripts of the older activation fail. It asks the client of the newer one to stop. -/
theorem endedLate_scriptsFailed :
    (activating.playAll .plain activatedAnew).session.extension.slot = some 0 ∧
      (activating.playAll .plain activatedAnew).session.core.EndedLate []
        ((activating.playAll .plain activatedAnew).playAll .plain
          [.reply 0 Wait.badReply, .reply 0 Wait.goodReply]).session.core (.chmod 0) := by
  have hNumber : activating.waiting[0]? = some ⟨.chmod 0, .nothing⟩ := by rw [waiting_activating]; rfl
  have hStops : Replies activating.waiting.length [] := fun _ hm => nomatch hm
  have hLate := endedLate_reply arises_activating hNumber rfl hStops replies_activatedAnew
    (by decide +kernel) Wait.badReply replies_scriptsFailed (by decide +kernel)
  have hOwn : collect .plain startedBy (activating.playAll .plain activatedAnew)
      [.reply 0 Wait.badReply, .reply 0 Wait.goodReply] = [] := by decide +kernel
  refine ⟨by decide +kernel, ?_⟩
  rw [← hOwn]
  exact hLate

/-- A startup that was overtaken leaves the newer activation alone. -/
def NoStaleDisturbance : Prop :=
  ∀ (x : Surroundings) (g : Stage), g.Arises x →
    ∀ (number : Nat) (t : Suspended) (stops starts more : List Move) (answer : (w : Wait) → w.Reply),
      g.waiting[number]? = some t → t.wait.isStartup = true →
      Replies g.waiting.length stops → (g.playAll x (.deactivate :: stops)).waiting = g.waiting →
      Replies g.waiting.length starts →
      (g.playAll x (.deactivate :: stops ++ .activate :: starts)).waiting = g.waiting →
      Replies (g.waiting.eraseIdx number).length more →
      ((g.playAll x (.deactivate :: stops ++ .activate :: starts)).playAll x
        (.reply number answer :: more)).waiting = g.waiting.eraseIdx number →
      (g.playAll x (.deactivate :: stops ++ .activate :: starts)).session.core.Undisturbed
        (collect x startedBy (g.playAll x (.deactivate :: stops ++ .activate :: starts))
          (.reply number answer :: more))
        ((g.playAll x (.deactivate :: stops ++ .activate :: starts)).playAll x
          (.reply number answer :: more)).session.core

/-- The newer activation has lost its client in the end. -/
theorem not_noStaleDisturbance : ¬ NoStaleDisturbance := by
  intro h
  have hNumber : activating.waiting[0]? = some ⟨.chmod 0, .nothing⟩ := by rw [waiting_activating]; rfl
  have hSlot := (h .plain activating arises_activating 0 _ [] _ _ Wait.badReply hNumber rfl
    (fun _ hm => nomatch hm) (by decide +kernel) replies_activatedAnew (by decide +kernel)
    replies_scriptsFailed (by decide +kernel)).slot
  exact absurd hSlot (by decide +kernel)

end Stage

end ExtensionHost
