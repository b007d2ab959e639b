import ExtensionHost.Proofs.Lifecycle.Runs
import Mathlib.Data.List.Count
import Mathlib.Data.List.Perm.Basic

/-!
# Calls of handlers

A command that is invoked, an editor that is added and an editor that is saved have handlers called. A
move calls the handlers of an operation one after the other up to the first that waits, and leaves those
after it to the operation. So what the moves of a run called, together with what the operations under way
still have to call, is what was due when the operations began (`Stage.calls_perm`): no handler is passed
over, and none is called twice.
-/

namespace ExtensionHost

/-- What a handler is called for. -/
inductive Occasion where
  | invoked
  | added
  | saving
  deriving Repr, DecidableEq

/-- The call of a handler with an editor. -/
structure Call where
  occasion : Occasion
  handler : Handler
  editor : Nat
  deriving Repr, DecidableEq

/-- The calls of handlers with one editor, for the same thing. -/
def Call.all (occasion : Occasion) (editor : Nat) (handlers : List Handler) : List Call :=
  handlers.map fun h => ⟨occasion, h, editor⟩

theorem Call.count_all (occasion : Occasion) (h : Handler) (editor : Nat) (handlers : List Handler) :
    (Call.all occasion editor handlers).count ⟨occasion, h, editor⟩ = handlers.count h :=
  List.count_map_of_injective handlers (fun h => (⟨occasion, h, editor⟩ : Call))
    (fun _ _ hSame => congrArg Call.handler hSame) h

/-- The calls that are left to make. -/
def Rest.calls : Rest → List Call
  | .nothing => []
  | .dispatch editor handlers => Call.all .added editor handlers
  | .save editor handlers => Call.all .saving editor handlers

/-- What is left to do, if the operation has not ended. -/
def Progress.rest : Progress → Rest
  | .waiting t => t.rest
  | .ended _ => .nothing

namespace Session

variable {x : Surroundings} {s : Session}

/-! ## Handlers that are called -/

/-- The handlers that are called, one after the other, up to the first that waits. -/
def ran (x : Surroundings) (s : Session) (editor : Nat) : List Handler → List Handler
  | [] => []
  | h :: rest =>
    h ::
      match s.runHandler x h editor with
      | (_, some _) => []
      | (s, none) => ran x s editor rest

/-- The calls that are made when an operation goes on. -/
def made (x : Surroundings) (s : Session) : Rest → List Call
  | .nothing => []
  | .dispatch editor handlers => Call.all .added editor (s.ran x editor handlers)
  | .save editor handlers => Call.all .saving editor (s.ran x editor handlers)

/-- The calls that are made when an operation goes on that does not wait. -/
def madeAfter (x : Surroundings) (r : Session × Option Wait) (rest : Rest) : List Call :=
  match r with
  | (_, some _) => []
  | (s, none) => s.made x rest

theorem ran_append (x : Surroundings) (s : Session) (editor : Nat) (handlers : List Handler) :
    s.ran x editor handlers ++ ((s.runHandlers x editor handlers).2.map Prod.snd).getD [] =
      handlers := by
  induction handlers generalizing s with
  | nil => rfl
  | cons h rest ih =>
    unfold ran runHandlers
    rcases s.runHandler x h editor with ⟨s', _ | w⟩
    · exact congrArg (h :: ·) (ih s')
    · rfl

/-- What is called when an operation goes on, and what is then left to call, is what was left before. -/
theorem made_append (x : Surroundings) (s : Session) (rest : Rest) :
    s.made x rest ++ (s.goOn x rest).2.rest.calls = rest.calls := by
  have hAll : ∀ (occasion : Occasion) (editor : Nat) (handlers : List Handler),
      Call.all occasion editor (s.ran x editor handlers) ++
          Call.all occasion editor (((s.runHandlers x editor handlers).2.map Prod.snd).getD []) =
        Call.all occasion editor handlers := by
    intro occasion editor handlers
    rw [Call.all, Call.all, ← List.map_append, ran_append]
    rfl
  cases rest with
  | nothing => rfl
  | dispatch editor handlers =>
    refine Eq.trans ?_ (hAll .added editor handlers)
    rcases hRun : s.runHandlers x editor handlers with ⟨s', _ | ⟨w, left⟩⟩ <;>
      simp only [made, goOn, hRun] <;> rfl
  | save editor handlers =>
    refine Eq.trans ?_ (hAll .saving editor handlers)
    rcases hRun : s.runHandlers x editor handlers with ⟨s', _ | ⟨w, left⟩⟩ <;>
      simp only [made, goOn, hRun] <;> rfl

theorem madeAfter_append (x : Surroundings) (r : Session × Option Wait) (rest : Rest) :
    madeAfter x r rest ++ (settle x r rest).2.rest.calls = rest.calls := by
  obtain ⟨s, _ | w⟩ := r
  · exact made_append x s rest
  · rfl

theorem calls_settle_nothing (x : Surroundings) (r : Session × Option Wait) :
    (settle x r .nothing).2.rest.calls = [] :=
  (List.append_eq_nil_iff.mp (madeAfter_append x r .nothing)).2

end Session

namespace Stage

/-! ## Calls that moves make -/

/-- The calls that the operations of a stage still have to make. -/
def ahead (g : Stage) : List Call := g.waiting.flatMap fun t => t.rest.calls

/-- The calls that the operation which a move begins has to make. -/
def due (g : Stage) : Move → List Call
  | .invoke hub id editor =>
    Call.all .invoked editor (((g.session.hubs[hub]?).getD {}).commands.handler? id).toList
  | .addEditor hub editor =>
    Call.all .added editor ((g.session.hubs[hub]?).getD {}).editorAdded.snapshot
  | .save editor => Call.all .saving editor ((g.session.editors[editor]?).getD {}).willSave.snapshot
  | _ => []

/-- The session in which an operation gets its reply. -/
def replying (g : Stage) (t : Suspended) : Session :=
  if t.wait.isOwn then { g.session with inFlight := g.session.inFlight - 1 } else g.session

/-- The calls that a move makes. -/
def calls (x : Surroundings) (g : Stage) : Move → List Call
  | .invoke hub id editor => g.due (.invoke hub id editor)
  | .addEditor hub editor =>
    g.session.made x (.dispatch editor ((g.session.hubs[hub]?).getD {}).editorAdded.snapshot)
  | .save editor =>
    g.session.made x (.save editor ((g.session.editors[editor]?).getD {}).willSave.snapshot)
  | .reply number answer =>
    match g.waiting[number]? with
    | some t =>
      Session.madeAfter x ((g.replying t).receive x t.wait (answer t.wait)) t.rest
    | none => []
  | _ => []

theorem ahead_after (waiting : List Suspended) (r : Session × Progress) :
    (after waiting r).ahead = waiting.flatMap (fun t => t.rest.calls) ++ r.2.rest.calls := by
  obtain ⟨s, t | r⟩ := r
  · exact List.flatMap_append.trans (congrArg _ (List.flatMap_singleton _ t))
  · exact (List.append_nil _).symm

theorem ahead_settle_nothing (x : Surroundings) (g : Stage) (r : Session × Option Wait) :
    (after g.waiting (Session.settle x r .nothing)).ahead = g.ahead := by
  rw [ahead_after, Session.calls_settle_nothing]
  exact List.append_nil _

theorem perm_after {waiting : List Suspended} {r : Session × Progress} {made due : List Call}
    (h : made ++ r.2.rest.calls = due) :
    (made ++ (after waiting r).ahead).Perm (waiting.flatMap (fun t => t.rest.calls) ++ due) := by
  rw [ahead_after, ← h]
  exact List.perm_append_comm_assoc _ _ _

theorem calls_play (x : Surroundings) (g : Stage) (m : Move) :
    (calls x g m ++ (g.play x m).ahead).Perm (g.ahead ++ g.due m) := by
  have hNothing : ∀ {m : Move} {r : Session × Option Wait}, calls x g m = [] → g.due m = [] →
      g.play x m = after g.waiting (Session.settle x r .nothing) →
      (calls x g m ++ (g.play x m).ahead).Perm (g.ahead ++ g.due m) := by
    intro m r hCalls hDue hPlay
    rw [hCalls, hDue, hPlay, ahead_settle_nothing, List.append_nil, List.nil_append]
  have hSame : ∀ {m : Move}, calls x g m = [] → g.due m = [] → (g.play x m).waiting = g.waiting →
      (calls x g m ++ (g.play x m).ahead).Perm (g.ahead ++ g.due m) := by
    intro m hCalls hDue hPlay
    rw [hCalls, hDue, ahead, hPlay, List.append_nil, List.nil_append]
    rfl
  cases m with
  | activate => exact hNothing (r := g.session.beginActivate x) rfl rfl rfl
  | deactivate => exact hNothing (r := g.session.beginDeactivate) rfl rfl rfl
  | restart => exact hNothing (r := g.session.beginRestart x) rfl rfl rfl
  | invoke hub id editor =>
    have hAhead : (g.play x (.invoke hub id editor)).ahead = g.ahead := by
      unfold play Session.invoke
      dsimp only
      split
      · exact (ahead_after _ _).trans (List.append_nil _)
      · exact ahead_settle_nothing x g _
    rw [hAhead]
    exact List.perm_append_comm
  | addEditor hub editor =>
    exact perm_after (Session.made_append x g.session (.dispatch editor _))
  | save editor => exact perm_after (Session.made_append x g.session (.save editor _))
  | prompt =>
    rcases play_prompt x g with ⟨-, hPlay⟩ | ⟨-, -, -, r, hPlay, -⟩
    · exact hSame rfl rfl (congrArg Stage.waiting hPlay)
    · exact hNothing rfl rfl hPlay
  | reply number answer =>
    unfold calls play due
    dsimp only
    cases ht : g.waiting[number]? with
    | none =>
      dsimp only
      rw [List.append_nil, List.nil_append]
    | some t =>
      obtain ⟨hNumber, rfl⟩ := List.getElem?_eq_some_iff.mp ht
      have hOthers := (List.getElem_cons_eraseIdx_perm hNumber).flatMap_right fun t => t.rest.calls
      refine (perm_after (Session.madeAfter_append x _ _)).trans ?_
      rw [List.append_nil]
      exact List.perm_append_comm.trans hOthers
  | serverStopped | openEditor | edit | register | onEditorAdded | onWillSave | dispose
    | changeSettings | changeFiles => exact hSame rfl rfl rfl

/-! ## Calls in a run -/

/-- Everything that moves give, one after the other, when each is looked at in the stage before it. -/
def gather {α : Type} (x : Surroundings) (look : Stage → Move → List α) : Stage → List Move → List α
  | _, [] => []
  | g, m :: moves => look g m ++ gather x look (g.play x m) moves

/-- **Handlers are called once each.** What the moves of a run called, with what is still to be called, is
what was to be called before with what was due when operations began. -/
theorem calls_perm (x : Surroundings) (g : Stage) (moves : List Move) :
    (gather x (calls x) g moves ++ (g.playAll x moves).ahead).Perm
      (g.ahead ++ gather x due g moves) := by
  induction moves generalizing g with
  | nil => exact .of_eq (List.append_nil _).symm
  | cons m moves ih =>
    rw [gather, gather, playAll_cons, List.append_assoc, ← List.append_assoc g.ahead]
    exact ((ih (g.play x m)).append_left _).trans <|
      .trans (.of_eq (List.append_assoc _ _ _).symm) ((calls_play x g m).append_right _)

end Stage

end ExtensionHost
