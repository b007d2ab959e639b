import ExtensionHost.Proofs.File.Contents
import ExtensionHost.Proofs.Host.Listening
import ExtensionHost.Proofs.Lifecycle.Attending
import ExtensionHost.Proofs.Lifecycle.Calls
import ExtensionHost.Proofs.Lifecycle.Gating
import ExtensionHost.Proofs.Lifecycle.Sparing

/-!
# Dispatching to listeners

An editor that is added, or saved, has the listeners called that are there at that moment. Each of them may
wait, and meanwhile listeners come and go and documents change, as any moves are made. `Courses` follows
every operation of a run by its own steps. The steps of an operation together call the listeners that were
there when it began, in their order (`Courses.Completed`); while it waits, it waits within the one that was
called last, so that no two of them overlap (`Courses.UnderWay`). An editor's document is written as it is
when the last one has ended, and not before (`Session.Saved`).
-/

namespace ExtensionHost

/-- An operation that made a call waits within its handler. -/
def Wait.IsWithin (w : Wait) (c : Call) : Prop :=
  match c.handler with
  | .other number => w = .other number c.editor
  | .own _ => w.isOwn = true

theorem Wait.isOwn_of_attends {w : Wait} (h : w.attends = true) : w.isOwn = true := by
  cases w with
  | other => cases h
  | _ => rfl

/-- Within one's own handler the wait may change, as it does when a server is started again. -/
theorem Wait.IsWithin.of_isOwn {w w' : Wait} {c : Call} (h : w.IsWithin c) (hOwn : w.isOwn = true)
    (hOwn' : w'.isOwn = true) : w'.IsWithin c := by
  unfold IsWithin at h ⊢
  split
  · rename_i number hHandler
    rw [hHandler] at h
    subst h
    cases hOwn
  · exact hOwn'

/-- The editor whose document is saved by what is left to do. -/
def Rest.saves : Rest → Option Nat
  | .save editor _ => some editor
  | _ => none

/-- The editor whose document is saved by the operation that a move begins. -/
def Move.saves : Move → Option Nat
  | .save editor => some editor
  | _ => none

namespace Session

variable {x : Surroundings} {s s' : Session} {w : Wait} {editor : Nat} {rest : Rest}

/-- The document of an editor was saved: its file has got the text of the document as that now is, and no
other file has changed. Without a path that leads to a file, or to where one can be made, nothing is
written. -/
inductive Saved (x : Surroundings) (files : Files) (s : Session) (editor : Nat) : Prop where
  | written (path name : String) (hPath : (s.buffer editor).path = some path)
      (hPlace : files.Place x.cwd path name)
      (hReplaced : files.Replaced name (Utf8.encode (s.buffer editor).text) s.files)
  | nowhere (hNoPlace : ∀ path name, (s.buffer editor).path = some path →
        ¬ files.Place x.cwd path name)
      (hFiles : s.files = files)

/-! ## What handlers wait for and what they leave alone -/

theorem attending_beginRestart (h : w ∈ (s.beginRestart x).2) : w.attends = true := by
  unfold beginRestart at h
  dsimp only at h
  split at h
  · unfold endRestartStop at h
    dsimp only at h
    split at h
    · exact attending_beginStartup x _ w h
    · cases h
  · cases h
    rfl

theorem isWithin_runHandler (occasion : Occasion) {h : Handler} (hWait : w ∈ (s.runHandler x h editor).2) :
    w.IsWithin ⟨occasion, h, editor⟩ := by
  cases h with
  | other number =>
    cases hWait
    rfl
  | own role =>
    change w.isOwn = true
    unfold runHandler at hWait
    dsimp only at hWait
    split at hWait
    · cases role with
      | formatDocument =>
        obtain ⟨asked, -, rfl⟩ := Option.map_eq_some_iff.mp hWait
        rfl
      | formatWithServer =>
        obtain ⟨asked, -, rfl⟩ := Option.map_eq_some_iff.mp hWait
        rfl
      | findReferences =>
        obtain ⟨-, hSome⟩ := Option.ite_none_right_eq_some.mp hWait
        cases hSome
        rfl
      | restart => exact Wait.isOwn_of_attends (attending_beginRestart hWait)
      | watchEditor => cases hWait
    · cases hWait

theorem stock_runHandlers (x : Surroundings) (s : Session) (editor : Nat) (handlers : List Handler) :
    (s.runHandlers x editor handlers).1.stock = s.stock := by
  induction handlers generalizing s with
  | nil => rfl
  | cons h rest ih =>
    have hFirst := stock_runHandler x s h editor
    unfold runHandlers
    rcases hRun : s.runHandler x h editor with ⟨s', _ | w⟩
    · rw [hRun] at hFirst
      exact (ih s').trans hFirst
    · rw [hRun] at hFirst
      exact hFirst

/-- Handlers that are called one after the other wait within the last one. -/
theorem isWithin_runHandlers (occasion : Occasion) {handlers left : List Handler}
    (hRun : s.runHandlers x editor handlers = (s', some (w, left))) :
    ∃ c, (Call.all occasion editor (s.ran x editor handlers)).getLast? = some c ∧ w.IsWithin c := by
  induction handlers generalizing s with
  | nil => cases hRun
  | cons h rest ih =>
    unfold runHandlers at hRun
    unfold ran Call.all
    rcases hFirst : s.runHandler x h editor with ⟨s₁, _ | w₁⟩
    · rw [hFirst] at hRun
      obtain ⟨c, hLast, hWithin⟩ := ih hRun
      refine ⟨c, ?_, hWithin⟩
      rw [List.map_cons, List.getLast?_cons, show List.map _ _ = Call.all occasion editor _ from rfl, hLast]
      rfl
    · rw [hFirst] at hRun
      cases hRun
      refine ⟨⟨occasion, h, editor⟩, rfl, isWithin_runHandler (s := s) (x := x) occasion ?_⟩
      rw [hFirst]
      rfl

/-! ## Going on -/

theorem waiting_settle_nothing {r : Session × Option Wait} {t : Suspended}
    (h : (settle x r .nothing).2 = .waiting t) : t.rest = .nothing ∧ r.2 = some t.wait := by
  obtain ⟨s, _ | w⟩ := r
  · cases h
  · cases h
    exact ⟨rfl, rfl⟩

/-- An operation that goes on and waits has called a handler, in which it waits, and has written nothing. -/
theorem waiting_goOn {t : Suspended} (h : (s.goOn x rest).2 = .waiting t) :
    t.rest.saves = rest.saves ∧ (s.goOn x rest).1.files = s.files ∧
      ∃ c, (s.made x rest).getLast? = some c ∧ t.wait.IsWithin c := by
  cases rest with
  | nothing => cases h
  | dispatch editor handlers =>
    have hFiles := files_of_stock (stock_runHandlers x s editor handlers)
    unfold goOn at h ⊢
    dsimp only at h ⊢
    rcases hRun : s.runHandlers x editor handlers with ⟨s', _ | ⟨w, left⟩⟩
    · rw [hRun] at h
      cases h
    · rw [hRun] at h hFiles
      cases h
      exact ⟨rfl, (files_of_stock (stock_suspend s' w _)).trans hFiles, isWithin_runHandlers .added hRun⟩
  | save editor handlers =>
    have hFiles := files_of_stock (stock_runHandlers x s editor handlers)
    unfold goOn at h ⊢
    dsimp only at h ⊢
    rcases hRun : s.runHandlers x editor handlers with ⟨s', _ | ⟨w, left⟩⟩
    · rw [hRun] at h
      cases h
    · rw [hRun] at h hFiles
      cases h
      exact ⟨rfl, (files_of_stock (stock_suspend s' w _)).trans hFiles, isWithin_runHandlers .saving hRun⟩

theorem saved_writeDocument (x : Surroundings) (s : Session) (editor : Nat) :
    Saved x s.files (s.writeDocument x editor).1 editor := by
  by_cases hPlace : ∃ path name, (s.buffer editor).path = some path ∧ s.files.Place x.cwd path name
  · obtain ⟨path, name, hPath, hLeads⟩ := hPlace
    obtain ⟨left, hStored, hReplaced⟩ := hLeads.store hPath
    have hWritten : s.writeDocument x editor = ({ s with files := left }, .ok ()) := by
      rw [writeDocument, hStored]
    rw [hWritten]
    exact .written path name hPath hLeads hReplaced
  · have hNoPlace : ∀ path name, (s.buffer editor).path = some path → ¬ s.files.Place x.cwd path name :=
      fun path name hPath hLeads => hPlace ⟨path, name, hPath, hLeads⟩
    obtain ⟨e, hFailed⟩ := Files.store_of_no_place hNoPlace
    have hSame : s.writeDocument x editor = (s, .error e) := by
      rw [writeDocument, hFailed]
    rw [hSame]
    exact .nowhere hNoPlace rfl

theorem saved_goOn {r : Except HostError Unit} (h : (s.goOn x rest).2 = .ended r)
    (hSaves : rest.saves = some editor) : Saved x s.files (s.goOn x rest).1 editor := by
  cases rest with
  | nothing | dispatch => cases hSaves
  | save editor' handlers =>
    cases hSaves
    have hFiles := files_of_stock (stock_runHandlers x s editor handlers)
    unfold goOn at h ⊢
    dsimp only at h ⊢
    rcases hRun : s.runHandlers x editor handlers with ⟨s', _ | ⟨w, left⟩⟩
    · rw [hRun] at hFiles
      rw [← hFiles]
      exact saved_writeDocument x s' editor
    · rw [hRun] at h
      cases h

end Session

/-! ## Moves -/

namespace Stage

variable {x : Surroundings} {g : Stage} {m : Move}

/-- The operation that gets its reply with a move. -/
def answering (g : Stage) : Move → Option Suspended
  | .reply number _ => g.waiting[number]?
  | _ => none

/-- The calls that the operation which makes a move still has to make. -/
def owed (g : Stage) (m : Move) : List Call := ((g.answering m).map fun t => t.rest.calls).getD (g.due m)

/-- The editor whose document is saved by the operation that makes a move. -/
def saves (g : Stage) (m : Move) : Option Nat := ((g.answering m).map fun t => t.rest.saves).getD m.saves

/-- What the operation that makes a move does with it. -/
structure Serves (x : Surroundings) (g : Stage) (m : Move) (r : Session × Progress) : Prop where
  play : g.play x m = after (g.others m) r
  calls : g.calls x m ++ r.2.rest.calls = g.owed m
  saves : ∀ t, r.2 = .waiting t → t.rest.saves = g.saves m
  within : ∀ t, r.2 = .waiting t →
    (∃ c, (g.calls x m).getLast? = some c ∧ t.wait.IsWithin c) ∨
      (g.calls x m = [] ∧ t.wait.isOwn = true ∧ ∀ t' ∈ g.answering m, t'.wait.isOwn = true)
  unwritten : ∀ t, r.2 = .waiting t → r.1.files = g.session.files
  saved : ∀ e, r.2 = .ended e → ∀ editor ∈ g.saves m, Session.Saved x g.session.files r.1 editor

theorem serves_settle {r : Session × Option Wait} {rest : Rest}
    (hPlay : g.play x m = after (g.others m) (Session.settle x r rest))
    (hCalls : g.calls x m = Session.madeAfter x r rest) (hOwed : g.owed m = rest.calls)
    (hSaves : g.saves m = rest.saves) (hFiles : r.1.files = g.session.files)
    (hOwn : ∀ w ∈ r.2, w.isOwn = true ∧ ∀ t ∈ g.answering m, t.wait.isOwn = true) :
    g.Serves x m (Session.settle x r rest) := by
  obtain ⟨s, _ | w⟩ := r
  · refine ⟨hPlay, ?_, fun t ht => ?_, fun t ht => .inl ?_, fun t ht => ?_, fun e he editor hEditor => ?_⟩
    · rw [hCalls, hOwed]
      exact Session.madeAfter_append x (s, none) rest
    · rw [hSaves]
      exact (Session.waiting_goOn ht).1
    · rw [hCalls]
      exact (Session.waiting_goOn ht).2.2
    · exact (Session.waiting_goOn ht).2.1.trans hFiles
    · rw [← hFiles]
      exact Session.saved_goOn he (hSaves.symm.trans hEditor)
  · refine ⟨hPlay, ?_, fun t ht => ?_, fun t ht => .inr ?_, fun t ht => ?_, fun e he => ?_⟩
    · rw [hCalls, hOwed]
      exact Session.madeAfter_append x (s, some w) rest
    · cases ht
      exact hSaves.symm
    · cases ht
      exact ⟨hCalls, hOwn w rfl⟩
    · exact (Session.files_of_stock (Session.stock_suspend s w rest)).trans hFiles
    · cases he

/-- A move that begins an operation without listeners to call. -/
theorem serves_nothing {r : Session × Option Wait} (hNone : g.answering m = none) (hSaves : m.saves = none)
    (hPlay : g.play x m = after (g.others m) (Session.settle x r .nothing)) (hCalls : g.calls x m = [])
    (hDue : g.due m = []) (hFiles : r.1.files = g.session.files) (hOwn : ∀ w ∈ r.2, w.isOwn = true) :
    g.Serves x m (Session.settle x r .nothing) := by
  refine serves_settle hPlay ?_ ?_ ?_ hFiles fun w hw => ⟨hOwn w hw, ?_⟩
  · obtain ⟨s, _ | w⟩ := r <;> exact hCalls
  · rw [owed, hNone]
    exact hDue
  · rw [saves, hNone]
    exact hSaves
  · rw [hNone]
    exact nofun

/-- A move that only changes the session. -/
theorem serves_withSession {s : Session} (hNone : g.answering m = none) (hSaves : m.saves = none)
    (hOthers : g.others m = g.waiting) (hPlay : g.play x m = g.withSession s) (hCalls : g.calls x m = [])
    (hDue : g.due m = []) : g.Serves x m (s, .ended (.ok ())) := by
  refine ⟨?_, ?_, nofun, nofun, nofun, fun e he editor hEditor => ?_⟩
  · rw [hPlay, hOthers]
    rfl
  · rw [hCalls, owed, hNone]
    exact hDue.symm
  · rw [saves, hNone] at hEditor
    cases hSaves.symm.trans hEditor

theorem serves_activate (x : Surroundings) (g : Stage) :
    g.Serves x .activate (Session.settle x (g.session.beginActivate x) .nothing) := by
  by_cases hPhase : g.session.extension.phase = .inactive
  · have hBegin := Session.beginActivate_equipped x hPhase
    refine serves_nothing rfl rfl rfl rfl rfl ?_ fun w hw => ?_
    · rw [hBegin]
      exact Session.files_of_stock ((Session.stock_beginStartup x _).trans (Session.stock_equipped x _))
    · rw [hBegin] at hw
      exact Wait.isOwn_of_attends (Session.attending_beginStartup x _ w hw)
  · have hBegin : g.session.beginActivate x = (g.session, none) := if_pos hPhase
    refine serves_nothing rfl rfl rfl rfl rfl ?_ fun w hw => ?_
    · rw [hBegin]
    · rw [hBegin] at hw
      cases hw

theorem serves_deactivate (x : Surroundings) (g : Stage) :
    g.Serves x .deactivate (Session.settle x g.session.beginDeactivate .nothing) := by
  refine serves_nothing rfl rfl rfl rfl rfl 
    (Session.files_of_stock (Session.stock_beginDeactivate g.session)) fun w hw => ?_
  unfold Session.beginDeactivate at hw
  dsimp only at hw
  split at hw
  · cases hw
  · cases hw
    rfl

theorem serves_restart (x : Surroundings) (g : Stage) :
    g.Serves x .restart (Session.settle x (g.session.beginRestart x) .nothing) := by
  refine serves_nothing rfl rfl rfl rfl rfl 
    (Session.files_of_stock (Session.stock_beginRestart x g.session)) fun w hw => ?_
  exact Wait.isOwn_of_attends (Session.attending_beginRestart hw)

theorem serves_prompt (x : Surroundings) (g : Stage) : ∃ r, g.Serves x .prompt r := by
  cases hPrompts : g.session.prompts with
  | nil =>
    refine ⟨_, serves_withSession (s := g.session) rfl rfl rfl ?_ rfl rfl⟩
    unfold play Session.runPrompt
    dsimp only
    rw [hPrompts]
    rfl
  | cons reason rest =>
    refine ⟨_, serves_nothing (r := { g.session with prompts := rest }.beginPrompt reason) rfl rfl ?_ rfl rfl
      (Session.files_of_stock (Session.stock_beginPrompt _ reason)) fun w hw => ?_⟩
    · unfold play Session.runPrompt
      dsimp only
      rw [hPrompts]
      rfl
    · cases hw
      rfl

theorem serves_invoke (x : Surroundings) (g : Stage) (hub : Nat) (id : String) (editor : Nat) :
    ∃ r, g.Serves x (.invoke hub id editor) r := by
  cases hHandler : ((g.session.hubs[hub]?).getD {}).commands.handler? id with
  | none =>
    refine ⟨_, serves_withSession (s := g.session) rfl rfl rfl ?_ ?_ ?_⟩
    · unfold play Session.invoke
      dsimp only
      rw [hHandler]
      rfl
    · rw [calls, due, hHandler]
      rfl
    · rw [due, hHandler]
      rfl
  | some h =>
    have hCalls : g.calls x (.invoke hub id editor) = [⟨.invoked, h, editor⟩] := by
      rw [calls, due, hHandler]
      rfl
    refine ⟨Session.settle x (g.session.runHandler x h editor) .nothing, ?_, ?_, ?_, ?_, fun _ _ => ?_,
      fun _ _ => nofun⟩
    · unfold play Session.invoke
      dsimp only
      rw [hHandler]
      rfl
    · rw [Session.calls_settle_nothing, List.append_nil]
      rfl
    · intro t ht
      rw [(Session.waiting_settle_nothing ht).1]
      rfl
    · intro t ht
      refine .inl ⟨⟨.invoked, h, editor⟩, by rw [hCalls]; rfl, ?_⟩
      exact Session.isWithin_runHandler .invoked (Session.waiting_settle_nothing ht).2
    · exact Session.files_of_stock
        ((Session.stock_settle_nothing x _).trans (Session.stock_runHandler x g.session h editor))

theorem serves_reply (x : Surroundings) (g : Stage) (number : Nat) (answer : (w : Wait) → w.Reply) :
    ∃ r, g.Serves x (.reply number answer) r := by
  cases ht : g.waiting[number]? with
  | none =>
    have hSame : g.waiting.eraseIdx number = g.waiting :=
      List.eraseIdx_of_length_le (List.getElem?_eq_none_iff.mp ht)
    refine ⟨_, serves_withSession (s := g.session) ht rfl hSame ?_ ?_ rfl⟩
    · unfold play
      dsimp only
      rw [ht]
      rfl
    · rw [calls, ht]
  | some t =>
    have hAnswering : g.answering (.reply number answer) = some t := ht
    refine ⟨Session.settle x ((g.replying t).receive x t.wait (answer t.wait)) t.rest,
      serves_settle ?_ ?_ ?_ ?_ ?_ fun w hw => ?_⟩
    · unfold play
      dsimp only
      rw [ht]
      rfl
    · rw [calls, ht]
    · rw [owed, hAnswering]
      rfl
    · rw [saves, hAnswering]
      rfl
    · rw [Session.files_receive]
      exact Session.files_of_stock (Session.stock_resumed g.session t.wait)
    · refine ⟨Wait.isOwn_of_attends (Session.attending_receive x _ t.wait _ w hw), fun t' ht' => ?_⟩
      rw [hAnswering] at ht'
      cases ht'
      -- Someone else's handler has ended with its reply, so then nothing is waited for at once.
      cases hWait : t.wait with
      | other number editor =>
        rw [hWait] at hw
        cases hw
      | _ => rfl

/-- Every move serves its operation. -/
theorem serves_play (x : Surroundings) (g : Stage) (m : Move) : ∃ r, g.Serves x m r := by
  cases m with
  | activate => exact ⟨_, serves_activate x g⟩
  | deactivate => exact ⟨_, serves_deactivate x g⟩
  | restart => exact ⟨_, serves_restart x g⟩
  | invoke hub id editor => exact serves_invoke x g hub id editor
  | addEditor hub editor => exact ⟨_, serves_settle (r := (g.session, none)) rfl rfl rfl rfl rfl nofun⟩
  | save editor => exact ⟨_, serves_settle (r := (g.session, none)) rfl rfl rfl rfl rfl nofun⟩
  | prompt => exact serves_prompt x g
  | reply number answer => exact serves_reply x g number answer
  | serverStopped | openEditor | edit | register | onEditorAdded | onWillSave | dispose
    | changeSettings | changeFiles => exact ⟨_, serves_withSession rfl rfl rfl rfl rfl rfl⟩

end Stage

/-! ## Courses -/

/-- The operations of a run, each with all its steps: those that wait, in their order, and those that have
ended. -/
structure Courses where
  underWay : List (List Step) := []
  ended : List (List Step) := []

/-- The calls that steps make. -/
def callsOf (x : Surroundings) (steps : List Step) : List Call :=
  steps.flatMap fun p => p.stage.calls x p.move

/-- The session after a step. -/
def Step.sessionAfter (x : Surroundings) (p : Step) : Session := (p.stage.play x p.move).session

/-- A step leaves the files as they are. -/
def Step.WritesNothing (x : Surroundings) (p : Step) : Prop :=
  (p.sessionAfter x).files = p.stage.session.files

namespace Courses

/-- The steps so far of the operation that makes a move. -/
def steps (c : Courses) : Move → List Step
  | .reply number _ => (c.underWay[number]?).getD []
  | _ => []

/-- The operations under way that do not make a move. -/
def others (c : Courses) : Move → List (List Step)
  | .reply number _ => c.underWay.eraseIdx number
  | _ => c.underWay

/-- The steps of the operation that makes a move, with the move. -/
def next (c : Courses) (g : Stage) (m : Move) : List Step := c.steps m ++ [⟨g, m⟩]

/-- The operations after a move. The one that makes the move is under way as long as it waits. -/
def play (x : Surroundings) (c : Courses) (g : Stage) (m : Move) : Courses :=
  if (g.others m).length < (g.play x m).waiting.length then ⟨c.others m ++ [c.next g m], c.ended⟩
  else ⟨c.others m, c.ended ++ [c.next g m]⟩

/-- The operations after several moves. -/
def playAll (x : Surroundings) : Courses → Stage → List Move → Courses
  | c, _, [] => c
  | c, g, m :: moves => (c.play x g m).playAll x (g.play x m) moves

/-- An operation that waits: it has called some of the listeners that it was begun with and has the others
still to call; it waits within the last one that it called, and has written nothing. -/
structure UnderWay (x : Surroundings) (t : Suspended) (steps : List Step) : Prop where
  calls : ∃ first, steps.head? = some first ∧
    callsOf x steps ++ t.rest.calls = first.stage.due first.move ∧ t.rest.saves = first.move.saves
  within : ∀ c ∈ (callsOf x steps).getLast?, t.wait.IsWithin c
  unwritten : ∀ p ∈ steps, p.WritesNothing x

/-- An operation that has ended: it has called the listeners that it was begun with, and if it saves a
document, its last step has done so, and no other. -/
structure Completed (x : Surroundings) (steps : List Step) : Prop where
  calls : ∃ first, steps.head? = some first ∧ callsOf x steps = first.stage.due first.move
  saved : ∃ first last, steps.head? = some first ∧ steps.getLast? = some last ∧
    ∀ editor ∈ first.move.saves, Session.Saved x last.stage.session.files (last.sessionAfter x) editor
  unwritten : ∀ p ∈ steps.dropLast, p.WritesNothing x

/-- The operations that are followed are those of a stage. -/
structure Follow (x : Surroundings) (c : Courses) (g : Stage) : Prop where
  underWay : List.Forall₂ (UnderWay x) g.waiting c.underWay
  ended : ∀ steps ∈ c.ended, Completed x steps

variable {x : Surroundings} {c : Courses} {g : Stage} {m : Move}

theorem callsOf_next (x : Surroundings) (c : Courses) (g : Stage) (m : Move) :
    callsOf x (c.next g m) = callsOf x (c.steps m) ++ g.calls x m := by
  unfold callsOf next
  rw [List.flatMap_append, List.flatMap_singleton]

theorem Follow.others (h : c.Follow x g) (m : Move) :
    List.Forall₂ (UnderWay x) (g.others m) (c.others m) := by
  cases m with
  | reply number answer => exact forall₂_eraseIdx h.underWay number
  | _ => exact h.underWay

/-- The operation that makes a move is the one that gets its reply. -/
theorem Follow.underWay_of_answering (h : c.Follow x g) {t : Suspended} (ht : g.answering m = some t) :
    UnderWay x t (c.steps m) := by
  cases m with
  | reply number answer =>
    obtain ⟨made, hMade, hUnderWay⟩ := forall₂_getElem? h.underWay ht
    rw [steps, hMade]
    exact hUnderWay
  | _ => cases ht

theorem Follow.steps_eq_nil (h : c.Follow x g) (hNone : g.answering m = none) : c.steps m = [] := by
  cases m with
  | reply number answer =>
    have hLength : c.underWay.length ≤ number := by
      rw [← h.underWay.length_eq]
      exact List.getElem?_eq_none_iff.mp hNone
    rw [steps, List.getElem?_eq_none hLength]
    rfl
  | _ => rfl

/-- Before a move its operation owes the calls that are due since it began and were not made. -/
theorem Follow.owed (h : c.Follow x g) (m : Move) :
    ∃ first, (c.next g m).head? = some first ∧
      callsOf x (c.steps m) ++ g.owed m = first.stage.due first.move ∧ g.saves m = first.move.saves := by
  cases ht : g.answering m with
  | none =>
    rw [next, h.steps_eq_nil ht, Stage.owed, Stage.saves, ht]
    exact ⟨⟨g, m⟩, rfl, rfl, rfl⟩
  | some t =>
    obtain ⟨first, hFirst, hCalls, hSaves⟩ := (h.underWay_of_answering ht).calls
    rw [Stage.owed, Stage.saves, ht]
    refine ⟨first, ?_, hCalls, hSaves⟩
    rw [next, List.head?_append, hFirst]
    rfl

theorem Follow.unwritten (h : c.Follow x g) (m : Move) : ∀ p ∈ c.steps m, p.WritesNothing x := by
  cases ht : g.answering m with
  | none =>
    rw [h.steps_eq_nil ht]
    exact List.forall_mem_nil _
  | some t => exact (h.underWay_of_answering ht).unwritten

theorem sessionAfter_serves {r : Session × Progress} (hServes : g.Serves x m r) :
    Step.sessionAfter x ⟨g, m⟩ = r.1 := by
  unfold Step.sessionAfter
  rw [hServes.play]
  exact Stage.session_after _ r

theorem Follow.underWay_next (h : c.Follow x g) {r : Session × Progress} (hServes : g.Serves x m r)
    {t : Suspended} (ht : r.2 = .waiting t) : UnderWay x t (c.next g m) := by
  obtain ⟨first, hFirst, hCalls, hSaves⟩ := h.owed m
  have hMade := hServes.calls
  rw [ht] at hMade
  refine ⟨⟨first, hFirst, ?_, (hServes.saves t ht).trans hSaves⟩, fun call hCall => ?_, fun p hp => ?_⟩
  · rw [callsOf_next, List.append_assoc, ← hCalls, ← hMade]
    rfl
  · rw [callsOf_next, List.getLast?_append] at hCall
    rcases hServes.within t ht with ⟨last, hLast, hWithin⟩ | ⟨hNone, hOwn, hBefore⟩
    · rw [hLast] at hCall
      cases hCall
      exact hWithin
    · rw [hNone] at hCall
      cases hAnswering : g.answering m with
      | none =>
        rw [h.steps_eq_nil hAnswering] at hCall
        cases hCall
      | some t' =>
        -- Nothing was called with this move, so the wait is still one of the handler called before.
        have hWithin := (h.underWay_of_answering hAnswering).within call hCall
        exact hWithin.of_isOwn (hBefore t' hAnswering) hOwn
  · rcases List.mem_append.mp hp with hOld | hNew
    · exact h.unwritten m p hOld
    · obtain rfl := List.mem_singleton.mp hNew
      exact (congrArg Session.files (sessionAfter_serves hServes)).trans (hServes.unwritten t ht)

theorem Follow.completed_next (h : c.Follow x g) {r : Session × Progress} (hServes : g.Serves x m r)
    {e : Except HostError Unit} (he : r.2 = .ended e) : Completed x (c.next g m) := by
  obtain ⟨first, hFirst, hCalls, hSaves⟩ := h.owed m
  have hMade := hServes.calls
  rw [he] at hMade
  refine ⟨⟨first, hFirst, ?_⟩, ⟨first, ⟨g, m⟩, hFirst, List.getLast?_concat, fun editor hEditor => ?_⟩, ?_⟩
  · rw [callsOf_next, ← hCalls, ← hMade]
    exact congrArg (_ ++ ·) (List.append_nil _).symm
  · rw [sessionAfter_serves hServes]
    refine hServes.saved e he editor ?_
    rw [hSaves]
    exact hEditor
  · rw [next, List.dropLast_concat]
    exact h.unwritten m

/-- **Operations are followed through every move.** -/
theorem Follow.play (h : c.Follow x g) (m : Move) : (c.play x g m).Follow x (g.play x m) := by
  obtain ⟨⟨s, p⟩, hServes⟩ := Stage.serves_play x g m
  have hOthers := h.others m
  unfold Courses.play
  rw [hServes.play]
  cases p with
  | waiting t =>
    rw [if_pos (by simp [Stage.after])]
    exact ⟨List.rel_append hOthers (.cons (h.underWay_next hServes rfl) .nil), h.ended⟩
  | ended e =>
    rw [if_neg (by simp [Stage.after])]
    refine ⟨hOthers, fun steps hSteps => ?_⟩
    rcases List.mem_append.mp hSteps with hOld | hNew
    · exact h.ended steps hOld
    · rw [List.mem_singleton.mp hNew]
      exact h.completed_next hServes rfl

theorem Follow.playAll (h : c.Follow x g) (moves : List Move) :
    (c.playAll x g moves).Follow x (g.playAll x moves) := by
  induction moves generalizing c g with
  | nil => exact h
  | cons m moves ih => exact ih (h.play m)

/-! ## No step is left out -/

/-- All steps of the operations that are followed. -/
def total (c : Courses) : List Step := c.underWay.flatten ++ c.ended.flatten

theorem total_play (x : Surroundings) (c : Courses) (g : Stage) (m : Move) :
    (c.play x g m).total.Perm (c.total ++ [⟨g, m⟩]) := by
  have hSplit : ((c.others m).flatten ++ c.steps m).Perm c.underWay.flatten := by
    cases m with
    | reply number answer =>
      unfold steps others
      dsimp only
      cases hSteps : c.underWay[number]? with
      | none =>
        rw [List.eraseIdx_of_length_le (List.getElem?_eq_none_iff.mp hSteps)]
        exact .of_eq (List.append_nil _)
      | some steps =>
        obtain ⟨hNumber, rfl⟩ := List.getElem?_eq_some_iff.mp hSteps
        exact List.perm_append_comm.trans (List.getElem_cons_eraseIdx_perm hNumber).flatten
    | _ => exact .of_eq (List.append_nil _)
  unfold play total next
  split
  · rw [List.flatten_append, List.flatten_singleton, ← List.append_assoc, List.append_assoc _ [_],
      List.append_assoc c.underWay.flatten]
    exact hSplit.append List.perm_append_comm
  · rw [List.flatten_append, List.flatten_singleton, ← List.append_assoc, ← List.append_assoc]
    refine List.Perm.append_right _ (.trans ?_ (hSplit.append_right _))
    rw [List.append_assoc, List.append_assoc]
    exact List.perm_append_comm.append_left _

theorem total_playAll (x : Surroundings) (c : Courses) (g : Stage) (moves : List Move) :
    (c.playAll x g moves).total.Perm (c.total ++ Stage.gather x (fun g m => [⟨g, m⟩]) g moves) := by
  induction moves generalizing c g with
  | nil => exact .of_eq (List.append_nil _).symm
  | cons m moves ih =>
    refine (ih (c.play x g m) (g.play x m)).trans ?_
    rw [Stage.gather, ← List.append_assoc]
    exact (total_play x c g m).append_right _

end Courses

/-! ## The main statement -/

open Listeners Listeners.Use in
/-- **Listeners are called once each, in order.** Listeners to which any uses were made are those that were
added and not disposed of since, in the order of addition; each has a number of its own, which fits into
64 bits as long as there are fewer than `2 ^ 64` additions, and disposing of one takes away the entry with
its number and no other. An editor that is added or saved has the listeners called that are there when this
begins, whatever they and others do meanwhile: an operation that waits has called some of them, waits within the
last one, and has the others still to call; one that has ended has called all of them, and a document that
is saved is written by its last step, as it then is. Every step of a run belongs to one operation. -/
theorem Stage.dispatches_snapshot (x : Surroundings) (s : Session) (moves : List Move) :
    (∀ (α : Type) (uses : List (Listeners.Use α)),
      let l := Roll.of uses
      l.listeners.snapshot = (kept 0 uses).map Prod.snd ∧
        l.listeners.entries = (kept 0 uses).map (fun entry => (entry.1 + 1, entry.2)) ∧
        l.listeners.entries.Pairwise (fun first second => first.1 < second.1) ∧
        (∀ number < additions uses, l.issued[number]? = some (number + 1)) ∧
        ∀ number, (l.use (.dispose number)).listeners.entries =
          l.listeners.entries.filter fun entry => entry.1 ≠ number + 1) ∧
      let c := Courses.playAll x {} ⟨s, []⟩ moves
      List.Forall₂ (Courses.UnderWay x) (playAll x ⟨s, []⟩ moves).waiting c.underWay ∧
        (∀ steps ∈ c.ended, Courses.Completed x steps) ∧
        c.total.Perm (gather x (fun g m => [⟨g, m⟩]) ⟨s, []⟩ moves) := by
  constructor
  · intro α uses l
    have hRecords : l.Records uses := Roll.records_of uses
    exact ⟨hRecords.snapshot, hRecords.entries, hRecords.pairwise, fun number => hRecords.getElem?_issued,
      hRecords.entries_dispose⟩
  · intro c
    have hNone : Courses.Follow x {} ⟨s, []⟩ := ⟨.nil, List.forall_mem_nil _⟩
    have hFollow := hNone.playAll moves
    exact ⟨hFollow.underWay, hFollow.ended, Courses.total_playAll x {} ⟨s, []⟩ moves⟩

/-- A document is open that stands in a file. -/
def Session.withFile : Session where
  files := [("/w", .directory), ("/w/a.ex", .file (Utf8.encode ['a']) false)]
  editors := [{ buffer := { path := some "/w/a.ex", text := ['a'] } }]

/-- The document is saved; a listener changes its text and then ends. -/
def editedOnSave : List Move :=
  [.onWillSave 0 1, .save 0, .edit 0 ⟨0, 1⟩ ['b'], .reply 0 Wait.goodReply]

/-- The listener was called once, and what is written is what it made of the text. -/
theorem Stage.dispatches_snapshot_edited :
    let c := Courses.playAll .plain {} ⟨Session.withFile, []⟩ editedOnSave
    c.ended.getLast?.map (callsOf .plain) = some (Call.all .saving 0 [.other 1]) ∧
      (playAll .plain ⟨Session.withFile, []⟩ editedOnSave).session.files.content? "/w/a.ex" =
        some (Utf8.encode ['b']) := by
  intro c
  obtain ⟨-, -, hEnded, -⟩ := Stage.dispatches_snapshot .plain Session.withFile editedOnSave
  obtain ⟨steps, hLast⟩ : ∃ steps, c.ended.getLast? = some steps := ⟨_, rfl⟩
  have hCompleted := hEnded steps (List.mem_of_getLast? hLast)
  obtain ⟨first, last, hFirst, hEnd, hSaved⟩ := hCompleted.saved
  cases hLast
  cases hFirst
  cases hEnd
  refine ⟨by decide +kernel, ?_⟩
  cases hSaved 0 rfl with
  | written path name hPath hPlace hReplaced =>
    cases hPath
    obtain ⟨old, hLocated, -⟩ := hPlace
    cases hLocated
    exact hReplaced.content
  | nowhere hNoPlace =>
    exact absurd ⟨_, rfl, nofun⟩ (hNoPlace "/w/a.ex" "/w/a.ex" rfl)

/-- While the first of two listeners runs, the second one is disposed of, and a third one is added. -/
example :
    let moves := [.onEditorAdded 0 1, .onEditorAdded 0 2, .addEditor 0 0, .onEditorAdded 0 3,
      .dispose (.editorAdded 0 2), .reply 0 Wait.goodReply, .reply 0 Wait.goodReply]
    ((Courses.playAll .plain {} ⟨{}, []⟩ moves).ended.getLast?.map (callsOf .plain)) =
      some (Call.all .added 0 [.other 1, .other 2]) := by
  decide +kernel

end ExtensionHost
