import ExtensionHost.Lifecycle.Machine

/-!
# Schedules

Any number of operations of a session may be under way at the same time. A stage is a session with the
operations that wait. A schedule is a list of moves: an operation begins, one that waits gets its reply,
a server stops, a spawned task begins, or someone else registers, edits or changes settings or files. A
move that is not possible changes nothing. Every order in which operations may overlap is a schedule.
-/

namespace ExtensionHost

/-- A session and the operations that wait, in the order in which they were suspended. -/
structure Stage where
  session : Session := {}
  waiting : List Suspended := []

/-- What may happen next. A reply says how every wait would end; only the one of the operation with the
number counts. -/
inductive Move where
  | activate
  | deactivate
  | restart
  | invoke (hub : Nat) (id : String) (editor : Nat)
  | addEditor (hub editor : Nat)
  | save (editor : Nat)
  | serverStopped (client : Nat) (reason : Option String)
  | prompt
  | reply (number : Nat) (answer : (w : Wait) → w.Reply)
  | openEditor (b : Buffer)
  | edit (editor : Nat) (e : Extent) (replacement : List Char)
  | register (hub : Nat) (id : String) (other : Nat)
  | onEditorAdded (hub other : Nat)
  | onWillSave (editor other : Nat)
  | dispose (r : Registration)
  | changeSettings (workspace global : Settings)
  | changeFiles (files : Files)

namespace Stage

/-- The stage after a step: the operation joins those that wait, if it waits. -/
def after (waiting : List Suspended) : Session × Progress → Stage
  | (session, .waiting t) => ⟨session, waiting ++ [t]⟩
  | (session, .ended _) => ⟨session, waiting⟩

/-- The stage with another session. -/
def withSession (g : Stage) (session : Session) : Stage := { g with session }

/-- Makes a move. -/
def play (x : Surroundings) (g : Stage) : Move → Stage
  | .activate => after g.waiting (g.session.activate x)
  | .deactivate => after g.waiting (g.session.deactivate x)
  | .restart => after g.waiting (g.session.restart x)
  | .invoke hub id editor => after g.waiting (g.session.invoke x hub id editor)
  | .addEditor hub editor => after g.waiting (g.session.addEditor x hub editor)
  | .save editor => after g.waiting (g.session.save x editor)
  | .serverStopped client reason => g.withSession (g.session.serverStopped client reason)
  | .prompt => after g.waiting (g.session.runPrompt x)
  | .reply number answer =>
    match g.waiting[number]? with
    | some t => after (g.waiting.eraseIdx number) (g.session.resume x t (answer t.wait))
    | none => g
  | .openEditor buffer =>
    g.withSession { g.session with editors := g.session.editors ++ [{ buffer }] }
  | .edit editor e replacement => g.withSession (g.session.edit editor e replacement).1
  | .register hub id other => g.withSession (g.session.registerCommand hub id (.other other)).1
  | .onEditorAdded hub other => g.withSession (g.session.registerEditorAdded hub (.other other)).1
  | .onWillSave editor other => g.withSession (g.session.registerWillSave editor (.other other)).1
  | .dispose r => g.withSession (g.session.dispose r)
  | .changeSettings workspaceSettings globalSettings =>
    g.withSession { g.session with workspaceSettings, globalSettings }
  | .changeFiles files => g.withSession { g.session with files }

/-- Makes moves in order. -/
def playAll (x : Surroundings) (g : Stage) (moves : List Move) : Stage :=
  moves.foldl (play x) g

@[simp] theorem playAll_nil (x : Surroundings) (g : Stage) : g.playAll x [] = g := rfl

@[simp] theorem playAll_cons (x : Surroundings) (g : Stage) (m : Move) (moves : List Move) :
    g.playAll x (m :: moves) = (g.play x m).playAll x moves := rfl

theorem playAll_append (x : Surroundings) (g : Stage) (first second : List Move) :
    g.playAll x (first ++ second) = (g.playAll x first).playAll x second := by
  simp [playAll]

/-- No operation of the extension is under way. -/
def Idle (g : Stage) : Prop := ∀ t ∈ g.waiting, t.wait.isOwn = false

end Stage

end ExtensionHost
