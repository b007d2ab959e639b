import ExtensionHost.Proofs.Lifecycle.Steps
import Mathlib.Data.List.Induction

/-!
# Runs of the machine

A run is a list of moves from a session in which nothing has happened. This module says what each kind
of move does to the core and to the waits of a stage, and how a property of cores passes through the
handlers that an operation runs before it waits or ends. `Stage.collect` keeps what a run did: it looks
at each move in the stage before it.
-/

namespace ExtensionHost

/-- A session in which nothing has happened yet. Editors, files, settings and what others registered
are arbitrary. -/
structure Session.Fresh (s : Session) : Prop where
  extension : s.extension = {}
  clients : s.clients = []
  events : s.events = []
  prompts : s.prompts = []
  inFlight : s.inFlight = 0
  held : s.held = true

/-- What an operation waits for, if it waits. -/
def Progress.wait? : Progress → Option Wait
  | .waiting t => some t.wait
  | .ended _ => none

/-- Whether a move is one of someone else that concerns neither the extension nor its clients. -/
def Move.isForeign : Move → Bool
  | .openEditor _ | .edit _ _ _ | .register _ _ _ | .onEditorAdded _ _ | .onWillSave _ _
  | .changeSettings _ _ | .changeFiles _ => true
  | _ => false

/-- Whether a move is one of someone else, who begins no operation and gives no reply: a foreign one, one
that disposes of a registration, or one in which a server stops. -/
def Move.isOutside : Move → Bool
  | .dispose _ | .serverStopped _ _ => true
  | m => m.isForeign

/-- Whether a move begins an operation. -/
def Move.isOperation : Move → Bool
  | .activate | .deactivate | .restart | .invoke _ _ _ | .addEditor _ _ | .save _ => true
  | _ => false

/-- The handlers that are left to run. -/
def Rest.handlers : Rest → List Handler
  | .nothing => []
  | .dispatch _ handlers | .save _ handlers => handlers

/-! ## Handlers that run one after the other -/

namespace Session

variable {x : Surroundings} {J : Core → Option Wait → Prop} {handlers : List Handler}

/-- Each of several handlers preserves a property of cores and waits. -/
def Carries (x : Surroundings) (J : Core → Option Wait → Prop) (handlers : List Handler) : Prop :=
  ∀ h ∈ handlers, ∀ (s : Session) (editor : Nat), J s.core none →
    J (s.runHandler x h editor).1.core (s.runHandler x h editor).2

theorem carries_of_handles (hHandles : ∀ k r, J k none → k.Handles r → J r.1 r.2) :
    Carries x J handlers :=
  fun h _ s editor hs => hHandles _ _ hs (handles_runHandler x s h editor)

theorem carries_of_tends (hTends : ∀ k r, J k none → k.Tends r → J r.1 r.2)
    (hOther : .own .restart ∉ handlers) : Carries x J handlers :=
  fun _ hMem s editor hs =>
    hTends _ _ hs (tends_runHandler x s (fun hRestart => hOther (hRestart ▸ hMem)) editor)

theorem runHandlers_preserves (hCarries : Carries x J handlers) (editor : Nat) {s : Session}
    (hs : J s.core none) :
    J (s.runHandlers x editor handlers).1.core
      ((s.runHandlers x editor handlers).2.map Prod.fst) := by
  induction handlers generalizing s with
  | nil => exact hs
  | cons h rest ih =>
    have hStep := hCarries h List.mem_cons_self s editor hs
    have hRest : Carries x J rest := fun h' hh' => hCarries h' (List.mem_cons_of_mem _ hh')
    unfold runHandlers
    rcases hRun : s.runHandler x h editor with ⟨s', _ | w⟩
    · rw [hRun] at hStep
      exact ih hRest hStep
    · rw [hRun] at hStep
      exact hStep

theorem goOn_preserves {rest : Rest} (hCarries : Carries x J rest.handlers) {s : Session}
    (hs : J s.core none) : J (s.goOn x rest).1.core (s.goOn x rest).2.wait? := by
  cases rest with
  | nothing => exact hs
  | dispatch editor handlers =>
    have hHandlers : Carries x J handlers := hCarries
    have hLast := runHandlers_preserves hHandlers editor hs
    rcases hRun : s.runHandlers x editor handlers with ⟨s', _ | ⟨w, left⟩⟩
    · rw [hRun] at hLast
      simp only [goOn, hRun]
      exact hLast
    · rw [hRun] at hLast
      simp only [goOn, hRun, core_suspend]
      exact hLast
  | save editor handlers =>
    have hHandlers : Carries x J handlers := hCarries
    have hLast := runHandlers_preserves hHandlers editor hs
    rcases hRun : s.runHandlers x editor handlers with ⟨s', _ | ⟨w, left⟩⟩
    · rw [hRun] at hLast
      simp only [goOn, hRun, core_writeDocument]
      exact hLast
    · rw [hRun] at hLast
      simp only [goOn, hRun, core_suspend]
      exact hLast

/-- A property that handlers preserve holds of what an operation leaves when it waits or has ended. -/
theorem settle_preserves {rest : Rest} (hCarries : Carries x J rest.handlers)
    {r : Session × Option Wait} (hr : J r.1.core r.2) :
    J (settle x r rest).1.core (settle x r rest).2.wait? := by
  obtain ⟨s, _ | w⟩ := r
  · exact goOn_preserves hCarries hr
  · unfold settle
    rw [core_suspend]
    exact hr

end Session

namespace Stage

/-! ## Moves -/

/-- What the operations of a stage wait for. -/
def waits (g : Stage) : List Wait := g.waiting.map Suspended.wait

theorem session_after (waiting : List Suspended) (r : Session × Progress) :
    (after waiting r).session = r.1 := by
  obtain ⟨s, t | r⟩ := r <;> rfl

theorem waits_after (waiting : List Suspended) (r : Session × Progress) :
    (after waiting r).waits = waiting.map Suspended.wait ++ r.2.wait?.toList := by
  obtain ⟨s, t | r⟩ := r
  · exact List.map_append
  · exact (List.append_nil _).symm

/-- An operation that has run up to where it waits or ends leaves a core and perhaps one more wait, of
which everything holds that the handlers left to it preserve. -/
theorem after_settle_carried {x : Surroundings} {J : Core → Option Wait → Prop}
    (waiting : List Suspended) {rest : Rest} (hCarries : Session.Carries x J rest.handlers)
    {r : Session × Option Wait} (hr : J r.1.core r.2) :
    ∃ w : Option Wait, J (after waiting (Session.settle x r rest)).session.core w ∧
      (after waiting (Session.settle x r rest)).waits =
        waiting.map Suspended.wait ++ w.toList := by
  refine ⟨(Session.settle x r rest).2.wait?, ?_, waits_after _ _⟩
  rw [session_after]
  exact Session.settle_preserves hCarries hr

theorem after_settle {x : Surroundings} {J : Core → Option Wait → Prop}
    (hHandles : ∀ k r, J k none → k.Handles r → J r.1 r.2) (waiting : List Suspended) (rest : Rest)
    {r : Session × Option Wait} (hr : J r.1.core r.2) :
    ∃ w : Option Wait, J (after waiting (Session.settle x r rest)).session.core w ∧
      (after waiting (Session.settle x r rest)).waits =
        waiting.map Suspended.wait ++ w.toList :=
  after_settle_carried waiting (Session.carries_of_handles hHandles) hr

theorem play_foreign (x : Surroundings) (g : Stage) {m : Move} (hm : m.isForeign = true) :
    (g.play x m).session.core = g.session.core ∧ (g.play x m).waits = g.waits := by
  cases m with
  | edit editor e replacement => exact ⟨Session.core_edit g.session editor e replacement, rfl⟩
  | openEditor | register | onEditorAdded | onWillSave | changeSettings | changeFiles =>
    exact ⟨rfl, rfl⟩
  | _ => cases hm

theorem play_dispose (x : Surroundings) (g : Stage) (r : Registration) :
    (g.play x (.dispose r)).session.core = g.session.core.drop r ∧
      (g.play x (.dispose r)).waits = g.waits :=
  ⟨Session.core_dispose g.session r, rfl⟩

theorem play_serverStopped (x : Surroundings) (g : Stage) (client : Nat) (reason : Option String) :
    (g.play x (.serverStopped client reason)).session.core =
        (if g.session.alive then
          { g.session.core with
            prompts := g.session.core.prompts ++
              (g.session.core.listeners client).map fun _ => reason }
        else g.session.core) ∧
      (g.play x (.serverStopped client reason)).waits = g.waits :=
  ⟨Session.core_serverStopped g.session client reason, rfl⟩

/-- A move of someone else at most disposes of listeners on clients and tells others that a server
stopped. -/
theorem play_outside (x : Surroundings) (g : Stage) {m : Move} (hm : m.isOutside = true) :
    (∃ (rs : List Registration) (told : List (Option String)), (g.play x m).session.core =
        { g.session.core with
          clients := rs.foldl Core.dropListener g.session.core.clients
          prompts := g.session.core.prompts ++ told }) ∧
      (g.play x m).waits = g.waits := by
  have hForeign : ∀ {m : Move}, m.isForeign = true →
      (∃ (rs : List Registration) (told : List (Option String)), (g.play x m).session.core =
          { g.session.core with
            clients := rs.foldl Core.dropListener g.session.core.clients
            prompts := g.session.core.prompts ++ told }) ∧
        (g.play x m).waits = g.waits := by
    intro m hm
    obtain ⟨hCore, hWaits⟩ := play_foreign x g hm
    refine ⟨⟨[], [], ?_⟩, hWaits⟩
    rw [hCore, List.append_nil]
    rfl
  cases m with
  | dispose r =>
    obtain ⟨hCore, hWaits⟩ := play_dispose x g r
    refine ⟨⟨[r], [], ?_⟩, hWaits⟩
    rw [hCore, List.append_nil]
    rfl
  | serverStopped client reason =>
    obtain ⟨hCore, hWaits⟩ := play_serverStopped x g client reason
    rw [hCore]
    split
    · exact ⟨⟨[], _, rfl⟩, hWaits⟩
    · refine ⟨⟨[], [], ?_⟩, hWaits⟩
      rw [List.append_nil]
      rfl
  | openEditor | edit | register | onEditorAdded | onWillSave | changeSettings | changeFiles =>
    exact hForeign rfl
  | _ => cases hm

theorem play_operation (x : Surroundings) (g : Stage) {m : Move} (hm : m.isOperation = true) :
    ∃ r rest, g.play x m = after g.waiting (Session.settle x r rest) ∧
      g.session.core.Opens (Session.coreOf r) := by
  cases m with
  | activate => exact ⟨_, _, rfl, .activated (Session.activates_beginActivate x g.session)⟩
  | deactivate =>
    exact ⟨_, _, rfl, Session.coreOf_beginDeactivate g.session ▸ .deactivated⟩
  | restart => exact ⟨_, _, rfl, .handled (.restarted (Session.restarts_beginRestart x g.session))⟩
  | invoke hub id editor =>
    unfold play Session.invoke
    dsimp only
    split
    · exact ⟨(g.session, none), .nothing, rfl, .nothing⟩
    · exact ⟨_, _, rfl, .handled (Session.handles_runHandler x g.session _ editor)⟩
  | addEditor hub editor => exact ⟨(g.session, none), _, rfl, .nothing⟩
  | save editor => exact ⟨(g.session, none), _, rfl, .nothing⟩
  | _ => cases hm

theorem play_prompt (x : Surroundings) (g : Stage) :
    g.session.core.prompts = [] ∧ g.play x .prompt = g ∨
      ∃ reason rest, g.session.core.prompts = reason :: rest ∧
        ∃ r, g.play x .prompt = after g.waiting (Session.settle x r .nothing) ∧
          Session.coreOf r = g.session.core.prompted rest := by
  unfold play Session.runPrompt
  dsimp only
  split
  · rename_i h
    exact Or.inl ⟨h, rfl⟩
  · rename_i reason rest h
    exact Or.inr ⟨reason, rest, h, _, rfl, Session.coreOf_beginPrompt g.session rest reason⟩

theorem play_reply (x : Surroundings) (g : Stage) (number : Nat) (answer : (w : Wait) → w.Reply) :
    g.waiting[number]? = none ∧ g.play x (.reply number answer) = g ∨
      ∃ t, g.waiting[number]? = some t ∧
        ∃ r, g.play x (.reply number answer) =
            after (g.waiting.eraseIdx number) (Session.settle x r t.rest) ∧
          g.session.core.Receives t.wait (answer t.wait) (Session.coreOf r) := by
  unfold play
  dsimp only
  split
  · rename_i t h
    refine Or.inr ⟨t, h, _, rfl, ?_⟩
    have hReceives := Session.receives_receive x
      (if t.wait.isOwn then { g.session with inFlight := g.session.inFlight - 1 } else g.session)
      t.wait (answer t.wait)
    have hCore : (if t.wait.isOwn then { g.session with inFlight := g.session.inFlight - 1 }
        else g.session).core = g.session.core := by
      split <;> rfl
    rw [hCore] at hReceives
    exact hReceives
  · rename_i h
    exact Or.inl ⟨h, rfl⟩

/-! ## What a run did -/

/-- What moves give when each is looked at in the stage before it. -/
def collect {α : Type} (x : Surroundings) (look : Stage → Move → Option α) :
    Stage → List Move → List α
  | _, [] => []
  | g, m :: moves => (look g m).toList ++ collect x look (g.play x m) moves

theorem collect_append {α : Type} (x : Surroundings) (look : Stage → Move → Option α) (g : Stage)
    (first second : List Move) :
    collect x look g (first ++ second) =
      collect x look g first ++ collect x look (g.playAll x first) second := by
  induction first generalizing g with
  | nil => rfl
  | cons m first ih =>
    rw [List.cons_append, collect, collect, ih, List.append_assoc, playAll_cons]

theorem collect_concat {α : Type} (x : Surroundings) (look : Stage → Move → Option α) (g : Stage)
    (moves : List Move) (m : Move) :
    collect x look g (moves ++ [m]) =
      collect x look g moves ++ (look (g.playAll x moves) m).toList := by
  rw [collect_append, collect, collect, List.append_nil]

theorem playAll_concat (x : Surroundings) (g : Stage) (moves : List Move) (m : Move) :
    g.playAll x (moves ++ [m]) = (g.playAll x moves).play x m := by
  rw [playAll_append, playAll_cons, playAll_nil]

end Stage

/-! ## A session that can run -/

/-- A host that makes every client it is asked for. -/
def Surroundings.plain : Surroundings where
  extensionPath := ""
  root := none
  dev := false
  cwd := "/"
  factory _ := .done ()

/-- A session with one launch script. -/
def Session.scripted : Session where
  files := [("/elixir-ls", .directory), ("/elixir-ls/language_server.sh", .file [] false)]

theorem Session.fresh_scripted : Session.scripted.Fresh := ⟨rfl, rfl, rfl, rfl, rfl, rfl⟩

/-- The replies with which everything goes well. The user restarts the server. -/
def Wait.goodReply : (w : Wait) → w.Reply
  | .chmod _ => Outcome.done { status := some 0 }
  | .start _ _ | .staleStop _ | .deactivateStop _ | .restartStop _ _ => Outcome.done ()
  | .prompt _ => some (some 0)
  | .formatter _ _ => Outcome.done { status := some 0 }
  | .serverEdits _ | .references => Outcome.done Json.null
  | .other _ _ => ()

/-- The replies with which everything goes wrong: programs fail and clients panic. The user closes the
panel. -/
def Wait.badReply : (w : Wait) → w.Reply
  | .chmod _ | .formatter _ _ => Outcome.done { status := some 1 }
  | .start _ _ | .staleStop _ | .deactivateStop _ | .restartStop _ _ => Outcome.panicked none
  | .prompt _ => some none
  | .serverEdits _ | .references => Outcome.panicked none
  | .other _ _ => ()

end ExtensionHost
