import ExtensionHost.Proofs.Lifecycle.Addresses
import ExtensionHost.Proofs.Lifecycle.Evolution
import ExtensionHost.Proofs.Lifecycle.Startups

/-!
# Startups that fail

A startup fails when there are no launch scripts, when they are not made executable, when no client is
made and when its client does not start. `FailsCleanly` claims that each time it leaves nothing behind, and
that does not hold: when the start of a client panics, the listener on it stays, and the user is asked
about the server of a client that never ran. `failed_startup` says what a startup leaves that began
without a client and has started none: everything is as it was before, apart from the one listener on a
client whose start panicked.
-/

namespace ExtensionHost

/-- The client whose start panics with the reply to a wait. -/
def Wait.panicked? (w : Wait) (reply : w.Reply) : Option Nat :=
  if w.startPanics reply then w.starting? else none

namespace Registry

variable {c : Registry}

/-! ## Registries apart from clients -/

/-- On clients the extension keeps registrations of listeners only. -/
def ListensOnly (c : Registry) : Prop := ∀ r ∈ c.onClients, r.isDidStop = true

/-- The registries without what the extension keeps of its registrations on clients. -/
def offClients (c : Registry) : Registry := { c with onClients := [] }

/-- A registration of a listener on a client has no part in the other registries. -/
theorem drops_of_isDidStop {rs : List Registration} (h : ∀ r ∈ rs, r.isDidStop = true) :
    c.drops rs = c := by
  induction rs with
  | nil => exact drops_nil c
  | cons r rs ih =>
    obtain ⟨hFirst, hRest⟩ := List.forall_mem_cons.mp h
    have hNothing : c.drops [r] = c := by
      cases r with
      | didStop client number => exact drops_nil c
      | _ => cases hFirst
    rw [drops_cons, hNothing, ih hRest]

theorem ListensOnly.offClients_releaseClients (h : c.ListensOnly) :
    c.releaseClients.offClients = c.offClients := by
  have hDrops : { c with onClients := [] }.drops c.onClients.reverse = { c with onClients := [] } :=
    drops_of_isDidStop fun r hr => h r (List.mem_reverse.mp hr)
  rw [releaseClients, hDrops]
  rfl

end Registry

namespace Session

variable {x : Surroundings} {s s' s'' : Session}

/-- Nothing has changed in registries apart from the listeners on clients. -/
structure Relistens (s s' : Session) : Prop where
  handlers : s'.registry.offClients = s.registry.offClients
  listens : s'.registry.ListensOnly

theorem Relistens.trans (h : s.Relistens s') (h' : s'.Relistens s'') : s.Relistens s'' :=
  ⟨h'.handlers.trans h.handlers, h'.listens⟩

theorem Relistens.congr (h : s'.Relistens s'') (hSame : s'.registry = s.registry) :
    s.Relistens s'' :=
  ⟨h.handlers.trans (congrArg Registry.offClients hSame), h.listens⟩

theorem relistens_of_eq (h : s.registry.ListensOnly) (hSame : s'.registry = s.registry) :
    s.Relistens s' :=
  ⟨congrArg Registry.offClients hSame, hSame ▸ h⟩

theorem relistens_of_releaseClients (h : s.registry.ListensOnly)
    (hReleased : s'.registry = s.registry.releaseClients) : s.Relistens s' where
  handlers := hReleased ▸ h.offClients_releaseClients
  listens := by
    rw [hReleased]
    exact nofun

/-! ## Startups and registries -/

theorem relistens_endStartup (h : s.registry.ListensOnly) (epoch : Nat)
    (outcome : Except ExtensionError Unit) : s.Relistens (s.endStartup epoch outcome).1 := by
  have hStopped := registry_beginShutdown s
  unfold endStartup
  split
  · split
    · exact relistens_of_eq h rfl
    · exact relistens_of_eq h rfl
  · rcases hTaken : s.beginShutdown with ⟨s', _ | client⟩
    · rw [hTaken] at hStopped
      exact relistens_of_releaseClients h hStopped
    · rw [hTaken] at hStopped
      exact relistens_of_releaseClients h hStopped

theorem relistens_disposeClientRegistrations (h : s.registry.ListensOnly) :
    s.Relistens s.disposeClientRegistrations :=
  relistens_of_releaseClients h (registry_disposeClientRegistrations s)

theorem relistens_startClient (x : Surroundings) (h : s.registry.ListensOnly) (epoch : Nat) :
    s.Relistens (s.startClient x epoch).1 := by
  unfold startClient
  dsimp only
  split
  · refine (relistens_endStartup ?_ epoch _).congr rfl
    exact h
  · generalize hMade : Session.disposeClientRegistrations _ = cleared
    have hCleared : s.Relistens cleared := by
      rw [← hMade]
      refine (relistens_disposeClientRegistrations ?_).congr rfl
      exact h
    refine hCleared.trans ⟨rfl, ?_⟩
    intro r hr
    rcases List.mem_append.mp hr with hOld | hNew
    · exact hCleared.listens r hOld
    · obtain rfl := List.mem_singleton.mp hNew
      rfl

theorem relistens_scriptsExecutable (x : Surroundings) (h : s.registry.ListensOnly) (epoch : Nat)
    (outcome : Outcome ProcessOutput) : s.Relistens (s.scriptsExecutable x epoch outcome).1 := by
  unfold scriptsExecutable
  split
  · exact relistens_endStartup h epoch _
  · split
    · exact relistens_startClient x h epoch
    · exact relistens_endStartup h epoch _

theorem relistens_clientStarted (h : s.registry.ListensOnly) (epoch client : Nat)
    (outcome : Outcome Unit) : s.Relistens (s.clientStarted epoch client outcome).1 := by
  cases outcome with
  | done =>
    refine (relistens_endStartup ?_ epoch _).congr rfl
    exact h
  | failed cause =>
    have hDisposed := relistens_disposeClientRegistrations h
    exact hDisposed.trans (relistens_endStartup hDisposed.listens epoch _)
  | panicked message => exact relistens_endStartup h epoch _

theorem relistens_beginStartup (x : Surroundings) (h : s.registry.ListensOnly) :
    s.Relistens (s.beginStartup x).1 := by
  unfold beginStartup
  dsimp only
  split
  · refine (relistens_endStartup ?_ _ _).congr rfl
    exact h
  · exact relistens_of_eq h rfl

theorem relistens_receive (x : Surroundings) (h : s.registry.ListensOnly) {w : Wait}
    (hContinues : w.continues = true) (reply : w.Reply) : s.Relistens (s.receive x w reply).1 := by
  cases w with
  | chmod epoch => exact relistens_scriptsExecutable x h epoch reply
  | start epoch client => exact relistens_clientStarted h epoch client reply
  | _ => cases hContinues

/-! ## Where startups begin -/

theorem onClients_registerAll (s : Session) :
    s.registerAll.registry.onClients = s.registry.onClients := by
  obtain ⟨rs, hCore⟩ := adds_registerAll s
  exact congrArg (·.extension.clientRegistrations.items) hCore

theorem listensOnly_equipped (x : Surroundings) (h : s.registry.ListensOnly) :
    (s.equipped x).registry.ListensOnly := by
  have hSame : (s.equipped x).registry.onClients = s.registry.onClients := by
    unfold equipped
    dsimp only
    rw [onClients_registerAll]
    split <;> rfl
  unfold Registry.ListensOnly
  rw [hSame]
  exact h

theorem listensOnly_cleared (s : Session) : s.cleared.registry.ListensOnly := by
  unfold cleared
  rw [registry_beginShutdown]
  exact nofun

theorem listensOnly_startup? {w : Wait} {reply : w.Reply} (h : s.registry.ListensOnly)
    (hBegins : s.startup? w reply = some s') : s'.registry.ListensOnly := by
  cases w with
  | restartStop epoch client =>
    obtain ⟨-, hSame⟩ := Option.ite_none_right_eq_some.mp hBegins
    cases hSame
    exact (registry_reportStop s reply).symm ▸ h
  | prompt epoch =>
    change Option (Option Nat) at reply
    match reply, hBegins with
    | some (some 0), hBegins =>
      obtain ⟨-, hSame⟩ := Option.ite_none_right_eq_some.mp hBegins
      cases hSame
      exact h
  | _ => cases hBegins

end Session

namespace Core

variable {k k' : Core} {r : Core × Option Wait} {steps : Nat} {started panicked : List Nat}
  {w : Wait}

/-! ## What is left of a startup -/

/-- A startup has failed that began in a core: the slot is as it was, the extension is inactive, clients
that were made before have no new listeners, and of the others those have one whose start panicked. -/
structure FailedFrom (k : Core) (panicked : List Nat) (k' : Core) : Prop where
  slot : k'.extension.slot = k.extension.slot
  phase : k'.extension.phase = .inactive
  forgets : k.Forgets k'
  listeners : ∀ client, k.clients.length ≤ client →
    (k'.listeners client).length = panicked.count client

/-- How far a startup got that began in a core: the replies that it still needs, the clients that have
started, and those whose start panicked. -/
inductive Tries (k : Core) : Nat → List Nat → List Nat → Core → Option Wait → Prop where
  | scripts : Tries k 2 [] [] (k.inPhase .starting) (some (.chmod k.extension.epoch))
  | client (hHeard : (k.inPhase .starting).enroll.HeardFrom k.clients.length) :
      Tries k 1 [] [] (k.inPhase .starting).enroll (some (.start k.extension.epoch k.clients.length))
  | failed {panicked : List Nat} {k' : Core} (hFailed : k.FailedFrom panicked k') :
      Tries k 0 [] panicked k' none
  | started (client : Nat) (k' : Core) : Tries k 0 [client] [] k' none

theorem listeners_unmade (k : Core) {client : Nat} (hClient : k.clients.length ≤ client) :
    k.listeners client = [] := by
  unfold listeners entriesAt
  rw [List.getElem?_eq_none hClient]
  rfl

theorem failedFrom_inPhase (k : Core) : k.FailedFrom [] (k.inPhase .inactive) where
  slot := rfl
  phase := rfl
  forgets := forgets_of_eq rfl
  listeners _ hClient := congrArg List.length (k.listeners_unmade hClient)

theorem tries_begins (hBegins : k.Begins r) : ∃ steps ≤ 2, k.Tries steps [] [] r.1 r.2 := by
  rcases hBegins with rfl | rfl
  · exact ⟨0, Nat.zero_le 2, .failed (failedFrom_inPhase k)⟩
  · exact ⟨2, Nat.le_refl 2, .scripts⟩

/-- The client of a startup does not start, and all listeners are taken away. -/
theorem failedFrom_clear (hTracked : (k.inPhase .starting).enroll.Tracked) :
    k.FailedFrom [] ((k.inPhase .starting).enroll.clear.inPhase .inactive) where
  slot := rfl
  phase := rfl
  forgets := by
    have hCleared : k.Evolves false (k.inPhase .starting).enroll.clear :=
      .trans (.inPhase k _) (.trans (.enroll _) (.clear _))
    exact forgets_evolves (hCleared.trans (.inPhase _ _))
  listeners client _ := congrArg List.length (hTracked.unheard_clear client)

/-- The client of a startup panics, and its listener stays. -/
theorem failedFrom_enroll (hHeard : (k.inPhase .starting).enroll.HeardFrom k.clients.length) :
    k.FailedFrom [k.clients.length] ((k.inPhase .starting).enroll.inPhase .inactive) where
  slot := rfl
  phase := rfl
  forgets := by
    have hEnrolled : k.Evolves false (k.inPhase .starting).enroll := .trans (.inPhase k _) (.enroll _)
    exact forgets_evolves (hEnrolled.trans (.inPhase _ _))
  listeners client _ := by
    by_cases hClient : client = k.clients.length
    · subst hClient
      rw [List.count_singleton_self]
      exact hHeard.1
    · rw [List.count_singleton, if_neg (by simpa using Ne.symm hClient)]
      exact congrArg List.length (hHeard.2 client hClient)

theorem Tries.ended (h : k.Tries steps started panicked k' none) : steps = 0 := by
  cases h <;> rfl

theorem Tries.continues (h : k.Tries steps started panicked k' (some w)) : w.continues = true := by
  cases h <;> rfl

/-- A startup that waits goes on with a reply: it needs fewer replies then. -/
theorem Tries.receives {reply : w.Reply} (h : k.Tries steps started panicked k' (some w))
    (hTracked : k'.Tracked) (hReceives : k'.Receives w reply r) :
    ∃ left < steps, k.Tries left (started ++ (w.started? reply).toList)
      (panicked ++ (w.panicked? reply).toList) r.1 r.2 := by
  -- Nothing else is done meanwhile, so the startup ends in the epoch in which it began.
  have hBegun : (k.inPhase .starting).extension.epoch = k.extension.epoch := rfl
  have hEnrolled : (k.inPhase .starting).enroll.extension.epoch = k.extension.epoch := rfl
  have hCleared : (k.inPhase .starting).enroll.clear.extension.epoch = k.extension.epoch := rfl
  cases h with
  | scripts =>
    cases hReceives with
    | scriptsRefused epoch reply =>
      refine ⟨0, Nat.zero_lt_two, ?_⟩
      rw [endStartup_current hBegun]
      exact .failed (failedFrom_inPhase k)
    | scriptsExecutable epoch reply =>
      exact ⟨1, Nat.one_lt_two, .client hTracked.heardFrom_enroll.1⟩
    | quiet _ _ hQuiet => cases hQuiet
  | client hHeard =>
    refine ⟨0, Nat.one_pos, ?_⟩
    cases hReceives with
    | started epoch client =>
      rw [endStartup_current (k := (k.inPhase .starting).enroll.store k.clients.length) hEnrolled]
      exact .started _ _
    | startFailed epoch client cause =>
      rw [endStartup_current hCleared]
      exact .failed (failedFrom_clear hTracked)
    | startPanicked epoch client message =>
      rw [endStartup_current hEnrolled]
      exact .failed (failedFrom_enroll hHeard)
    | quiet _ _ hQuiet => cases hQuiet

end Core

namespace Stage

variable {x : Surroundings} {g : Stage} {s : Session} {m : Move} {base : List Suspended}
  {steps : Nat} {started panicked : List Nat} {moves : List Move}

/-- The client whose start panics with a move. -/
def panickedBy (g : Stage) : Move → Option Nat
  | .reply number answer => (g.waiting[number]?).bind fun t => t.wait.panicked? (answer t.wait)
  | _ => none

theorem panickedBy_reply_none {number : Nat} (hNumber : g.waiting[number]? = none)
    (answer : (w : Wait) → w.Reply) : g.panickedBy (.reply number answer) = none := by
  simp [panickedBy, hNumber]

theorem panickedBy_reply_some {number : Nat} {t : Suspended} (ht : g.waiting[number]? = some t)
    (answer : (w : Wait) → w.Reply) :
    g.panickedBy (.reply number answer) = t.wait.panicked? (answer t.wait) := by
  simp [panickedBy, ht]

/-! ## A startup on its own -/

/-- With the move that begins a startup no client has started yet. -/
theorem history_of_startup? (hBegins : g.startup? x m = some s) :
    g.startedBy m = none ∧ g.panickedBy m = none := by
  cases m with
  | reply number answer =>
    obtain ⟨⟨w, rest⟩, ht, hBegins⟩ := Option.bind_eq_some_iff.mp hBegins
    rw [startedBy, panickedBy, ht]
    cases w <;> first | exact ⟨rfl, rfl⟩ | cases hBegins
  | _ => exact ⟨rfl, rfl⟩

theorem registry_resumed (s : Session) (w : Wait) : (s.resumed w).registry = s.registry := by
  unfold Session.resumed
  split <;> rfl

theorem listensOnly_startup? (h : g.session.registry.ListensOnly) (hBegins : g.startup? x m = some s) :
    s.registry.ListensOnly := by
  cases m with
  | activate =>
    obtain ⟨-, hSame⟩ := Option.ite_none_right_eq_some.mp hBegins
    cases hSame
    exact Session.listensOnly_equipped x h
  | restart | invoke =>
    obtain ⟨-, hSame⟩ := Option.ite_none_right_eq_some.mp hBegins
    cases hSame
    exact Session.listensOnly_cleared g.session
  | reply number answer =>
    obtain ⟨t, -, hBegins⟩ := Option.bind_eq_some_iff.mp hBegins
    refine Session.listensOnly_startup? ?_ hBegins
    rw [registry_resumed]
    exact h
  | _ => cases hBegins

/-- A startup that began in a session has come so far, while other operations wait. -/
structure Trying (x : Surroundings) (s : Session) (base : List Suspended) (steps : Nat)
    (started panicked : List Nat) (g : Stage) : Prop where
  arises : g.Arises x
  handlers : g.session.registry.offClients = s.registry.offClients
  tries : ∃ w, g.waiting = base ++ alone w ∧ s.core.Tries steps started panicked g.session.core w

theorem trying_startup (hArises : g.Arises x) (hBegins : g.startup? x m = some s) :
    ∃ steps ≤ 2, Trying x s (g.others m) steps [] [] (g.play x m) := by
  obtain ⟨hPlay, -⟩ := play_startup hArises.orderly hBegins
  obtain ⟨hCore, hWaiting⟩ := after_settle_nothing x (g.others m) (s.beginStartup x)
  have hRegistry := registry_settle_nothing x (g.others m) (s.beginStartup x)
  rw [← hPlay] at hCore hWaiting hRegistry
  have hListens := listensOnly_startup? hArises.reached.inPlace.clients hBegins
  obtain ⟨steps, hSteps, hTries⟩ := Core.tries_begins (Session.begins_beginStartup x s)
  refine ⟨steps, hSteps, hArises.play m, ?_, _, hWaiting, ?_⟩
  · rw [hRegistry]
    exact (Session.relistens_beginStartup x hListens).handlers
  · rw [hCore]
    exact hTries

/-- With a reply a startup changes registries by listeners on clients only. -/
theorem offClients_play (hArises : g.Arises x) {number : Nat} {w : Wait}
    (ht : g.waiting[number]? = some ⟨w, .nothing⟩) (hContinues : w.continues = true)
    (answer : (w : Wait) → w.Reply) :
    (g.play x (.reply number answer)).session.registry.offClients =
      g.session.registry.offClients := by
  have hResumed := registry_resumed g.session w
  have hListens : (g.session.resumed w).registry.ListensOnly := by
    rw [hResumed]
    exact hArises.reached.inPlace.clients
  have hRelistens := Session.relistens_receive x hListens hContinues (answer w)
  rw [play_loud hArises.orderly ht (Wait.isQuiet_of_continues hContinues) answer,
    registry_settle_nothing, hRelistens.handlers, hResumed]

/-- The startup gets a reply, or it has ended and the reply reaches nobody. -/
theorem Trying.play (h : Trying x s base steps started panicked g) (answer : (w : Wait) → w.Reply) :
    ∃ left, (left < steps ∨ left = 0) ∧
      Trying x s base left (started ++ (g.startedBy (.reply base.length answer)).toList)
        (panicked ++ (g.panickedBy (.reply base.length answer)).toList)
        (g.play x (.reply base.length answer)) := by
  obtain ⟨w, hWaiting, hTries⟩ := h.tries
  rcases play_alone (x := x) hWaiting answer with
    ⟨rfl, hPlay, hStarted⟩ | ⟨w, r, rfl, hReceives, hCore, hNext, hStarted⟩
  · have hNobody : g.waiting[base.length]? = none := by
      rw [hWaiting]
      simp [alone]
    rw [hPlay, hStarted, panickedBy_reply_none hNobody, Option.toList_none, List.append_nil,
      List.append_nil]
    exact ⟨steps, Or.inr hTries.ended, h⟩
  · have ht : g.waiting[base.length]? = some ⟨w, .nothing⟩ := by
      rw [hWaiting]
      simp [alone]
    have hHandlers := offClients_play h.arises ht hTries.continues answer
    obtain ⟨left, hLeft, hLater⟩ := hTries.receives h.arises.reached.tracked hReceives
    rw [← hCore, ← hStarted, ← panickedBy_reply_some ht answer] at hLater
    exact ⟨left, Or.inl hLeft, h.arises.play _, hHandlers.trans h.handlers, r.2, hNext, hLater⟩

/-- With enough replies a startup ends. -/
theorem Trying.playAll (h : Trying x s base steps started panicked g)
    (hReplies : Replies base.length moves) (hEnough : steps ≤ moves.length) :
    Trying x s base 0 (started ++ collect x startedBy g moves)
      (panicked ++ collect x panickedBy g moves) (g.playAll x moves) := by
  induction moves generalizing g steps started panicked with
  | nil =>
    obtain rfl := Nat.le_zero.mp hEnough
    rw [collect, collect, List.append_nil, List.append_nil]
    exact h
  | cons m moves ih =>
    obtain ⟨⟨answer, rfl⟩, hRest⟩ := replies_cons hReplies
    obtain ⟨left, hLeft, hNext⟩ := h.play answer
    have hFew : left ≤ moves.length := by
      rw [List.length_cons] at hEnough
      omega
    rw [collect, collect, ← List.append_assoc, ← List.append_assoc, playAll_cons]
    exact ih hNext hRest hFew

/-! ## What a failed startup leaves -/

/-- A startup that began in a session, when no client was held, has failed. No client is held, the
extension is inactive, and all registries are as they were, apart from listeners on clients. Clients that
were made before have no new listener. Of the clients that the startup made, those have one listener whose
start panicked, and the user is asked when the server of one of them stops. The others have none, and
however the run goes on, the user is never asked about them. -/
structure Failed (x : Surroundings) (s : Session) (panicked : List Nat) (f : Stage) : Prop where
  slot : f.session.extension.slot = none
  phase : f.session.extension.phase = .inactive
  handlers : f.session.registry.offClients = s.registry.offClients
  older : ∀ client < s.clients.length,
    f.session.core.listeners client ⊆ s.core.listeners client
  listeners : ∀ client, s.clients.length ≤ client →
    (f.session.core.listeners client).length = panicked.count client
  asked : ∀ client, s.clients.length ≤ client → ∀ reason,
    (f.play x (.serverStopped client reason)).session.prompts =
      f.session.prompts ++ List.replicate (panicked.count client) reason
  silent : ∀ client, s.clients.length ≤ client → client < f.session.clients.length →
    client ∉ panicked → ∀ later reason,
      ((f.playAll x later).play x (.serverStopped client reason)).session.prompts =
        (f.playAll x later).session.prompts

/-- When a server stops, each listener on its client spawns a task. -/
theorem prompts_serverStopped (hReached : g.Reached x) (client : Nat) (reason : Option String) :
    (g.play x (.serverStopped client reason)).session.prompts = g.session.prompts ++
      List.replicate (g.session.core.listeners client).length reason := by
  have hCore := (play_serverStopped x g client reason).1
  rw [if_pos hReached.alive, List.map_const'] at hCore
  exact congrArg Core.prompts hCore

theorem Trying.failed (h : Trying x s base 0 [] panicked g) (hAbsent : s.extension.slot = none) :
    g.waiting = base ∧ Failed x s panicked g := by
  obtain ⟨w, hWaiting, hTries⟩ := h.tries
  generalize hCore : g.session.core = k at hTries
  cases hTries with
  | failed hFailed =>
    rw [← hCore] at hFailed
    refine ⟨hWaiting.trans (List.append_nil _), ?_⟩
    refine ⟨hFailed.slot.trans hAbsent, hFailed.phase, h.handlers, hFailed.forgets.listeners,
      hFailed.listeners, ?_, ?_⟩
    · intro client hMade reason
      rw [prompts_serverStopped h.arises.reached, hFailed.listeners client hMade]
    · intro client hMade hClient hOther later reason
      have hNone : g.session.core.listeners client = [] := by
        rw [← List.length_eq_zero_iff, hFailed.listeners client hMade]
        exact List.count_eq_zero.mpr hOther
      -- The client was made before the later moves, and they add no listeners on it.
      have hLater := (forgets_playAll x g later).listeners client hClient
      rw [hNone, List.subset_nil] at hLater
      rw [prompts_serverStopped (h.arises.playAll later).reached, hLater]
      exact List.append_nil _

/-- **What a failed startup leaves.** In a stage that arises a move begins a startup when no client is
held, and the replies that it waits for follow. Then it has ended. If no client has started, it has failed,
and nothing is left of it but the listener on a client whose start panicked. -/
theorem failed_startup (hArises : g.Arises x) (hBegins : g.startup? x m = some s)
    (hAbsent : s.extension.slot = none) {replies : List Move}
    (hReplies : Replies (g.others m).length replies) (hEnough : 2 ≤ replies.length)
    (hNone : collect x startedBy g (m :: replies) = []) :
    (g.playAll x (m :: replies)).waiting = g.others m ∧
      Failed x s (collect x panickedBy g (m :: replies)) (g.playAll x (m :: replies)) := by
  obtain ⟨hStarted, hPanicked⟩ := history_of_startup? hBegins
  obtain ⟨steps, hSteps, hTrying⟩ := trying_startup hArises hBegins
  have hEnded := hTrying.playAll hReplies (hSteps.trans hEnough)
  rw [collect, hStarted] at hNone
  rw [collect, hPanicked]
  rw [show collect x startedBy (g.play x m) replies = [] from hNone] at hEnded
  exact hEnded.failed hAbsent

/-- The scripts are made executable, and the start of the client panics. -/
def panickedStart : List Move := [.reply 0 Wait.goodReply, .reply 0 Wait.badReply]

theorem arises_pristine : Arises .plain ⟨.scripted, []⟩ :=
  ⟨.scripted, [], Session.pristine_scripted, rfl⟩

theorem replies_panickedStart : Replies 0 panickedStart := by
  rintro m hm
  fin_cases hm <;> exact ⟨_, rfl⟩

/-- Of an activation whose client panics, the listener on client 0 is left. -/
theorem failed_startup_panicked :
    collect .plain panickedBy ⟨.scripted, []⟩ (.activate :: panickedStart) = [0] ∧
      Failed .plain (Session.scripted.equipped .plain)
        (collect .plain panickedBy ⟨.scripted, []⟩ (.activate :: panickedStart))
        (playAll .plain ⟨.scripted, []⟩ (.activate :: panickedStart)) := by
  refine ⟨by decide +kernel, (failed_startup arises_pristine (m := .activate) rfl rfl
    replies_panickedStart (Nat.le_refl 2) ?_).2⟩
  decide +kernel

/-- A startup that began when no client was held and has failed leaves nothing behind, whichever way it
has failed. -/
def FailsCleanly : Prop :=
  ∀ (x : Surroundings) (g : Stage), g.Arises x →
    ∀ (m : Move) (s : Session), g.startup? x m = some s → s.extension.slot = none →
      ∀ replies : List Move, Replies (g.others m).length replies → 2 ≤ replies.length →
        collect x startedBy g (m :: replies) = [] → Failed x s [] (g.playAll x (m :: replies))

/-- The listener stays on a client whose start panicked. -/
theorem not_failsCleanly : ¬ FailsCleanly := by
  intro h
  have hFailed := h .plain ⟨.scripted, []⟩ arises_pristine .activate _ rfl rfl panickedStart
    replies_panickedStart (Nat.le_refl 2) (by decide +kernel)
  have hListeners := hFailed.listeners 0 (by decide +kernel)
  revert hListeners
  decide +kernel

end Stage

end ExtensionHost
