import ExtensionHost.Proofs.Lifecycle.Custody

/-!
# Deactivations that overtake a startup

An activation or a restart waits, and the extension is deactivated meanwhile. The deactivation takes the
client that is held, if there is one, and ends the epoch. The startup that it overtook notices the other
epoch whatever reply it gets, stops a client that has started after all, and takes its listener away.
`Core.Pending` is what such an operation is before the deactivation, `Core.Retired` what holds while the
deactivation runs, `Core.Overtaken` what holds afterwards.
-/

namespace ExtensionHost

/-- An operation that starts the server, begun in an epoch, waits. -/
def Wait.startsIn (epoch : Nat) : Wait → Prop
  | .chmod e => e = epoch
  | .start e _ => e = epoch
  | .restartStop e _ => e = epoch
  | _ => False

namespace Core

/-! ## Before the deactivation -/

/-- A client that has to be asked to stop is held or was asked already. -/
def Owes (k : Core) (owed : List Nat) : Prop :=
  ∀ client ∈ owed, k.extension.slot = some client ∨ client ∈ k.stopped

/-- An operation that starts the server waits in the current epoch, and clients have to be asked to
stop. -/
structure Pending (owed : List Nat) (k : Core) (w : Wait) : Prop where
  wait : w.startsIn k.extension.epoch
  owed : k.Owes owed

variable {owed : List Nat} {k : Core} {r : Core × Option Wait} {w : Wait} {activations : Nat}

theorem pending_of_begins (hOwed : k.Owes owed) (hBegins : k.Begins r) :
    ∀ w ∈ r.2, r.1.Pending owed w := by
  rcases hBegins with rfl | rfl
  · intro w hw
    cases hw
  · intro w hw
    cases hw
    exact ⟨rfl, hOwed⟩

theorem Owes.stopped_shutdown (hOwed : k.Owes owed) :
    ∀ client ∈ owed, client ∈ k.shutdown.stopped := by
  intro client hClient
  rcases hOwed client hClient with hSlot | hStopped
  · refine List.mem_append_right _ ?_
    rw [hSlot]
    exact List.mem_singleton_self _
  · exact List.mem_append_left _ hStopped

theorem Owes.shutdown (hOwed : k.Owes owed) : k.shutdown.Owes owed :=
  fun client hClient => Or.inr (hOwed.stopped_shutdown client hClient)

theorem pending_of_restarts (hOwed : k.Owes owed) (hRestarts : k.Restarts r) :
    ∀ w ∈ r.2, r.1.Pending owed w := by
  rcases hRestarts with ⟨-, hBegins⟩ | ⟨client, -, rfl⟩
  · exact pending_of_begins hOwed.shutdown hBegins
  · intro w hw
    cases hw
    exact ⟨rfl, hOwed.shutdown⟩

theorem pending_of_activates (hOwed : k.Owes owed) (hActivates : k.Activates r) :
    ∀ w ∈ r.2, r.1.Pending owed w := by
  rcases hActivates with rfl | ⟨-, preferences, rs, hBegins⟩
  · intro w hw
    cases hw
  · exact pending_of_begins (k := k.equip preferences rs) hOwed hBegins

theorem endStartup_ends {epoch : Nat} (hEpoch : epoch = k.extension.epoch) (well : Bool) :
    (k.endStartup epoch well).2 = none := by
  rw [endStartup_current hEpoch.symm]

/-- A reply to an operation that starts the server in the current epoch ends it, or leads to another wait
of that operation before a client has started. -/
theorem Pending.receives (h : k.Pending owed w) {reply : w.Reply}
    (hReceives : k.Receives w reply r) :
    r.2 = none ∨ w.started? reply = none ∧ ∀ w' ∈ r.2, r.1.Pending owed w' := by
  obtain ⟨hWait, hOwed⟩ := h
  cases hReceives with
  | scriptsRefused => exact Or.inl (endStartup_ends hWait false)
  | scriptsExecutable =>
    refine Or.inr ⟨rfl, ?_⟩
    intro w' hw'
    cases hw'
    exact ⟨hWait, hOwed⟩
  | started epoch client => exact Or.inl (endStartup_ends (k := k.store client) hWait true)
  | startFailed => exact Or.inl (endStartup_ends (k := k.clear) hWait false)
  | startPanicked => exact Or.inl (endStartup_ends hWait false)
  | restartOvertaken => exact Or.inl rfl
  | restartStopped _ _ _ _ hBegins => exact Or.inr ⟨rfl, pending_of_begins hOwed hBegins⟩
  | staleStopped | deactivateStopped | promptLeft | quiet => exact Or.inl rfl
  | promptChosen => exact hWait.elim

/-! ## The deactivation -/

/-- A core whose extension a deactivation takes down: no client is held, none is heard, and those that
had to be asked to stop were. -/
structure Retired (owed : List Nat) (epoch activations : Nat) (k : Core) : Prop where
  epoch : k.extension.epoch = epoch
  slot : k.extension.slot = none
  notRunning : k.extension.phase ≠ .running
  activations : k.activations = activations
  unheard : k.Unheard
  owed : ∀ client ∈ owed, client ∈ k.stopped

theorem Pending.deactivated (h : k.Pending owed w) (hTracked : k.Tracked) :
    k.deactivated.1.Retired owed (k.extension.epoch + 1) k.activations ∧
      (k.deactivated.2 = none ∧ k.deactivated.1.extension.phase = .inactive ∨
        ∃ client, k.deactivated.2 = some (.deactivateStop client)) := by
  have hOwed : ∀ client ∈ owed, client ∈ k.retire.shutdown.stopped :=
    Owes.stopped_shutdown (k := k.retire) h.owed
  have hUnheard : k.retire.shutdown.Unheard := hTracked.retire.unheard_clear
  unfold Core.deactivated
  split
  · exact ⟨⟨rfl, rfl, nofun, rfl, hUnheard, hOwed⟩, Or.inl ⟨rfl, rfl⟩⟩
  · rename_i client _
    exact ⟨⟨rfl, rfl, nofun, rfl, hUnheard, hOwed⟩, Or.inr ⟨client, rfl⟩⟩

/-! ## The operation that was overtaken -/

/-- What an operation that was overtaken waits for: a step of a startup begun in another epoch, or the
stop of the client that it started. A listener is on a client only while a client starts. -/
def Lags (k : Core) : Option Wait → Prop
  | none => k.Unheard
  | some (.chmod epoch) => k.extension.epoch ≠ epoch ∧ k.Unheard
  | some (.start epoch _) => k.extension.epoch ≠ epoch
  | some (.restartStop epoch _) => k.extension.epoch ≠ epoch ∧ k.Unheard
  | some (.staleStop _) => k.Unheard
  | _ => False

/-- An operation that starts the server was overtaken and waits for something or has ended. The clients
that had to be asked to stop were. -/
structure Overtaken (owed : List Nat) (activations : Nat) (k : Core) (w : Option Wait) : Prop where
  slot : k.extension.slot = none
  phase : k.extension.phase = .inactive
  activations : k.activations = activations
  owed : ∀ client ∈ owed, client ∈ k.stopped
  wait : k.Lags w

/-- A startup that was overtaken ends when nothing is left to be stopped. -/
theorem overtaken_endStartup_none {epoch : Nat} (hTracked : k.Tracked)
    (hEpoch : k.extension.epoch ≠ epoch) (hSlot : k.extension.slot = none)
    (hActivations : k.activations = activations) (hOwed : ∀ client ∈ owed, client ∈ k.stopped)
    (well : Bool) :
    (k.endStartup epoch well).1.Overtaken (owed ++ []) activations
      (k.endStartup epoch well).2 := by
  rw [endStartup_overtaken hEpoch, hSlot, List.append_nil]
  refine ⟨rfl, rfl, hActivations, ?_, hTracked.unheard_clear⟩
  intro client hClient
  exact List.mem_append_left _ (hOwed client hClient)

/-- A startup that was overtaken asks the client that has started to stop. -/
theorem overtaken_endStartup_store {epoch client : Nat} (hTracked : k.Tracked)
    (hEpoch : k.extension.epoch ≠ epoch) (hPhase : k.extension.phase = .inactive)
    (hActivations : k.activations = activations) (hOwed : ∀ client ∈ owed, client ∈ k.stopped)
    (well : Bool) :
    ((k.store client).endStartup epoch well).1.Overtaken (owed ++ [client]) activations
      ((k.store client).endStartup epoch well).2 := by
  have hStored : (k.store client).Tracked := hTracked
  have hEpoch' : (k.store client).extension.epoch ≠ epoch := hEpoch
  rw [endStartup_overtaken hEpoch']
  refine ⟨rfl, hPhase, hActivations, ?_, hStored.unheard_clear⟩
  intro other hOther
  exact (List.mem_append.mp hOther).elim
    (fun h => List.mem_append_left _ (hOwed other h)) (List.mem_append_right _)

theorem Overtaken.receives (h : k.Overtaken owed activations (some w)) (hTracked : k.Tracked)
    {reply : w.Reply} (hReceives : k.Receives w reply r) :
    r.1.Overtaken (owed ++ (w.started? reply).toList) activations r.2 := by
  obtain ⟨hSlot, hPhase, hActivations, hOwed, hLags⟩ := h
  have hSame : ∀ client ∈ owed ++ [], client ∈ k.stopped := by
    rw [List.append_nil]
    exact hOwed
  cases hReceives with
  | scriptsRefused =>
    exact overtaken_endStartup_none hTracked hLags.1 hSlot hActivations hOwed false
  | scriptsExecutable => exact ⟨hSlot, hPhase, hActivations, hSame, hLags.1⟩
  | started => exact overtaken_endStartup_store hTracked hLags hPhase hActivations hOwed true
  | startFailed =>
    exact overtaken_endStartup_none hTracked.unheard_clear.tracked hLags hSlot hActivations hOwed
      false
  | startPanicked =>
    exact overtaken_endStartup_none hTracked hLags hSlot hActivations hOwed false
  | staleStopped => exact ⟨hSlot, rfl, hActivations, hSame, hLags⟩
  | restartOvertaken => exact ⟨hSlot, hPhase, hActivations, hSame, hLags.2⟩
  | restartStopped _ _ _ hEpoch => exact absurd hEpoch hLags.1
  | deactivateStopped | promptLeft | promptChosen => exact hLags.elim
  | quiet w _ hQuiet => cases w <;> first | exact hLags.elim | cases hQuiet

theorem Retired.overtaken {epoch : Nat} (h : k.Retired owed (epoch + 1) activations)
    (hPhase : k.extension.phase = .inactive) (hWait : w.startsIn epoch) :
    k.Overtaken owed activations (some w) := by
  have hEpoch : k.extension.epoch ≠ epoch := by
    rw [h.epoch]
    exact Nat.succ_ne_self epoch
  refine ⟨h.slot, hPhase, h.activations, h.owed, ?_⟩
  cases w with
  | chmod e =>
    cases hWait
    exact ⟨hEpoch, h.unheard⟩
  | start e client =>
    cases hWait
    exact hEpoch
  | restartStop e client =>
    cases hWait
    exact ⟨hEpoch, h.unheard⟩
  | _ => exact hWait.elim

end Core

namespace Stage

/-- Nothing of the extension is left: no client is held, the extension is inactive, each of some clients
was asked to stop exactly once, and no listener is on any client. -/
structure TakenDown (clients : List Nat) (g : Stage) : Prop where
  slot : g.session.extension.slot = none
  phase : g.session.extension.phase = .inactive
  stopped : ∀ client ∈ clients, g.session.core.stopped.count client = 1
  unheard : g.session.core.Unheard

/-! ## An operation and the replies to it -/

/-- The operation that waits for something and has nothing to do afterwards, if there is one. -/
def alone (w : Option Wait) : List Suspended := (w.map fun w => ⟨w, .nothing⟩).toList

/-- Moves that are all replies to the operation with a number. -/
def Replies (number : Nat) (moves : List Move) : Prop :=
  ∀ m ∈ moves, ∃ answer, m = .reply number answer

/-- A stage that some run reaches. -/
def Reached (x : Surroundings) (g : Stage) : Prop :=
  ∃ s moves, s.Fresh ∧ g = playAll x ⟨s, []⟩ moves

section

variable {x : Surroundings} {g : Stage} {base : List Suspended} {w : Option Wait}
  {owed : List Nat} {moves : List Move}

theorem eq_none_of_ended (hWaiting : base ++ alone w = base) : w = none := by
  cases w with
  | none => rfl
  | some w =>
    have hLength := congrArg List.length hWaiting
    simp [alone] at hLength

theorem Reached.playAll (h : g.Reached x) (moves : List Move) : (g.playAll x moves).Reached x := by
  obtain ⟨s, first, hFresh, rfl⟩ := h
  exact ⟨s, first ++ moves, hFresh, (playAll_append x _ first moves).symm⟩

theorem Reached.play (h : g.Reached x) (m : Move) : (g.play x m).Reached x := h.playAll [m]

theorem Reached.sound (h : g.Reached x) : ∃ started displaced, g.Sound started displaced := by
  obtain ⟨s, first, hFresh, rfl⟩ := h
  exact ⟨_, _, sound_playAll x hFresh first⟩

theorem Reached.tracked (h : g.Reached x) : g.session.core.Tracked := by
  obtain ⟨started, displaced, hSound⟩ := h.sound
  exact hSound.tracked

theorem after_settle_nothing (x : Surroundings) (waiting : List Suspended)
    (r : Session × Option Wait) :
    (after waiting (Session.settle x r .nothing)).session.core = r.1.core ∧
      (after waiting (Session.settle x r .nothing)).waiting = waiting ++ alone r.2 := by
  obtain ⟨s, _ | w⟩ := r
  · exact ⟨rfl, (List.append_nil _).symm⟩
  · exact ⟨Session.core_suspend s w .nothing, rfl⟩

theorem replies_append {number : Nat} {first second : List Move}
    (h : Replies number (first ++ second)) : Replies number first ∧ Replies number second :=
  ⟨fun m hm => h m (List.mem_append_left _ hm), fun m hm => h m (List.mem_append_right _ hm)⟩

theorem replies_cons {number : Nat} {m : Move} (h : Replies number (m :: moves)) :
    (∃ answer, m = .reply number answer) ∧ Replies number moves :=
  ⟨h m List.mem_cons_self, fun m' hm' => h m' (List.mem_cons_of_mem _ hm')⟩

/-- The reply to an operation that has nothing to do afterwards: when it waits again, it is the last. -/
theorem play_reply_nothing {number : Nat} {t : Suspended} (ht : g.waiting[number]? = some t)
    (hRest : t.rest = .nothing) (answer : (w : Wait) → w.Reply) :
    ∃ r, g.session.core.Receives t.wait (answer t.wait) r ∧
      (g.play x (.reply number answer)).session.core = r.1 ∧
      (g.play x (.reply number answer)).waiting = g.waiting.eraseIdx number ++ alone r.2 ∧
      g.startedBy (.reply number answer) = t.wait.started? (answer t.wait) := by
  rcases play_reply x g number answer with ⟨hNone, -⟩ | ⟨t', ht', r, hPlay, hReceives⟩
  · rw [ht] at hNone
    cases hNone
  · rw [ht] at ht'
    cases ht'
    rw [hRest] at hPlay
    obtain ⟨hCore, hWaiting⟩ := after_settle_nothing x (g.waiting.eraseIdx number) r
    rw [hPlay]
    exact ⟨Session.coreOf r, hReceives, hCore, hWaiting, startedBy_reply_some ht answer⟩

/-- The reply to the last operation that waits, when there is nothing to do after it. -/
theorem play_alone (hWaiting : g.waiting = base ++ alone w) (answer : (w : Wait) → w.Reply) :
    w = none ∧ g.play x (.reply base.length answer) = g ∧
        g.startedBy (.reply base.length answer) = none ∨
      ∃ w' r, w = some w' ∧ g.session.core.Receives w' (answer w') r ∧
        (g.play x (.reply base.length answer)).session.core = r.1 ∧
        (g.play x (.reply base.length answer)).waiting = base ++ alone r.2 ∧
        g.startedBy (.reply base.length answer) = w'.started? (answer w') := by
  cases w with
  | none =>
    have hNumber : g.waiting[base.length]? = none := by
      rw [hWaiting]
      simp [alone]
    rcases play_reply x g base.length answer with ⟨-, hPlay⟩ | ⟨t, ht, -⟩
    · exact Or.inl ⟨rfl, hPlay, startedBy_reply_none hNumber answer⟩
    · rw [hNumber] at ht
      cases ht
  | some w =>
    have hNumber : g.waiting[base.length]? = some ⟨w, .nothing⟩ := by
      rw [hWaiting]
      simp [alone]
    have hErased : g.waiting.eraseIdx base.length = base := by
      rw [hWaiting, List.eraseIdx_append_of_length_le (Nat.le_refl _), Nat.sub_self]
      exact List.append_nil _
    obtain ⟨r, hReceives, hCore, hNext, hStarted⟩ := play_reply_nothing (x := x) hNumber rfl answer
    rw [hErased] at hNext
    exact Or.inr ⟨w, r, rfl, hReceives, hCore, hNext, hStarted⟩

/-- The replies to the last operation that waits, when there is nothing to do after it: what every reply
preserves, of the core and of the clients that have started so far, holds after all of them. -/
theorem playAll_alone {J : List Nat → Core → Option Wait → Prop}
    (hStep : ∀ {own k w reply r}, Core.Tracked k → J own k (some w) → k.Receives w reply r →
      J (own ++ (w.started? reply).toList) r.1 r.2)
    (hReached : g.Reached x) (hReplies : Replies base.length moves)
    (hWaiting : g.waiting = base ++ alone w) {own : List Nat} (hBefore : J own g.session.core w) :
    ∃ w', (g.playAll x moves).waiting = base ++ alone w' ∧
      J (own ++ collect x startedBy g moves) (g.playAll x moves).session.core w' := by
  induction moves generalizing g w own with
  | nil =>
    refine ⟨w, hWaiting, ?_⟩
    rw [collect, List.append_nil]
    exact hBefore
  | cons m moves ih =>
    obtain ⟨⟨answer, rfl⟩, hRest⟩ := replies_cons hReplies
    rcases play_alone (x := x) hWaiting answer with
      ⟨-, hPlay, hStarted⟩ | ⟨w', r, rfl, hReceives, hCore, hWaits, hStarted⟩
    · rw [playAll_cons, collect, hPlay, hStarted]
      exact ih hReached hRest hWaiting hBefore
    · have hNext := hStep hReached.tracked hBefore hReceives
      rw [← hCore] at hNext
      rw [playAll_cons, collect, hStarted, ← List.append_assoc]
      exact ih (hReached.play _) hRest hWaits hNext

theorem playAll_unanswered (hWaiting : g.waiting = base) (hReplies : Replies base.length moves) :
    g.playAll x moves = g := by
  induction moves with
  | nil => rfl
  | cons m moves ih =>
    obtain ⟨⟨answer, rfl⟩, hRest⟩ := replies_cons hReplies
    have hNone : g.waiting = base ++ alone none := hWaiting.trans (List.append_nil _).symm
    rcases play_alone (x := x) hNone answer with ⟨-, hPlay, -⟩ | ⟨w', -, hw, -⟩
    · rw [playAll_cons, hPlay]
      exact ih hRest
    · cases hw

/-! ## The three parts of the run -/

/-- Before the deactivation: as long as the operation waits, no client has started. -/
theorem pending_playAll (hReplies : Replies base.length moves)
    (hWaiting : g.waiting = base ++ alone w) (hPending : ∀ w' ∈ w, g.session.core.Pending owed w') :
    ∃ w', (g.playAll x moves).waiting = base ++ alone w' ∧
      ∀ w'' ∈ w', collect x startedBy g moves = [] ∧
        (g.playAll x moves).session.core.Pending owed w'' := by
  induction moves generalizing g w with
  | nil => exact ⟨w, hWaiting, fun w' hw' => ⟨rfl, hPending w' hw'⟩⟩
  | cons m moves ih =>
    obtain ⟨⟨answer, rfl⟩, hRest⟩ := replies_cons hReplies
    rcases play_alone (x := x) hWaiting answer with
      ⟨hNone, hPlay, hStarted⟩ | ⟨w', r, hSome, hReceives, hCore, hWaits, hStarted⟩
    · rw [playAll_cons, hPlay, collect, hPlay, hStarted]
      exact ih hRest hWaiting hPending
    · rcases (hPending w' hSome).receives hReceives with hEnded | ⟨hNone, hNext⟩
      · rw [hEnded] at hWaits
        refine ⟨none, ?_, fun _ h => by cases h⟩
        rw [playAll_cons, playAll_unanswered (hWaits.trans (List.append_nil _)) hRest]
        exact hWaits
      · rw [playAll_cons, collect, hStarted, hNone]
        refine ih hRest hWaits ?_
        rw [hCore]
        exact hNext

/-- While the deactivation runs. -/
theorem retired_playAll {epoch activations : Nat} (hReplies : Replies base.length moves)
    (hWaiting : g.waiting = base ++ alone w)
    (hRetired : g.session.core.Retired owed epoch activations)
    (hWait : w = none ∧ g.session.core.extension.phase = .inactive ∨
      ∃ client, w = some (.deactivateStop client)) :
    collect x startedBy g moves = [] ∧
      (g.playAll x moves).session.core.Retired owed epoch activations ∧
      ∃ w', (g.playAll x moves).waiting = base ++ alone w' ∧
        (w' = none ∧ (g.playAll x moves).session.core.extension.phase = .inactive ∨
          ∃ client, w' = some (.deactivateStop client)) := by
  induction moves generalizing g w with
  | nil => exact ⟨rfl, hRetired, w, hWaiting, hWait⟩
  | cons m moves ih =>
    obtain ⟨⟨answer, rfl⟩, hRest⟩ := replies_cons hReplies
    rcases play_alone (x := x) hWaiting answer with
      ⟨-, hPlay, hStarted⟩ | ⟨w', r, rfl, hReceives, hCore, hWaits, hStarted⟩
    · rw [playAll_cons, collect, hPlay, hStarted]
      exact ih hRest hWaiting hRetired hWait
    · rcases hWait with ⟨hNone, -⟩ | ⟨client, hClient⟩
      · cases hNone
      · cases hClient
        cases hReceives with
        | deactivateStopped =>
          rw [playAll_cons, collect, hStarted]
          refine ih hRest hWaits ?_ (Or.inl ⟨rfl, ?_⟩)
          · rw [hCore]
            exact ⟨hRetired.epoch, hRetired.slot, (fun h => by cases h), hRetired.activations,
              hRetired.unheard, hRetired.owed⟩
          · rw [hCore]
            rfl
        | quiet _ _ hQuiet => cases hQuiet

/-- After the deactivation: every client that starts is asked to stop. -/
theorem overtaken_playAll {activations : Nat} (hReached : g.Reached x)
    (hReplies : Replies base.length moves) (hWaiting : g.waiting = base ++ alone w)
    (hOvertaken : g.session.core.Overtaken owed activations w) :
    ∃ w', (g.playAll x moves).waiting = base ++ alone w' ∧
      (g.playAll x moves).session.core.Overtaken (owed ++ collect x startedBy g moves)
        activations w' :=
  playAll_alone (J := fun own k w => k.Overtaken own activations w)
    (fun hTracked hBefore hReceives => hBefore.receives hTracked hReceives) hReached hReplies hWaiting
    hOvertaken

/-! ## The deactivation that overtakes -/

/-- The moves that begin an operation that starts the server: an activation, a restart, or a command
whose handler is the restart of the extension. -/
inductive StartsServer (g : Stage) : Move → Prop where
  | activate : StartsServer g .activate
  | restart : StartsServer g .restart
  | command (hub : Nat) (id : String) (editor : Nat)
      (hHandler : ((g.session.hubs[hub]?).getD {}).commands.handler? id = some (.own .restart)) :
      StartsServer g (.invoke hub id editor)

theorem play_startsServer {op : Move} (hOp : g.StartsServer op)
    (hOwed : ∀ client ∈ owed, g.session.extension.slot = some client) :
    g.startedBy op = none ∧
      ∃ w, (g.play x op).waiting = g.waiting ++ alone w ∧
        ∀ w' ∈ w, (g.play x op).session.core.Pending owed w' := by
  have hHeld : g.session.core.Owes owed := fun client hClient => Or.inl (hOwed client hClient)
  have hSettle : ∃ r, g.play x op = after g.waiting (Session.settle x r .nothing) ∧
      ∀ w' ∈ r.2, r.1.core.Pending owed w' := by
    cases hOp with
    | activate =>
      exact ⟨_, rfl, Core.pending_of_activates hHeld (Session.activates_beginActivate x g.session)⟩
    | restart =>
      exact ⟨_, rfl, Core.pending_of_restarts hHeld (Session.restarts_beginRestart x g.session)⟩
    | command hub id editor hHandler =>
      refine ⟨g.session.runHandler x (.own .restart) editor, ?_, ?_⟩
      · unfold play Session.invoke
        dsimp only
        rw [hHandler]
      · unfold Session.runHandler
        dsimp only
        split
        · exact Core.pending_of_restarts hHeld (Session.restarts_beginRestart x g.session)
        · exact fun _ hw => nomatch hw
  obtain ⟨r, hPlay, hPending⟩ := hSettle
  obtain ⟨hCore, hWaiting⟩ := after_settle_nothing x g.waiting r
  refine ⟨by cases hOp <;> rfl, r.2, ?_, ?_⟩
  · rw [hPlay]
    exact hWaiting
  · rw [hPlay, hCore]
    exact hPending

/-- Up to the deactivation no client has started, and the operation waits in the current epoch. -/
theorem playAll_startsServer {op : Move} {t : Suspended} (hOp : g.StartsServer op)
    (hReplies : Replies g.waiting.length moves)
    (hWaits : (g.playAll x (op :: moves)).waiting = g.waiting ++ [t]) :
    collect x startedBy g (op :: moves) = [] ∧ t.rest = .nothing ∧
      (g.playAll x (op :: moves)).session.core.Pending g.session.extension.slot.toList t.wait := by
  have hOwed : ∀ client ∈ g.session.extension.slot.toList,
      g.session.extension.slot = some client := fun _ hClient => Option.mem_toList.mp hClient
  obtain ⟨hStarted, w, hWaiting, hPending⟩ := play_startsServer (x := x) hOp hOwed
  obtain ⟨w', hWaiting', hPending'⟩ := pending_playAll (x := x) hReplies hWaiting hPending
  have hAlone : alone w' = [t] := List.append_cancel_left (hWaiting'.symm.trans hWaits)
  cases w' with
  | none => cases hAlone
  | some w' =>
    cases hAlone
    obtain ⟨hCollect, hLast⟩ := hPending' w' rfl
    refine ⟨?_, rfl, hLast⟩
    rw [collect, hStarted, hCollect]
    rfl

/-- The deactivation itself, up to any reply that it gets. -/
theorem retired_deactivate {t : Suspended} (hReached : g.Reached x) (hWaiting : g.waiting = base ++ [t])
    (hPending : g.session.core.Pending owed t.wait) (hReplies : Replies (base.length + 1) moves) :
    collect x startedBy g (.deactivate :: moves) = [] ∧
      (g.playAll x (.deactivate :: moves)).session.core.Retired owed
        (g.session.core.extension.epoch + 1) g.session.core.activations ∧
      ∃ w, (g.playAll x (.deactivate :: moves)).waiting = base ++ [t] ++ alone w ∧
        (w = none ∧
            (g.playAll x (.deactivate :: moves)).session.core.extension.phase = .inactive ∨
          ∃ client, w = some (.deactivateStop client)) := by
  obtain ⟨hCore, hRest⟩ := after_settle_nothing x g.waiting g.session.beginDeactivate
  have hStep : (g.play x .deactivate).session.core = g.session.core.deactivated.1 :=
    hCore.trans (congrArg Prod.fst (Session.coreOf_beginDeactivate g.session))
  have hWait : g.session.beginDeactivate.2 = g.session.core.deactivated.2 :=
    congrArg Prod.snd (Session.coreOf_beginDeactivate g.session)
  rw [hWait, hWaiting] at hRest
  obtain ⟨hRetired, hEnd⟩ := hPending.deactivated hReached.tracked
  rw [← hStep] at hRetired hEnd
  have hLength : Replies (base ++ [t]).length moves := by
    rw [List.length_append]
    exact hReplies
  have hPlay : (g.play x .deactivate).waiting = base ++ [t] ++ alone g.session.core.deactivated.2 := by
    rw [← hRest, ← hWaiting]
    rfl
  simp only [collect, startedBy, Option.toList_none, List.nil_append, playAll_cons]
  exact retired_playAll hLength hPlay hRetired hEnd

/-- **A deactivation overtakes a startup in flight.** An activation or a restart begins in a stage that
some run reaches and waits for something. Then the extension is deactivated, and the deactivation ends
before the operation gets its next reply. Whatever replies it gets then, when it has ended no client is
held, the extension is inactive, each client that was held before or has started since was asked to stop
exactly once, and no listener is on any client. From the deactivation on the extension does not run and
is not said to run. -/
theorem deactivate_overtakes {x : Surroundings} {g : Stage} (hReached : g.Reached x) {op : Move}
    {before stops later : List Move} {t : Suspended} (hOp : g.StartsServer op)
    (hBefore : Replies g.waiting.length before)
    (hWaits : (g.playAll x (op :: before)).waiting = g.waiting ++ [t])
    (hStops : Replies (g.waiting.length + 1) stops)
    (hDeactivated : (g.playAll x (op :: before ++ .deactivate :: stops)).waiting =
      g.waiting ++ [t])
    (hLater : Replies g.waiting.length later)
    (hEnded : (g.playAll x (op :: before ++ .deactivate :: (stops ++ later))).waiting =
      g.waiting) :
    (g.playAll x (op :: before ++ .deactivate :: (stops ++ later))).TakenDown
        (g.session.extension.slot.toList ++
          collect x startedBy g (op :: before ++ .deactivate :: (stops ++ later))) ∧
      ∀ part, part <+: stops ++ later →
        (g.playAll x (op :: before ++ .deactivate :: part)).session.extension.phase ≠ .running ∧
          (g.playAll x (op :: before ++ .deactivate :: part)).session.core.activations =
            (g.playAll x (op :: before)).session.core.activations := by
  obtain ⟨hNone, hRest, hPending⟩ := playAll_startsServer hOp hBefore hWaits
  have hBegun : (g.playAll x (op :: before)).Reached x := hReached.playAll _
  simp only [playAll_append, collect_append, hNone, List.nil_append] at hDeactivated hEnded ⊢
  generalize g.playAll x (op :: before) = begun at *
  -- The deactivation has ended, and the operation still waits.
  obtain ⟨hQuiet, hRetired, w, hLast, hEnd⟩ := retired_deactivate hBegun hWaits hPending hStops
  have hPhase : (begun.playAll x (.deactivate :: stops)).session.core.extension.phase =
      .inactive := by
    rcases hEnd with ⟨-, hPhase⟩ | ⟨client, rfl⟩
    · exact hPhase
    · have hLength := congrArg List.length (hLast.symm.trans hDeactivated)
      simp [alone] at hLength
  have hOvertaken := hRetired.overtaken hPhase hPending.wait
  have hAlone : (begun.playAll x (.deactivate :: stops)).waiting =
      g.waiting ++ alone (some t.wait) := by
    rw [hDeactivated]
    obtain ⟨wait, rest⟩ := t
    cases hRest
    rfl
  have hStopped : (begun.playAll x (.deactivate :: stops)).Reached x := hBegun.playAll _
  constructor
  · rw [← List.cons_append, playAll_append] at hEnded
    rw [← List.cons_append, playAll_append, collect_append, hQuiet, List.nil_append]
    obtain ⟨started, displaced, hSound⟩ := (hStopped.playAll later).sound
    obtain ⟨w', hWaiting, hAfter⟩ := overtaken_playAll hStopped hLater hAlone hOvertaken
    rw [hEnded] at hWaiting
    have hOver : w' = none := by
      cases w' with
      | none => rfl
      | some w' =>
        have hLength := congrArg List.length hWaiting
        simp [alone] at hLength
    subst hOver
    refine ⟨hAfter.slot, hAfter.phase, ?_, hAfter.wait⟩
    intro client hClient
    have hMem := List.count_pos_iff.mpr (hAfter.owed client hClient)
    have hOnce := hSound.count_stopped_le_one client
    omega
  · intro part hPart
    obtain ⟨rest, hSplit⟩ := hPart
    rcases List.append_eq_append_iff.mp hSplit with ⟨unplayed, rfl, -⟩ | ⟨played, rfl, rfl⟩
    · obtain ⟨-, hPart, -⟩ := retired_deactivate hBegun hWaits hPending (replies_append hStops).1
      exact ⟨hPart.notRunning, hPart.activations⟩
    · obtain ⟨_, -, hPart⟩ := overtaken_playAll hStopped (replies_append hLater).1 hAlone hOvertaken
      rw [← List.cons_append, playAll_append]
      refine ⟨?_, hPart.activations⟩
      intro hRunning
      cases hPart.phase.symm.trans hRunning

end

/-- A running extension. -/
def activated : Stage :=
  playAll .plain ⟨.scripted, []⟩ [.activate, .reply 0 Wait.goodReply, .reply 0 Wait.goodReply]

theorem reached_activated : activated.Reached .plain := ⟨.scripted, _, Session.fresh_scripted, rfl⟩

theorem replies_goodReply (number count : Nat) :
    Replies number (List.replicate count (.reply number Wait.goodReply)) :=
  fun _ hm => ⟨_, List.eq_of_mem_replicate hm⟩

/-- A restart is overtaken while the new client starts. Both clients are asked to stop once. -/
theorem deactivate_overtakes_restart :
    (activated.playAll .plain [.restart, .reply 0 Wait.goodReply, .reply 0 Wait.goodReply,
      .deactivate, .reply 0 Wait.goodReply, .reply 0 Wait.goodReply]).TakenDown [0, 1] := by
  have hReached : activated.Reached .plain := ⟨.scripted, _, Session.fresh_scripted, rfl⟩
  have hReplies : Replies activated.waiting.length
      (List.replicate 2 (.reply 0 Wait.goodReply)) := by
    rw [show activated.waiting.length = 0 by decide +kernel]
    exact replies_goodReply 0 2
  have hNoStops : Replies (activated.waiting.length + 1) [] := fun _ hm => nomatch hm
  have hWaits : (activated.playAll .plain
      (.restart :: List.replicate 2 (.reply 0 Wait.goodReply))).waiting =
        activated.waiting ++ [⟨.start 0 1, .nothing⟩] := by decide +kernel
  obtain ⟨hDown, -⟩ := deactivate_overtakes hReached .restart hReplies hWaits hNoStops
    (by decide +kernel) hReplies (by decide +kernel)
  have hClients : activated.session.extension.slot.toList ++
      collect .plain startedBy activated
        (.restart :: List.replicate 2 (.reply 0 Wait.goodReply) ++
          .deactivate :: ([] ++ List.replicate 2 (.reply 0 Wait.goodReply))) = [0, 1] := by
    decide +kernel
  rw [hClients] at hDown
  exact hDown

end Stage

end ExtensionHost
