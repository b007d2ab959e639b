import ExtensionHost.Proofs.Lifecycle.Arising
import ExtensionHost.Proofs.Lifecycle.Epochs

/-!
# Servers that stopped before a deactivation

A server stops, and the task that was spawned to ask the user may begin before or after the extension is
deactivated. The panel notes the epoch in which the task begins, not the one in which the server stopped.
`NoLateRestart` states that a deactivated extension stays so whatever the user answers, and it fails when
the task begins late. `staysDown` says what holds: nothing starts the server again but an operation that
begins to start it, and the answer Restart to a panel that was shown after the deactivation.
-/

namespace ExtensionHost

/-- Whether an operation waits for something that has no part in starting and stopping the server, or for
the user. -/
def Wait.isPassive : Wait → Bool
  | .prompt _ => true
  | w => w.isQuiet

theorem Wait.isPassive_of_isQuiet {w : Wait} (hQuiet : w.isQuiet = true) : w.isPassive = true := by
  cases w <;> first | rfl | cases hQuiet

theorem Wait.started?_of_isPassive {w : Wait} (hPassive : w.isPassive = true) (reply : w.Reply) :
    w.started? reply = none := by
  cases w <;> first | rfl | cases hPassive

/-- Whether the user answers a panel with Restart. -/
def Wait.choosesRestart : (w : Wait) → w.Reply → Bool
  | .prompt _, some (some 0) => true
  | _, _ => false

namespace Core

/-- The extension is inactive and holds no client, so many clients were made so far, and what is waited
for does not start one. -/
structure Down (made : Nat) (k : Core) (w : Option Wait) : Prop where
  slot : k.extension.slot = none
  phase : k.extension.phase = .inactive
  clients : k.clients.length = made
  wait : ∀ w' ∈ w, w'.isPassive = true

variable {made : Nat} {k : Core} {r : Core × Option Wait}

theorem Down.drops (h : k.Down made none) (rs : List Registration) :
    Down made { k with clients := rs.foldl dropListener k.clients } none := by
  refine ⟨h.slot, h.phase, ?_, nofun⟩
  rw [length_dropListeners]
  exact h.clients

theorem Down.tends (h : k.Down made none) (hTends : k.Tends r) : r.1.Down made r.2 := by
  cases hTends with
  | quiet w hQuiet =>
    exact ⟨h.slot, h.phase, h.clients, fun w' hw' => Wait.isPassive_of_isQuiet (hQuiet w' hw')⟩
  | watched uri editor number =>
    unfold watch
    split
    · rename_i previous _
      have hDropped := h.drops [previous]
      exact ⟨hDropped.slot, hDropped.phase, hDropped.clients, nofun⟩
    · exact ⟨h.slot, h.phase, h.clients, nofun⟩

theorem Down.deactivated (h : k.Down made none) : k.deactivated.1.Down made k.deactivated.2 := by
  unfold Core.deactivated
  rw [h.slot]
  refine ⟨rfl, rfl, ?_, nofun⟩
  simp only [inPhase, shutdown, release, clear, retire, length_dropListeners]
  exact h.clients

theorem Down.prompted (h : k.Down made none) (rest : List (Option String)) :
    (k.prompted rest).1.Down made (k.prompted rest).2 := by
  refine ⟨rfl, rfl, ?_, ?_⟩
  · simp only [Core.prompted, inPhase, release, clear, length_dropListeners]
    exact h.clients
  · rintro w ⟨⟩
    rfl

end Core

namespace Stage

/-- A move of this kind is never made in a run. -/
def Never (x : Surroundings) (P : Stage → Move → Prop) : Stage → List Move → Prop
  | _, [] => True
  | g, m :: moves => ¬ P g m ∧ Never x P (g.play x m) moves

/-- Moves that may start the server of a deactivated extension: those that begin an operation that starts
it, and the answer Restart to a panel that was shown in the current epoch. -/
inductive Revives (g : Stage) : Move → Prop where
  | starts {m : Move} (hStarts : g.StartsServer m) : Revives g m
  | answers {number : Nat} {answer : (w : Wait) → w.Reply} {t : Suspended}
      (ht : g.waiting[number]? = some t) (hEpoch : t.wait.epoch? = some g.epoch)
      (hRestart : t.wait.choosesRestart (answer t.wait) = true) : Revives g (.reply number answer)

/-- The extension is inactive, and nothing is under way that starts the server. -/
structure Down (made : Nat) (g : Stage) : Prop where
  core : g.session.core.Down made none
  waits : ∀ w ∈ g.waits, w.isPassive = true

section

variable {x : Surroundings} {g : Stage} {made : Nat}

theorem down_settle {waiting : List Suspended}
    (hWaiting : ∀ w ∈ waiting.map Suspended.wait, w.isPassive = true) {rest : Rest}
    (hOther : .own .restart ∉ rest.handlers) {r : Session × Option Wait}
    (hr : r.1.core.Down made r.2) : (after waiting (Session.settle x r rest)).Down made := by
  obtain ⟨w, hDown, hWaits⟩ := after_settle_carried (x := x) (J := Core.Down made) waiting
    (Session.carries_of_tends (fun _ _ hk hTends => hk.tends hTends) hOther) hr
  refine ⟨⟨hDown.slot, hDown.phase, hDown.clients, nofun⟩, ?_⟩
  rw [hWaits]
  intro w' hw'
  rcases List.mem_append.mp hw' with hOld | hNew
  · exact hWaiting w' hOld
  · exact hDown.wait w' (Option.mem_toList.mp hNew)

/-- A reply to a quiet wait leaves the core as it was, and so does an answer to a panel that is not
Restart or comes in another epoch. -/
theorem core_receive_passive (s : Session) {w : Wait} (hPassive : w.isPassive = true) (reply : w.Reply)
    (hLeft : w.choosesRestart reply = true → w.epoch? ≠ some s.core.extension.epoch) :
    Session.coreOf (s.receive x w reply) = (s.core, none) := by
  have hReceives := Session.receives_receive x s w reply
  cases w with
  | prompt epoch =>
    refine Session.coreOf_endPrompt_left x s ?_
    rintro rfl hEpoch
    exact hLeft rfl (congrArg some hEpoch.symm)
  | formatter | serverEdits | references | other =>
    generalize Session.coreOf _ = r at hReceives ⊢
    cases hReceives
    rfl
  | _ => cases hPassive

theorem Down.play_reply (h : g.Down made) (hOrderly : g.Orderly) {number : Nat}
    {answer : (w : Wait) → w.Reply} (hm : ¬ g.Revives (.reply number answer)) :
    (g.play x (.reply number answer)).Down made ∧ g.startedBy (.reply number answer) = none := by
  cases ht : g.waiting[number]? with
  | none =>
    refine ⟨?_, startedBy_reply_none ht answer⟩
    unfold Stage.play
    dsimp only
    rw [ht]
    exact h
  | some t =>
    have hMem := List.mem_of_getElem? ht
    have hPassive := h.waits t.wait (List.mem_map_of_mem hMem)
    have hLeft : t.wait.choosesRestart (answer t.wait) = true → t.wait.epoch? ≠ some g.epoch :=
      fun hRestart hEpoch => hm (.answers ht hEpoch hRestart)
    have hReceived : ∀ s : Session, s.core = g.session.core →
        (s.receive x t.wait (answer t.wait)).1.core.Down made
          (s.receive x t.wait (answer t.wait)).2 := by
      intro s hs
      have hAnswered := core_receive_passive (x := x) s hPassive (answer t.wait)
      rw [hs] at hAnswered
      obtain ⟨hCore, hWait⟩ := Prod.mk.inj (hAnswered hLeft)
      rw [hCore, hWait]
      exact h.core
    refine ⟨?_, (startedBy_reply_some ht answer).trans (Wait.started?_of_isPassive hPassive _)⟩
    unfold Stage.play
    dsimp only
    rw [ht]
    refine down_settle ?_ (hOrderly.mild t hMem).handlers ?_
    · intro w hw
      obtain ⟨t', ht', rfl⟩ := List.mem_map.mp hw
      exact h.waits t'.wait (List.mem_map_of_mem (List.mem_of_mem_eraseIdx ht'))
    · refine hReceived _ ?_
      split <;> rfl

theorem Down.play (h : g.Down made) (hOrderly : g.Orderly) {m : Move} (hm : ¬ g.Revives m) :
    (g.play x m).Down made ∧ g.startedBy m = none := by
  have hBegun : ∀ {r : Session × Option Wait}, r.1.core.Down made r.2 →
      (after g.waiting (Session.settle x r .nothing)).Down made :=
    fun hr => down_settle h.waits List.not_mem_nil hr
  have hOutside : ∀ {m : Move}, m.isOutside = true → (g.play x m).Down made := by
    intro m hm
    obtain ⟨⟨rs, told, hCore⟩, hWaits⟩ := play_outside x g hm
    have hDropped := h.core.drops rs
    refine ⟨?_, hWaits ▸ h.waits⟩
    rw [hCore]
    exact ⟨hDropped.slot, hDropped.phase, hDropped.clients, nofun⟩
  cases m with
  | activate => exact absurd (.starts .activate) hm
  | restart => exact absurd (.starts .restart) hm
  | deactivate =>
    refine ⟨hBegun ?_, rfl⟩
    have hDown := h.core.deactivated
    rw [← Session.coreOf_beginDeactivate] at hDown
    exact hDown
  | invoke hub id editor =>
    -- A command with the restart as its handler is among the moves that are never made.
    refine ⟨?_, rfl⟩
    unfold Stage.play Session.invoke
    dsimp only
    split
    · exact h
    · rename_i handler hHandler
      have hOther : handler ≠ .own .restart := by
        rintro rfl
        exact hm (.starts (.command hub id editor hHandler))
      exact hBegun (h.core.tends (Session.tends_runHandler x g.session hOther editor))
  | addEditor hub editor =>
    refine ⟨down_settle (r := (g.session, none)) h.waits ?_ h.core, rfl⟩
    exact hOrderly.attributed.restart_notMem_editorAdded hub
  | save editor =>
    refine ⟨down_settle (r := (g.session, none)) h.waits ?_ h.core, rfl⟩
    exact hOrderly.attributed.restart_notMem_willSave editor
  | prompt =>
    refine ⟨?_, rfl⟩
    rcases play_prompt x g with ⟨-, hPlay⟩ | ⟨reason, rest, -, r, hPlay, hr⟩
    · rw [hPlay]
      exact h
    · rw [hPlay]
      have hDown := h.core.prompted rest
      rw [← hr] at hDown
      exact hBegun hDown
  | reply number answer => exact h.play_reply hOrderly hm
  | serverStopped | dispose | openEditor | edit | register | onEditorAdded | onWillSave
  | changeSettings | changeFiles => exact ⟨hOutside rfl, rfl⟩

theorem Down.playAll (h : g.Down made) (hOrderly : g.Orderly) {moves : List Move}
    (hNever : Never x Revives g moves) :
    (g.playAll x moves).Down made ∧ collect x startedBy g moves = [] := by
  induction moves generalizing g with
  | nil => exact ⟨h, rfl⟩
  | cons m moves ih =>
    obtain ⟨hm, hRest⟩ := hNever
    obtain ⟨hDown, hStarted⟩ := h.play hOrderly hm
    obtain ⟨hLast, hNone⟩ := ih hDown (hOrderly.play x m) hRest
    refine ⟨hLast, ?_⟩
    rw [collect, hStarted, hNone]
    rfl

/-- **A deactivated extension stays down.** In a stage that arises nothing is under way that starts the
server; servers may have stopped, and the tasks about them may have begun or not. The extension is
deactivated. As long as no operation begins that starts the server, and the user does not answer Restart
to a panel that was shown after the deactivation, no client is made, started or held, and the extension
is inactive. -/
theorem staysDown (hArises : g.Arises x) (hPassive : ∀ w ∈ g.waits, w.isPassive = true)
    {stops later : List Move} (hStops : Replies g.waiting.length stops)
    (hEnded : (g.playAll x (.deactivate :: stops)).waiting = g.waiting)
    (hNever : Never x Revives (g.playAll x (.deactivate :: stops)) later) :
    ((g.playAll x (.deactivate :: stops)).playAll x later).Down
        g.session.core.clients.length ∧
      collect x startedBy (g.playAll x (.deactivate :: stops)) later = [] := by
  have hDown : (g.playAll x (.deactivate :: stops)).Down g.session.core.clients.length := by
    refine ⟨?_, ?_⟩
    · rw [core_deactivate hStops hEnded]
      refine ⟨rfl, rfl, ?_, nofun⟩
      simp only [Core.inPhase, Core.shutdown, Core.release, Core.clear, Core.retire,
        Core.length_dropListeners]
    · unfold waits
      rw [hEnded]
      exact hPassive
  exact hDown.playAll (hArises.orderly.playAll x _) hNever

end

/-- The server of a running extension has stopped, and the user is asked what to do. -/
def asked : Stage := activated.playAll .plain [.serverStopped 0 none, .prompt]

theorem arises_activated : activated.Arises .plain := ⟨.scripted, _, Session.pristine_scripted, rfl⟩

/-- The answer Restart comes after a deactivation and does nothing. -/
theorem staysDown_asked :
    (asked.playAll .plain [.deactivate, .reply 0 Wait.goodReply]).Down 1 := by
  have hWaiting : asked.waiting = [⟨.prompt 0, .nothing⟩] := by decide +kernel
  have hLater : (asked.play .plain .deactivate).waiting = [⟨.prompt 0, .nothing⟩] := by decide +kernel
  have hEpoch : (asked.play .plain .deactivate).epoch = 1 := by decide +kernel
  have hPassive : ∀ w ∈ asked.waits, w.isPassive = true := by
    rw [waits, hWaiting]
    exact fun w hw => List.mem_singleton.mp hw ▸ rfl
  have hArises : asked.Arises .plain := arises_activated.playAll _
  have hStops : Replies asked.waiting.length [] := fun _ hm => absurd hm List.not_mem_nil
  have hNever : Never .plain Revives (asked.playAll .plain [.deactivate])
      [.reply 0 Wait.goodReply] := by
    refine ⟨?_, trivial⟩
    rintro (hStarts | ⟨ht, hNow, -⟩)
    · cases hStarts
    · rw [playAll_cons, playAll_nil, hLater] at ht
      cases ht
      rw [playAll_cons, playAll_nil, hEpoch] at hNow
      cases hNow
  obtain ⟨hDown, -⟩ := staysDown hArises hPassive hStops (hLater.trans hWaiting.symm) hNever
  rw [show asked.session.core.clients.length = 1 by decide +kernel] at hDown
  exact hDown

/-- A deactivated extension stays down whatever the user answers about servers that stopped before. -/
def NoLateRestart : Prop :=
  ∀ (x : Surroundings) (g : Stage), g.Arises x → (∀ w ∈ g.waits, w.isPassive = true) →
    ∀ stops later : List Move, Replies g.waiting.length stops →
      (g.playAll x (.deactivate :: stops)).waiting = g.waiting →
      Never x StartsServer (g.playAll x (.deactivate :: stops)) later →
        ((g.playAll x (.deactivate :: stops)).playAll x later).Down g.session.core.clients.length

/-- The task about a server that stopped begins after the deactivation, and Restart starts the server. -/
theorem not_noLateRestart : ¬ NoLateRestart := by
  intro h
  have hWaiting : (activated.play .plain (.serverStopped 0 none)).waiting = [] :=
    List.isEmpty_iff.mp (by decide +kernel)
  have hPassive : ∀ w ∈ (activated.play .plain (.serverStopped 0 none)).waits, w.isPassive = true := by
    rw [waits, hWaiting]
    exact List.forall_mem_nil _
  have hStops : Replies (activated.play .plain (.serverStopped 0 none)).waiting.length
      (List.replicate 1 (.reply 0 Wait.goodReply)) := by
    rw [hWaiting]
    exact replies_goodReply 0 1
  have hPhase := (h .plain _ (arises_activated.play _) hPassive _
    [.prompt, .reply 0 Wait.goodReply] hStops (by decide +kernel)
    ⟨(fun hStarts => by cases hStarts), (fun hStarts => by cases hStarts), trivial⟩).core.phase
  exact absurd hPhase (by decide +kernel)

end Stage

end ExtensionHost
