import ExtensionHost.Proofs.Lifecycle.Notices
import ExtensionHost.Proofs.Lifecycle.Startups

/-!
# Clients that were taken

An operation takes the client that is held, and only the one that took it asks it to stop. Several
operations may wait for a stop or a startup at the same time; still no client is asked to stop twice, only
clients that have started are, and a client that was taken never comes back: it is not stored again, it is
not asked to stop again, and no command hands it a request.
-/

namespace ExtensionHost

namespace Core

variable {k : Core} {r : Core × Option Wait}

/-- A core after steps that took the client at most: no other client is in the slot or was asked to
stop. -/
structure Yields (k k' : Core) : Prop where
  slot : ∀ client, k'.extension.slot = some client → k.extension.slot = some client
  stopped : ∃ taken, k'.stopped = k.stopped ++ taken ∧
    ∀ client ∈ taken, k.extension.slot = some client

theorem Yields.of_eq {k k' : Core} (hSlot : k'.extension.slot = k.extension.slot)
    (hStopped : k'.stopped = k.stopped) : k.Yields k' :=
  ⟨fun _ h => hSlot.symm.trans h, [], by rw [hStopped, List.append_nil], List.forall_mem_nil _⟩

theorem Yields.trans {k₁ k₂ k₃ : Core} (h₁ : k₁.Yields k₂) (h₂ : k₂.Yields k₃) :
    k₁.Yields k₃ := by
  obtain ⟨first, hFirst, hFirstHeld⟩ := h₁.stopped
  obtain ⟨second, hSecond, hSecondHeld⟩ := h₂.stopped
  refine ⟨fun client h => h₁.slot client (h₂.slot client h), first ++ second, ?_, ?_⟩
  · rw [hSecond, hFirst, List.append_assoc]
  · intro client hTaken
    rcases List.mem_append.mp hTaken with hTaken | hTaken
    · exact hFirstHeld client hTaken
    · exact h₁.slot client (hSecondHeld client hTaken)

theorem yields_inPhase (k : Core) (phase : Phase) : k.Yields (k.inPhase phase) := .of_eq rfl rfl

theorem yields_shutdown (k : Core) : k.Yields k.shutdown :=
  ⟨nofun, k.extension.slot.toList, rfl, fun _ hTaken => Option.mem_toList.mp hTaken⟩

theorem yields_begins (hBegins : k.Begins r) : k.Yields r.1 := by
  rcases hBegins with rfl | rfl
  · exact yields_inPhase k .inactive
  · exact yields_inPhase k .starting

theorem yields_handles (hHandles : k.Handles r) : k.Yields r.1 := by
  cases hHandles with
  | quiet w hQuiet => exact .of_eq rfl rfl
  | watched uri editor number =>
    unfold watch
    split
    · exact .of_eq rfl rfl
    · exact .of_eq rfl rfl
  | restarted hRestarts =>
    rcases hRestarts with ⟨-, hBegins⟩ | ⟨client, -, rfl⟩
    · exact (yields_shutdown k).trans (yields_begins hBegins)
    · exact yields_shutdown k

theorem yields_opens (hOpens : k.Opens r) : k.Yields r.1 := by
  cases hOpens with
  | nothing => exact .of_eq rfl rfl
  | activated hActivates =>
    rcases hActivates with rfl | ⟨-, preferences, rs, hBegins⟩
    · exact .of_eq rfl rfl
    · have hEquip : k.Yields (k.equip preferences rs) := .of_eq rfl rfl
      exact hEquip.trans (yields_begins hBegins)
  | deactivated =>
    have hRetire : k.Yields k.retire := .of_eq rfl rfl
    unfold Core.deactivated
    split
    · exact (hRetire.trans (yields_shutdown k.retire)).trans (yields_inPhase _ .inactive)
    · exact hRetire.trans (yields_shutdown k.retire)
  | handled hHandles => exact yields_handles hHandles

theorem yields_endStartup (k : Core) (epoch : Nat) (well : Bool) :
    k.Yields (k.endStartup epoch well).1 := by
  by_cases hEpoch : k.extension.epoch = epoch
  · rw [endStartup_current hEpoch]
    cases well <;> exact .of_eq rfl rfl
  · rw [endStartup_overtaken hEpoch]
    split
    · exact (yields_shutdown k).trans (yields_inPhase _ .inactive)
    · exact yields_shutdown k

/-- With a reply, the client that has started may be taken at once. -/
theorem yields_receives {w : Wait} {reply : w.Reply} (hReceives : k.Receives w reply r) :
    k.Yields r.1 ∨ ∃ client, w.started? reply = some client ∧ (k.store client).Yields r.1 := by
  cases hReceives with
  | started epoch client => exact Or.inr ⟨client, rfl, yields_endStartup _ epoch true⟩
  | scriptsRefused epoch => exact Or.inl (yields_endStartup k epoch false)
  | startFailed epoch client =>
    have hClear : k.Yields k.clear := .of_eq rfl rfl
    exact Or.inl (hClear.trans (yields_endStartup k.clear epoch false))
  | startPanicked epoch client => exact Or.inl (yields_endStartup k epoch false)
  | restartStopped epoch client _ _ hBegins => exact Or.inl (yields_begins hBegins)
  | promptChosen epoch _ _ hBegins => exact Or.inl (yields_begins hBegins)
  | _ => exact Or.inl (.of_eq rfl rfl)

end Core

/-- The clients that were handed requests, in order. -/
def Session.requested (s : Session) : List Nat := s.serverEvents.filterMap Event.requestOf?

namespace Stage

variable {x : Surroundings} {g : Stage} {m : Move} {client : Nat}

/-! ## Clients that were asked to stop -/

theorem yields_settle {k : Core} {waiting : List Suspended} {rest : Rest}
    {r : Session × Option Wait} (hr : k.Yields r.1.core) :
    k.Yields (after waiting (Session.settle x r rest)).session.core := by
  obtain ⟨w, hYields, -⟩ := after_settle (x := x) (J := fun k' _ => k.Yields k')
    (fun k' r hk hHandles => hk.trans (Core.yields_handles hHandles)) waiting rest hr
  exact hYields

/-- A client is asked to stop only when it is held or has just started. -/
theorem stopped_play (x : Surroundings) (g : Stage) (m : Move) :
    ∃ taken, (g.play x m).session.core.stopped = g.session.core.stopped ++ taken ∧
      ∀ client ∈ taken, g.session.extension.slot = some client ∨ g.startedBy m = some client := by
  have hYields : ∀ {m : Move}, g.session.core.Yields (g.play x m).session.core →
      ∃ taken, (g.play x m).session.core.stopped = g.session.core.stopped ++ taken ∧
        ∀ client ∈ taken, g.session.extension.slot = some client ∨ g.startedBy m = some client := by
    intro m h
    obtain ⟨taken, hStopped, hHeld⟩ := h.stopped
    exact ⟨taken, hStopped, fun client hTaken => Or.inl (hHeld client hTaken)⟩
  have hOperation : ∀ {m : Move}, m.isOperation = true →
      g.session.core.Yields (g.play x m).session.core := by
    intro m hm
    obtain ⟨r, rest, hPlay, hOpens⟩ := play_operation x g hm
    rw [hPlay]
    exact yields_settle (Core.yields_opens hOpens)
  have hOutside : ∀ {m : Move}, m.isOutside = true →
      g.session.core.Yields (g.play x m).session.core := by
    intro m hm
    obtain ⟨⟨rs, told, hCore⟩, -⟩ := play_outside x g hm
    rw [hCore]
    exact .of_eq rfl rfl
  cases m with
  | activate | deactivate | restart | invoke | addEditor | save => exact hYields (hOperation rfl)
  | openEditor | edit | register | onEditorAdded | onWillSave | changeSettings | changeFiles | dispose
  | serverStopped => exact hYields (hOutside rfl)
  | prompt =>
    refine hYields ?_
    rcases play_prompt x g with ⟨-, hPlay⟩ | ⟨reason, rest, hPrompts, -⟩
    · rw [hPlay]
      exact .of_eq rfl rfl
    · rw [core_prompt hPrompts]
      exact ⟨nofun, [], (List.append_nil _).symm, List.forall_mem_nil _⟩
  | reply number answer =>
    rcases play_reply x g number answer with ⟨-, hPlay⟩ | ⟨t, ht, r, hPlay, hReceives⟩
    · refine hYields ?_
      rw [hPlay]
      exact .of_eq rfl rfl
    · rcases Core.yields_receives hReceives with hTakes | ⟨started, hStarted, hTakes⟩
      · refine hYields ?_
        rw [hPlay]
        exact yields_settle hTakes
      · -- The client that has started is stored, and the startup may take it at once if it was overtaken.
        have hAfter : (g.session.core.store started).Yields
            (after (g.waiting.eraseIdx number) (Session.settle x r t.rest)).session.core :=
          yields_settle hTakes
        obtain ⟨taken, hStopped, hHeld⟩ := hAfter.stopped
        rw [hPlay]
        refine ⟨taken, hStopped, ?_⟩
        intro client hTaken
        cases hHeld client hTaken
        exact Or.inr ((startedBy_reply_some ht answer).trans hStarted)

/-- Only clients that have started in a run were asked to stop in it. -/
theorem started_of_stopped (x : Surroundings) {s : Session} (hFresh : s.Fresh) (moves : List Move) :
    ∀ client ∈ (playAll x ⟨s, []⟩ moves).session.core.stopped,
      client ∈ collect x startedBy ⟨s, []⟩ moves := by
  induction moves using List.reverseRecOn with
  | nil =>
    intro client hStopped
    simp [Session.core, hFresh.events] at hStopped
  | append_singleton moves m ih =>
    intro client hStopped
    obtain ⟨taken, hTaken, hHeld⟩ := stopped_play x (playAll x ⟨s, []⟩ moves) m
    rw [playAll_concat, hTaken] at hStopped
    rw [collect_concat, List.mem_append, Option.mem_toList]
    rcases List.mem_append.mp hStopped with hBefore | hNow
    · exact Or.inl (ih client hBefore)
    · rcases hHeld client hNow with hSlot | hStarted
      · exact Or.inl ((sound_playAll x hFresh moves).heldStarted client hSlot)
      · exact Or.inr hStarted

/-! ## Clients that get requests -/

/-- A request goes to the client that is held. -/
theorem held_of_request (hOrderly : g.Orderly) {e : Event} (he : e ∈ g.reported x m)
    (hRequest : e.requestOf? = some client) : g.session.extension.slot = some client := by
  have hOther := Event.isOutcome_of_requestOf? hRequest
  -- With a startup that ends, only a call of the factory and one line are recorded.
  have hEnd : ∀ {epoch : Nat} {prior : List Event} {line : Event} {phase : Phase},
      g.EndsBy x m epoch prior line phase → (∀ e ∈ prior, e.isCreate = true) →
      line.isOutcome = true → g.session.extension.slot = some client := by
    intro epoch prior line phase hEnds hPrior hLine
    rcases hEnds.mem_reported he with hEarlier | ⟨-, rfl⟩
    · exact absurd (hPrior e hEarlier) (Bool.eq_false_iff.mp hOther.2)
    · exact absurd hLine (Bool.eq_false_iff.mp hOther.1)
  cases turn_play hOrderly x m with
  | listed _ _ _ hRecords =>
    rw [hRecords.reported] at he
    cases List.mem_singleton.mp he
    cases hRequest
  | unlisted _ hLine hEnds => exact hEnd hEnds nofun (Event.of_isScriptFailure hLine).1
  | refused _ _ hLine hEnds => exact hEnd hEnds nofun (Event.of_isScriptFailure hLine).1
  | unmade _ _ hLine hEnds =>
    refine hEnd hEnds ?_ (Event.of_isStartFailure hLine).1
    intro e he
    cases List.mem_singleton.mp he
    rfl
  | made _ _ _ hRecords =>
    rw [hRecords.reported] at he
    rcases List.mem_pair.mp he with rfl | rfl
    · cases hRequest
    · cases hRequest
  | running _ _ hEnds => exact hEnd hEnds nofun rfl
  | failed _ _ hLine hEnds => exact hEnd hEnds nofun (Event.of_isStartFailure hLine).1
  | stopped _ _ hIdles | idle _ _ hIdles =>
    obtain ⟨other, hAsked, hHeld⟩ := hIdles.reported e he
    cases hRequest.symm.trans hAsked
    exact hHeld

/-! ## Clients that are gone -/

/-- From a stage on, moves leave a client alone: it is not in the slot afterwards, none of them starts it
or asks it to stop, and none hands it a request. -/
structure LeavesAlone (x : Surroundings) (client : Nat) (g : Stage) (moves : List Move) : Prop where
  slot : (g.playAll x moves).session.extension.slot ≠ some client
  started : client ∉ collect x startedBy g moves
  stopped : (g.playAll x moves).session.core.stopped.count client =
    g.session.core.stopped.count client
  requested : (g.playAll x moves).session.requested.count client =
    g.session.requested.count client

/-- A client has started and is not held any more. -/
structure Gone (client : Nat) (g : Stage) : Prop where
  orderly : g.Orderly
  started : ∃ started displaced, g.Sound started displaced ∧ client ∈ started
  slot : g.session.extension.slot ≠ some client

theorem Gone.not_startedBy (h : Gone client g) (m : Move) : g.startedBy m ≠ some client := by
  obtain ⟨started, displaced, hSound, hStarted⟩ := h.started
  exact hSound.startedBy_ne hStarted m

theorem Gone.play (h : Gone client g) (x : Surroundings) (m : Move) : Gone client (g.play x m) := by
  obtain ⟨started, displaced, hSound, hStarted⟩ := h.started
  refine ⟨h.orderly.play x m, ?_, ?_⟩
  · exact ⟨_, _, hSound.play m, List.mem_append_left _ hStarted⟩
  · intro hSlot
    rcases (queues_play x g m).slot client hSlot with hBefore | hNow
    · exact h.slot hBefore
    · exact h.not_startedBy m hNow

theorem Gone.count_stopped_play (h : Gone client g) (x : Surroundings) (m : Move) :
    (g.play x m).session.core.stopped.count client = g.session.core.stopped.count client := by
  obtain ⟨taken, hTaken, hHeld⟩ := stopped_play x g m
  rw [hTaken, List.count_append]
  refine Nat.add_eq_left.mpr (List.count_eq_zero_of_not_mem fun hMem => ?_)
  rcases hHeld client hMem with hSlot | hStarted
  · exact h.slot hSlot
  · exact h.not_startedBy m hStarted

theorem Gone.count_requested_play (h : Gone client g) (x : Surroundings) (m : Move) :
    (g.play x m).session.requested.count client = g.session.requested.count client := by
  unfold Session.requested
  rw [records_play h.orderly x m, List.filterMap_append, List.count_append]
  refine Nat.add_eq_left.mpr (List.count_eq_zero_of_not_mem fun hMem => ?_)
  obtain ⟨e, he, hRequest⟩ := List.mem_filterMap.mp hMem
  exact h.slot (held_of_request h.orderly he hRequest)

theorem Gone.leavesAlone (h : Gone client g) (x : Surroundings) (moves : List Move) :
    LeavesAlone x client g moves := by
  induction moves generalizing g with
  | nil => exact ⟨h.slot, List.not_mem_nil, rfl, rfl⟩
  | cons m moves ih =>
    have hRest := ih (h.play x m)
    refine ⟨hRest.slot, ?_, ?_, ?_⟩
    · rw [collect, List.mem_append, Option.mem_toList]
      rintro (hNow | hLater)
      · exact h.not_startedBy m hNow
      · exact hRest.started hLater
    · exact hRest.stopped.trans (h.count_stopped_play x m)
    · exact hRest.requested.trans (h.count_requested_play x m)

/-- No client is asked to stop twice in a run, and only clients are that have started in it. A client that
was held, or has just started, and is not held after a move was taken with it: whatever comes later leaves
it alone. -/
structure StoppedOnce (x : Surroundings) (s : Session) (moves : List Move) : Prop where
  once : ∀ client, (playAll x ⟨s, []⟩ moves).session.core.stopped.count client ≤ 1
  started : ∀ client ∈ (playAll x ⟨s, []⟩ moves).session.core.stopped,
    client ∈ collect x startedBy ⟨s, []⟩ moves
  taken : ∀ first m later, moves = first ++ m :: later → ∀ client,
    ((playAll x ⟨s, []⟩ first).session.extension.slot = some client ∨
      (playAll x ⟨s, []⟩ first).startedBy m = some client) →
    ((playAll x ⟨s, []⟩ first).play x m).session.extension.slot ≠ some client →
    LeavesAlone x client ((playAll x ⟨s, []⟩ first).play x m) later

/-- **Each client is stopped at most once**, and one that was taken does not come back. -/
theorem stoppedOnce_playAll (x : Surroundings) {s : Session} (hPristine : s.Pristine)
    (moves : List Move) : StoppedOnce x s moves := by
  refine ⟨?_, started_of_stopped x hPristine.toFresh moves, ?_⟩
  · exact (sound_playAll x hPristine.toFresh moves).count_stopped_le_one
  · rintro first m later - client hOwned hTaken
    have hSound := sound_playAll x hPristine.toFresh first
    have hOrderly : (playAll x ⟨s, []⟩ first).Orderly :=
      Arises.orderly ⟨s, first, hPristine, rfl⟩
    have hGone : Gone client ((playAll x ⟨s, []⟩ first).play x m) := by
      refine ⟨hOrderly.play x m, ⟨_, _, hSound.play m, ?_⟩, hTaken⟩
      rcases hOwned with hHeld | hStarted
      · exact List.mem_append_left _ (hSound.heldStarted client hHeld)
      · exact List.mem_append_right _ (Option.mem_toList.mpr hStarted)
    exact hGone.leavesAlone x later

/-- The server formats a document and is restarted; two deactivations come while it stops, the restart is
overtaken, and a new activation starts another client that formats the document. -/
def contended : List Move :=
  [.activate, .reply 0 Wait.goodReply, .reply 0 Wait.goodReply, .openEditor {},
    .invoke 0 Command.formatWithServer 0, .restart, .deactivate, .deactivate,
    .reply 0 Wait.goodReply, .reply 0 Wait.goodReply, .activate, .reply 0 Wait.goodReply,
    .reply 0 Wait.goodReply, .invoke 0 Command.formatWithServer 0]

theorem stoppedOnce_contended :
    StoppedOnce .plain .scripted contended ∧
      (playAll .plain ⟨.scripted, []⟩ contended).session.core.stopped = [0] ∧
      (playAll .plain ⟨.scripted, []⟩ contended).session.requested = [0, 1] ∧
      (playAll .plain ⟨.scripted, []⟩ contended).session.extension.slot = some 1 :=
  ⟨stoppedOnce_playAll .plain Session.pristine_scripted contended, by decide +kernel,
    by decide +kernel, by decide +kernel⟩

end Stage

end ExtensionHost
