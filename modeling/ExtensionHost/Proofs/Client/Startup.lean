import ExtensionHost.Proofs.Client.Stages
import ExtensionHost.Proofs.Client.Termination

/-!
# A start and the end of its server

A client is started once, and anything else happens in any order. `Course` says where the start has come to,
how the client then stands, and what the other calls do meanwhile; a move keeps it (`Course.play`).
`start_agrees` draws the conclusion: what the start ended with and what the listeners were told agree.
-/

namespace ExtensionHost.Client

variable {x : Setup} {c d : Client} {p q : Point} {listeners : Listeners Nat} {stops : List Nat}

/-! ## All calls together -/

/-- When the client is called, the calls before stay where they are. -/
theorem call_made {op : Operation} {k : Nat} (h : (c.calls ++ [Point.begin op])[k]? = some p) :
    c.calls[k]? = some p ∨ k = c.calls.length ∧ p = .begin op := by
  rcases Nat.lt_trichotomy k c.calls.length with hOld | hNew | hNone
  · exact .inl ((List.getElem?_append_left hOld).symm.trans h)
  · subst hNew
    exact .inr ⟨rfl, by simpa using h.symm⟩
  · have hLength := (List.getElem?_eq_some_iff.mp h).1
    simp at hLength
    omega

/-- A call is neither about to begin nor over. -/
def Point.UnderWay (p : Point) : Prop := (∀ op, p ≠ .begin op) ∧ ∀ r, p ≠ .over r

/-- What a call may do beside a start that has come to a stage: it is a stop or a request, it is under way
only if the start has ended well, and a stop then has moved the client out of the ready state. -/
structure Beside (stops : List Nat) (s : Stage) (p : Point) : Prop where
  errand : (∃ r, p = .over r) ∨ p.errand? = some .stop ∨ p.errand? = some .request
  late : p.UnderWay → s = .running ∧ (p.errand? = some .stop → stops ≠ [])

theorem beside_over (stops : List Nat) (s : Stage) (r : Response) : Beside stops s (.over r) :=
  ⟨.inl ⟨r, rfl⟩, fun h => absurd rfl (h.2 r)⟩

theorem beside_begin (stops : List Nat) (s : Stage) {op : Operation} (hOp : op ≠ .start) :
    Beside stops s (.begin op) := by
  refine ⟨.inr ?_, fun h => absurd rfl (h.1 op)⟩
  cases op with
  | start => exact absurd rfl hOp
  | stop => exact .inl rfl
  | request => exact .inr rfl

theorem Beside.more {s : Stage} (h : Beside stops s q) (more : List Nat) :
    Beside (stops ++ more) s q := by
  refine ⟨h.errand, fun hUnderWay => ?_⟩
  obtain ⟨hRunning, hStop⟩ := h.late hUnderWay
  exact ⟨hRunning, fun hErrand => List.append_ne_nil_of_left_ne_nil (hStop hErrand) more⟩

/-- While a start is under way, no other call is. -/
theorem Beside.restage {s s' : Stage} (h : Beside stops s q) (hs : s ≠ .running) : Beside stops s' q :=
  ⟨h.errand, fun hUnderWay => absurd (h.late hUnderWay).1 hs⟩

theorem stage_ne_running (h : p.errand? = some .start) : p.stage ≠ .running := by
  intro hRunning
  unfold Point.stage at hRunning
  split at hRunning <;> cases hRunning
  cases h

theorem Beside.advances {s : Stage} {k : Nat} (h : Beside stops s p)
    (hStands : Stands listeners stops c.posture s) (hAdvances : Advances x c p d q)
    (hCall : c.calls[k]? = some p) : Beside (stops ++ stopsBy c (.goOn k)) s q := by
  rcases errand?_advances hAdvances with hSame | ⟨r, rfl⟩
  · refine ⟨.inr ?_, fun hUnderWay => ?_⟩
    · rw [hSame]
      exact h.errand.resolve_left hAdvances.not_over
    · by_cases hBegin : ∃ op, p = .begin op
      · obtain ⟨op, rfl⟩ := hBegin
        cases hAdvances with
        | stopBegun hReady =>
          refine ⟨hStands.running_of_ready hReady, fun _ => ?_⟩
          simp [stopsBy, hCall, hReady]
        | requestBegun _ _ hReady => exact ⟨hStands.running_of_ready hReady, fun hStop => by cases hStop⟩
        | startBegun => rcases h.errand with ⟨r, hOver⟩ | hStop | hRequest <;> contradiction
        | startPassed | stopPassed | requestRefused => cases hSame
      · have hBefore : p.UnderWay :=
          ⟨fun op hOp => hBegin ⟨op, hOp⟩, fun r hr => hAdvances.not_over ⟨r, hr⟩⟩
        exact hSame ▸ (h.more _).late hBefore
  · exact beside_over _ _ r

/-- The only start of a client, which is the call with a number and stands at a point, and the calls beside
it. -/
structure Course (listeners : Listeners Nat) (stops : List Nat) (k : Nat) (p : Point) (c : Client) :
    Prop where
  call : c.calls[k]? = some p
  errand : (∃ r, p = .over r) ∨ p.errand? = some .start
  stands : Stands listeners stops c.posture p.stage
  others : ∀ (j : Nat) (q : Point), j ≠ k → c.calls[j]? = some q → Beside stops p.stage q

variable {j k : Nat} {start : Point}

theorem Course.of_quiet (h : Course listeners stops k start c) (hPosture : d.posture = c.posture)
    (hCalls : d.calls = c.calls) : Course listeners stops k start d :=
  ⟨hCalls ▸ h.call, h.errand, hPosture ▸ h.stands, hCalls ▸ h.others⟩

theorem Course.of_silent {m : Move} (h : Course listeners stops k start d) (hSilent : stopsBy c m = []) :
    Course listeners (stops ++ stopsBy c m) k start d := by
  rwa [hSilent, List.append_nil]

theorem Course.startMoved (h : Course listeners stops k start c) (hErrand : start.errand? = some .start)
    (hCalls : d.calls = c.calls) (hNext : (∃ r, q = .over r) ∨ q.errand? = some .start)
    (hNow : Stands listeners stops d.posture q.stage) :
    Course listeners stops k q (d.moveCall k q) := by
  have hMoved : ∀ i : Nat, (d.moveCall k q).calls[i]? = if k = i then some q else c.calls[i]? := by
    intro i
    rw [call_moveCall d (hCalls ▸ h.call), hCalls]
  refine ⟨(hMoved k).trans (if_pos rfl), hNext, hNow, fun i other hi hOther => ?_⟩
  rw [hMoved, if_neg (Ne.symm hi)] at hOther
  exact (h.others i other hi hOther).restage (stage_ne_running hErrand)

theorem Course.otherMoved {more : List Nat} (h : Course listeners stops k start c)
    (hCall : c.calls[j]? = some p) (hj : j ≠ k) (hCalls : d.calls = c.calls)
    (hNow : Stands listeners (stops ++ more) d.posture start.stage)
    (hBeside : Beside (stops ++ more) start.stage q) :
    Course listeners (stops ++ more) k start (d.moveCall j q) := by
  have hMoved : ∀ i : Nat, (d.moveCall j q).calls[i]? = if j = i then some q else c.calls[i]? := by
    intro i
    rw [call_moveCall d (hCalls ▸ hCall), hCalls]
  refine ⟨(hMoved k).trans ((if_neg hj).trans h.call), h.errand, hNow, fun i other hi hOther => ?_⟩
  rw [hMoved] at hOther
  split at hOther
  · cases hOther
    exact hBeside
  · exact (h.others i other hi hOther).more more

theorem Course.advances (h : Course listeners stops k start c) (hAttended : Attended c)
    (hCall : c.calls[j]? = some p) (hAdvances : Advances x c p d q) :
    ∃ next, Course listeners (stops ++ stopsBy c (.goOn j)) k next (d.moveCall j q) := by
  have hCalls := calls_advances hAdvances
  have hNotOver := hAdvances.not_over
  by_cases hj : j = k
  · subst hj
    cases h.call.symm.trans hCall
    have hErrand := h.errand.resolve_left hNotOver
    have hNone : stopsBy c (.goOn j) = [] := by
      refine stopsBy_of_call hCall (.inl ?_)
      rintro rfl
      cases hErrand
    have hNow : Stands listeners stops d.posture q.stage :=
      stands_advances (fun r hr => (hAttended.idle j r (hr ▸ hCall)).1) hErrand h.stands hAdvances
    have hNext : (∃ r, q = .over r) ∨ q.errand? = some .start :=
      (errand?_advances hAdvances).elim (fun hSame => .inr (hSame.trans hErrand)) .inl
    exact ⟨q, (h.startMoved hErrand hCalls hNext hNow).of_silent hNone⟩
  · have hBeside := h.others j p hj hCall
    have hNow : Stands listeners (stops ++ stopsBy c (.goOn j)) d.posture start.stage := by
      refine stands_others (hBeside.errand.resolve_left hNotOver) (fun hBegin hStop => ?_) h.stands
        hAdvances hCall
      obtain ⟨hRunning, hSome⟩ := hBeside.late ⟨hBegin, fun r hr => hNotOver ⟨r, hr⟩⟩
      exact ⟨hRunning, hSome hStop⟩
    exact ⟨start, h.otherMoved hCall hj hCalls hNow (hBeside.advances h.stands hAdvances hCall)⟩

theorem Course.expires (h : Course listeners stops k start c) (hCall : c.calls[j]? = some p)
    (hExpires : Expires c j p d) : ∃ next, Course listeners stops k next d := by
  cases hExpires with
  | process a r => exact ⟨start, h.of_quiet (posture_modifyRun c r fun _ => rfl) rfl⟩
  | request purpose id log hResponse =>
    have hWaiting : (Point.waiting purpose id).UnderWay := ⟨(fun _ h => nomatch h), (fun _ h => nomatch h)⟩
    have hNotOver : ¬ ∃ r, Point.waiting purpose id = .over r := fun ⟨r, hOver⟩ => hWaiting.2 r hOver
    by_cases hj : j = k
    · subst hj
      cases h.call.symm.trans hCall
      have hErrand := h.errand.resolve_left hNotOver
      -- A start waits for one response only, and fails without it.
      cases purpose with
      | handshake => exact ⟨_, h.startMoved hErrand rfl (.inr rfl) (h.stands.fail (.inr rfl))⟩
      | shutdown | call => cases hErrand
    · have hBeside := h.others j _ hj hCall
      have hNext : Beside (stops ++ []) start.stage
          (afterRequest purpose (.error (timedOut purpose.method))) := by
        rcases errand?_afterRequest purpose (.error (timedOut purpose.method)) with hKept | ⟨r, hOver⟩
        · refine Beside.more ⟨.inr ?_, fun _ => ?_⟩ []
          · rw [hKept]
            exact hBeside.errand.resolve_left hNotOver
          · rw [hKept]
            exact hBeside.late hWaiting
        · rw [hOver]
          exact beside_over _ _ r
      have hNow : Stands listeners (stops ++ []) c.posture start.stage := by
        rw [List.append_nil]
        exact h.stands
      have hCourse := h.otherMoved (d := { c.unregister id with log }) hCall hj rfl hNow hNext
      rw [List.append_nil] at hCourse
      exact ⟨start, hCourse⟩

theorem Course.play {m : Move} (h : Course listeners stops k start c) (hAttended : Attended c)
    (hListeners : c.didStop = listeners) (hMove : m ≠ .call .start) :
    ∃ next, Course listeners (stops ++ stopsBy c m) k next (c.play x m) := by
  have hPlays := plays_play x c m
  generalize c.play x m = d at hPlays ⊢
  cases hPlays with
  | nothing m hNone =>
    refine ⟨start, h.of_silent ?_⟩
    cases m with
    | goOn j =>
      cases hCall : c.calls[j]? with
      | none => simp only [stopsBy, hCall]
      | some p =>
        refine stopsBy_of_call hCall (.inl ?_)
        rintro rfl
        simp [play?, stepCall, hCall, stepPoint] at hNone
    | _ => rfl
  | called op =>
    have hk : k < c.calls.length := (List.getElem?_eq_some_iff.mp h.call).1
    have hNew : Beside stops start.stage (.begin op) :=
      beside_begin stops start.stage fun hStart => hMove (hStart ▸ rfl)
    have hCourse : Course listeners stops k start { c with calls := c.calls ++ [.begin op] } := by
      refine ⟨(List.getElem?_append_left hk).trans h.call, h.errand, h.stands, fun i q hi hq => ?_⟩
      rcases call_made hq with hOld | ⟨-, rfl⟩
      · exact h.others i q hi hOld
      · exact hNew
    exact ⟨start, hCourse.of_silent rfl⟩
  | advanced hCall hAdvances => exact h.advances hAttended hCall hAdvances
  | expired hCall hExpires =>
    obtain ⟨next, hNext⟩ := h.expires hCall hExpires
    exact ⟨next, hNext.of_silent rfl⟩
  | wrote hRun hWrites =>
    exact ⟨start, (h.of_quiet (posture_writes hWrites) (calls_writes hWrites)).of_silent rfl⟩
  | read hRun hReads =>
    obtain rfl := run_eq hRun
    have hCalls := calls_reads hReads
    have hCourse : Course listeners stops k start d :=
      ⟨hCalls ▸ h.call, h.errand, stands_reads (lt_of_run hRun) hListeners h.stands hReads,
        hCalls ▸ h.others⟩
    exact ⟨start, hCourse.of_silent rfl⟩
  | served r bytes =>
    refine ⟨start, Course.of_silent ?_ rfl⟩
    exact h.of_quiet (posture_modifyRun c r fun y => by split <;> rfl) rfl
  | outputClosed r | exited r =>
    refine ⟨start, Course.of_silent ?_ rfl⟩
    exact h.of_quiet (posture_modifyRun c r fun _ => rfl) rfl

theorem Course.playAll {moves : List Move} (h : Course listeners stops k start c)
    (hAttended : Attended c) (hListeners : c.didStop = listeners) (hMoves : Move.call .start ∉ moves) :
    ∃ next, Course listeners (stops ++ stopsOf x c moves) k next (c.playAll x moves) := by
  induction moves generalizing c stops start with
  | nil => exact ⟨start, (List.append_nil stops).symm ▸ h⟩
  | cons m moves ih =>
    rw [List.mem_cons, not_or] at hMoves
    obtain ⟨next, hNext⟩ := h.play (x := x) hAttended hListeners (Ne.symm hMoves.1)
    rw [stopsOf, collect, ← List.append_assoc, playAll_cons]
    exact ih hNext hAttended.play ((didStop_play x c m).trans hListeners) hMoves.2

/-! ## Before the start -/

/-- A client that was never started: each of its calls is a stop or a request that was not begun, or is
over. -/
structure Dormant (c : Client) : Prop where
  status : c.status = .notInitialized
  runs : c.runs = []
  notified : c.notified = []
  calls : ∀ (k : Nat) (p : Point), c.calls[k]? = some p →
    (∃ r, p = .over r) ∨ ∃ op, p = .begin op ∧ op ≠ .start

theorem Dormant.stopsBy_eq_nil (h : Dormant c) (m : Move) : stopsBy c m = [] := by
  cases m with
  | goOn k =>
    cases hCall : c.calls[k]? with
    | none => simp only [stopsBy, hCall]
    | some p => exact stopsBy_of_call hCall (.inr (by simp [h.status]))
  | _ => rfl

theorem Dormant.play {m : Move} (h : Dormant c) (hMove : m ≠ .call .start) : Dormant (c.play x m) := by
  have hNoRun : ∀ r : Nat, c.runs[r]? = none := by simp [h.runs]
  have hModify : ∀ r f, Dormant (c.modifyRun r f) := fun r f =>
    ⟨h.status, by simp [modifyRun, h.runs], h.notified, h.calls⟩
  have hPlays := plays_play x c m
  generalize c.play x m = d at hPlays ⊢
  cases hPlays with
  | nothing => exact h
  | called op =>
    refine ⟨h.status, h.runs, h.notified, fun k p hk => ?_⟩
    rcases call_made hk with hOld | ⟨-, rfl⟩
    · exact h.calls k p hOld
    · exact .inr ⟨op, rfl, fun hStart => hMove (hStart ▸ rfl)⟩
  | @advanced j p q d hCall hAdvances =>
    have hOver : d = c ∧ ∃ r, q = .over r := by
      rcases h.calls j p hCall with ⟨r, rfl⟩ | ⟨op, rfl, hOp⟩
      · cases hAdvances
      · cases hAdvances with
        | startBegun | startPassed => exact absurd rfl hOp
        | stopBegun hReady | requestBegun _ _ hReady => cases h.status.symm.trans hReady
        | stopPassed | requestRefused => exact ⟨rfl, _, rfl⟩
    obtain ⟨rfl, r, rfl⟩ := hOver
    refine ⟨h.status, h.runs, h.notified, fun k p' hk => ?_⟩
    rw [call_moveCall d hCall] at hk
    split at hk
    · exact .inl ⟨r, (Option.some.inj hk).symm⟩
    · exact h.calls k p' hk
  | expired hCall hExpires =>
    rcases h.calls _ _ hCall with ⟨r, rfl⟩ | ⟨op, rfl, -⟩ <;> cases hExpires
  | wrote hRun | read hRun => cases (hNoRun _).symm.trans hRun
  | served | outputClosed | exited => exact hModify _ _

theorem Dormant.playAll {moves : List Move} (h : Dormant c) (hMoves : Move.call .start ∉ moves) :
    Dormant (c.playAll x moves) ∧ stopsOf x c moves = [] := by
  induction moves generalizing c with
  | nil => exact ⟨h, rfl⟩
  | cons m moves ih =>
    rw [List.mem_cons, not_or] at hMoves
    obtain ⟨hRest, hStops⟩ := ih (h.play (x := x) (Ne.symm hMoves.1)) hMoves.2
    refine ⟨hRest, ?_⟩
    rw [stopsOf, collect, h.stopsBy_eq_nil, List.nil_append]
    exact hStops

/-- The course of a start begins when the client is called. -/
theorem Dormant.course (h : Dormant c) :
    Course listeners [] c.calls.length (.begin .start) (c.play x (.call .start)) := by
  have hCalls : (c.play x (.call .start)).calls = c.calls ++ [.begin .start] := rfl
  have hRuns : (c.play x (.call .start)).runs = [] := h.runs
  refine ⟨by simp [hCalls], .inr rfl, .asked h.status (congrArg List.length hRuns) h.notified rfl,
    fun j q hj hq => ?_⟩
  rw [hCalls] at hq
  rcases call_made hq with hOld | ⟨hNew, -⟩
  · rcases h.calls j q hOld with ⟨r, rfl⟩ | ⟨op, rfl, hOp⟩
    · exact beside_over _ _ r
    · exact beside_begin _ _ hOp
  · exact absurd hNew hj

/-! ## The whole -/

/-- The listeners were told once that the server stopped. -/
def ToldOnce (listeners : Listeners Nat) (c : Client) : Prop :=
  ∃ reason, c.notified = listeners.snapshot.map fun n => (n, reason)

theorem course_playAll {before after : List Move} (hBefore : Move.call .start ∉ before)
    (hAfter : Move.call .start ∉ after) :
    let moves := before ++ .call .start :: after
    ∃ p, Course listeners (stopsOf x (fresh listeners) moves)
      ((fresh listeners).playAll x before).calls.length p ((fresh listeners).playAll x moves) := by
  have hFresh : Dormant (fresh listeners) := ⟨rfl, rfl, rfl, fun _ _ h => nomatch h⟩
  obtain ⟨hDormant, hStops⟩ := hFresh.playAll (x := x) hBefore
  have hAttended := attended_playAll (x := x) (attended_fresh listeners) before
  have hBegun : Course listeners [] ((fresh listeners).playAll x before).calls.length (.begin .start)
      (((fresh listeners).playAll x before).play x (.call .start)) := hDormant.course
  obtain ⟨p, hCourse⟩ := hBegun.playAll (x := x) hAttended.play
    ((didStop_play x _ _).trans (didStop_playAll x _ before)) hAfter
  intro moves
  refine ⟨p, ?_⟩
  rw [stopsOf, collect_append, ← stopsOf, hStops, List.nil_append, collect, hDormant.stopsBy_eq_nil,
    playAll_append, playAll_cons]
  exact hCourse

/-- **The start of a client and the end of its server agree.** The client is started once, by one of its
calls, and anything else happens in any order: stops and requests, steps of the reader and the writer, frames
of the server or other bytes, and the end of its output. Then

* a start that has failed leaves the client not initialized, and no listener was told anything;
* after a start that went well each listener was told once, if the reader has ended and no stop has moved the
  client out of the ready state, and none was told anything otherwise;
* until the start is over no listener was told anything;
* there is one run at most, and a client whose reader has ended is not ready;
* if the start went well, no stop has moved the client and the output has ended, then turns of the reader and
  its writer bring the reader to its end, and each listener was told once. What the server wrote may be
  frames that are cut off anywhere (`Rpc.stop_ne_tooLarge_of_frames`), or anything else that is no header
  announcing more than memory is asked for. -/
theorem start_agrees (x : Setup) (listeners : Listeners Nat) (before after : List Move)
    (hBefore : Move.call .start ∉ before) (hAfter : Move.call .start ∉ after) :
    let moves := before ++ .call .start :: after
    let c := (fresh listeners).playAll x moves
    let start := ((fresh listeners).playAll x before).calls.length
    let stops := stopsOf x (fresh listeners) moves
    (∀ e, c.result? start = some (.error e) → c.status = .notInitialized ∧ c.notified = []) ∧
    (∀ v, c.result? start = some (.ok v) →
      ((c.run 0).reader = .ended ∧ stops = [] → c.status = .crashed ∧ ToldOnce listeners c) ∧
      (¬ ((c.run 0).reader = .ended ∧ stops = []) → c.notified = [])) ∧
    (c.result? start = none → c.notified = []) ∧
    (c.runs.length ≤ 1 ∧ ((c.run 0).reader = .ended → c.status ≠ .ready)) ∧
    (∀ v, c.result? start = some (.ok v) → stops = [] → (c.run 0).outputOpen = false →
      (Rpc.readAll (served x 0 (fresh listeners) moves)).stop ≠ .tooLarge →
      ∃ n, let d := c.playAll x (turns 0 n)
        (d.run 0).reader = .ended ∧ d.status = .crashed ∧ ToldOnce listeners d) := by
  intro moves c start stops
  obtain ⟨p, hCall, hErrand, hStands, -⟩ : ∃ p, Course listeners stops start p c :=
    course_playAll hBefore hAfter
  have hResult : ∀ r, c.result? start = some r → p = .over r := by
    intro r hr
    rw [result?, hCall] at hr
    split at hr
    · rename_i r' hOver
      cases hr
      exact Option.some.inj hOver
    · cases hr
  refine ⟨fun e he => ?_, fun v hv => ?_, fun hNone => ?_, ⟨hStands.runs_le, hStands.not_ready⟩,
    fun v hv hStops hClosed hFits => ?_⟩
  · cases hResult _ he
    cases hStands with
    | failed hStatus _ hNotified => exact ⟨hStatus, hNotified⟩
  · cases hResult _ hv
    cases hStands with
    | ready hStatus _ _ hReader hNotified _ => exact ⟨fun h => absurd h.1 hReader, fun _ => hNotified⟩
    | crashed hStatus _ hEnded reason hNotified hStops =>
      exact ⟨fun _ => ⟨hStatus, reason, hNotified⟩, fun h => absurd ⟨hEnded, hStops⟩ h⟩
    | stopped _ _ hNotified hStops => exact ⟨fun h => absurd h.2 hStops, fun _ => hNotified⟩
  · refine hStands.notified_eq_nil ?_
    rcases hErrand with ⟨r, rfl⟩ | hErrand
    · simp [result?, hCall] at hNone
    · exact stage_ne_running hErrand
  · cases hResult _ hv
    cases hStands with
    | crashed hStatus _ hEnded reason hNotified => exact ⟨0, hEnded, hStatus, reason, hNotified⟩
    | stopped _ _ _ hSome => exact absurd hStops hSome
    | ready hStatus hRuns hBegun hReader hNotified =>
      -- The reader is on its way; only a header that announces too much could break it off.
      have hForetold := foretold_playAll (x := x) listeners moves 0
      have hWhole : ¬ (c.run 0).breaks [] := by
        rw [hForetold [] fun _ => rfl, List.append_nil]
        exact hFits
      have hRun : 0 < c.runs.length := Nat.lt_of_lt_of_eq Nat.one_pos hRuns.symm
      obtain ⟨n, reason, hEnded, hStanding⟩ := turns_ended x hRun hBegun hReader hClosed hWhole
      have hListeners : c.standing.didStop = listeners := didStop_playAll x (fresh listeners) moves
      refine ⟨n, hEnded, (congrArg Standing.status hStanding).trans ?_, reason,
        (congrArg Standing.notified hStanding).trans ?_⟩
      · simp only [posture] at hStatus
        simp only [Standing.afterEnd, hStatus]
      · simp only [posture] at hStatus hNotified
        simp only [Standing.afterEnd, hStatus, hNotified, hListeners, List.nil_append]

/-- A client that has started tells its listeners once of the end of a server that was cut short. -/
theorem start_agrees_cutShort :
    let c := (fresh listener).playAll .plain cutShort
    Move.call .start ∉ cutShort.tail ∧ (∃ v, c.result? 0 = some (.ok v)) ∧
      stopsOf .plain (fresh listener) cutShort = [] ∧ c.notified = [] ∧
      ∃ n, let d := c.playAll .plain (turns 0 n)
        (d.run 0).reader = .ended ∧ d.status = .crashed ∧ ToldOnce listener d := by
  have hOnce : Move.call .start ∉ cutShort.tail := by simp [cutShort, lastWords, running]
  have hOver : (((fresh listener).playAll .plain cutShort).result? 0).any Except.isOk = true := by
    decide +kernel
  obtain ⟨v, hStart⟩ : ∃ v, ((fresh listener).playAll .plain cutShort).result? 0 = some (.ok v) := by
    obtain ⟨r, hResult, hOk⟩ := (Option.any_eq_true _ _).mp hOver
    cases r with
    | error e => cases hOk
    | ok v => exact ⟨v, hResult⟩
  have hStops : stopsOf .plain (fresh listener) cutShort = [] := by decide +kernel
  have hClosed : (((fresh listener).playAll .plain cutShort).run 0).outputOpen = false := by
    decide +kernel
  have hReader : (((fresh listener).playAll .plain cutShort).run 0).reader = .reading := by
    decide +kernel
  have hFrames : served .plain 0 (fresh listener) cutShort <+:
      Rpc.frames ["\x7b\"id\":0\x7d", "7777777"] := by decide +kernel
  have hFits := Rpc.stop_ne_tooLarge_of_frames (by decide +kernel) hFrames
  obtain ⟨-, hOk, -, -, hEnds⟩ := start_agrees .plain listener [] cutShort.tail (by simp) hOnce
  obtain ⟨-, hQuiet⟩ := hOk v hStart
  exact ⟨hOnce, ⟨v, hStart⟩, hStops, hQuiet (fun h => nomatch hReader.symm.trans h.1),
    hEnds v hStart hStops hClosed hFits⟩

end ExtensionHost.Client
