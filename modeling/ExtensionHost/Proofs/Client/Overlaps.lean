import ExtensionHost.Proofs.Client.Startup

/-!
# Starts and stops that overlap

A start that finds the client starting, ready or stopping goes well at once, and so does a stop that finds it
not ready. So a start may go well although the client was not ready meanwhile (`not_meansReady`), and a
client that is being started may become ready after a stop that went well (`not_meansStopped`).

What holds is this: a start that went well at its first step found the client in one of these three states,
and any other made the client ready by its last step (`start_wentWell`). From the first step of a stop on the
client is not ready, if no start is under way then and none is made later (`stop_lasts`).
-/

namespace ExtensionHost.Client

variable {x : Setup} {c d : Client} {p q : Point} {k : Nat}

/-! ## Starts -/

/-- How a step lets a start go well: it is the first one and leaves the client as it is, or it makes the
client ready. -/
inductive WentWell (c : Client) (p : Point) (d : Client) : Prop where
  | passed (hFirst : p = .begin .start) (hSame : d.status = c.status)
      (hStatus : c.status = .initializing ∨ c.status = .ready ∨ c.status = .shuttingDown)
  | reached (hBefore : c.status = .initializing) (hAfter : d.status = .ready)

theorem wentWell_advances {v : Json} (h : Advances x c p d q) (hStart : p.errand? = some .start)
    (hOver : q = .over (.ok v)) : WentWell c p d := by
  cases h with
  | startPassed hStatus => exact .passed rfl rfl hStatus
  | becameReady hStatus => exact .reached hStatus rfl
  | stopPassed => cases hStart
  | statusSet status r =>
    obtain ⟨-, e, rfl⟩ := setStatus_of_start hStart
    cases hOver
  | nothingToClear a | processEnded a => cases a <;> cases hOver
  | unsent p | sendFailed p => cases p <;> cases hOver
  | answered p id r =>
    cases p with
    | handshake => cases r <;> cases hOver
    | shutdown | call => cases hStart
  | unnotified n | noticeFailed n | noticeSent n => cases n <;> cases hOver
  | _ => cases hOver

theorem call_over_play {r : Response} (h : c.calls[k]? = some (.over r)) (m : Move) :
    (c.play x m).calls[k]? = some (.over r) := by
  have hFollows := follows_play x c m k
  generalize c.play x m = d at hFollows ⊢
  cases hFollows with
  | stayed _ _ hNow => exact hNow.trans h
  | made _ _ hk =>
    rw [hk, List.getElem?_eq_none (Nat.le_refl _)] at h
    cases h
  | advanced hCall hAdvances =>
    cases h.symm.trans hCall
    cases hAdvances
  | expired _ hCall => cases h.symm.trans hCall

/-- **A move keeps a start under way, or ends it**: with a failure, or well. -/
theorem start_play (hCall : c.calls[k]? = some p) (hStart : p.errand? = some .start) (m : Move) :
    ∃ q, (c.play x m).calls[k]? = some q ∧
      (q.errand? = some .start ∨ (∃ e, q = .over (.error e)) ∨
        m = .goOn k ∧ (∃ v, q = .over (.ok v)) ∧ WentWell c p (c.play x m)) := by
  have hFollows := follows_play x c m k
  generalize c.play x m = d at hFollows ⊢
  cases hFollows with
  | stayed _ _ hNow => exact ⟨p, hNow.trans hCall, .inl hStart⟩
  | made _ _ hk =>
    rw [hk, List.getElem?_eq_none (Nat.le_refl _)] at hCall
    cases hCall
  | @advanced p' q d hCall' hAdvances hNow =>
    cases hCall.symm.trans hCall'
    refine ⟨q, hNow, ?_⟩
    rcases errand?_advances hAdvances with hSame | ⟨r, rfl⟩
    · exact .inl (hSame.trans hStart)
    · cases r with
      | error e => exact .inr (.inl ⟨e, rfl⟩)
      | ok v =>
        have hWell : WentWell c p (d.moveCall k (.over (.ok v))) := by
          cases wentWell_advances hAdvances hStart rfl with
          | passed hFirst hSame hStatus => exact .passed hFirst hSame hStatus
          | reached hBefore hAfter => exact .reached hBefore hAfter
        exact .inr (.inr ⟨rfl, ⟨v, rfl⟩, hWell⟩)
  | @expired purpose id _ hCall' hResponse hNow =>
    cases hCall.symm.trans hCall'
    refine ⟨_, hNow, .inl ?_⟩
    cases purpose with
    | handshake => rfl
    | shutdown | call => cases hStart

/-- A start of a client that some moves were made with: it is under way, it failed, or one of them let it go
well. -/
inductive Started (x : Setup) (c : Client) (k : Nat) (moves : List Move) : Point → Prop where
  | underWay (p : Point) (hErrand : p.errand? = some .start) : Started x c k moves p
  | failed (e : HostError) : Started x c k moves (.over (.error e))
  | wentWell (v : Json) (first second : List Move) (p : Point) (hMoves : moves = first ++ .goOn k :: second)
      (hCall : (c.playAll x first).calls[k]? = some p)
      (hWell : WentWell (c.playAll x first) p ((c.playAll x first).play x (.goOn k))) :
      Started x c k moves (.over (.ok v))

/-- What moves come to for a start. -/
theorem started_playAll (hCall : c.calls[k]? = some p) (hStart : p.errand? = some .start)
    (moves : List Move) :
    ∃ q, (c.playAll x moves).calls[k]? = some q ∧ Started x c k moves q := by
  induction moves using List.reverseRecOn with
  | nil => exact ⟨p, hCall, .underWay p hStart⟩
  | append_singleton moves m ih =>
    obtain ⟨q, hNow, hStarted⟩ := ih
    rw [playAll_concat]
    cases hStarted with
    | failed e => exact ⟨_, call_over_play hNow m, .failed e⟩
    | wentWell v first second p hMoves hBefore hWell =>
      refine ⟨_, call_over_play hNow m, .wentWell v first (second ++ [m]) p ?_ hBefore hWell⟩
      rw [hMoves, List.append_assoc, List.cons_append]
    | underWay _ hErrand =>
      obtain ⟨q', hNext, hUnderWay | ⟨e, rfl⟩ | ⟨rfl, ⟨v, rfl⟩, hWell⟩⟩ :=
        start_play (x := x) hNow hErrand m
      · exact ⟨q', hNext, .underWay q' hUnderWay⟩
      · exact ⟨_, hNext, .failed e⟩
      · exact ⟨_, hNext, .wentWell v moves [] q rfl hNow hWell⟩

/-- **How a start goes well**, whatever else the client is called for meanwhile. -/
theorem start_wentWell (x : Setup) (listeners : Listeners Nat) (before after : List Move) (v : Json) :
    let c := (fresh listeners).playAll x (before ++ [.call .start])
    let k := ((fresh listeners).playAll x before).calls.length
    (c.playAll x after).result? k = some (.ok v) →
      ∃ first second p, after = first ++ .goOn k :: second ∧
        (c.playAll x first).calls[k]? = some p ∧
        WentWell (c.playAll x first) p ((c.playAll x first).play x (.goOn k)) := by
  intro c k hResult
  have hCall : c.calls[k]? = some (.begin .start) := by
    have hMade : c = ((fresh listeners).playAll x before).play x (.call .start) :=
      playAll_concat x _ before _
    rw [hMade]
    exact List.getElem?_concat_length
  obtain ⟨q, hNow, hStarted⟩ := started_playAll (x := x) hCall rfl after
  unfold result? at hResult
  rw [hNow] at hResult
  cases hStarted with
  | underWay _ hErrand =>
    split at hResult
    · rename_i hOver
      cases hOver
      cases hErrand
    · cases hResult
  | failed e => cases hResult
  | wentWell _ first second p hMoves hBefore hWell => exact ⟨first, second, p, hMoves, hBefore, hWell⟩

/-! ## Errands of all calls -/

/-- Whether a call at a point is over or on an errand of some kind. -/
def Point.Pursues (kind : Errand → Prop) (p : Point) : Prop :=
  (∃ r, p = .over r) ∨ ∃ e, p.errand? = some e ∧ kind e

/-- Whether all calls of a client are over or on errands of some kind. -/
def Pursue (kind : Errand → Prop) (c : Client) : Prop :=
  ∀ (k : Nat) (p : Point), c.calls[k]? = some p → p.Pursues kind

variable {kind : Errand → Prop}

theorem pursues_advances (h : Advances x c p d q) (hKind : p.Pursues kind) : q.Pursues kind := by
  rcases errand?_advances h with hSame | hOver
  · exact .inr (hSame ▸ hKind.resolve_left h.not_over)
  · exact .inl hOver

/-- A move keeps all calls on errands of a kind, if it makes none of another. -/
theorem Pursue.play {m : Move} (h : c.Pursue kind) (hMove : ∀ op, m = .call op → kind op.errand) :
    (c.play x m).Pursue kind := by
  intro k p hCall
  have hFollows := follows_play x c m k
  generalize c.play x m = d at hFollows hCall
  cases hFollows with
  | stayed _ _ hNow => exact h k p (hNow ▸ hCall)
  | made op _ _ hNow =>
    cases hCall.symm.trans hNow
    exact .inr ⟨op.errand, rfl, hMove op rfl⟩
  | advanced hBefore hAdvances hNow =>
    cases hCall.symm.trans hNow
    exact pursues_advances hAdvances (h k _ hBefore)
  | @expired purpose id _ hBefore _ hNow =>
    cases hCall.symm.trans hNow
    rcases errand?_afterRequest purpose (.error (timedOut purpose.method)) with hSame | hOver
    · obtain ⟨r, hOver⟩ | hErrand := h k _ hBefore
      · cases hOver
      · exact .inr (hSame ▸ hErrand)
    · exact .inl hOver

theorem Pursue.playAll {moves : List Move} (h : c.Pursue kind)
    (hMoves : ∀ op, .call op ∈ moves → kind op.errand) : (c.playAll x moves).Pursue kind := by
  induction moves generalizing c with
  | nil => exact h
  | cons m moves ih =>
    exact ih (h.play fun op hm => hMoves op (hm ▸ List.mem_cons_self))
      fun op hm => hMoves op (List.mem_cons_of_mem m hm)

theorem pursue_fresh (listeners : Listeners Nat) : (fresh listeners).Pursue kind := by
  intro k p hCall
  cases hCall

/-! ## Stops -/

/-- Without a start no step of a call makes the client ready. -/
theorem status_advances (h : Advances x c p d q) (hOther : p.Pursues (· ≠ .start))
    (hStatus : c.status ≠ .ready) : d.status ≠ .ready := by
  obtain ⟨e, hErrand, hStart⟩ := hOther.resolve_left h.not_over
  cases h with
  | startBegun | stopBegun => exact nofun
  | becameReady =>
    cases hErrand
    exact absurd rfl hStart
  | statusSet status r =>
    rintro rfl
    cases hErrand
  | _ => exact hStatus

theorem status_reads {r : Nat} {y : Run} (h : Reads x c r y d) (hStatus : c.status ≠ .ready) :
    d.status ≠ .ready := by
  cases h with
  | response body rest id result =>
    unfold complete
    split <;> exact hStatus
  | left reason =>
    change (c.leave x reason).status ≠ .ready
    unfold leave
    split
    · exact nofun
    · exact nofun
    · exact hStatus
  | _ => exact hStatus

/-- **Without a start no move makes the client ready.** -/
theorem status_play (hPursue : c.Pursue (· ≠ .start)) (hStatus : c.status ≠ .ready) (m : Move) :
    (c.play x m).status ≠ .ready := by
  have hPlays := plays_play x c m
  generalize c.play x m = d at hPlays ⊢
  cases hPlays with
  | @advanced k p q d hCall hAdvances =>
    have hNext : d.status ≠ .ready := status_advances hAdvances (hPursue k p hCall) hStatus
    exact hNext
  | read hRun hReads => exact status_reads hReads hStatus
  | wrote hRun hWrites => cases hWrites <;> exact hStatus
  | expired hCall hExpires => cases hExpires <;> exact hStatus
  | nothing | called | served | outputClosed | exited => exact hStatus

theorem status_playAll {moves : List Move} (hPursue : c.Pursue (· ≠ .start)) (hStatus : c.status ≠ .ready)
    (hMoves : .call .start ∉ moves) : (c.playAll x moves).status ≠ .ready := by
  induction moves generalizing c with
  | nil => exact hStatus
  | cons m moves ih =>
    rw [List.mem_cons, not_or] at hMoves
    refine ih (hPursue.play fun op hm => ?_) (status_play hPursue hStatus m) hMoves.2
    cases op with
    | start => exact absurd hm.symm hMoves.1
    | stop | request => exact nofun

/-- **A stop lasts.** The client is called to stop when no start is under way; then it is not ready from the
first step of the stop on, unless it is started again. -/
theorem stop_lasts (x : Setup) (listeners : Listeners Nat) (before after : List Move) (k : Nat) :
    let c := (fresh listeners).playAll x before
    c.calls[k]? = some (.begin .stop) →
      (∀ (j : Nat) (p : Point), c.calls[j]? = some p → p.errand? ≠ some .start) →
        .call .start ∉ after → ((c.play x (.goOn k)).playAll x after).status ≠ .ready := by
  intro c hStop hNone hAfter
  have hReached : c.Pursue fun _ => True :=
    Pursue.playAll (pursue_fresh listeners) fun _ _ => trivial
  have hPursue : c.Pursue (· ≠ .start) := by
    intro j p hCall
    rcases hReached j p hCall with hOver | ⟨e, hErrand, -⟩
    · exact .inl hOver
    · exact .inr ⟨e, hErrand, fun hStart => hNone j p hCall (hStart ▸ hErrand)⟩
  have hStep : c.play x (.goOn k) = c.beginCall x k .stop := by
    rw [play, play?, stepCall, hStop]
    rfl
  have hStatus : (c.play x (.goOn k)).status ≠ .ready := by
    rw [hStep]
    unfold beginCall
    dsimp only
    split
    · intro hReady
      cases hReady
    · assumption
  refine status_playAll (hPursue.play ?_) hStatus hAfter
  intro op hm
  cases hm

/-! ## What does not hold -/

theorem ok_of_any {r : Option Response} (h : r.any Except.isOk = true) : ∃ v, r = some (.ok v) := by
  obtain ⟨r, rfl, hOk⟩ := (Option.any_eq_true _ _).mp h
  cases r with
  | error e => cases hOk
  | ok v => exact ⟨v, rfl⟩

/-- A start that went well found the client ready, or the client became ready meanwhile. -/
def MeansReady : Prop :=
  ∀ (x : Setup) (listeners : Listeners Nat) (before after : List Move) (v : Json),
    let c := (fresh listeners).playAll x (before ++ [.call .start])
    let k := ((fresh listeners).playAll x before).calls.length
    (c.playAll x after).result? k = some (.ok v) →
      ∃ first second, after = first ++ second ∧ (c.playAll x first).status = .ready

/-- The second of two starts goes well at its first step. -/
theorem not_meansReady : ¬ MeansReady := by
  intro h
  obtain ⟨v, hOver⟩ := ok_of_any (r := (((fresh listener).playAll .plain
    ([.call .start] ++ [.call .start])).playAll .plain [.goOn 0, .goOn 1]).result? 1) (by decide +kernel)
  obtain ⟨first, second, hMoves, hReady⟩ := h .plain listener [.call .start] [.goOn 0, .goOn 1] v hOver
  have hFirst : first = List.take first.length [.goOn 0, .goOn 1] := by
    rw [hMoves, List.take_left]
  have hNever : ∀ n < 3, (((fresh listener).playAll .plain ([.call .start] ++ [.call .start])).playAll .plain
      (List.take n [.goOn 0, .goOn 1])).status ≠ .ready := by decide +kernel
  have hShort : first.length < 3 := by
    have hLength := congrArg List.length hMoves
    rw [List.length_append] at hLength
    simp only [List.length_cons, List.length_nil] at hLength
    omega
  rw [hFirst] at hReady
  exact hNever _ hShort hReady

/-- The client is not ready after a stop that went well, unless it is started again. -/
def MeansStopped : Prop :=
  ∀ (x : Setup) (listeners : Listeners Nat) (before after : List Move) (v : Json),
    let c := (fresh listeners).playAll x (before ++ [.call .stop])
    let k := ((fresh listeners).playAll x before).calls.length
    (c.playAll x after).result? k = some (.ok v) → .call .start ∉ after → (c.playAll x after).status ≠ .ready

/-- A start begins, and the client is called to stop. -/
def stoppedEarly : List Move := [.call .start, .goOn 0] ++ [.call .stop]

/-- The stop goes well at its first step, and then the start goes well. -/
def startedLate : List Move :=
  [.goOn 1] ++ List.replicate 8 (.goOn 0) ++
    [.output 0 (Rpc.frame "\x7b\"id\":0\x7d".toList), .read 0] ++ List.replicate 5 (.goOn 0)

/-- A start that is under way when the client is called to stop may make it ready after that. -/
theorem not_meansStopped : ¬ MeansStopped := by
  intro h
  obtain ⟨v, hOver⟩ := ok_of_any (r := (((fresh listener).playAll .plain stoppedEarly).playAll .plain
    startedLate).result? 1) (by decide +kernel)
  have hReady : (((fresh listener).playAll .plain stoppedEarly).playAll .plain startedLate).status =
      .ready := by decide +kernel
  exact h .plain listener [.call .start, .goOn 0] startedLate v hOver (by simp [startedLate]) hReady

end ExtensionHost.Client
