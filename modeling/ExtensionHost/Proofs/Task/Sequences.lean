import ExtensionHost.Proofs.Task.Steps

/-!
# Tasks in a row

Any number of runs of a `sequence` may be under way at the same time, among anything else that changes the
state. The steps of each of them are those of the tasks from the first on, each run to its end before the
next one begins, up to the first one that fails in this run (`InOrder`). The run ends with the error of that
task, or with all values (`sequence_inOrder`). A sequence of two lists of tasks is the sequence of the first
list that goes on with the second (`sequence_append`).
-/

namespace ExtensionHost.Task

variable {σ ε α : Type} {ts us : List (Task σ ε α)} {t : Task σ ε α} {part steps : List (σ × σ)} {a : α}

/-! ## What a run has done -/

/-- Tasks have run one after the other, each to its end, and have given their values. -/
inductive Gave : List (Task σ ε α) → List (σ × σ) → List α → Prop
  | nil : Gave [] [] []
  | cons {t : Task σ ε α} {ts : List (Task σ ε α)} {part steps : List (σ × σ)} {a : α} {values : List α}
      (hFirst : t.run.Leads part (.done (.ok a))) (h : Gave ts steps values) :
      Gave (t :: ts) (part ++ steps) (a :: values)

/-- What a run of tasks in order has done and what it has left. Either all tasks have given their values,
or those in front of one have. That one has failed or panicked, which ends the run, or it is under
way. The tasks behind it have done nothing. -/
inductive InOrder : List (Task σ ε α) → List (σ × σ) → Code σ (Except ε (List α)) → Prop
  | gave {ts : List (Task σ ε α)} {steps : List (σ × σ)} {values : List α} (h : Gave ts steps values) :
      InOrder ts steps (.done (.ok values))
  | failed {front behind : List (Task σ ε α)} {before part : List (σ × σ)} {values : List α}
      {t : Task σ ε α} {e : ε} (hFront : Gave front before values)
      (h : t.run.Leads part (.done (.error e))) :
      InOrder (front ++ t :: behind) (before ++ part) (.done (.error e))
  | panicked {front behind : List (Task σ ε α)} {before part : List (σ × σ)} {values : List α}
      {t : Task σ ε α} {message : Option String} (hFront : Gave front before values)
      (h : t.run.Leads part (.panicked message)) :
      InOrder (front ++ t :: behind) (before ++ part) (.panicked message)
  | underWay {front behind : List (Task σ ε α)} {before part : List (σ × σ)} {values : List α}
      {t : Task σ ε α} {now : Code σ (Except ε α)} {left : Code σ (Except ε (List α))}
      (hFront : Gave front before values) (h : t.run.Leads part now) (hNow : now.isOver = false)
      (hLeft : left.isOver = false) : InOrder (front ++ t :: behind) (before ++ part) left

/-- A task that has given its value goes in front of a run. -/
theorem InOrder.cons {left : Code σ (Except ε (List α))} (hFirst : t.run.Leads part (.done (.ok a)))
    (h : InOrder ts steps left) :
    InOrder (t :: ts) (part ++ steps) (Except.map (a :: ·) <$> left) := by
  cases h with
  | gave h => exact .gave (.cons hFirst h)
  | failed hFront h =>
    rw [← List.append_assoc]
    exact .failed (.cons hFirst hFront) h
  | panicked hFront h =>
    rw [← List.append_assoc]
    exact .panicked (.cons hFirst hFront) h
  | underWay hFront h hNow hLeft =>
    rw [← List.append_assoc]
    exact .underWay (.cons hFirst hFront) h hNow (Code.isOver_bind _ hLeft)

/-! ## Values that were given before -/

/-- How tasks in order go on when some have given their values. -/
theorem runAll_append (values : List α) (ts us : List (Task σ ε α)) :
    runAll values (ts ++ us) = runAll values ts >>= fun
      | .ok given => runAll given us
      | .error e => pure (.error e) := by
  induction ts generalizing values with
  | nil => rfl
  | cons t ts ih =>
    simp only [List.cons_append, runAll, bind_assoc]
    congr 1
    funext result
    cases result with
    | error e => rfl
    | ok a => exact ih _

/-- Values that were given before come first and change nothing else. -/
theorem runAll_eq_map (values : List α) (ts : List (Task σ ε α)) :
    runAll values ts = Except.map (values ++ ·) <$> runAll [] ts := by
  induction ts generalizing values with
  | nil => simp only [runAll, map_pure, Except.map, List.append_nil]
  | cons t ts ih =>
    simp only [runAll, map_bind]
    congr 1
    funext result
    cases result with
    | error e => rfl
    | ok a =>
      show runAll (values ++ [a]) ts = Except.map (values ++ ·) <$> runAll ([] ++ [a]) ts
      rw [ih (values ++ [a]), ih ([] ++ [a]), ← comp_map]
      congr 1
      funext rest
      cases rest with
      | error e => rfl
      | ok as => exact congrArg Except.ok (List.append_assoc values [a] as)

theorem leads_runAll {left : Code σ (Except ε (List α))} (h : (runAll [] ts).Leads steps left) :
    InOrder ts steps left := by
  induction ts generalizing steps left with
  | nil =>
    obtain ⟨rfl, rfl⟩ := Code.leads_done_iff.mp h
    exact .gave .nil
  | cons t ts ih =>
    cases Code.Leads.onward h with
    | first hNow hUnder => exact .underWay .nil hNow hUnder (Code.isOver_bind _ hUnder)
    | stuck hStuck => exact .panicked .nil hStuck
    | @second before after result d hResult hNext =>
      cases result with
      | error e =>
        obtain ⟨rfl, rfl⟩ := Code.leads_done_iff.mp hNext
        rw [List.append_nil]
        exact .failed .nil hResult
      | ok a =>
        simp only [runAll_eq_map ([] ++ [a])] at hNext
        obtain ⟨rest, hRest, rfl⟩ := hNext.of_map
        exact (ih hRest).cons hResult

/-! ## Runs of a sequence -/

/-- Values that were given before can be put in front at the end. -/
theorem runAll_eq_run (as : List α) (us : List (Task σ ε α)) :
    runAll as us = ((sequence us).map fun bs => pure (as ++ bs)).run := by
  show _ = runAll [] us >>= _
  rw [runAll_eq_map, map_eq_pure_bind]
  congr 1
  funext result
  cases result <;> rfl

/-- A sequence of two lists of tasks goes on with the second when the first has given its values. -/
theorem sequence_append (ts us : List (Task σ ε α)) :
    sequence (ts ++ us) =
      (sequence ts).andThen fun as => pure ((sequence us).map fun bs => pure (as ++ bs)) := by
  refine congrArg (fun code => (⟨pure code⟩ : Task σ ε (List α))) ?_
  rw [runAll_append]
  show _ = runAll [] ts >>= _
  congr 1
  funext result
  cases result with
  | error e => rfl
  | ok as => exact runAll_eq_run as us

/-- Notes a number, gives others their turn and then ends with it, as a value or as an error. -/
private def noting (number : Nat) (ok : Bool) : Task (List Nat) Nat Nat :=
  ⟨pure do
    modify (number :: ·)
    let _ ← get
    pure (if ok then .ok number else .error number)⟩

/-- **A sequence runs its tasks in order, up to the first one that fails.** Whatever runs of it and whatever
else a schedule interleaves, this holds of each of its runs at each time, and one that gets its turn again
and again ends. A sequence of two lists is the same task as that of the first which goes on with that of
the second and puts the values together. -/
theorem sequence_inOrder (ts : List (Task σ ε α)) :
    (∀ s schedule time, ∀ r ∈ (Executor.after (sequence ts) s schedule time).runs,
      InOrder ts r.steps r.left) ∧
    (∀ s schedule time number, number < (Executor.after (sequence ts) s schedule time).runs.length →
      Executor.Turns schedule number →
      ∃ later r, time ≤ later ∧
        (Executor.after (sequence ts) s schedule later).runs[number]? = some r ∧ r.left.isOver) ∧
    ∀ us, sequence (ts ++ us) =
      (sequence ts).andThen fun as => pure ((sequence us).map fun bs => pure (as ++ bs)) := by
  refine ⟨fun s schedule time r hr => ?_, fun s schedule time number h hTurns => ?_, sequence_append ts⟩
  · exact leads_runAll (Executor.leads_of_mem schedule time r hr)
  · exact Executor.exists_isOver h hTurns

/-- A run of three tasks, of which the second fails, comes to an end with its error. The first two have noted
their numbers then, and the third one has not. -/
theorem sequence_inOrder_failing :
    (∃ later r, 1 ≤ later ∧
      (Executor.after (sequence [noting 1 true, noting 2 false, noting 3 true]) []
        Executor.alone later).runs[0]? = some r ∧
      r.left.isOver ∧ InOrder [noting 1 true, noting 2 false, noting 3 true] r.steps r.left) ∧
    ∃ r, (Executor.after (sequence [noting 1 true, noting 2 false, noting 3 true]) []
        Executor.alone 5).runs[0]? = some r ∧
      r.steps = [([], [1]), ([1], [1]), ([1], [2, 1]), ([2, 1], [2, 1])] ∧ r.left = .done (.error 2) ∧
      InOrder [noting 1 true, noting 2 false, noting 3 true] r.steps r.left := by
  obtain ⟨hSteps, hEnds, -⟩ := sequence_inOrder [noting 1 true, noting 2 false, noting 3 true]
  refine ⟨?_, _, rfl, rfl, rfl, hSteps [] Executor.alone 5 _ (List.Mem.head _)⟩
  obtain ⟨later, r, hLater, hRun, hOver⟩ :=
    hEnds [] Executor.alone 1 0 Nat.zero_lt_one fun time =>
      ⟨time + 1, Nat.le_succ time, rfl⟩
  exact ⟨later, r, hLater, hRun, hOver, hSteps _ _ _ r (List.mem_of_getElem? hRun)⟩

/-- Two runs that take turns fail at their second task. -/
example :
    (Executor.after (sequence [noting 1 true, noting 2 false, noting 3 true]) []
      (fun time => if time < 2 then .start else .advance (time % 2)) 10).runs.map
        (fun r => (r.left, r.steps)) =
      [(.done (.error 2),
          [([], [1]), ([1, 1], [1, 1]), ([1, 1], [2, 1, 1]), ([2, 2, 1, 1], [2, 2, 1, 1])]),
        (.done (.error 2),
          [([1], [1, 1]), ([1, 1], [1, 1]), ([2, 1, 1], [2, 2, 1, 1]), ([2, 2, 1, 1], [2, 2, 1, 1])])] :=
  rfl

end ExtensionHost.Task
