import ExtensionHost.Proofs.Task.Steps

/-!
# Plans of tasks

A plan is any nesting of the ways to make a task: its leaves give a value, fail, or do some work that may
fail or panic, and all other ways make a task of tasks. A function that goes on with a value may choose the
rest of the plan by the value and by the state (`Plan.andThen`). `Plan.task` is the task of a plan, made
by the combinators themselves. If the functions of a plan do not panic, its task does not panic either,
whatever its work does (`Plan.Calm.task`).
-/

namespace ExtensionHost.Task

variable {σ ε δ α β κ : Type}

/-- A task that is made of no other task. -/
inductive Leaf (σ ε α : Type) where
  | of (a : α)
  | fail (e : ε)
  | attempt (work : Task σ Cause α) (onError : Cause → Code σ ε)

/-- The task of a leaf. -/
def Leaf.task : Leaf σ ε α → Task σ ε α
  | .of a => Task.of a
  | .fail e => Task.fail e
  | .attempt work onError => Task.attempt work onError

/-- A nesting of tasks. The functions in it run on the state. -/
inductive Plan (σ : Type) : Type → Type → Type 1 where
  | leaf {ε α : Type} (l : Leaf σ ε α) : Plan σ ε α
  | map {ε α β : Type} (p : Plan σ ε α) (f : α → Code σ β) : Plan σ ε β
  | mapError {ε δ α : Type} (p : Plan σ ε α) (f : ε → Code σ δ) : Plan σ δ α
  | andThen {ε α β κ : Type} (p : Plan σ ε α) (choose : α → Code σ κ) (next : κ → Plan σ ε β) :
      Plan σ ε β
  | sequence {ε α : Type} {n : Nat} (ps : Fin n → Plan σ ε α) : Plan σ ε (List α)

namespace Plan

/-- The task of a plan. -/
def task {ε α : Type} : Plan σ ε α → Task σ ε α
  | .leaf l => l.task
  | .map p f => p.task.map f
  | .mapError p f => p.task.mapError f
  | .andThen p choose next => p.task.andThen fun a => (fun k => (next k).task) <$> choose a
  | .sequence ps => Task.sequence (List.ofFn fun i => (ps i).task)

/-- The functions of a plan do not panic. Its work may. -/
def Calm {ε α : Type} : Plan σ ε α → Prop
  | .leaf (.attempt _ onError) => ∀ cause, (onError cause).Calm
  | .leaf _ => True
  | .map p f => p.Calm ∧ ∀ a, (f a).Calm
  | .mapError p f => p.Calm ∧ ∀ e, (f e).Calm
  | .andThen p choose next => p.Calm ∧ (∀ a, (choose a).Calm) ∧ ∀ k, (next k).Calm
  | .sequence ps => ∀ i, (ps i).Calm

end Plan

/-! ## Runs of the combinators -/

/-- A task that starts as another one and goes on with its result. -/
theorem run_goOn (t : Task σ ε α) (next : Except ε α → Code σ β) :
    (t.start >>= fun future => pure (future >>= next)) >>= (fun future => future) = t.run >>= next := by
  simp only [run, bind_assoc, pure_bind]

theorem run_map (f : α → Code σ β) (t : Task σ ε α) :
    (t.map f).run = t.run >>= fun
      | .ok a => .ok <$> f a
      | .error e => pure (.error e) :=
  run_goOn t _

theorem run_mapError (f : ε → Code σ δ) (t : Task σ ε α) :
    (t.mapError f).run = t.run >>= fun
      | .ok a => pure (.ok a)
      | .error e => .error <$> f e :=
  run_goOn t _

theorem run_andThen (t : Task σ ε α) (f : α → Code σ (Task σ ε β)) :
    (t.andThen f).run = t.run >>= fun
      | .ok a => f a >>= run
      | .error e => pure (.error e) :=
  run_goOn t _

/-- Work is caught as a whole, whichever of its stages panics. -/
theorem run_attempt (work : Task σ Cause α) (onError : Cause → Code σ ε) :
    (attempt work onError).run = work.run.caught >>= fun result =>
      match (Outcome.ofCaught result).settle with
      | .ok a => pure (.ok a)
      | .error cause => .error <$> onError cause := by
  simp only [run, attempt, Code.caught_bind, bind_assoc, pure_bind]
  congr 1
  funext started
  cases started with
  | error message => rfl
  | ok future =>
    show Outcome.ofCaught <$> future.caught >>= _ = future.caught >>= _
    rw [map_eq_pure_bind]
    exact bind_assoc future.caught _ _

theorem Plan.run_andThen (p : Plan σ ε α) (choose : α → Code σ κ) (next : κ → Plan σ ε β) :
    (Plan.andThen p choose next).task.run = p.task.run >>= fun
      | .ok a => choose a >>= fun k => (next k).task.run
      | .error e => pure (.error e) := by
  show (p.task.andThen _).run = _
  rw [Task.run_andThen]
  congr 1
  funext result
  cases result with
  | error e => rfl
  | ok a => simp only [map_eq_pure_bind, bind_assoc, pure_bind]

/-! ## Plans do not panic -/

theorem calm_runAll {ts : List (Task σ ε α)} (h : ∀ t ∈ ts, t.run.Calm) (values : List α) :
    (runAll values ts).Calm := by
  induction ts generalizing values with
  | nil => trivial
  | cons t ts ih =>
    refine (h t List.mem_cons_self).bind fun result => ?_
    cases result with
    | error e => trivial
    | ok a => exact ih (fun t ht => h t (List.mem_cons_of_mem _ ht)) _

theorem Leaf.calm_run {l : Leaf σ ε α} (h : (Plan.leaf l).Calm) : l.task.run.Calm := by
  cases l with
  | of a | fail e => trivial
  | attempt work onError =>
    show (Task.attempt work onError).run.Calm
    rw [run_attempt]
    refine (Code.calm_caught _).bind fun result => ?_
    cases (Outcome.ofCaught result).settle with
    | ok a => trivial
    | error cause => exact (h cause).map _

/-- The task of a plan whose functions do not panic does not panic. -/
theorem Plan.Calm.task {p : Plan σ ε α} (h : p.Calm) : p.task.run.Calm := by
  induction p with
  | leaf l => exact Leaf.calm_run h
  | map p f ih =>
    show (p.task.map f).run.Calm
    rw [run_map]
    refine (ih h.1).bind fun result => ?_
    cases result with
    | ok a => exact (h.2 a).map _
    | error e => trivial
  | mapError p f ih =>
    show (p.task.mapError f).run.Calm
    rw [run_mapError]
    refine (ih h.1).bind fun result => ?_
    cases result with
    | ok a => trivial
    | error e => exact (h.2 e).map _
  | andThen p choose next ih ihNext =>
    rw [Plan.run_andThen]
    refine (ih h.1).bind fun result => ?_
    cases result with
    | ok a => exact (h.2.1 a).bind fun k => ihNext k (h.2.2 k)
    | error e => trivial
  | sequence ps ih =>
    refine calm_runAll (fun t ht => ?_) []
    obtain ⟨i, rfl⟩ := List.mem_ofFn.mp ht
    exact ih i (h i)

end ExtensionHost.Task
