import ExtensionHost.Error
import ExtensionHost.Task.Code

/-!
# Tasks

A task is a computation that can be run any number of times. Running it has two stages: what happens at
once, and a future, which happens when it is waited for and ends with a value or an error. Both stages
may read and change a state `σ`, and may panic. Only `Task.attempt` turns failures into errors: a
failure, and a panic in either stage, is handed to a function that makes the error. The other
combinators pass the first error on and start nothing after it.
-/

namespace ExtensionHost

/-- What a computation that may fail or panic ends with. -/
inductive Outcome (α : Type) where
  | done (a : α)
  | failed (cause : Cause)
  | panicked (message : Option String)

/-- What ended a computation, unless it was done. -/
def Outcome.settle {α : Type} : Outcome α → Except Cause α
  | .done a => .ok a
  | .failed cause => .error cause
  | .panicked message => .error (.ofPanic message)

/-- The outcome of a computation whose panic is caught. -/
def Outcome.ofCaught {α : Type} : Except (Option String) (Except Cause α) → Outcome α
  | .ok (.ok a) => .done a
  | .ok (.error cause) => .failed cause
  | .error message => .panicked message

/-- A computation in two stages: its start gives the future. -/
structure Task (σ ε α : Type) where
  start : Code σ (Code σ (Except ε α))

namespace Task

variable {σ ε δ α β : Type}

/-- Runs a task to its end. -/
def run (t : Task σ ε α) : Code σ (Except ε α) := do
  let future ← t.start
  future

/-- The task that gives a value. -/
def of (a : α) : Task σ ε α := ⟨pure (pure (.ok a))⟩

/-- The task that fails with an error. -/
def fail (e : ε) : Task σ ε α := ⟨pure (pure (.error e))⟩

/-- The outcome of work whose first stage is over. -/
def outcome : Except (Option String) (Code σ (Except Cause α)) → Code σ (Outcome α)
  | .error message => pure (.panicked message)
  | .ok future => Outcome.ofCaught <$> future.caught

/-- The task that does some work; `onError` makes the error of work that fails or panics. -/
def attempt (work : Task σ Cause α) (onError : Cause → Code σ ε) : Task σ ε α :=
  ⟨do
    let started ← work.start.caught
    pure do
      match (← outcome started).settle with
      | .ok a => pure (.ok a)
      | .error cause => .error <$> onError cause⟩

/-- Changes the value of a task. -/
def map (f : α → Code σ β) (t : Task σ ε α) : Task σ ε β :=
  ⟨do
    let future ← t.start
    pure do
      match ← future with
      | .ok a => .ok <$> f a
      | .error e => pure (.error e)⟩

/-- Changes the error of a task. -/
def mapError (f : ε → Code σ δ) (t : Task σ ε α) : Task σ δ α :=
  ⟨do
    let future ← t.start
    pure do
      match ← future with
      | .ok a => pure (.ok a)
      | .error e => .error <$> f e⟩

/-- Goes on with the task that a function makes of the value. -/
def andThen (t : Task σ ε α) (f : α → Code σ (Task σ ε β)) : Task σ ε β :=
  ⟨do
    let future ← t.start
    pure do
      match ← future with
      | .ok a => (← f a).run
      | .error e => pure (.error e)⟩

/-- Runs tasks one after the other, each when the one before has given its value, and puts their values
behind those that were given already. -/
def runAll (values : List α) : List (Task σ ε α) → Code σ (Except ε (List α))
  | [] => pure (.ok values)
  | t :: rest => do
    match ← t.run with
    | .error e => pure (.error e)
    | .ok a => runAll (values ++ [a]) rest

/-- The task that runs tasks in order up to the first error and gives all their values. -/
def sequence (tasks : List (Task σ ε α)) : Task σ ε (List α) :=
  ⟨pure (runAll [] tasks)⟩

end Task

end ExtensionHost
