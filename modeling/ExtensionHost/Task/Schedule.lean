import ExtensionHost.Task.Basic

/-!
# Runs of a task

A task can be run any number of times, also at the same time, and a clone of it is the same task. The runs
share one state with each other and with everything else there is. What may happen next, as data: a
further run begins, a run takes its next step, or something else changes the state. A run that is waited
for no longer takes no further step.
-/

namespace ExtensionHost.Task

variable {σ ε α : Type}

/-- A run of a task: the code that is left of it, and the states before and after each step that it took. -/
structure Run (σ ε α : Type) where
  left : Code σ (Except ε α)
  steps : List (σ × σ)

/-- The next step of a run that finds a state, and the state that it leaves. -/
def Run.advance (r : Run σ ε α) (s : σ) : Run σ ε α × σ :=
  match r.left with
  | .step change next => (⟨next s, r.steps ++ [(s, change s)]⟩, change s)
  | _ => (r, s)

/-- The runs of a task and the state that they share. -/
structure Executor (σ ε α : Type) where
  state : σ
  runs : List (Run σ ε α) := []

/-- What may happen next. Runs go by their numbers. -/
inductive Move (σ : Type) where
  | start
  | advance (number : Nat)
  | interfere (change : σ → σ)

namespace Executor

/-- Makes a move. One that is not possible changes nothing. -/
def play (t : Task σ ε α) (x : Executor σ ε α) : Move σ → Executor σ ε α
  | .start => { x with runs := x.runs ++ [⟨t.run, []⟩] }
  | .interfere change => { x with state := change x.state }
  | .advance number =>
    match x.runs[number]? with
    | none => x
    | some r => ⟨(r.advance x.state).2, x.runs.set number (r.advance x.state).1⟩

/-- The runs of a task at a time of a schedule, which makes one move after the other, from a state on. -/
def after (t : Task σ ε α) (s : σ) (schedule : Nat → Move σ) : Nat → Executor σ ε α
  | 0 => { state := s }
  | time + 1 => (after t s schedule time).play t (schedule time)

/-- The schedule of a single run that nothing else interrupts. -/
def alone : Nat → Move σ
  | 0 => .start
  | _ + 1 => .advance 0

end Executor

end ExtensionHost.Task
