/-!
# Code that runs step by step

Code on a state `σ` takes one step after the other, as many as it likes, and ends with a value or a
panic. A step is what happens at once. Between two steps of one code, the state may be changed by
anything else that runs.
-/

namespace ExtensionHost

/-- Code on a state: it is done, it has panicked, or it takes a step that changes the state and goes on
with the state that it found. -/
inductive Code (σ α : Type) where
  | done (a : α)
  | panicked (message : Option String)
  | step (change : σ → σ) (next : σ → Code σ α)

namespace Code

variable {σ α β : Type}

/-- Goes on with what a function makes of the value. -/
protected def bind (c : Code σ α) (f : α → Code σ β) : Code σ β :=
  match c with
  | .done a => f a
  | .panicked message => .panicked message
  | .step change next => .step change fun s => (next s).bind f

instance : Monad (Code σ) where
  pure := .done
  bind := Code.bind

/-- Reading, writing and changing the state is one step each. -/
instance : MonadStateOf σ (Code σ) where
  get := .step id .done
  set s := .step (fun _ => s) fun _ => .done ⟨⟩
  modifyGet f := .step (fun s => (f s).2) fun s => .done (f s).1

/-- Code that catches a panic: it ends with the value or with the message of the panic. -/
def caught : Code σ α → Code σ (Except (Option String) α)
  | .done a => .done (.ok a)
  | .panicked message => .done (.error message)
  | .step change next => .step change fun s => (next s).caught

/-- Whether the code has ended. -/
def isOver : Code σ α → Bool
  | .step _ _ => false
  | _ => true

/-- Runs code to its end while nothing else runs: what it ends with and the state that it leaves. -/
def run : Code σ α → σ → Except (Option String) α × σ
  | .done a, s => (.ok a, s)
  | .panicked message, s => (.error message, s)
  | .step change next, s => (next s).run (change s)

/-! ## Laws -/

@[simp]
theorem done_bind (a : α) (f : α → Code σ β) : (.done a >>= f : Code σ β) = f a := rfl

@[simp]
theorem step_bind (change : σ → σ) (next : σ → Code σ α) (f : α → Code σ β) :
    (.step change next >>= f : Code σ β) = .step change fun s => next s >>= f := rfl

private theorem bind_done (c : Code σ α) : c >>= .done = c := by
  induction c with
  | done a => rfl
  | panicked message => rfl
  | step change next ih => simp only [step_bind, ih]

private theorem assoc {γ : Type} (c : Code σ α) (f : α → Code σ β) (g : β → Code σ γ) :
    c >>= f >>= g = c >>= fun a => f a >>= g := by
  induction c with
  | done a => rfl
  | panicked message => rfl
  | step change next ih => simp only [step_bind, ih]

instance : LawfulMonad (Code σ) :=
  LawfulMonad.mk' (Code σ)
    (fun c => bind_done c)
    (fun a f => done_bind a f)
    (fun c f g => assoc c f g)

/-- Catching goes on after a value and stops at a panic. -/
theorem caught_bind (c : Code σ α) (f : α → Code σ β) :
    (c >>= f).caught = c.caught >>= fun
      | .ok a => (f a).caught
      | .error message => pure (.error message) := by
  induction c with
  | done a => rfl
  | panicked message => rfl
  | step change next ih => simp only [step_bind, caught, ih]

end Code

end ExtensionHost
