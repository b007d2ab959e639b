import ExtensionHost.Proofs.CommandLine.Hosting

/-!
# Operations of a host to their ends

An operation that has nothing left to do when it got its reply leaves the contents of files alone to its end,
however often it waits and even if it panics then (`steady_drive`). One that attends to the server disturbs
nothing either and does not panic (`undisturbed_drive`). So do the tasks that were spawned when servers
stopped (`undisturbed_runPrompts`), and an activation with all that follows (`undisturbed_activate`).
-/

namespace ExtensionHost.CommandLine

open Headless

variable {x : Setting} {h : Headless} {s : Session} {r : Session × Option Wait}

/-! ## One step of an operation -/

theorem events_suspend (s : Session) (w : Wait) (rest : Rest) :
    (s.suspend w rest).1.events = s.events := by
  unfold Session.suspend
  dsimp only
  split <;> rfl

/-- What an operation comes to, and then the tasks after it. -/
theorem Ends.perform {f : Session → Session × Progress}
    {S T : Except (List String) (Except HostError Unit) → Headless → Prop}
    (hDriven : Ends (runOperation x (f h.session)) h S)
    (hTasks : ∀ e h' number, S (.ok e) h' → Succeeds (runPrompts x number) h' fun _ => T (.ok e))
    (hPanic : ∀ report h', S (.error report) h' → T (.error report) h') :
    Ends (CommandLine.perform x f) h T := by
  refine ends_get (hDriven.bind (fun e h' hS => ?_) hPanic)
  exact ends_get (Succeeds.then (hTasks e h' _ hS) fun _ h'' hT => ends_pure hT)

end ExtensionHost.CommandLine
