import ExtensionHost.Client.Conversation
import ExtensionHost.Wire.Answers
import ExtensionHost.Wire.Requests

/-!
# Steps with a client

What the users of a client do, one step after the other, and what each step gives.
-/

namespace ExtensionHost.Rehearsal

/-- What the users of a client do. -/
inductive ClientStep where
  | start
  | stop
  | request (method : String) (params : Json)
  | requests (methods : List String)
  | references (uri : String) (p : Position) (declaration : Bool)
  | formatting (uri : String) (options : FormattingOptions)
  | capabilities
  | removeListener (n : Nat)
  | settle
  deriving Inhabited

/-- What a step of a user gives. -/
inductive ClientReport where
  | nothing
  | done (r : Except HostError Unit)
  | response (r : Client.Response)
  | responses (rs : List Client.Response)
  | locations (r : Except HostError (List Location))
  | edits (r : Except HostError (List TextEdit))
  | capabilities (v : Option Json)
  | removed (known : Bool)

/-- Performs a step of a user. -/
def performClientStep (s : Scheduler) (c : Conversation) :
    ClientStep → Option (Conversation × ClientReport)
  | .start => do
    let (c, r) ← c.perform s .start
    return (c, .done (r.map fun _ => ()))
  | .stop => do
    let (c, r) ← c.perform s .stop
    return (c, .done (r.map fun _ => ()))
  | .request method params => do
    let (c, r) ← c.askOne s method params
    return (c, .response r)
  | .requests methods => do
    let (c, rs) ← c.ask s (methods.map fun method => (method, .object []))
    return (c, .responses rs)
  | .references uri p declaration => do
    let (c, r) ← c.askOne s Request.references (Request.referencesParams uri p declaration)
    return (c, .locations (r >>= parseLocations))
  | .formatting uri options => do
    let (c, r) ← c.askOne s Request.formatting (Request.formattingParams uri options)
    return (c, .edits (r >>= parseTextEdits))
  | .capabilities => some (c, .capabilities c.client.capabilities)
  | .removeListener n =>
    let known := c.client.didStop.entries.any fun (_, listener) => listener = n
    let entries := c.client.didStop.entries.filter fun (_, listener) => listener ≠ n
    some ({ c with client := { c.client with didStop := { c.client.didStop with entries } } },
      .removed known)
  | .settle => do return (← c.awaitStop s, .nothing)

end ExtensionHost.Rehearsal
