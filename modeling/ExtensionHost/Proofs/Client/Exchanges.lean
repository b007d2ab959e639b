import ExtensionHost.Proofs.Client.Courses
import ExtensionHost.Proofs.Client.Replies

/-!
# Where replies come from

A request that a client is called for is refused, or it gets a number and ends with a failure of the client's
own or with what a frame says to this number, and the frame is one of those that the servers have written
(`Client.Replied`). `pursued_play` follows the call by one move; `exchange_askOne` says it of a conversation,
whatever its scheduler, where all that servers write is what they do with the messages that they took.
-/

namespace ExtensionHost

namespace Client

/-- A request with a number ends with a failure of the client's own, or with what one of some frames says to
it. -/
def Heard (frames : Nat → List (List UInt8)) (p : Purpose) (id : Nat) (r : Response) : Prop :=
  OwnFailure p id r ∨ ∃ run, ∃ body ∈ frames run, responseTo id body = some r

/-- What the call with a number ends with in a schedule, if it is made for a request: the client is not ready,
or the request gets a number and is answered by one of some frames. -/
def Replied (x : Setup) (listeners : Listeners Nat) (moves : List Move)
    (frames : Nat → List (List UInt8)) (k : Nat) (p : Purpose) (r : Response) : Prop :=
  (∃ status, status ≠ .ready ∧ r = .error (notRunning x.name status)) ∨
    ∃ first second id, moves = first ++ second ∧
      ((fresh listeners).playAll x first).requestOf? k = some (p, id) ∧ Heard frames p id r

/-- The frames that the servers have written in a schedule. -/
def framesOf (x : Setup) (listeners : Listeners Nat) (moves : List Move) (run : Nat) :
    List (List UInt8) :=
  (Rpc.readAll (served x run (fresh listeners) moves)).bodies

variable {x : Setup} {listeners : Listeners Nat} {moves : List Move} {k : Nat} {method : String}
  {params : Json}

/-! ## Frames -/

theorem Heard.mono {less more : Nat → List (List UInt8)} {p : Purpose} {id : Nat} {r : Response}
    (h : Heard less p id r) (hMore : ∀ run, less run ⊆ more run) : Heard more p id r :=
  h.imp_right fun ⟨run, body, hMem, hTo⟩ => ⟨run, body, hMore run hMem, hTo⟩

/-- The frames that readers have taken in a schedule. -/
def takenFrames (x : Setup) (listeners : Listeners Nat) (moves : List Move) (run : Nat) :
    List (List UInt8) :=
  taken x run (fresh listeners) moves

/-- Where a call for a request stands after a schedule. -/
inductive Pursued (x : Setup) (listeners : Listeners Nat) (moves : List Move) (k : Nat) (method : String)
    (params : Json) : Option Point → Prop where
  | begun : Pursued x listeners moves k method params (some (.begin (.request method params)))
  | admitted : Pursued x listeners moves k method params (some (.register (.call method params)))
  | underWay (p : Point) (id : Nat) (hRequest : p.request? = some (.call method params, id)) :
      Pursued x listeners moves k method params (some p)
  | concluded (r : Response)
      (hReplied : Replied x listeners moves (takenFrames x listeners moves) k (.call method params) r) :
      Pursued x listeners moves k method params (some (.over r))

theorem Replied.concat {p : Purpose} {r : Response}
    (h : Replied x listeners moves (takenFrames x listeners moves) k p r) (m : Move) :
    Replied x listeners (moves ++ [m]) (takenFrames x listeners (moves ++ [m])) k p r := by
  refine h.imp_right fun ⟨first, second, id, hMoves, hRequest, hHeard⟩ =>
    ⟨first, second ++ [m], id, ?_, hRequest, hHeard.mono fun run => ?_⟩
  · rw [hMoves, List.append_assoc]
  · rw [takenFrames, takenFrames, taken, taken, collect_concat]
    exact List.subset_append_left ..

theorem Pursued.concat {p : Option Point} (h : Pursued x listeners moves k method params p) (m : Move) :
    Pursued x listeners (moves ++ [m]) k method params p := by
  cases h with
  | begun => exact .begun
  | admitted => exact .admitted
  | underWay p id hRequest => exact .underWay p id hRequest
  | concluded r hReplied => exact .concluded r (hReplied.concat m)

end Client

namespace Conversation

open Client (Provided Replied fresh framesOf)

/-- A request that a conversation makes gets a reply. The client was fresh once; in a schedule in which all
that its servers write is what they do with the messages that they took, the request is made, and it is
refused, fails, or gets what a frame of a server says to its number. -/
def Exchange (c : Conversation) (method : String) (params : Json) (r : Client.Response) : Prop :=
  ∃ listeners before after, let moves := before ++ .call (.request method params) :: after
    c.client = (fresh listeners).playAll c.setup before ∧
      Provided c.servers c.setup (fresh listeners) moves ∧
      Replied c.setup listeners moves (framesOf c.setup listeners moves) c.client.calls.length
        (.call method params) r

/-- The client of a conversation has come from a fresh one. -/
def Founded (c : Conversation) : Prop :=
  ∃ listeners before, c.client = (fresh listeners).playAll c.setup before ∧
    Provided c.servers c.setup (fresh listeners) before

theorem Founded.plays {c d : Conversation} (h : c.Founded) (hPlays : c.Plays d) : d.Founded := by
  obtain ⟨listeners, before, hClient, hProvided⟩ := h
  obtain ⟨hSetup, hServers, moves, hMoves, hLater⟩ := hPlays
  refine ⟨listeners, before ++ moves, ?_, ?_⟩
  · rw [hMoves, hSetup, Client.playAll_append, ← hClient]
  · rw [hServers, hSetup]
    exact Client.provided_append.mpr ⟨hProvided, hClient ▸ hLater⟩

end Conversation

end ExtensionHost
