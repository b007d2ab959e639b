import ExtensionHost.Client.Step

/-!
# Schedules of a client

What may happen to a client next, as data: a call is made or goes on, a call's time ends, a writer or a
reader goes on, or the server of a run writes, closes its output or ends. A schedule is a list of such
moves, and every order in which calls, writers, readers and servers may take turns is one.
-/

namespace ExtensionHost.Client

/-- What may happen next. Calls and runs go by their numbers. -/
inductive Move where
  | call (op : Operation)
  | goOn (call : Nat)
  | expire (call : Nat)
  | write (run : Nat)
  | read (run : Nat)
  | output (run : Nat) (bytes : List UInt8)
  | closeOutput (run : Nat)
  | exit (run : Nat)

/-- Makes a move, if it is possible. -/
def play? (x : Setup) (c : Client) : Move → Option Client
  | .call op => some (c.call op).1
  | .goOn k => c.stepCall x k
  | .expire k => c.expire k
  | .write r => c.stepWriter r
  | .read r => c.stepReader x r
  | .output r bytes => some (c.output r bytes)
  | .closeOutput r => some (c.closeOutput r)
  | .exit r => some (c.exit r)

/-- Makes a move. One that is not possible changes nothing. -/
def play (x : Setup) (c : Client) (m : Move) : Client := (c.play? x m).getD c

/-- Makes moves in order. -/
def playAll (x : Setup) (c : Client) (moves : List Move) : Client :=
  moves.foldl (play x) c

@[simp] theorem playAll_nil (x : Setup) (c : Client) : c.playAll x [] = c := rfl

@[simp] theorem playAll_cons (x : Setup) (c : Client) (m : Move) (moves : List Move) :
    c.playAll x (m :: moves) = (c.play x m).playAll x moves := rfl

theorem playAll_append (x : Setup) (c : Client) (first second : List Move) :
    c.playAll x (first ++ second) = (c.playAll x first).playAll x second := by
  simp [playAll]

/-- The moves of writers. -/
def writerMoves (c : Client) : List Move := (List.range c.runs.length).map .write

/-- The moves of calls. -/
def callMoves (c : Client) : List Move := (List.range c.calls.length).map .goOn

/-- Makes the first of some moves that is possible. -/
def playFirst? (x : Setup) (c : Client) (moves : List Move) : Option Client :=
  moves.findSome? (c.play? x)

end ExtensionHost.Client
