import ExtensionHost.Client.Launch
import ExtensionHost.Process.Programs
import ExtensionHost.Rpc.Frame
import ExtensionHost.Rehearsal.Shell.Run

/-!
# Processes

Programs that run on their own: once, on an input that is there from the beginning, or as a server whose
input comes message by message. A server is run again from its beginning whenever more input has come or
it has slept; what it did before it does again, so that only what is new counts.
-/

namespace ExtensionHost.Shell

/-- The variables that every program has. -/
def commonVariables : List (String × Bytes) :=
  [("PATH", commonPath.toList)]

/-- The variables of a program with an environment of its own. The first equals sign of an entry ends
its name, also one within the name that was given. -/
def variablesWith (env : Keyed String) : Keyed Bytes :=
  env.foldl (fun vs (name, v) =>
    let entry := ofText (name ++ "=" ++ v)
    let name := entry.takeWhile (· ≠ '=')
    Keyed.insert (toText name) (entry.drop (name.length + 1)) vs) commonVariables

/-- The machine that a program begins on. -/
def Machine.start (files : Files) (cwd : String) (env : Keyed String) (input : Bytes)
    (inputOpen : Bool) : Machine :=
  let assigned := variablesWith env
  { files, cwd, assigned, exported := assigned.map Prod.fst, input, inputOpen }

/-- The failure of a program that the system does not run. -/
def spawnFailure (program : String) (e : SystemError) : HostError :=
  ⟨.process, "Failed to spawn " ++ program ++ ": " ++ e.message⟩

/-- The failure of a program whose time is over; the limit is shown in whole seconds. -/
def timeFailure (program : String) (limit : Nat) : HostError :=
  ⟨.timeout, program ++ " timed out after " ++ toString (limit / 1000) ++ "s"⟩

/-- Runs a program to its end, with a limit for its time in thousandths of a second. Gives what it left
behind and what it changed. -/
def runProcess (own : OwnProgram) (files : Files) (cwd : String) (limit : Nat) (r : ProcessRequest) :
    Except HostError ProcessOutput × List (String × Option Entry) :=
  match findIn files cwd r.cwd r.program r.args r.env with
  | .error e => (.error (spawnFailure r.program e), [])
  | .ok (image, here) =>
    let start := { Machine.start files here r.env (ofText (r.stdin.getD "")) false with own }
    let (standing, m) := runProgramOn start image r.program (r.args.map ofText)
    match standing with
    | .ended status =>
      if limit < m.elapsed then (.error (timeFailure r.program limit), m.changes)
      else
        let status := status.map fun n => (n : Int)
        (.ok ⟨status, toText m.output, toText m.errors⟩, m.changes)
    | _ => (.error (timeFailure r.program limit), m.changes)

/-- The greatest time that a program has unless said otherwise, in thousandths of a second. -/
def commonLimit : Nat := 60000

/-- How a call of a program ends. -/
def outcomeOf (own : OwnProgram) (files : Files) (cwd : String) (r : ProcessRequest) :
    Outcome ProcessOutput × List (String × Option Entry) :=
  match runProcess own files cwd commonLimit r with
  | (.ok output, changes) => (.done output, changes)
  | (.error e, changes) => (.failed (.ofHost e), changes)

/-- The server that a program is. -/
def server (own : OwnProgram) (files : Files) (cwd : String) (image : Image) (o : ServerOptions) : Server :=
  fun messages closed slept =>
  let input := ofBytes (Rpc.frames messages)
  let start := { Machine.start files cwd o.env input (!closed) with patience := some slept, own }
  let (standing, m) := runProgramOn start image o.path (o.args.map ofText)
  { output := toBytes m.output
    changes := m.changes
    exited := match standing with
      | .ended _ => true
      | _ => false
    asleep := m.lacking
    lingers := m.lingering }

/-- There is no program that could be called in turn. -/
def noOwn : OwnProgram := fun _ _ _ => none

/-- The programs that the shell knows, called by a program. -/
def programs (own : OwnProgram) : Programs where
  call := outcomeOf own
  serve files cwd o client :=
    (Client.launch files cwd o client).map fun (image, here) => server own files here image o

end ExtensionHost.Shell
