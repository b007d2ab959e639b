import ExtensionHost.Rehearsal.Shell.Expansion

/-!
# Redirections

Where the streams of a command lead: to files, to other streams, nowhere, or out of the script.
-/

namespace ExtensionHost.Shell

/-- The stream with a number. -/
def Machine.sink? (m : Machine) : Nat → Option Sink
  | 1 => some m.first
  | 2 => some m.second
  | n => m.others.lookup n

/-- Lets a stream lead to a sink. -/
def Machine.redirect (m : Machine) (stream : Nat) (sink : Sink) : Machine :=
  match stream with
  | 1 => { m with first := sink }
  | 2 => { m with second := sink }
  | 0 => m
  | n => { m with others := (n, sink) :: m.others }

/-- Opens a file that is written to. -/
def openSink (path : Bytes) (append : Bool) : Action (Except String Sink) := do
  match streamDevice? path with
  | some n => return .ok (((← get).sink? n).getD .nowhere)
  | none => pure ()
  if path = nullDevice then return .ok .nowhere
  match ← locatePath path with
  | .ok (name, some (.file content executable)) =>
    if !append then
      if !content.isEmpty then modify fun m => m.change name (some (.file [] executable))
    return .ok (.file name)
  | .ok (name, none) =>
    modify fun m => m.change name (some (.file [] false))
    return .ok (.file name)
  | .ok (_, some .directory) => return .error ("cannot create " ++ toText path ++ ": Is a directory")
  | .error .notFound =>
    return .error ("cannot create " ++ toText path ++ ": Directory nonexistent")
  | .error e => return .error ("cannot create " ++ toText path ++ ": " ++ plainMessage e)

/-- Lets a stream lead where a redirection says; one out of the script comes with its text. -/
def redirectTo (stream : Nat) (way : Way) (path : Bytes) : Action (Except String Unit) := do
  match way with
  | .same =>
    match (number? path).bind (← get).sink? with
    | some sink =>
      modify fun m => m.redirect stream sink
      return .ok ()
    | none =>
      if path = ['-'] then
        modify fun m =>
          if stream = 0 then { m with input := [], inputOpen := false } else m.redirect stream .closed
        return .ok ()
      match number? path with
      | some 0 => return .ok ()
      | some _ => return .error (toText path ++ ": Bad file descriptor")
      | none => abandon "Syntax error: Bad fd number"
  | .here =>
    modify fun m => { m with input := path, inputOpen := false, fromFile := false }
    return .ok ()
  | .outOf =>
    if streamDevice? path = some 0 then return .ok ()
    match ← fileBytes path with
    | .ok content =>
      modify fun m => { m with input := content, inputOpen := false, fromFile := true }
      return .ok ()
    | .error .notFound => return .error ("cannot open " ++ toText path ++ ": No such file")
    | .error e => return .error ("cannot open " ++ toText path ++ ": " ++ plainMessage e)
  | way =>
    match ← openSink path (way = .append) with
    | .ok sink =>
      modify fun m => m.redirect stream sink
      return .ok ()
    | .error e => return .error e

/-- Runs an action and then lets the streams lead where they led before, however it ends. -/
def keepingStreams (readsFile : Bool) (a : Action Unit) : Action Unit := do
  let before ← get
  let restore (m : Machine) : Machine :=
    let m := { m with first := before.first, second := before.second, others := before.others }
    if readsFile then
      { m with input := before.input, inputOpen := before.inputOpen, fromFile := before.fromFile }
    else m
  try a
  catch e =>
    modify restore
    throw e
  modify restore

end ExtensionHost.Shell
