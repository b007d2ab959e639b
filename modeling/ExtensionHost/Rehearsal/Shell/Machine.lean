import ExtensionHost.File.Tree
import ExtensionHost.Rehearsal.Shell.Script

/-!
# Machines of programs

The state of a running program: what it reads from and writes to, the files, and the variables of its
shell. An action on it ends with a value or halts: because the program ended, because it waits for input
that has not come yet or for time to go by, because it never ends, or because a loop or a function is left.
-/

namespace ExtensionHost.Shell

/-! ## Bytes -/

/-- Bytes as characters. -/
def ofBytes (bytes : List UInt8) : Bytes := bytes.map fun b => Char.ofNat b.toNat

/-- Characters as bytes. -/
def toBytes (cs : Bytes) : List UInt8 := cs.map fun c => UInt8.ofNat c.toNat

/-- The bytes of a text, as characters. -/
def ofText (s : String) : Bytes := ofBytes (Utf8.encode s.toList)

/-- The text of bytes. -/
def toText (cs : Bytes) : String := String.ofList (Utf8.decodeLossy (toBytes cs))

/-! ## State -/

/-- Where a stream that is written to leads. -/
inductive Sink where
  | output
  | errors
  | nowhere
  | collected
  | closed
  | file (name : String)
  deriving Repr, DecidableEq

/-- Why an action halts. A fault is a failure that ends a shell unless the command that met it is one
that may fail. -/
inductive Halt where
  | exited (status : Nat)
  | fault
  | killed (process signal : Nat)
  | waiting
  | endless
  | leftLoop (levels : Nat)
  | nextRound (levels : Nat)
  | returned (status : Nat)
  deriving Repr, DecidableEq

/-- What a process has for itself. `process` is the number of the shell that runs, none being zero,
`line` the line of its script that it runs, and `running` the command of its own that does. `first` and
`second` are the streams that it writes to, and `others` those with other numbers. `constant` are the
variables that may not be assigned to, `hidden` the values that variables had outside of the function that
runs, and `loops` says how many loops the shell is in. `options` are the letters of its options, `tested`
says that a command's failure is looked at, and `traps` are the commands for signals and for the end.
`mask` holds the rights that new files do not get, and `optionPlace` is how far the word was read that
options are read from. -/
structure Surroundings where
  cwd : String
  first : Sink := .output
  second : Sink := .errors
  others : List (Nat × Sink) := []
  assigned : Keyed Bytes := []
  exported : List String := []
  constant : List String := []
  hidden : Option (List (String × Option Bytes)) := none
  functions : List (String × Command) := []
  name : Bytes := []
  args : List Bytes := []
  process : Nat := 0
  line : Nat := 1
  running : String := ""
  loops : Nat := 0
  options : List Char := []
  tested : Bool := false
  traps : List (String × Bytes) := []
  mask : Nat := 18
  optionPlace : Nat := 0

/-- What a run of the program that calls the others leaves behind. -/
structure OwnEnding where
  status : Nat
  output : Bytes
  errors : Bytes
  files : Files

/-- The program that calls the others, when they call it in turn: a function of the files, the directory
and the arguments. Where it is not to be called, it has no end. -/
abbrev OwnProgram := Files → String → List String → Option OwnEnding

/-- The state of a running program. `inputOpen` says that more input than `input` may come, and
`fromFile` that it comes from a file.
`collected` is what the innermost substitution or pipeline collects, `changes` are the files that were
written or taken away, in order, and `elapsed` is the time that went by. `patience` is the time that may
still go by, if that is limited, `lacking` what is missing to the time that a program needs, and
`lingering` says that this program is not the one that was run first. `writeFailed` says that something
was written to a closed stream, `ended` are the statuses of the processes in the background, and `own` is
the program that called this one. -/
structure Machine extends Surroundings where
  files : Files
  status : Nat := 0
  input : Bytes := []
  inputOpen : Bool := false
  fromFile : Bool := false
  output : Bytes := []
  errors : Bytes := []
  collected : Bytes := []
  changes : List (String × Option Entry) := []
  elapsed : Nat := 0
  patience : Option Nat := none
  lacking : Nat := 0
  lingering : Bool := false
  writeFailed : Bool := false
  ended : List Nat := []
  own : OwnProgram := fun _ _ _ => none

/-- Actions on a machine. -/
abbrev Action := ExceptT Halt (StateM Machine)

/-! ## Streams -/

/-- Changes the entry under a full name. -/
def Machine.change (m : Machine) (name : String) (e : Option Entry) : Machine :=
  { m with files := m.files.change [(name, e)], changes := m.changes ++ [(name, e)] }

/-- Puts other files in the place of those that are there. -/
def Machine.withFiles (m : Machine) (files : Files) : Machine :=
  let gone := (m.files.map Prod.fst).filter fun name => !Keyed.contains name files
  let new := files.filter fun entry => m.files.entry? entry.1 ≠ some entry.2
  let m := gone.foldl (fun m name => m.change name none) m
  new.foldl (fun m entry => m.change entry.1 (some entry.2)) m

/-- Writes to a sink. -/
def Machine.write (m : Machine) (sink : Sink) (text : Bytes) : Machine :=
  match sink with
  | .output => { m with output := m.output ++ text }
  | .errors => { m with errors := m.errors ++ text }
  | .nowhere => m
  | .closed => { m with writeFailed := m.writeFailed || !text.isEmpty }
  | .collected => { m with collected := m.collected ++ text }
  | .file name =>
    match m.files.entry? name with
    | some (.file content executable) =>
      m.change name (some (.file (content ++ toBytes text) executable))
    | _ => m

/-- Writes to the first stream. -/
def put (text : Bytes) : Action Unit := modify fun m => m.write m.first text

/-- Writes to the second stream. Nobody minds if that is closed. -/
def complain (text : Bytes) : Action Unit :=
  modify fun m => if m.second = .closed then m else m.write m.second text

/-- Writes a line of a program about itself to the second stream. -/
def complainOf (program message : String) : Action Unit :=
  complain (ofText (program ++ ": " ++ message ++ "\n"))

/-- All of the input. It waits until no more can come. -/
def takeAll : Action Bytes := do
  let m ← get
  if m.inputOpen then throw .waiting
  set { m with input := [] }
  pure m.input

/-- What is there of the input. -/
def takeSome : Action Bytes := do
  let m ← get
  set { m with input := [] }
  pure m.input

/-- Waits if more input may come. -/
def awaitEnd : Action Unit := do if (← get).inputOpen then throw .waiting

/-- The next bytes of the input, fewer at its end. -/
def takeBytes (n : Nat) : Action Bytes := do
  let m ← get
  if m.inputOpen && m.input.length < n then throw .waiting
  set { m with input := m.input.drop n }
  pure (m.input.take n)

/-- The next line of the input without its end, and whether it had one. -/
def takeLine : Action (Bytes × Bool) := do
  let m ← get
  let line := m.input.takeWhile (· ≠ '\n')
  match m.input.drop line.length with
  | _ :: rest =>
    set { m with input := rest }
    pure (line, true)
  | [] =>
    if m.inputOpen then throw .waiting
    set { m with input := [] }
    pure (line, false)

/-! ## Time -/

/-- Lets time go by, or waits if not as much may go by. -/
def letPass (time : Nat) : Action Unit := do
  let m ← get
  match m.patience with
  | none => set { m with elapsed := m.elapsed + time }
  | some patience =>
    if time ≤ patience then
      set { m with elapsed := m.elapsed + time, patience := some (patience - time) }
    else
      set { m with lacking := time - patience, lingering := m.first = Sink.output && 0 < m.process }
      throw .waiting

/-! ## Variables -/

/-- The value of a variable. -/
def Machine.get? (m : Machine) (name : String) : Option Bytes := Keyed.find? name m.assigned

/-- Complains as the shell does, about the line and the command of its own that run. -/
def tellBytes (message : Bytes) : Action Unit := do
  let m ← get
  let running := if m.running.isEmpty then "" else m.running ++ ": "
  complain (m.name ++ ofText (": " ++ toString m.line ++ ": " ++ running) ++ message ++ ['\n'])

/-- Complains in a text as the shell does. -/
def tell (message : String) : Action Unit := tellBytes (ofText message)

/-- Complains and halts with a fault. -/
def abandon {α : Type} (message : String) : Action α := do
  tell message
  throw .fault

/-- Gives a variable a value. -/
def assign (name : String) (value : Bytes) : Action Unit := do
  let m ← get
  if m.constant.contains name then abandon (name ++ ": is read only")
  let exported := if m.options.contains 'a' then m.exported ++ [name] else m.exported
  set { m with assigned := Keyed.insert name value m.assigned, exported }

/-- Sets the status of the last command. -/
def setStatus (status : Nat) : Action Unit := modify fun m => { m with status }

/-! ## Running parts -/

/-- Runs an action with another input, whose rest is dropped. -/
def withInput {α : Type} (input : Bytes) (a : Action α) : Action α := do
  let before ← get
  set { before with input, inputOpen := false, fromFile := false }
  let r ← a
  modify fun m =>
    { m with input := before.input, inputOpen := before.inputOpen, fromFile := before.fromFile }
  pure r

/-- Runs an action and collects what it writes to the first stream. -/
def collecting {α : Type} (a : Action α) : Action (α × Bytes) := do
  let before ← get
  set { before with first := .collected, collected := [] }
  let r ← a
  let text := (← get).collected
  modify fun m => { m with first := before.first, collected := before.collected }
  pure (r, text)

/-- What a shell says about a process that a signal ended. -/
def signalText : Nat → Bytes
  | 1 => "Hangup\n".toList
  | 3 => "Quit\n".toList
  | 6 => "Aborted\n".toList
  | 9 => "Killed\n".toList
  | 10 => "User defined signal 1\n".toList
  | 11 => "Segmentation fault\n".toList
  | 12 => "User defined signal 2\n".toList
  | 14 => "Alarm clock\n".toList
  | 15 => "Terminated\n".toList
  | _ => []

/-- Runs an action as a process of its own: its variables and its directory are its own, and when it
ends only it has ended. -/
def separately (a : Action Unit) : Action Unit := do
  let before ← get
  let restore (m : Machine) : Machine := { m with toSurroundings := before.toSurroundings }
  modify fun m => { m with traps := m.traps.filter fun (_, commands) => commands.isEmpty }
  try a
  catch
    | .exited status => setStatus status
    | .returned status => setStatus status
    | .fault => setStatus 2
    | .leftLoop _ => pure ()
    | .nextRound _ => pure ()
    | .killed process signal =>
      modify restore
      if before.process = 0 ∨ process = before.process then throw (.killed process signal)
      else
        complain (signalText signal)
        setStatus (128 + signal)
    | .waiting => throw .waiting
    | .endless => throw .endless
  modify restore

/-- Runs an action whose failure is looked at. -/
def testing (a : Action Unit) : Action Unit := do
  let before := (← get).tested
  let restore (m : Machine) : Machine := { m with tested := before }
  modify fun m => { m with tested := true }
  try a
  catch h =>
    modify restore
    throw h
  modify restore

/-- Ends a shell that ends at its first failure, after one that nobody looks at. -/
def endAtFailure : Action Unit := do
  let m ← get
  if m.options.contains 'e' && !m.tested && m.status ≠ 0 then throw (.exited m.status)

end ExtensionHost.Shell
