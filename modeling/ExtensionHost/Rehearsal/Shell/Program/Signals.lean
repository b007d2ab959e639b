import ExtensionHost.Rehearsal.Shell.Program.Basic

/-!
# Signals

The numbers and names of signals, and the commands that send them to processes. Only shells that run
are there to get one.
-/

namespace ExtensionHost.Shell

/-- The names of signals, with their numbers. -/
def signals : List (String × Nat) :=
  let plain := ["HUP", "INT", "QUIT", "ILL", "TRAP", "ABRT", "BUS", "FPE", "KILL", "USR1", "SEGV",
    "USR2", "PIPE", "ALRM", "TERM", "16", "CHLD", "CONT", "STOP", "TSTP", "TTIN", "TTOU", "URG",
    "XCPU", "XFSZ", "VTALRM", "PROF", "WINCH", "IO", "PWR", "SYS", "32", "33", "RTMIN"]
  let low := (List.range 15).map fun i => "RTMIN+" ++ toString (i + 1)
  let high := (List.range 14).map fun i => "RTMAX-" ++ toString (14 - i)
  let names := plain ++ low ++ high ++ ["RTMAX"]
  names.zip (List.range' 1 names.length)

/-- The number of a signal, from its number or its name. -/
def signal? (word : Bytes) : Option Nat :=
  match number? word with
  | some n => if n ≤ signals.length then some n else none
  | none =>
    let name := String.ofList (word.map Char.toUpper)
    if name = "EXIT" then some 0 else signals.lookup name

/-- The name of a signal. -/
def signalName? (n : Nat) : Option String := (signals.find? (·.2 = n)).map Prod.fst

/-- The name of the signal that a status tells of, or that has a number. -/
def endingSignal? (status : Nat) : Option String :=
  signalName? (if 128 < status then status - 128 else status)

/-- Sends a signal to a process. Gives whether there is one. -/
def sendSignal (process signal : Nat) : Action Bool := do
  if process = 0 ∨ (← get).process < process then return false
  if signal ≠ 0 then throw (.killed process signal)
  return true

/-- What the shell is asked to do about signals. -/
inductive SignalCall where
  | list (statuses : List Bytes)
  | send (signal : Nat) (targets : List Bytes)
  | wrong (message : String)

/-- How signals are sent. -/
def signalUsage : String :=
  "Usage: kill [-s sigspec | -signum | -sigspec] [pid | job]... or\nkill -l [exitstatus]"

/-- Reads the arguments of the shell's command. -/
def SignalCall.read (args : List Bytes) : SignalCall :=
  let sending (signal : Nat) (targets : List Bytes) : SignalCall :=
    let targets := if targets.head? = some ['-', '-'] then targets.tail else targets
    if targets.isEmpty then .wrong signalUsage else .send signal targets
  match args with
  | ['-', 'l'] :: statuses => .list statuses
  | ('-' :: 's' :: name) :: rest =>
    let (name, targets) := if name.isEmpty then (rest.headD [], rest.tail) else (name, rest)
    match signal? name with
    | some n => sending n targets
    | none => .wrong ("invalid signal number or name: " ++ toText name)
  | ('-' :: c :: name) :: targets =>
    if c = '-' then sending 15 args
    else
      match signal? (c :: name) with
      | some n => sending n targets
      | none => .wrong ("Illegal option -" ++ toText [c])
  | targets => sending 15 targets

/-- Sends signals for the shell, which complains about them in its own way. -/
def sendSignals (args : List Bytes) : Action Nat := do
  match SignalCall.read args with
  | .wrong message =>
    tell message
    return 2
  | .list [] =>
    put (ofText (("0" :: signals.map Prod.fst).foldr (fun name rest => name ++ "\n" ++ rest) ""))
    return 0
  | .list (status :: _) =>
    match number? status with
    | none => tell ("Illegal number: " ++ toText status)
    | some n =>
      match endingSignal? n with
      | some name =>
        put (ofText (name ++ "\n"))
        return 0
      | none => tell ("invalid signal number or exit status: " ++ toText status)
    return 2
  | .send signal targets =>
    let mut status := 0
    for target in targets do
      if target.head? = some '%' then
        tell ("No such job: " ++ toText target)
        return 2
      match number? target with
      | none =>
        tell ("Illegal number: " ++ toText target)
        return 2
      | some process =>
        if !(← sendSignal process signal) then
          tell "No such process\n"
          status := 1
    return status

/-- Sends signals for the program. -/
def kill (args : List Bytes) : Action Nat := do
  match SignalCall.read args with
  | .list statuses =>
    for status in statuses do
      put (ofText (((number? status).bind endingSignal?).getD "" ++ "\n"))
    return 0
  | .wrong _ => return 1
  | .send signal targets =>
    let mut status := 0
    for target in targets do
      match number? target with
      | none =>
        complainOf "kill" ("failed to parse argument: " ++ inQuotes target)
        return 1
      | some process =>
        if !(← sendSignal process signal) then
          complainOf "kill" ("(" ++ toText target ++ "): No such process")
          status := 1
    return status

end ExtensionHost.Shell
