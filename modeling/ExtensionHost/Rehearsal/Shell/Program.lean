import ExtensionHost.Rehearsal.Shell.Program.Files
import ExtensionHost.Rehearsal.Shell.Program.Lines
import ExtensionHost.Rehearsal.Shell.Program.Signals
import ExtensionHost.Rehearsal.Shell.Program.Words

/-!
# Programs of the system

The small programs that scripts are made of, by their names. Programs that run other programs are not
here but in the shell.
-/

namespace ExtensionHost.Shell

/-- The programs of the system. -/
def programNames : List String :=
  ["sh", "dash", "bash", "env", "xargs", "which", "cat", "echo", "printf", "true", "false", "pwd",
    "test", "[", "kill", "sleep", "head", "tail", "wc", "tr", "sed", "grep", "egrep", "fgrep", "sort",
    "uniq", "cut", "paste", "nl", "rev", "tac", "fold", "od", "tee", "seq", "yes", "expr", "chmod",
    "mkdir", "rmdir", "rm", "touch", "cp", "mv", "basename", "dirname", "ls"]

/-- The name that the program has which calls the others. -/
def ownName : String := ".own"

/-- The files of the system, with the file of the process that calls the others. -/
def systemFiles : Files :=
  let files := Image.systemFiles (ownName :: programNames)
  [ ("/proc", Entry.directory), ("/proc/0", .directory),
    ("/proc/0/exe", .file (Utf8.encode ("#!/bin/" ++ ownName ++ "\n").toList) true) ].foldl
      (fun files (name, e) => Keyed.insert name e files) files

/-- Runs the program that calls the others. -/
def runOwn (args : List Bytes) : Action Nat := do
  let m ← get
  match m.own m.files m.cwd (args.map toText) with
  | none => throw .endless
  | some ending =>
    set (m.withFiles ending.files)
    put ending.output
    complain ending.errors
    return ending.status

/-- Runs a program of the system, unless it is one that runs others. -/
def runProgram (name : String) (args : List Bytes) : Action (Option Nat) :=
  match name with
  | "cat" => some <$> cat args
  | "echo" => some <$> echo false args
  | "printf" => some <$> printf .system args
  | "true" => pure (some 0)
  | "false" => pure (some 1)
  | "pwd" => do
    put (ofText (← get).cwd ++ ['\n'])
    return some 0
  | "test" => some <$> test (complainOf "test") args
  | "[" =>
    if args.getLast? = some [']'] then some <$> test (complainOf "[") args.dropLast
    else do
      complainOf "[" "missing ']'"
      return some 2
  | "kill" => some <$> kill args
  | "sleep" => some <$> sleep args
  | "head" => some <$> head args
  | "tail" => some <$> tail args
  | "wc" => some <$> wc args
  | "tr" => some <$> tr args
  | "sed" => some <$> sed args
  | "grep" => some <$> grep args
  | "egrep" => some <$> grep ("-E".toList :: args)
  | "fgrep" => some <$> grep ("-F".toList :: args)
  | "sort" => some <$> sort args
  | "uniq" => some <$> uniq args
  | "cut" => some <$> cut args
  | "paste" => some <$> paste args
  | "nl" => some <$> nl args
  | "rev" => some <$> rev args
  | "tac" => some <$> tac args
  | "fold" => some <$> fold args
  | "od" => some <$> od args
  | "tee" => some <$> tee args
  | "seq" => some <$> seq args
  | "yes" => some <$> yes args
  | "expr" => some <$> expr args
  | "chmod" => some <$> chmod args
  | "mkdir" => some <$> mkdir args
  | "rmdir" => some <$> rmdir args
  | "rm" => some <$> rm args
  | "touch" => some <$> touch args
  | "cp" => some <$> copy "cp" false args
  | "mv" => some <$> copy "mv" true args
  | "basename" => some <$> basename args
  | "dirname" => some <$> dirname args
  | "ls" => some <$> ls args
  | _ => pure none

end ExtensionHost.Shell
