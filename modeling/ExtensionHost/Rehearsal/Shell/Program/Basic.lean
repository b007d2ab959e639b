import ExtensionHost.Rehearsal.Shell.Call
import ExtensionHost.Rehearsal.Shell.Filter

/-!
# What programs read and write

The files that programs are given, and what programs say about those that they cannot read.
-/

namespace ExtensionHost.Shell

/-- The text of a failure of the system without its number. -/
def plainMessage (e : SystemError) : String :=
  match e.message.splitOn " (os error" with
  | front :: _ => front
  | [] => e.message

/-- What stands at the end of a path. -/
def locatePath (path : Bytes) : Action (Except SystemError (String × Option Entry)) := do
  let m ← get
  return m.files.locate m.cwd (toText path)

/-- The device that holds no end of zeros. -/
def zeroDevice : Bytes := "/dev/zero".toList

/-- The device that is empty and forgets what is written to it. -/
def nullDevice : Bytes := "/dev/null".toList

/-- The stream that a device stands for. -/
def streamDevice? (path : Bytes) : Option Nat :=
  match toText path with
  | "/dev/stdin" => some 0
  | "/dev/stdout" => some 1
  | "/dev/stderr" => some 2
  | "/dev/fd/0" => some 0
  | "/dev/fd/1" => some 1
  | "/dev/fd/2" => some 2
  | _ => none

/-- The bytes of a file. -/
def fileBytes (path : Bytes) : Action (Except SystemError Bytes) := do
  if path = nullDevice then return .ok []
  if streamDevice? path = some 0 then return .ok (← takeAll)
  let m ← get
  return (m.files.readBytes m.cwd (toText path)).map ofBytes

/-- Puts bytes into a file. Gives whether it could be written. -/
def writeFile (path text : Bytes) (append : Bool) : Action (Except SystemError Unit) := do
  if path = nullDevice then return .ok ()
  match streamDevice? path with
  | some 1 =>
    put text
    return .ok ()
  | some 2 =>
    complain text
    return .ok ()
  | _ => pure ()
  match ← locatePath path with
  | .error e => return .error e
  | .ok (_, some .directory) => return .error .isDirectory
  | .ok (name, some (.file content executable)) =>
    let before := if append then content else []
    modify fun m => m.change name (some (.file (before ++ toBytes text) executable))
    return .ok ()
  | .ok (name, none) =>
    modify fun m => m.change name (some (.file (toBytes text) false))
    return .ok ()

/-- What a program says about a file that it cannot read. -/
abbrev Complaint := Bytes → SystemError → String

/-- The path and what is wrong with it. -/
def pathComplaint : Complaint := fun path e => toText path ++ ": " ++ plainMessage e

/-- Says that a file cannot be opened, or read if it is a directory. -/
def openComplaint : Complaint := fun path e =>
  if e = .isDirectory then "error reading " ++ inQuotes path ++ ": " ++ plainMessage e
  else "cannot open " ++ inQuotes path ++ " for reading: " ++ plainMessage e

/-- The bytes of files, or of the input if there are none, with their paths; and whether all could be
read. What cannot be read is complained about. -/
def contentsOf (program : String) (c : Complaint) (paths : List Bytes) :
    Action (List (Bytes × Bytes) × Bool) := do
  if paths.isEmpty then return ([(['-'], ← takeAll)], true)
  let mut contents := []
  let mut fine := true
  for path in paths do
    if path = ['-'] then contents := contents ++ [(path, ← takeAll)]
    else if path = zeroDevice then throw .endless
    else
      match ← fileBytes path with
      | .ok content => contents := contents ++ [(path, content)]
      | .error e =>
        complainOf program (c path e)
        fine := false
  return (contents, fine)

/-- The bytes of files one after the other, or of the input if there are none, and whether all could be
read. -/
def inputOf (program : String) (c : Complaint) (paths : List Bytes) : Action (Bytes × Bool) := do
  let (contents, fine) ← contentsOf program c paths
  return (contents.flatMap Prod.snd, fine)

/-- A status: none if all went well. -/
def statusOf (fine : Bool) (failed : Nat) : Nat := if fine then 0 else failed

/-- Words with blanks between them. -/
def joined (words : List Bytes) : Bytes := [' '].intercalate words

end ExtensionHost.Shell
