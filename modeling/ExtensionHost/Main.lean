import ExtensionHost.CommandLine.Run
import ExtensionHost.Rehearsal.Shell.Process

/-!
# The program on real files

Reads what the arguments name from the disk into a tree of files, runs the program on it, and writes
back what changed: files, output and log. What happens in between is `CommandLine.run`, with the
programs that the library itself knows.
-/

namespace ExtensionHost.CommandLine

/-! ## Reading -/

/-- How deep directories are read. -/
def greatestDepth : Nat := 16

/-- The mark of a script. -/
def scriptMark : List UInt8 := Utf8.encode "#!".toList

/-- Adds what stands under a full name, and, up to a depth, what stands below it. Nothing is added
where nothing can be read. -/
def addTree : Nat → String → Files → IO Files
  | 0, _, files => pure files
  | depth + 1, name, files => do
    let path := (← IO.currentDir) / name
    if ← path.isDir then
      let mut files := Keyed.insert name .directory files
      for e in ← path.readDir do
        files ← addTree depth (Files.child name e.fileName) files
      pure files
    else
      match ← (IO.FS.readBinFile path).toBaseIO with
      | .ok content =>
        let content := content.toList
        pure (Keyed.insert name (.file content (scriptMark.isPrefixOf content)) files)
      | .error _ => pure files

/-- Adds what a path leads to, with the directories above it. -/
def addPath (cwd path : String) (files : Files) : IO Files := do
  let full := Path.join cwd path
  match files.makeWay "/" (Files.directoryOf full) with
  | .error _ => pure files
  | .ok files =>
    match files.locate "/" full with
    | .ok (name, _) => addTree greatestDepth name files
    | .error _ => pure files

/-- The paths of what the program may read. -/
def Invocation.paths (p : Place) : Invocation → List String
  | .run o c =>
    let own := [o.root p, o.extensionPath.getD p.extensionPath, Path.join p.home ".config"]
    match c with
    | .edit file _ => file :: o.mix.toList ++ own
    | _ => own
  | _ => []

/-- Where the program runs. -/
def Place.current : IO Place := do
  let self ← (IO.FS.realPath "/proc/self").toBaseIO
  let number := match self with
    | .ok path => path.fileName.bind String.toNat?
    | .error _ => none
  pure
    { programs := Shell.programs Shell.noOwn
      cwd := (← IO.currentDir).toString
      home := (← IO.getEnv "HOME").getD "/"
      wording := fun _ => "expected a value in JSON"
      processId := number.getD 0 }

/-! ## Writing -/

/-- Writes an entry to the disk, if it is not there as it was. -/
def writeEntry (before : Files) (name : String) (e : Entry) : IO Unit := do
  unless Keyed.find? name before = some e do
    let path := (← IO.currentDir) / name
    match e with
    | .directory => IO.FS.createDirAll path
    | .file content _ => IO.FS.writeBinFile path ⟨content.toArray⟩

/-- Writes all that changed to the disk. -/
def writeChanges (before after : Files) : IO Unit := do
  for (name, e) in after do
    writeEntry before name e
  for (name, _) in before do
    unless Keyed.contains name after do
      IO.FS.removeFile ((← IO.currentDir) / name)

end ExtensionHost.CommandLine

open ExtensionHost CommandLine in
/-- Runs the program with the arguments on the files of the disk. -/
def main (args : List String) : IO UInt32 := do
  let place ← Place.current
  let mut before := Shell.systemFiles
  for path in (Invocation.ofArguments args).paths place do
    before ← addPath place.cwd path before
  match CommandLine.run place before args with
  | none => throw (IO.userError "The end was not reached")
  | some ending =>
    writeChanges before ending.files
    (← IO.getStdout).putStr ending.output
    for line in ending.lines do
      (← IO.getStderr).putStrLn line
    pure (UInt32.ofNat ending.status)
