import ExtensionHost.File.Tree

/-!
# Programs in files

What a program is when it is to be run: a program of the system, or a script and the program of the
system that runs it. `Image.find` looks for it as the system does, and `enterDirectory` finds the
directory that it is to run in; both fail as the system does.
-/

namespace ExtensionHost

/-- What a program is. A script names the program of the system that runs it, with options. -/
inductive Image where
  | system (name : String)
  | script (runner : String) (options : List String) (path text : String)
  deriving Repr, DecidableEq

namespace Image

/-- The directories of the programs of the system, in which programs are searched for. -/
def systemDirectories : List String := ["/usr/bin", "/bin"]

/-- The names of the directories and programs of the system, as entries of a tree. -/
def systemFiles (programs : List String) : Files :=
  let directories := ["/usr", "/usr/bin", "/bin", "/dev", "/etc", "/tmp", "/home", "/var", "/root"]
  let files := directories.foldl (fun files name => Keyed.insert name .directory files)
    [("/dev/null", .file [] false)]
  systemDirectories.foldl (fun files directory =>
    programs.foldl (fun files name =>
      Keyed.insert (Files.child directory name) (.file [] true) files) files) files

/-- The last part of a full name. -/
def lastName (name : String) : String :=
  String.ofList (name.toList.reverse.takeWhile (· ≠ '/')).reverse

/-- The name of the program of the system that a full name stands for. -/
def systemName? (name : String) : Option String :=
  if systemDirectories.contains (Files.parent name) then some (lastName name) else none

/-- The words of a script's first line after its mark, if it has one. -/
def runnerWords? (text : String) : Option (List String) :=
  match text.toList with
  | '#' :: '!' :: rest =>
    let line := (rest.takeWhile (· ≠ '\n')).map fun c => if c = '\t' then ' ' else c
    some (((Path.splitAt ' ' line).map String.ofList).filter (· ≠ ""))
  | _ => none

/-- The program of the system that runs a script, and the options that it is run with. -/
def runner (files : Files) : List String → Except SystemError (String × List String)
  | [] => .error .execFormat
  | path :: args =>
    match files.locate "/" path with
    | .error e => .error e
    | .ok (_, none) => .error .notFound
    | .ok (name, some _) =>
      match systemName? name with
      | some "env" => .ok (args.headD "env", args.tail)
      | some name => .ok (name, args)
      | none => .error .permission

/-- What stands under a full name, as a program. A text that names no program is none, unless
`shellRuns` lets the shell run it. -/
def ofEntry (files : Files) (shellRuns : Bool) (name path : String) :
    Entry → Except SystemError Image
  | .directory => .error .permission
  | .file _ false => .error .permission
  | .file content true =>
    match systemName? name with
    | some name => .ok (.system name)
    | none =>
      let text := String.ofList (Utf8.decodeLossy content)
      match runnerWords? text with
      | none => if shellRuns then .ok (.script "sh" [] path text) else .error .execFormat
      | some words =>
        (runner files words).map fun (name, options) => .script name options path text

/-- The program at the end of a path. -/
def atPath (files : Files) (shellRuns : Bool) (cwd path : String) : Except SystemError Image :=
  match files.locate cwd path with
  | .error e => .error e
  | .ok (_, none) => .error .notFound
  | .ok (name, some e) => ofEntry files shellRuns name path e

/-- The first program at the end of some paths. One that may not be run is passed over, and decides only
if none is found. -/
def firstOf (files : Files) (shellRuns : Bool) (cwd : String) : List String → Except SystemError Image
  | [] => .error .notFound
  | path :: paths =>
    match atPath files shellRuns cwd path with
    | .ok image => .ok image
    | .error .notFound => firstOf files shellRuns cwd paths
    | .error .notDirectory =>
      if paths.isEmpty then .error .notDirectory else firstOf files shellRuns cwd paths
    | .error .permission =>
      match firstOf files shellRuns cwd paths with
      | .ok image => .ok image
      | .error .notFound => .error .permission
      | .error .notDirectory => .error .permission
      | .error e => .error e
    | .error e => .error e

/-- The paths that a name may be found at: those in the directories of a list with colons between them,
where an empty one is the directory that is searched from. -/
def pathsIn (directories program : String) : List String :=
  (Path.splitAt ':' directories.toList).map fun directory =>
    if directory.isEmpty then program else String.ofList directory ++ "/" ++ program

/-- The paths that a program may be found at: a name with a slash is a path, any other is searched for
in directories, which are those of the system unless said otherwise. -/
def candidates (directories : Option String) (program : String) : List String :=
  if program = "" then []
  else if program.toList.contains '/' then [program]
  else
    match directories with
    | some directories => pathsIn directories program
    | none => systemDirectories.map fun directory => Files.child directory program

/-- Finds a program. -/
def find (files : Files) (cwd program : String) : Except SystemError Image :=
  if program.toList.contains '/' then atPath files false cwd program
  else firstOf files false cwd (candidates none program)

/-- Finds a program in given directories. A text there that names no program is one of the shell. -/
def search (files : Files) (cwd directories program : String) : Except SystemError Image :=
  if program.toList.contains '/' then atPath files true cwd program
  else firstOf files true cwd (candidates (some directories) program)

end Image

/-- The directory that a path leads to from another one. -/
def enterDirectory (files : Files) (cwd path : String) : Except SystemError String :=
  match files.locate cwd path with
  | .error e => .error e
  | .ok (_, none) => .error .notFound
  | .ok (_, some (.file _ _)) => .error .notDirectory
  | .ok (name, some .directory) => .ok name

/-- The program that is found when it is to run in a directory with arguments and an environment, and
that directory. None of them may hold a zero byte. An environment that says where programs are is heeded. -/
def findIn (files : Files) (cwd : String) (directory : Option String) (program : String)
    (args : List String) (env : Keyed String) : Except SystemError (Image × String) := do
  let given := program :: directory.toList ++ args ++ env.flatMap fun (name, v) => [name, v]
  if given.any fun text => text.toList.contains '\x00' then .error .zeroData
  let here ← match directory with
    | some path => enterDirectory files cwd path
    | none => .ok cwd
  let image ← match Keyed.find? "PATH" env with
    | some directories =>
      if program.toList.contains '/' then Image.find files here program
      else Image.search files here directories program
    | none => Image.find files here program
  .ok (image, here)

end ExtensionHost
