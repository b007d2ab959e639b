import ExtensionHost.Keyed
import ExtensionHost.Text.Utf8
import ExtensionHost.File.Path

/-!
# Files

The files and directories that the host works on, each under its full name: an absolute path without
empty names and without names that stand for other directories. Every operation finds its file from a
path, relative to a working directory, and fails as the system does: a name on the way that is missing
or that is a file, a directory where a file is needed, a name that no file can have.
-/

namespace ExtensionHost

/-! ## Failures of the system -/

/-- Why the system refuses an operation. -/
inductive SystemError where
  | notFound
  | execFormat
  | permission
  | fileExists
  | notDirectory
  | isDirectory
  | nameTooLong
  | zeroByte
  | zeroData
  | notText
  deriving Repr, DecidableEq

/-- The text of a failure of the system. -/
def SystemError.message : SystemError → String
  | .notFound => "No such file or directory (os error 2)"
  | .execFormat => "Exec format error (os error 8)"
  | .permission => "Permission denied (os error 13)"
  | .fileExists => "File exists (os error 17)"
  | .notDirectory => "Not a directory (os error 20)"
  | .isDirectory => "Is a directory (os error 21)"
  | .nameTooLong => "File name too long (os error 36)"
  | .zeroByte => "file name contained an unexpected NUL byte"
  | .zeroData => "nul byte found in provided data"
  | .notText => "stream did not contain valid UTF-8"

/-! ## The tree -/

/-- What stands under a full name. -/
inductive Entry where
  | file (content : List UInt8) (executable : Bool)
  | directory
  deriving Repr, DecidableEq

/-- Files and directories under their full names. The root is always there. -/
abbrev Files := Keyed Entry

namespace Files

/-- The entry under a full name. -/
def entry? (files : Files) (name : String) : Option Entry :=
  if name = "/" then some .directory else Keyed.find? name files

/-- The full name of an entry of a directory. -/
def child (directory name : String) : String :=
  if directory = "/" then "/" ++ name else directory ++ "/" ++ name

/-- The full name of the directory above. -/
def parent (name : String) : String :=
  let above := (name.toList.reverse.dropWhile (· ≠ '/')).drop 1
  if above.isEmpty then "/" else String.ofList above.reverse

/-- The greatest number of bytes of a name. -/
def greatestName : Nat := 255

/-- Goes from the directory `at` along names; the last name may be missing. -/
def walk (files : Files) (here : String) : List String → Except SystemError (String × Option Entry)
  | [] => .ok (here, entry? files here)
  | name :: rest =>
    match entry? files here with
    | none => .error .notFound
    | some (.file _ _) => .error .notDirectory
    | some .directory =>
      if name = "" ∨ name = "." then walk files here rest
      else if name = ".." then walk files (parent here) rest
      else if greatestName < name.utf8ByteSize then .error .nameTooLong
      else
        let next := child here name
        match entry? files next, rest with
        | none, [] => .ok (next, none)
        | none, _ :: _ => .error .notFound
        | some e, [] => .ok (next, some e)
        | some _, _ :: _ => walk files next rest

/-- The names of a path, empty ones included. -/
def pathNames (path : String) : List String :=
  (Path.splitAt '/' path.toList).map String.ofList

/-- What a path leads to from a working directory: a full name, and what stands there. Only the last
name may be missing. -/
def locate (files : Files) (cwd path : String) : Except SystemError (String × Option Entry) :=
  if path = "" then .error .notFound
  else if path.toList.contains '\x00' then .error .zeroByte
  else walk files (if Path.isAbsolute path then "/" else cwd) (pathNames path)

/-- What stands at the end of a path. -/
def find? (files : Files) (cwd path : String) : Option Entry :=
  match locate files cwd path with
  | .ok (_, e) => e
  | .error _ => none

/-- Whether a path leads to anything. -/
def exists? (files : Files) (cwd path : String) : Bool :=
  (find? files cwd path).isSome

/-- Whether a path leads to a file. -/
def isFile (files : Files) (cwd path : String) : Bool :=
  match find? files cwd path with
  | some (.file _ _) => true
  | _ => false

/-- Whether a path leads to a directory. -/
def isDirectory (files : Files) (cwd path : String) : Bool :=
  find? files cwd path = some .directory

/-- The full name that a path leads to. -/
def fullName (files : Files) (cwd path : String) : Except SystemError String :=
  match locate files cwd path with
  | .error e => .error e
  | .ok (_, none) => .error .notFound
  | .ok (name, some _) => .ok name

/-- The bytes of a file. -/
def readBytes (files : Files) (cwd path : String) : Except SystemError (List UInt8) :=
  match locate files cwd path with
  | .error e => .error e
  | .ok (_, none) => .error .notFound
  | .ok (_, some .directory) => .error .isDirectory
  | .ok (_, some (.file content _)) => .ok content

/-- The text of a file. -/
def readText (files : Files) (cwd path : String) : Except SystemError String := do
  let bytes ← readBytes files cwd path
  match Utf8.decode? bytes with
  | some text => .ok (String.ofList text)
  | none => .error .notText

/-- The names of a path without the empty ones at its end, the last one first. -/
def namesBack (path : String) : List String := (pathNames path).reverse.dropWhile (· = "")

/-- The directory of the last name of a path, given by the names before it, the last one first. -/
def walkTo (files : Files) (cwd path : String) (before : List String) : Except SystemError String := do
  match ← walk files (if Path.isAbsolute path then "/" else cwd) before.reverse with
  | (name, some .directory) => .ok name
  | (_, some (.file _ _)) => .error .notDirectory
  | (_, none) => .error .notFound

/-- Whether a name stands for a directory by its place. -/
def isDots (name : String) : Bool := name = "." || name = ".."

/-- What a path leads to that a file may be made at. A path that ends in a slash names a directory, and
no file is made there. -/
def locateFile (files : Files) (cwd path : String) : Except SystemError (String × Option Entry) :=
  match namesBack path with
  | last :: before =>
    if path.toList.getLast? = some '/' && !isDots last && !path.toList.contains '\x00' then do
      let _ ← walkTo files cwd path before
      .error .isDirectory
    else locate files cwd path
  | [] => locate files cwd path

/-- Puts bytes into a file, which is made if it is missing. -/
def writeBytes (files : Files) (cwd path : String) (content : List UInt8) :
    Except SystemError Files :=
  match locateFile files cwd path with
  | .error e => .error e
  | .ok (_, some .directory) => .error .isDirectory
  | .ok (name, some (.file _ executable)) =>
    .ok (Keyed.insert name (.file content executable) files)
  | .ok (name, none) => .ok (Keyed.insert name (.file content false) files)

/-- Puts a text into a file, which is made if it is missing. -/
def writeText (files : Files) (cwd path text : String) : Except SystemError Files :=
  writeBytes files cwd path (Utf8.encode text.toList)

/-! ## Making directories -/

/-- Makes a directory in one that is there. -/
def makeDirectory (files : Files) (cwd path : String) : Except SystemError Files :=
  if path = "" then .error .notFound
  else if path.toList.contains '\x00' then .error .zeroByte
  else
    match namesBack path with
    | [] => .error .fileExists
    | last :: before => do
      let above ← walkTo files cwd path before
      let name := child above last
      if isDots last then .error .fileExists
      else if greatestName < last.utf8ByteSize then .error .nameTooLong
      else
        match entry? files name with
        | some _ => .error .fileExists
        | none => .ok (Keyed.insert name .directory files)

/-- Names, the last one first, without those at the end that are empty or stand for the directory
itself. The first name of all stays. -/
def withoutIdle : List String → List String
  | [] => []
  | [first] => [first]
  | name :: rest => if name = "" || name = "." then withoutIdle rest else name :: rest

/-- The path of the directory above, in the names of a path; there is none above the root. -/
def above? (path : String) : Option String :=
  match withoutIdle (pathNames path).reverse with
  | [] => none
  | [_] => if Path.isAbsolute path then none else some ""
  | _ :: rest =>
    match (withoutIdle rest).reverse with
    | [""] => some "/"
    | names => some ("/".intercalate names)

/-- Makes a directory and those above it that are missing, at most `fuel` of them. What was made stays
even if the rest cannot be made. -/
def makeMissing (files : Files) (cwd : String) : Nat → String → Files × Except SystemError Unit
  | 0, _ => (files, .error .notFound)
  | fuel + 1, path =>
    let settle (files : Files) (e : SystemError) : Files × Except SystemError Unit :=
      (files, if isDirectory files cwd path then .ok () else .error e)
    if path = "" then (files, .ok ())
    else
      match makeDirectory files cwd path, above? path with
      | .ok files, _ => (files, .ok ())
      | .error .notFound, some above =>
        match makeMissing files cwd fuel above with
        | (files, .error e) => (files, .error e)
        | (files, .ok ()) =>
          match makeDirectory files cwd path with
          | .ok files => (files, .ok ())
          | .error e => settle files e
      | .error e, _ => settle files e

/-- Makes a directory and all directories above it. -/
def makeDirectories (files : Files) (cwd path : String) : Files × Except SystemError Unit :=
  makeMissing files cwd ((pathNames path).length + 1) path

/-- Makes every directory on the way along names. -/
def makeAlong (files : Files) (here : String) : List String → Except SystemError Files
  | [] => .ok files
  | name :: rest =>
    if name = "" ∨ name = "." then makeAlong files here rest
    else if name = ".." then makeAlong files (parent here) rest
    else if greatestName < name.utf8ByteSize then .error .nameTooLong
    else
      let next := child here name
      match entry? files next with
      | some .directory => makeAlong files next rest
      | some (.file _ _) => .error (if rest.isEmpty then .fileExists else .notDirectory)
      | none => makeAlong (Keyed.insert next .directory files) next rest

/-- Makes every directory on the way of a path. -/
def makeWay (files : Files) (cwd path : String) : Except SystemError Files :=
  if path.toList.contains '\x00' then .error .zeroByte
  else makeAlong files (if Path.isAbsolute path then "/" else cwd) (pathNames path)

/-- Makes changes in order: each puts an entry under a full name, or takes the one there away. -/
def change (files : Files) (changes : List (String × Option Entry)) : Files :=
  changes.foldl (fun files (name, e) =>
    match e with
    | some e => Keyed.insert name e files
    | none => Keyed.erase name files) files

/-- Takes a file away; a directory stays. -/
def remove? (files : Files) (cwd path : String) : Option Files :=
  match locate files cwd path with
  | .ok (name, some (.file _ _)) => some (Keyed.erase name files)
  | _ => none

/-- The names in a directory, in increasing order. -/
def list (files : Files) (directory : String) : List String :=
  let front := (child directory "").toList
  files.filterMap fun (name, _) =>
    let name := name.toList
    if front.isPrefixOf name then
      let rest := name.drop front.length
      if rest.isEmpty || rest.contains '/' then none else some (String.ofList rest)
    else none

/-- The directory that a file of a path stands in: the path up to its last slash. -/
def directoryOf (path : String) : String :=
  let above := path.toList.reverse.dropWhile (· ≠ '/')
  String.ofList above.reverse

/-- Puts a text into a file after making the directories it stands in. What was made stays even if the
rest fails. -/
def place (files : Files) (cwd path text : String) (executable : Bool) :
    Files × Except SystemError Unit :=
  match makeDirectories files cwd ((above? path).getD "") with
  | (files, .error e) => (files, .error e)
  | (files, .ok ()) =>
    match locateFile files cwd path with
    | .error e => (files, .error e)
    | .ok (_, some .directory) => (files, .error .isDirectory)
    | .ok (name, _) =>
      (Keyed.insert name (.file (Utf8.encode text.toList) executable) files, .ok ())

end Files

end ExtensionHost
