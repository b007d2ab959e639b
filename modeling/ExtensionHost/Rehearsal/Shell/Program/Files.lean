import ExtensionHost.Process.Image
import ExtensionHost.Rehearsal.Shell.Program.Basic

/-!
# Programs on files

The programs of the system that make, change, move and list files, and one that shows their bytes.
-/

namespace ExtensionHost.Shell

/-- Complains that something cannot be done. -/
def cannot (program what : String) (e : SystemError) : Action Unit :=
  complainOf program ("cannot " ++ what ++ ": " ++ plainMessage e)

/-- Does something with each path; the status says whether all went well. -/
def forEach (paths : List Bytes) (f : Bytes → Action Bool) : Action Nat := do
  let mut status := 0
  for path in paths do
    if !(← f path) then status := 1
  return status

/-- Complains that an operand is missing, or does something with each. -/
def forEachOperand (program : String) (c : Call) (what : String) (f : Bytes → Action Bool) :
    Action Nat := do
  if c.operands.isEmpty then complainOfCall program ("missing " ++ what) 1 else forEach c.operands f

/-- Copies the input to the output and to files. -/
def tee (args : List Bytes) : Action Nat :=
  called "tee" { plain := "aip", names := [("append", 'a')] } 1 args fun c => do
    let text ← takeAll
    put text
    forEach c.operands fun path => do
      match ← writeFile path text (c.has 'a') with
      | .ok () => return true
      | .error e =>
        complainOf "tee" (pathComplaint path e)
        return false

/-! ## Permissions -/

/-- Whether files may be run after a mode is set: what the mode says, or nothing if it says nothing about
it, or that the mode is none. -/
def executableBy? (mode : Bytes) : Option (Option Bool) :=
  if mode.all isOctal && !mode.isEmpty then
    some (some ((numberTo 8 mode / 64) % 2 = 1))
  else
    let who := mode.takeWhile fun c => "ugoa".toList.contains c
    match mode.drop who.length with
    | op :: letters =>
      if "+-=".toList.contains op && letters.all fun c => "rwxXst".toList.contains c then
        let owner := who.isEmpty || who.contains 'u' || who.contains 'a'
        let runs := letters.contains 'x'
        some (if !owner then none
          else if op = '+' then (if runs then some true else none)
          else if op = '-' then (if runs then some false else none)
          else some runs)
      else none
    | [] => none

/-- Changes whether files may be run. -/
def chmod (args : List Bytes) : Action Nat := do
  let words := args.filter fun a => !(["-R", "-v", "-f", "--"].contains (toText a))
  match words with
  | [] => complainOfCall "chmod" "missing operand" 1
  | [mode] => complainOfCall "chmod" ("missing operand after " ++ inQuotes mode) 1
  | mode :: paths =>
    match (Path.splitAt ',' mode).mapM executableBy? with
    | none => complainOfCall "chmod" ("invalid mode: " ++ inQuotes mode) 1
    | some changes =>
      forEach paths fun path => do
        match ← locatePath path with
        | .ok (name, some (.file content executable)) =>
          let after := changes.foldl (fun e change => change.getD e) executable
          if after ≠ executable then
            modify fun m => m.change name (some (.file content after))
          return true
        | .ok (_, some .directory) => return true
        | .ok (_, none) =>
          cannot "chmod" ("access " ++ inQuotes path) .notFound
          return false
        | .error e =>
          cannot "chmod" ("access " ++ inQuotes path) e
          return false

/-! ## Directories -/

/-- Makes a directory, in one that is there. -/
def makeDirectory (path : Bytes) : Action Bool := do
  let what := "create directory " ++ inQuotes path
  match ← locatePath path with
  | .error e =>
    cannot "mkdir" what e
    return false
  | .ok (_, some _) =>
    cannot "mkdir" what .fileExists
    return false
  | .ok (name, none) =>
    modify fun m => m.change name (some .directory)
    return true

/-- Makes directories, if asked to with those above them. -/
def mkdir (args : List Bytes) : Action Nat :=
  called "mkdir" { plain := "pv", valued := "m", names := [("parents", 'p'), ("mode", 'm')] } 1 args
    fun c =>
      forEachOperand "mkdir" c "operand" fun path => do
        if !c.has 'p' then return ← makeDirectory path
        let m ← get
        match m.files.makeWay m.cwd (toText path) with
        | .ok files =>
          let added := files.filter fun (name, _) => !Keyed.contains name m.files
          set (added.foldl (fun m (name, e) => m.change name (some e)) m)
          return true
        | .error e =>
          cannot "mkdir" ("create directory " ++ inQuotes path) e
          return false

/-- Takes empty directories away. -/
def rmdir (args : List Bytes) : Action Nat :=
  called "rmdir" { plain := "pv" } 1 args fun c =>
    forEachOperand "rmdir" c "operand" fun path => do
      let refuse (message : String) : Action Bool := do
        complainOf "rmdir" ("failed to remove " ++ inQuotes path ++ ": " ++ message)
        return false
      match ← locatePath path with
      | .error e => refuse (plainMessage e)
      | .ok (_, none) => refuse (plainMessage .notFound)
      | .ok (_, some (.file _ _)) => refuse (plainMessage .notDirectory)
      | .ok (name, some .directory) =>
        if ((← get).files.list name).isEmpty then
          modify fun m => m.change name none
          return true
        else refuse "Directory not empty"

/-! ## Files -/

/-- The names of all that is below a directory, what is deeper first. -/
def below (files : Files) (name : String) : List String :=
  (files.filterMap fun (other, _) =>
    if (name ++ "/").toList.isPrefixOf other.toList then some other else none).reverse

/-- Takes files away, if asked to with directories and all that is below them. -/
def rm (args : List Bytes) : Action Nat :=
  let names := [("recursive", 'r'), ("force", 'f'), ("dir", 'd'), ("verbose", 'v')]
  called "rm" { plain := "rRfdivI", names } 1 args fun c => do
    let force := c.has 'f'
    if c.operands.isEmpty && force then return 0
    forEachOperand "rm" c "operand" fun path => do
      let refuse (e : SystemError) : Action Bool := do
        if force && (e = .notFound || e = .notDirectory) then return true
        cannot "rm" ("remove " ++ inQuotes path) e
        return false
      match ← locatePath path with
      | .ok (name, some .directory) =>
        let files := (← get).files
        if c.has 'r' || c.has 'R' then
          for other in below files name do modify fun m => m.change other none
          modify fun m => m.change name none
          return true
        else if c.has 'd' && (files.list name).isEmpty then
          modify fun m => m.change name none
          return true
        else refuse .isDirectory
      | .ok (name, some _) =>
        modify fun m => m.change name none
        return true
      | .ok (_, none) => refuse .notFound
      | .error e => refuse e

/-- Makes files that are missing. -/
def touch (args : List Bytes) : Action Nat :=
  called "touch" { plain := "acfhm", valued := "drt" } 1 args fun c =>
    forEachOperand "touch" c "file operand" fun path => do
      match ← locatePath path with
      | .ok (_, some _) => return true
      | .ok (name, none) =>
        if !c.has 'c' then modify fun m => m.change name (some (.file [] false))
        return true
      | .error e =>
        cannot "touch" ("touch " ++ inQuotes path) e
        return false

/-- Copies what stands under a full name, and what is below it, to another one. -/
def copyTree (source target : String) : Action Unit := do
  let m ← get
  let moved := m.files.filterMap fun (name, e) =>
    if name = source then some (target, e)
    else if (source ++ "/").toList.isPrefixOf name.toList then
      some (target ++ String.ofList (name.toList.drop source.length), e)
    else none
  for (name, e) in moved do modify fun m => m.change name (some e)

/-- Copies or moves a file to a path. Gives whether that could be done. -/
def copyTo (program : String) (moved recursive : Bool) (target source : Bytes) : Action Bool := do
  match ← locatePath source with
  | .error e =>
    cannot program ("stat " ++ inQuotes source) e
    return false
  | .ok (_, none) =>
    cannot program ("stat " ++ inQuotes source) .notFound
    return false
  | .ok (name, some e) =>
    if e = .directory && !moved && !recursive then
      complainOf program ("-r not specified; omitting directory " ++ inQuotes source)
      return false
    match ← locatePath target with
    | .error failure =>
      if moved then
        complainOf program ("cannot move " ++ inQuotes source ++ " to " ++ inQuotes target ++ ": " ++
          plainMessage failure)
      else cannot program ("create regular file " ++ inQuotes target) failure
      return false
    | .ok (there, old) =>
      if there = name then
        complainOf program (inQuotes source ++ " and " ++ inQuotes target ++ " are the same file")
        return false
      if old.isSome && e = .directory then
        complainOf program ("cannot overwrite non-directory " ++ inQuotes target ++
          " with directory " ++ inQuotes source)
        return false
      copyTree name there
      if moved then
        for other in below (← get).files name ++ [name] do modify fun m => m.change other none
      return true

/-- Copies files; moved ones are taken away from their old places. Several go into a directory. -/
def copy (program : String) (moved : Bool) (args : List Bytes) : Action Nat :=
  called program { plain := "rRafpinuvdT" } 1 args fun c => do
    let recursive := c.has 'r' || c.has 'R' || c.has 'a'
    match c.operands.reverse with
    | [] => complainOfCall program "missing file operand" 1
    | [path] =>
      complainOfCall program ("missing destination file operand after " ++ inQuotes path) 1
    | target :: sources =>
      match ← locatePath target with
      | .ok (_, some .directory) =>
        forEach sources.reverse fun source =>
          let name := source.reverse.dropWhile (· = '/') |>.takeWhile (· ≠ '/') |>.reverse
          copyTo program moved recursive (target ++ '/' :: name) source
      | found =>
        match sources with
        | [source] => forEach [source] (copyTo program moved recursive target)
        | _ =>
          let e := match found with
            | .ok (_, some _) => SystemError.notDirectory
            | .ok (_, none) => .notFound
            | .error e => e
          complainOf program ("target " ++ inQuotes target ++ ": " ++ plainMessage e)
          return 1

/-! ## Lists -/

/-- The names in a directory as they are listed. -/
def listing (c : Call) (name : String) : Action Bytes := do
  let names := (← get).files.list name
  let hidden (n : String) : Bool := n.toList.head? = some '.'
  let shown := (if c.has 'a' then [".", ".."] else []) ++
    (if c.has 'a' || c.has 'A' then names else names.filter fun n => !hidden n)
  let ordered := shown.mergeSort fun a b => !decide (b < a)
  return (if c.has 'r' then ordered.reverse else ordered).flatMap fun n => ofText n ++ ['\n']

/-- Lists files and the names in directories. -/
def ls (args : List Bytes) : Action Nat :=
  let names := [("all", 'a'), ("almost-all", 'A'), ("directory", 'd'), ("reverse", 'r')]
  called "ls" { plain := "aAdr1CFU", names } 2 args fun c => do
    let paths := if c.operands.isEmpty then [['.']] else c.operands
    let mut status := 0
    let mut files := []
    let mut directories := []
    for path in paths.mergeSort (fun a b => !List.lex b a fun x y => decide (x < y)) do
      match ← locatePath path with
      | .ok (name, some .directory) =>
        if c.has 'd' then files := files ++ [path] else directories := directories ++ [(path, name)]
      | .ok (_, some (.file _ _)) => files := files ++ [path]
      | .ok (_, none) =>
        cannot "ls" ("access " ++ inQuotes path) .notFound
        status := 2
      | .error e =>
        cannot "ls" ("access " ++ inQuotes path) e
        status := 2
    put (files.flatMap fun path => path ++ ['\n'])
    let mut first := files.isEmpty
    for (path, name) in directories do
      if 1 < paths.length then
        put ((if first then [] else ['\n']) ++ path ++ ":\n".toList)
      put (← listing c name)
      first := false
    return status

/-! ## Bytes -/

/-- How bytes are shown: the number of bytes that are shown together, and their text. -/
structure ByteForm where
  size : Nat
  written : List Char → Bytes

/-- A number in digits to a base, with zeros before them. -/
def paddedDigits (base width n : Nat) : Bytes :=
  let digits := Nat.toDigits base n
  List.replicate (width - digits.length) '0' ++ digits

/-- A byte as a character, or as an escape or an octal number. -/
def byteName (c : Char) : Bytes :=
  match c with
  | '\x00' => "\\0".toList
  | '\x07' => "\\a".toList
  | '\x08' => "\\b".toList
  | '\x0C' => "\\f".toList
  | '\n' => "\\n".toList
  | '\r' => "\\r".toList
  | '\t' => "\\t".toList
  | '\x0B' => "\\v".toList
  | c => if ' ' ≤ c ∧ c ≤ '~' then [c] else paddedDigits 8 3 c.toNat

/-- The number of bytes, the first of which counts least. -/
def bytesNumber (cs : Bytes) : Nat := cs.foldr (fun c n => n * 256 + c.toNat) 0

/-- The form of a type such as `x1` or `c`. -/
def ByteForm.ofText? (text : Bytes) : Option ByteForm :=
  let number (base width size : Nat) : Option ByteForm :=
    some ⟨size, fun cs => ' ' :: paddedDigits base width (bytesNumber cs)⟩
  match String.ofList text with
  | "c" => some ⟨1, fun cs => ' ' :: padLeft 3 (cs.flatMap byteName)⟩
  | "x1" => number 16 2 1
  | "x2" => number 16 4 2
  | "x4" => number 16 8 4
  | "x" => number 16 8 4
  | "o1" => number 8 3 1
  | "o2" => number 8 6 2
  | "o" => number 8 11 4
  | "u1" => some ⟨1, fun cs => ' ' :: padLeft 3 (numberText (bytesNumber cs))⟩
  | "u2" => some ⟨2, fun cs => ' ' :: padLeft 5 (numberText (bytesNumber cs))⟩
  | "d1" => some ⟨1, fun cs =>
      ' ' :: padLeft 4 (integerText (Int.bmod (bytesNumber cs) 256))⟩
  | _ => none

/-- Bytes in groups of a size, the last of which may be smaller; `fuel` bounds them. -/
def groups (size : Nat) : Nat → Bytes → List Bytes
  | 0, _ => []
  | _ + 1, [] => []
  | fuel + 1, cs => cs.take size :: groups size fuel (cs.drop size)

/-- The lines of bytes in rows of sixteen, each behind its offset; a row like the one before it is not
shown again. -/
def dumpLines (offset : Nat → Bytes) (form : ByteForm) :
    Nat → Option Bytes → Bool → List Bytes → Bytes
  | n, _, _, [] => if (offset n).isEmpty then [] else offset n ++ ['\n']
  | n, last, marked, row :: rest =>
    if last = some row && !rest.isEmpty then
      (if marked then [] else "*\n".toList) ++ dumpLines offset form (n + row.length) last true rest
    else
      offset n ++ (groups form.size (row.length + 1) row).flatMap form.written ++ ['\n'] ++
        dumpLines offset form (n + row.length) (some row) false rest

/-- Shows bytes. -/
def od (args : List Bytes) : Action Nat :=
  called "od" { plain := "bcdoxv", valued := "AtNjw" } 1 args fun c => do
    let (text, fine) ← inputOf "od" pathComplaint c.operands
    let asked := match c.value? 't' with
      | some type => type
      | none =>
        if c.has 'c' then ['c'] else if c.has 'b' then "o1".toList
        else if c.has 'x' then "x2".toList else if c.has 'd' then "u2".toList else "o2".toList
    let offset (n : Nat) : Bytes := match c.value? 'A' with
      | some ['n'] => []
      | some ['d'] => paddedDigits 10 7 n
      | some ['x'] => paddedDigits 16 6 n
      | _ => paddedDigits 8 7 n
    match ByteForm.ofText? asked with
    | none =>
      complainOf "od" ("invalid type string " ++ inQuotes asked)
      return 1
    | some form =>
      let text := match (c.value? 'N').bind number? with
        | some n => text.take n
        | none => text
      put (dumpLines offset form 0 none false (groups 16 (text.length + 1) text))
      return statusOf fine 1

end ExtensionHost.Shell
