/-!
# Paths

A path is a text of names between slashes. It is absolute when it begins with a slash. Empty names and
the name of the directory itself count only at the beginning.
-/

namespace ExtensionHost.Path

/-- Whether a path begins at the root. -/
def isAbsolute (path : String) : Bool :=
  path.toList.head? = some '/'

/-- A path that begins in a directory. An absolute path begins at the root all the same. -/
def join (base path : String) : String :=
  if isAbsolute path || base.isEmpty then path
  else if base.toList.getLast? = some '/' then base ++ path
  else base ++ "/" ++ path

/-- Cuts a list at every element equal to `separator`. -/
def splitAt {α : Type} [DecidableEq α] (separator : α) : List α → List (List α)
  | [] => [[]]
  | a :: rest =>
    match splitAt separator rest with
    | [] => [[a]]
    | part :: parts => if a = separator then [] :: part :: parts else (a :: part) :: parts

/-- The byte of a slash. -/
def slash : UInt8 := 0x2F

/-- The byte of a dot. -/
def dot : UInt8 := 0x2E

/-- The names of a path of bytes, without empty ones and those of the directory itself. -/
def names (path : List UInt8) : List (List UInt8) :=
  (splitAt slash path).filter fun name => name ≠ [] && name ≠ [dot]

/-- The last name of a path, unless it is that of the directory above. -/
def fileName? (path : List UInt8) : Option (List UInt8) :=
  match (names path).getLast? with
  | some name => if name = [dot, dot] then none else some name
  | none => none

/-- What follows the last dot of a file's name, if something stands before that dot. -/
def fileExtension? (path : List UInt8) : Option (List UInt8) := do
  let name ← fileName? path
  let after := (name.reverse.takeWhile (· ≠ dot)).reverse
  let before := name.length - after.length
  if before ≤ 1 then none else some after

/-- Whether a path has at least two parts: the root, the directory itself at the beginning, and
names. -/
def hasSeveralParts (path : String) : Bool :=
  let chars := path.toList
  let parts := splitAt '/' chars
  let first := if isAbsolute path || parts.head? = some ['.'] then 1 else 0
  1 < first + (parts.filter fun name => name ≠ [] && name ≠ ['.']).length

end ExtensionHost.Path
