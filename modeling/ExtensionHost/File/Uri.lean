import ExtensionHost.Domain.Host
import ExtensionHost.File.Path
import ExtensionHost.Text.Utf8

/-!
# File addresses

The address of a file is `file://` and its absolute path, in which every byte outside a set of plain
ones is written as a percent sign and two digits. Reading an address undoes more than writing does:
blanks around it and line ends in it are dropped, the scheme is read in any case, backslashes count as
slashes, names that stand for the directory itself or the one above are resolved, a host has to be
this one, and a query or fragment is cut off. A name of one letter and a colon is a drive, which is never
left upwards. A drive at the front takes the place of the host and may be written with a bar.
-/

namespace ExtensionHost.FileUri

/-! ## Writing -/

/-- The upper-case digit of a number below sixteen. -/
def upperDigit (n : Nat) : Char :=
  if n < 10 then Char.ofNat (48 + n) else Char.ofNat (55 + n)

/-- Whether a byte of a name is written as it is. -/
def isPlain (b : UInt8) : Bool :=
  0x20 < b && b < 0x7F &&
    !(['"', '#', '%', '/', '<', '>', '?', '\\', '\x60', '\x7b', '\x7d'].contains
      (Char.ofNat b.toNat))

/-- A byte of a name as it is written. -/
def writeByte (b : UInt8) : List Char :=
  if isPlain b then [Char.ofNat b.toNat]
  else ['%', upperDigit (b.toNat / 16), upperDigit (b.toNat % 16)]

/-- A name as it is written. -/
def writeName (name : List UInt8) : List Char :=
  name.flatMap writeByte

/-- The beginning of a file's address. -/
def scheme : List Char := "file://".toList

/-- The address of an absolute path, from its names. -/
def ofNames (names : List (List UInt8)) : List Char :=
  match names with
  | [] => scheme ++ ['/']
  | names => scheme ++ names.flatMap fun name => '/' :: writeName name

/-- The address of a path of bytes. A path that is not absolute is shown as it is, with slashes. -/
def ofBytes (path : List UInt8) : String :=
  if path.head? = some Path.slash then String.ofList (ofNames (Path.names path))
  else
    String.ofList
      (scheme ++ (Utf8.decodeLossy path).map fun c => if c = '\\' then '/' else c)

/-- The address of a path. -/
def ofPath (path : String) : String :=
  ofBytes (Utf8.encode path.toList)

/-! ## Reading: tokens -/

/-- Blanks and controls that may stand around an address. -/
def isOuter (c : Char) : Bool := c.toNat ≤ 0x20

/-- Line ends and tabs, which an address may be broken with. -/
def isBreak (c : Char) : Bool := c = '\t' || c = '\n' || c = '\r'

/-- A text without breaks. -/
def unbroken (text : List Char) : List Char := text.filter fun c => !isBreak c

/-- An address without what may stand around it. -/
def trim (uri : List Char) : List Char :=
  ((uri.dropWhile isOuter).reverse.dropWhile isOuter).reverse

/-- The first character that is no break, and what follows it. -/
def next? : List Char → Option (Char × List Char)
  | [] => none
  | c :: rest => if isBreak c then next? rest else some (c, rest)

/-- What follows the scheme of an address, given what is left of that scheme. -/
def afterScheme? : List Char → List Char → Option (List Char)
  | [], uri =>
    match next? uri with
    | some (':', rest) => some rest
    | _ => none
  | s :: name, uri =>
    match next? uri with
    | some (c, rest) => if c.toLower = s then afterScheme? name rest else none
    | none => none

/-- A slash in either direction. -/
def isSlash (c : Char) : Bool := c = '/' || c = '\\'

/-- What follows a slash, if one comes next. -/
def afterSlash? (text : List Char) : Option (List Char) :=
  match next? text with
  | some (c, rest) => if isSlash c then some rest else none
  | none => none

/-- A character that ends a host. -/
def endsHost (c : Char) : Bool := isSlash c || c = '?' || c = '#'

/-- The name of a drive: a letter and a colon or a bar. -/
def isDrive : List Char → Bool
  | [c, d] => c.isAlpha && (d = ':' || d = '|')
  | _ => false

/-- The bytes of a name; a percent sign without two digits stands for itself. -/
def readBytes : List Char → List UInt8
  | [] => []
  | '%' :: a :: b :: rest =>
    match Text.hexDigit? a, Text.hexDigit? b with
    | some x, some y => UInt8.ofNat (x * 16 + y) :: readBytes rest
    | _, _ => UInt8.ofNat '%'.toNat :: readBytes (a :: b :: rest)
  | c :: rest => String.utf8EncodeChar c ++ readBytes rest
termination_by text => text.length

/-- A name that stands for the directory above, its dots written in any way. -/
def isUp (name : List Char) : Bool :=
  name.length ≤ 6 && readBytes name = [Path.dot, Path.dot]

/-- A name that stands for the directory itself, its dot written in any way. -/
def isHere (name : List Char) : Bool :=
  name.length ≤ 3 && readBytes name = [Path.dot]

/-! ## Reading: names -/

/-- The names of a path as far as they are read, the last one first, and whether a drive was found at
their front. -/
structure Route where
  names : List (List Char) := []
  driven : Bool := false
  deriving Repr

/-- The names without the last one; a drive stays. -/
def withoutLast : List (List Char) → List (List Char)
  | [] => []
  | name :: names => if isDrive name then name :: names else names

/-- A drive that a break cuts off from more of its name, and the rest of that name. -/
def cutDrive? (name : List Char) : Option (List Char × List Char) := do
  let (letter, rest) ← next? name
  let (colon, rest) ← next? rest
  let after := unbroken rest
  if letter.isAlpha && colon = ':' && rest.head?.any isBreak && !after.isEmpty then
    some ([letter, colon], after)
  else none

/-- Adds a name without breaks. At the end of a path the names of directories leave an empty one. -/
def Route.addWhole (r : Route) (last : Bool) (name : List Char) : Route :=
  let tail : List (List Char) := if last then [[]] else []
  if isUp name then { r with names := tail ++ withoutLast r.names }
  else if isHere name then { r with names := tail ++ r.names }
  else if r.names = [] && isDrive name then { names := [name.take 1 ++ [':']], driven := true }
  else { r with names := name :: r.names }

/-- Adds a name. At the front a drive that is cut off by a break is a name of its own, and what follows
the break is one whatever it says. -/
def Route.add (r : Route) (last : Bool) (name : List Char) : Route :=
  match if r.names = [] then cutDrive? name else none with
  | some (drive, rest) => { r with names := [rest, drive] }
  | none => r.addWhole last (unbroken name)

/-- Adds all names of a path. -/
def Route.addAll (r : Route) : List (List Char) → Route
  | [] => r
  | [name] => r.add true name
  | name :: rest => (r.add false name).addAll rest

/-- A path ends in a slash when a letter and a colon or a bar stand at its end. -/
def closeDrive (path : List UInt8) : List UInt8 :=
  match path.reverse with
  | colon :: letter :: _ :: _ =>
    let c := Char.ofNat colon.toNat
    if (c = ':' ∨ c = '|') ∧ letter < 0x80 ∧ (Char.ofNat letter.toNat).isAlpha then
      path ++ [Path.slash]
    else path
  | _ => path

/-- The bytes of the path with these names. -/
def pathOfNames (names : List (List Char)) : List UInt8 :=
  closeDrive (names.flatMap fun name => Path.slash :: readBytes name)

/-- The path of a route, empty names at its front left out. -/
def Route.path (r : Route) : List UInt8 :=
  let names := r.names.reverse.dropWhile (· = [])
  pathOfNames (if names.isEmpty then [[]] else names)

/-- The part of an address before a query or fragment, cut into names. -/
def namesOf (text : List Char) : List (List Char) :=
  let path := text.takeWhile fun c => c ≠ '?' && c ≠ '#'
  Path.splitAt '/' (path.map fun c => if c = '\\' then '/' else c)

/-- The route that a text of an address takes. -/
def routeOf (text : List Char) : Route := ({} : Route).addAll (namesOf text)

/-- The path of an address behind the slashes before its host. Without a host, or with this one, the
slash before the path counts as an empty name. Another host is left out when a drive is found. -/
def pathOfHosted? (text : List Char) : Option (List UInt8) :=
  let host := unbroken (text.takeWhile fun c => !endsHost c)
  let rest := text.dropWhile fun c => !endsHost c
  if host.isEmpty || isDrive host then some (routeOf text).path
  else
    match Domain.Host.ofText? host (readBytes host) with
    | none => none
    | some .this => some (routeOf rest).path
    | some .other =>
      let r := routeOf ((afterSlash? rest).getD rest)
      if r.driven then some r.path else none

/-- The path of an address behind its scheme. -/
def pathOfRest? (text : List Char) : Option (List UInt8) :=
  match afterSlash? text with
  | none => some (routeOf text).path
  | some text =>
    match afterSlash? text with
    | none => some (routeOf text).path
    | some text => pathOfHosted? text

/-- The path of a file's address, with replacement characters where it is no text. -/
def toPath? (uri : String) : Option String := do
  let rest ← afterScheme? "file".toList (trim uri.toList)
  let path ← pathOfRest? rest
  some (String.ofList (Utf8.decodeLossy path))

end ExtensionHost.FileUri
