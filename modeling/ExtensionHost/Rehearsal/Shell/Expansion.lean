import ExtensionHost.Rehearsal.Shell.Machine
import ExtensionHost.Rehearsal.Shell.Numeral
import ExtensionHost.Rehearsal.Shell.Pattern
import ExtensionHost.Rehearsal.Shell.Program.Basic

/-!
# Expanded words

What the words of a script become: values of variables in place of their names, fields that separators
split, and the names of the files that a field with wildcards stands for.
-/

namespace ExtensionHost.Shell

/-! ## Fields -/

/-- A part of an expanded word: characters, which may be quoted and may be split into fields, or whole
fields. -/
inductive Part where
  | chars (cs : Bytes) (quoted split : Bool)
  | fields (values : List Bytes) (quoted : Bool)

/-- Fields that are made of parts: those that are complete, and the one that is being made. Each
character says whether it is quoted. -/
structure FieldList where
  complete : List (List (Char × Bool)) := []
  current : Option (List (Char × Bool)) := none

namespace FieldList

/-- Completes the field that is being made. -/
def close (f : FieldList) : FieldList :=
  match f.current with
  | some field => ⟨f.complete ++ [field], none⟩
  | none => f

/-- Adds characters to the field that is being made. -/
def extend (f : FieldList) (cs : Bytes) (quoted : Bool) : FieldList :=
  if cs.isEmpty && !quoted then f
  else { f with current := some (f.current.getD [] ++ cs.map (·, quoted)) }

/-- Adds characters that separators split into fields. -/
def splitInto (separators : Bytes) (f : FieldList) (cs : Bytes) : FieldList :=
  if cs.any separators.contains then
    cs.foldl (fun f c =>
      if separators.contains c then
        if " \t\n".toList.contains c then f.close
        else { f with complete := f.complete ++ [f.current.getD []], current := none }
      else f.extend [c] false) f
  else f.extend cs false

/-- Adds whole fields, the first of which goes on with the one that is being made. -/
def addFields (separators : Bytes) (quoted : Bool) (f : FieldList) : List Bytes → FieldList
  | [] => f
  | [v] => if quoted then f.extend v true else splitInto separators f v
  | v :: vs =>
    addFields separators quoted (if quoted then f.extend v true else splitInto separators f v).close vs

/-- Adds a part. -/
def add (separators : Bytes) (f : FieldList) : Part → FieldList
  | .chars cs quoted false => f.extend cs quoted
  | .chars cs _ true => splitInto separators f cs
  | .fields values quoted => f.addFields separators quoted values

end FieldList

/-- The text of a part. -/
def Part.text : Part → Bytes
  | .chars cs _ _ => cs
  | .fields values _ => joined values

/-- The characters of a part as those of a pattern. -/
def Part.marked : Part → List (Char × Bool)
  | .chars cs quoted _ => cs.map (·, quoted)
  | .fields values quoted => (joined values).map (·, quoted)

/-- A word without the quotes around arguments of the shell of which there are none. -/
def withoutNoArgs (m : Machine) (w : Word) : Word :=
  let isArgs : Piece → Bool
    | .variable ['@'] .value true => true
    | _ => false
  let isNothing : Piece → Bool
    | .text [] true => true
    | p => isArgs p
  if m.args.isEmpty && w.any isArgs then w.filter fun p => !isNothing p else w

/-- The names that a field with wildcards stands for: those of files next to each other. A field that
stands for none is itself. -/
def expandNames (m : Machine) (field : List (Char × Bool)) : List Bytes :=
  let text := field.map Prod.fst
  if field.any fun (c, quoted) => !quoted && (c = '*' || c = '?' || c = '[') then
    let name := (field.reverse.takeWhile (·.1 ≠ '/')).reverse
    let front := text.take (text.length - name.length)
    let directory := if front.isEmpty then "." else toText front
    match m.files.fullName m.cwd directory with
    | .error _ => [text]
    | .ok full =>
      let pattern := wildcards (name.length + 1) name
      let hidden := (name.head?.map Prod.fst) ≠ some '.'
      let found := (m.files.list full).filter fun n =>
        matchesWhole pattern (ofText n) && !(hidden && n.toList.head? = some '.')
      if found.isEmpty then [text] else found.map fun n => front ++ ofText n
  else [text]

/-! ## Variables -/

/-- The characters that split fields. -/
def separatorsOf (m : Machine) : Bytes := (m.get? "IFS").getD " \t\n".toList

/-- The number of a process in the background, from how many there were when it began. -/
def backgroundNumber (count : Nat) : Nat := 100000 + count

/-- The value of a variable, if it has one. -/
def valueOf (m : Machine) (name : Bytes) : Option Bytes :=
  match name with
  | ['?'] => some (numberText m.status)
  | ['#'] => some (numberText m.args.length)
  | ['$'] => some (numberText m.process)
  | ['0'] => some m.name
  | ['!'] => if m.ended.isEmpty then none else some (numberText (backgroundNumber m.ended.length))
  | ['-'] => some ("pubaCEVvxsnmiIfe".toList.filter m.options.contains)
  | ['@'] => if m.args.isEmpty then none else some (joined m.args)
  | ['*'] => if m.args.isEmpty then none else some (joined m.args)
  | name =>
    match number? name with
    | some n => m.args[n - 1]?
    | none =>
      match m.get? (String.ofList name) with
      | none => if name = "PPID".toList then some (numberText (m.process - 1)) else none
      | value => value

/-- A value without a front that a pattern matches, the shortest or the longest one. -/
def withoutFront (longest : Bool) (pattern : List Wildcard) (value : Bytes) : Bytes :=
  let cuts := (List.range (value.length + 1)).filter fun n => matchesWhole pattern (value.take n)
  match if longest then cuts.getLast? else cuts.head? with
  | some n => value.drop n
  | none => value

/-- A value without an end that a pattern matches, the shortest or the longest one. -/
def withoutBack (longest : Bool) (pattern : List Wildcard) (value : Bytes) : Bytes :=
  let cuts := (List.range (value.length + 1)).filter fun n => matchesWhole pattern (value.drop n)
  match if longest then cuts.head? else cuts.getLast? with
  | some n => value.take n
  | none => value

/-- A text without the ends of lines at its end. -/
def withoutLastEnds (text : Bytes) : Bytes := (text.reverse.dropWhile (· = '\n')).reverse

/-! ## Home directories -/

/-- The characters of a word up to one of some marks, if they are plain, and the word behind them. -/
def plainFront (marks : Bytes) : Word → Option (Bytes × Word)
  | [] => some ([], [])
  | .text [c] false :: rest =>
    if marks.contains c then some ([], .text [c] false :: rest)
    else (plainFront marks rest).map fun (cs, rest) => (c :: cs, rest)
  | _ => none

/-- The home directory of a user, or of the one for whom the shell runs. -/
def homeOf (m : Machine) (user : Bytes) : Option Bytes :=
  if user.isEmpty then m.get? "HOME" else if user = "root".toList then some "/root".toList else none

/-- A word with a home directory in place of the tilde that it begins with. -/
def withHome (m : Machine) (marks : Bytes) (w : Word) : Word :=
  match w with
  | .text ['~'] false :: rest =>
    match plainFront marks rest with
    | some (user, behind) =>
      match homeOf m user with
      | some home => .text home true :: behind
      | none => w
    | none => w
  | w => w

/-- The value of an assignment with home directories in place of the tildes at its front and behind its
colons. -/
def withHomes (m : Machine) (w : Word) : Word :=
  let rec go : Word → Word
    | .text [':'] false :: rest => .text [':'] false :: withHome m [':', '/'] (go rest)
    | p :: rest => p :: go rest
    | [] => []
  withHome m [':', '/'] (go w)

end ExtensionHost.Shell
