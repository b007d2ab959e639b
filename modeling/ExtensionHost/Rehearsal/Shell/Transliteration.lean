import ExtensionHost.Rehearsal.Shell.Call
import ExtensionHost.Rehearsal.Shell.Pattern

/-!
# Transliteration

Replacing, deleting and squeezing the characters of a text. The characters are given as lists that may
hold ranges, classes, repetitions and escapes.
-/

namespace ExtensionHost.Shell

/-! ## Lists of characters -/

/-- A part of a list of characters: some of them, those of a class, those that are equal to one, or one
that is repeated, as often as is needed if the count is zero. -/
inductive CharItem where
  | chars (cs : Bytes)
  | named (name : String) (cs : Bytes)
  | equal (c : Char)
  | fill (c : Char) (count : Nat)

/-- The characters of a part. -/
def CharItem.expanded : CharItem → Bytes
  | .chars cs => cs
  | .named _ cs => cs
  | .equal c => [c]
  | .fill c count => List.replicate count c

/-- The characters of a text, each with whether it is escaped; `fuel` bounds the text. -/
def unescapedChars : Nat → Bytes → List (Char × Bool)
  | 0, _ => []
  | _ + 1, [] => []
  | fuel + 1, '\\' :: d :: rest =>
    if isOctal d then
      let (c, rest) := octal 3 (d :: rest)
      (c, true) :: unescapedChars fuel rest
    else ((escapeOf? d).getD d, true) :: unescapedChars fuel rest
  | fuel + 1, c :: rest => (c, false) :: unescapedChars fuel rest

/-- The text up to a mark in front of a closing bracket, and what stands behind the bracket. -/
def untilBracket (mark : Char) : List (Char × Bool) → Option (Bytes × List (Char × Bool))
  | [] => none
  | (c, escaped) :: rest =>
    match rest with
    | (']', false) :: behind =>
      if c = mark ∧ !escaped then some ([], behind)
      else (untilBracket mark rest).map fun (cs, behind) => (c :: cs, behind)
    | _ => (untilBracket mark rest).map fun (cs, behind) => (c :: cs, behind)

/-- The characters from one to another. -/
def charRange (a b : Char) : Bytes :=
  (List.range (b.toNat + 1 - a.toNat)).map fun i => Char.ofNat (a.toNat + i)

/-- The characters of a class, unless there is none with this name. -/
def classChars? (name : Bytes) : Option Bytes :=
  match classRanges name with
  | [] => none
  | ranges => some (ranges.flatMap fun (a, b) => charRange a b)

/-- A part in brackets that a text begins with, and the text behind it. -/
def bracketItem? : List (Char × Bool) → Except String (Option (CharItem × List (Char × Bool)))
  | ('[', false) :: (':', false) :: rest =>
    match untilBracket ':' rest with
    | none => .ok none
    | some ([], _) => .error "missing character class name '[::]'"
    | some (name, behind) =>
      match classChars? name with
      | some cs => .ok (some (.named (toText name) cs, behind))
      | none => .error ("invalid character class " ++ inQuotes name)
  | ('[', false) :: ('=', false) :: rest =>
    match untilBracket '=' rest with
    | none => .ok none
    | some ([], _) => .error "missing equivalence class character '[==]'"
    | some ([c], behind) => .ok (some (.equal c, behind))
    | some (cs, _) =>
      .error (toText cs ++ ": equivalence class operand must be a single character")
  | ('[', false) :: (c, _) :: ('*', false) :: rest =>
    let count := rest.takeWhile fun p => p ≠ (']', false)
    match rest.drop count.length with
    | [] => .ok none
    | _ :: behind =>
      let digits := count.map Prod.fst
      let base := if digits.head? = some '0' then 8 else 10
      if digits.all (isDigitOf base) then .ok (some (.fill c (numberTo base digits), behind))
      else .error ("invalid repeat count " ++ inQuotes digits ++ " in [c*n] construct")
  | _ => .ok none

/-- The parts of a list of characters; `fuel` bounds their number. -/
def charItems : Nat → List (Char × Bool) → Except String (List CharItem)
  | 0, _ => .ok []
  | _ + 1, [] => .ok []
  | fuel + 1, (a, escaped) :: rest => do
    match ← bracketItem? ((a, escaped) :: rest) with
    | some (item, behind) => return item :: (← charItems fuel behind)
    | none =>
      match rest with
      | ('-', false) :: (b, _) :: behind =>
        if b < a then
          .error ("range-endpoints of " ++ inQuotes [a, '-', b] ++
            " are in reverse collating sequence order")
        else return .chars (charRange a b) :: (← charItems fuel behind)
      | rest => return .chars [a] :: (← charItems fuel rest)

/-- The parts of the text of a list of characters. -/
def charList (text : Bytes) : Except String (List CharItem) :=
  charItems (text.length + 1) (unescapedChars (text.length + 1) text)

/-- The bytes that are not in a list, in order. -/
def otherBytes (cs : Bytes) : Bytes :=
  ((List.range 256).map Char.ofNat).filter fun c => !cs.contains c

/-! ## Replacing characters -/

/-- What is done to the characters of a text. -/
structure Transliteration where
  complement : Bool := false
  delete : Bool := false
  squeezed : Bool := false
  truncated : Bool := false

/-- Leaves only one of each run of equal characters in a list. -/
def squeeze (cs : Bytes) : Option Char → Bytes → Bytes
  | _, [] => []
  | last, c :: rest =>
    if last = some c ∧ cs.contains c then squeeze cs last rest else c :: squeeze cs (some c) rest

/-- Whether a part is a class of capital or small letters. -/
def CharItem.isCase : CharItem → Bool
  | .named name _ => name = "upper" || name = "lower"
  | _ => false

/-- The places at which classes of capital or small letters begin. -/
def casePlaces (items : List CharItem) : List Nat :=
  (items.foldl (fun (acc : Nat × List Nat) item =>
    (acc.1 + item.expanded.length, if item.isCase then acc.2 ++ [acc.1] else acc.2)) (0, [])).2

/-- Parts with one that is repeated as often as is needed for a length. -/
def filledTo (length : Nat) (items : List CharItem) : List CharItem :=
  let missing := length - (items.flatMap CharItem.expanded).length
  items.map fun item => match item with
    | .fill c 0 => .fill c missing
    | item => item

/-- Whether a part is repeated as often as is needed. -/
def CharItem.isOpen : CharItem → Bool
  | .fill _ 0 => true
  | _ => false

/-- What is wrong with the second list of a replacement by the first one. -/
def replacementFault? (t : Transliteration) (first second : List CharItem) (source target : Bytes) :
    Option String :=
  let isEqual : CharItem → Bool
    | .equal _ => true
    | _ => false
  let isOther : CharItem → Bool
    | .named name _ => name ≠ "upper" && name ≠ "lower"
    | _ => false
  if second.any isEqual then
    some "[=c=] expressions may not appear in string2 when translating"
  else if second.any isOther then
    some ("when translating, the only character classes that may appear in\n" ++
      "string2 are 'upper' and 'lower'")
  else if !(casePlaces second).all (casePlaces first).contains then
    some "misaligned [:upper:] and/or [:lower:] construct"
  else if target.length < source.length && !t.truncated then
    if target.isEmpty then some "when not truncating set1, string2 must be non-empty"
    else if second.getLast?.any CharItem.isCase then
      some ("when translating with string1 longer than string2,\n" ++
        "the latter string must not end with a character class")
    else none
  else none

/-- What a text becomes, by one or two lists of characters, or what is wrong with these. -/
def Transliteration.applied (t : Transliteration) (sets : List Bytes) :
    Except String (Bytes → Bytes) := do
  let first ← charList (sets.headD [])
  if first.any fun item => match item with | .fill _ _ => true | _ => false then
    .error "the [c*] repeat construct may not appear in string1"
  let listed := first.flatMap CharItem.expanded
  let chosen := if t.complement then otherBytes listed else listed
  match sets[1]? with
  | none =>
    return fun text =>
      if t.delete then text.filter fun c => !chosen.contains c else squeeze chosen none text
  | some set =>
    let second ← charList set
    if 1 < (second.filter CharItem.isOpen).length then
      .error "only one [c*] repeat construct may appear in string2"
    if t.delete then
      if second.any CharItem.isOpen then
        .error "the [c*] construct may appear in string2 only when translating"
      let kept := second.flatMap CharItem.expanded
      return fun text => squeeze kept none (text.filter fun c => !chosen.contains c)
    let second := filledTo chosen.length second
    let target := second.flatMap CharItem.expanded
    match replacementFault? t first second chosen target with
    | some fault => .error fault
    | none =>
      let padding := if t.truncated then [] else
        match target.getLast? with
        | some last => List.replicate (chosen.length - target.length) last
        | none => []
      let table := (chosen.zip (target ++ padding)).reverse
      return fun text =>
        let out := text.map fun c => (table.lookup c).getD c
        if t.squeezed then squeeze target none out else out

end ExtensionHost.Shell
