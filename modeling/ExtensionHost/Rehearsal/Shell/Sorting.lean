import ExtensionHost.File.Path
import ExtensionHost.Rehearsal.Shell.Numeral

/-!
# Sorting lines

The order of lines by keys: a key is a part of the line, from one field to another, that is compared
byte by byte or as a number. Lines whose keys are alike are compared as a whole.
-/

namespace ExtensionHost.Shell.Sorting

/-! ## Keys -/

/-- How keys are compared. -/
structure Manner where
  numeric : Bool := false
  reversed : Bool := false
  folded : Bool := false
  blanksIgnored : Bool := false
  deriving Repr, DecidableEq

/-- A place within a line: a field and a character of it, both counted from one; no character stands for
the end of the field. -/
structure Position where
  field : Nat
  character : Nat := 0
  deriving Repr

/-- A key. One without an end goes up to the end of the line, and one without a manner of its own has
that of all keys. -/
structure Key where
  start : Position
  finish : Option Position := none
  manner : Option Manner := none
  deriving Repr

/-- The manner that letters ask for. -/
def Manner.ofLetters (letters : Bytes) : Manner :=
  { numeric := letters.contains 'n' || letters.contains 'g'
    reversed := letters.contains 'r'
    folded := letters.contains 'f'
    blanksIgnored := letters.contains 'b' }

/-- A place at the front of the text of a key, and the text behind it. -/
def readPosition (text : Bytes) : Option (Position × Bytes) :=
  if text.head?.any Char.isDigit then
    let (field, rest) := leadingNumber text
    match rest with
    | '.' :: rest =>
      let (character, rest) := leadingNumber rest
      some (⟨field, character⟩, rest)
    | rest => some (⟨field, 0⟩, rest)
  else none

/-- The key of a text such as `2.1,3n`, or what is wrong with it. -/
def Key.ofText (text : Bytes) : Except String Key := do
  let shown := String.ofList text
  let isLetter (c : Char) : Bool := "bdfgiMhnRrV".toList.contains c
  match readPosition text with
  | none =>
    .error ("invalid number at field start: invalid count at start of '" ++ shown ++ "'")
  | some (start, rest) =>
    if start.field = 0 then
      .error ("field number is zero: invalid field specification '" ++ shown ++ "'")
    let letters := rest.takeWhile isLetter
    let (finish, more, rest) ← match rest.drop letters.length with
      | ',' :: rest =>
        match readPosition rest with
        | none => .error ("invalid number after ',': invalid count at start of '" ++
            String.ofList rest ++ "'")
        | some (finish, rest) =>
          let letters := rest.takeWhile isLetter
          .ok (some finish, letters, rest.drop letters.length)
      | rest => .ok (none, [], rest)
    if !rest.isEmpty then
      .error ("stray character in field spec: invalid field specification '" ++ shown ++ "'")
    let letters := letters ++ more
    .ok ⟨start, finish, if letters.isEmpty then none else some (.ofLetters letters)⟩

/-- Whether a character is a blank. -/
def isBlank (c : Char) : Bool := c = ' ' || c = '\t'

/-- The fields of a line: between separators, or each with the blanks before it. -/
def fields (separator : Option Char) (line : Bytes) : List Bytes :=
  match separator with
  | some c => Path.splitAt c line
  | none => blankFields (line.length + 1) line
where
  /-- The fields with the blanks before them; `fuel` bounds the line. -/
  blankFields : Nat → Bytes → List Bytes
    | 0, _ => []
    | _ + 1, [] => []
    | fuel + 1, line =>
      let blanks := line.takeWhile isBlank
      let word := (line.drop blanks.length).takeWhile fun c => !isBlank c
      (blanks ++ word) :: blankFields fuel (line.drop (blanks.length + word.length))

/-- The number of characters before a field. -/
def offsetOf (separator : Option Char) (all : List Bytes) (field : Nat) : Nat :=
  let before := all.take (field - 1)
  before.flatten.length + (if separator.isSome then before.length else 0)

/-- The part of a line that a key is. -/
def Key.of (k : Key) (separator : Option Char) (manner : Manner) (line : Bytes) : Bytes :=
  let all := fields separator line
  let skipped (offset : Nat) : Nat :=
    if manner.blanksIgnored then offset + ((line.drop offset).takeWhile isBlank).length else offset
  let first := skipped (offsetOf separator all k.start.field) + (k.start.character - 1)
  let last := match k.finish with
    | none => line.length
    | some p =>
      if p.character = 0 then
        offsetOf separator all p.field + ((all[p.field - 1]?).map List.length).getD 0
      else skipped (offsetOf separator all p.field) + p.character
  (line.take last).drop first

/-! ## Order -/

/-- A number as a sign, the digits before the point and those behind it. -/
def numberKey (text : Bytes) : Bool × Nat × Bytes :=
  let text := text.dropWhile isBlank
  let (negative, text) := match text with
    | '-' :: rest => (true, rest)
    | text => (false, text)
  let (whole, rest) := leadingNumber text
  let places := match rest with
    | '.' :: rest => (rest.takeWhile Char.isDigit).reverse.dropWhile (· = '0') |>.reverse
    | _ => []
  (negative && (whole ≠ 0 || !places.isEmpty), whole, places)

/-- The order of two lists of characters. -/
def compareBytes : Bytes → Bytes → Ordering
  | [], [] => .eq
  | [], _ :: _ => .lt
  | _ :: _, [] => .gt
  | a :: as, b :: bs => (compare a b).then (compareBytes as bs)

/-- The order of two texts as numbers. -/
def compareNumbers (a b : Bytes) : Ordering :=
  let size (x y : Nat × Bytes) : Ordering := (compare x.1 y.1).then (compareBytes x.2 y.2)
  match numberKey a, numberKey b with
  | (false, x), (false, y) => size x y
  | (true, x), (true, y) => size y x
  | (true, _), (false, _) => .lt
  | (false, _), (true, _) => .gt

/-- The order of two texts in a manner, which may be reversed. -/
def compareIn (m : Manner) (a b : Bytes) : Ordering :=
  let order :=
    if m.numeric then compareNumbers a b
    else
      let plain (text : Bytes) : Bytes :=
        let text := if m.blanksIgnored then text.dropWhile isBlank else text
        if m.folded then text.map Char.toUpper else text
      compareBytes (plain a) (plain b)
  if m.reversed then order.swap else order

/-- How lines are sorted. -/
structure Rule where
  separator : Option Char := none
  keys : List Key := []
  manner : Manner := {}
  unique : Bool := false
  stable : Bool := false

/-- The order of two lines by their keys. -/
def Rule.compareKeys (r : Rule) (a b : Bytes) : Ordering :=
  if r.keys.isEmpty then compareIn r.manner a b
  else
    r.keys.foldl (fun order k =>
      let m := k.manner.getD r.manner
      order.then (compareIn m (k.of r.separator m a) (k.of r.separator m b))) .eq

/-- The order of two lines. -/
def Rule.compare (r : Rule) (a b : Bytes) : Ordering :=
  let order := r.compareKeys a b
  if r.unique || r.stable then order
  else
    let whole := compareBytes a b
    order.then (if r.manner.reversed then whole.swap else whole)

/-- Leaves out lines whose keys are those of the line before. -/
def Rule.withoutRepeats (r : Rule) : List Bytes → List Bytes
  | [] => []
  | [line] => [line]
  | a :: b :: rest =>
    if r.compareKeys a b = .eq then r.withoutRepeats (a :: rest) else a :: r.withoutRepeats (b :: rest)
termination_by lines => lines.length

/-- Sorted lines. -/
def Rule.sort (r : Rule) (lines : List Bytes) : List Bytes :=
  let sorted := lines.mergeSort fun a b => r.compare a b != .gt
  if r.unique then r.withoutRepeats sorted else sorted

/-- The number of the first line that comes before the line before it. -/
def Rule.disorder? (r : Rule) : Nat → List Bytes → Option (Nat × Bytes)
  | n, a :: b :: rest =>
    let order := r.compare a b
    if order = .gt || r.unique && order = .eq then some (n + 1, b) else r.disorder? (n + 1) (b :: rest)
  | _, _ => none

end ExtensionHost.Shell.Sorting

namespace ExtensionHost.Shell

/-! ## Repeated lines -/

/-- Lines with the number of times that they follow each other; `same` says which ones are alike. -/
def repeats (same : Bytes → Bytes → Bool) : List Bytes → List (Bytes × Nat)
  | [] => []
  | line :: rest =>
    match repeats same rest with
    | [] => [(line, 1)]
    | (next, n) :: rest =>
      if same line next then (line, n + 1) :: rest else (line, 1) :: (next, n) :: rest

end ExtensionHost.Shell
