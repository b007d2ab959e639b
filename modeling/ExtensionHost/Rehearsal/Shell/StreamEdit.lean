import ExtensionHost.Rehearsal.Shell.Filter
import ExtensionHost.Rehearsal.Shell.Regex

/-!
# Editing streams

Scripts that edit a stream line by line. A script is a list of commands, each for the lines of an
address. Every cycle reads a line, runs the commands on it and writes what it has become, unless that is
deleted or the editing is silent. A last line without an end is written without one.
-/

namespace ExtensionHost.Shell.StreamEdit

/-! ## Scripts -/

/-- A line that a command may be for. The expression used last stands for one that is empty. -/
inductive Address where
  | number (n : Nat)
  | step (first distance : Nat)
  | last
  | like (r : Option Regex)
  deriving Repr

/-- Where a range of lines ends: at a line, after some more lines, or at a multiple of a number. -/
inductive RangeEnd where
  | address (a : Address)
  | count (n : Nat)
  | multiple (n : Nat)
  deriving Repr

/-- Lines that a command is for. A range from the beginning may end at the first line. -/
inductive Lines where
  | all
  | one (a : Address)
  | range (a : Address) (e : RangeEnd)
  | fromBeginning (e : Address)
  deriving Repr

/-- A change of the case of letters: of all that follow, or of the next one. -/
inductive CaseChange where
  | upper
  | lower
  | plain
  | nextUpper
  | nextLower
  deriving Repr, DecidableEq

/-- A part of a replacement. -/
inductive ReplacementPart where
  | text (cs : Bytes)
  | group (n : Nat)
  | change (c : CaseChange)
  deriving Repr

/-- A replacement of matches: which one is the first to be replaced, whether all after it are, and
whether the line is then printed. -/
structure Replacement where
  regex : Option Regex
  parts : List ReplacementPart
  first : Nat
  everywhere : Bool
  print : Bool
  deriving Repr

/-- When a script goes on at a label. -/
inductive JumpCondition where
  | always
  | replaced
  | notReplaced
  deriving Repr, DecidableEq

/-- What a command does. -/
inductive Action where
  | openBlock
  | closeBlock
  | label (name : Bytes)
  | replace (r : Replacement)
  | delete
  | deleteFirst
  | print
  | printFirst
  | quit (silent : Bool) (status : Nat)
  | number
  | append (text : Bytes)
  | insert (text : Bytes)
  | change (text : Bytes)
  | next
  | nextAppended
  | hold (append : Bool)
  | get (append : Bool)
  | exchange
  | jump (c : JumpCondition) (name : Bytes)
  | transliterate (pairs : List (Char × Char))
  | empty
  | display
  deriving Repr

/-- A command. -/
structure Command where
  lines : Lines
  negated : Bool
  action : Action
  deriving Repr

/-! ## Reading scripts -/

/-- What is left of a script, and how much of it was read. -/
structure Source where
  text : Bytes
  position : Nat := 0

/-- Reading from the front of a script. -/
abbrev Reading := StateT Source (Except String)

/-- Refuses a script. -/
def refuse {α : Type} (message : String) : Reading α := do
  throw ("-e expression #1, char " ++ toString (← get).position ++ ": " ++ message)

/-- Goes on behind some characters. -/
def moveTo (rest : Bytes) : Reading Unit :=
  modify fun s => ⟨rest, s.position + (s.text.length - rest.length)⟩

/-- The next character, if there is one. Goes on behind it. -/
def nextChar : Reading (Option Char) := do
  match (← get).text with
  | [] => return none
  | c :: rest =>
    moveTo rest
    return some c

/-- Passes over characters. -/
def skip (p : Char → Bool) : Reading Unit := do moveTo ((← get).text.dropWhile p)

/-- Passes over blanks within a line. -/
def skipBlanks : Reading Unit := skip fun c => c = ' ' || c = '\t'

/-- Whether the text goes on with a character; if so, goes on behind it. -/
def accept (c : Char) : Reading Bool := do
  match (← get).text with
  | d :: rest =>
    if c = d then
      moveTo rest
      return true
    else return false
  | [] => return false

/-- The number that the text goes on with. -/
def readNumber : Reading Nat := do
  let (n, rest) := leadingNumber (← get).text
  moveTo rest
  return n

/-- The text of a set in brackets up to its end, and the text behind it. -/
def bracketText (text : Bytes) : Option (Bytes × Bytes) :=
  (CharSet.ofText? ['^'] text).map fun (_, rest) => (text.take (text.length - rest.length), rest)

/-- The text up to a delimiter and the text behind it. An escaped delimiter loses its backslash. In an
expression a delimiter within brackets is none; `fuel` bounds the text. -/
def untilDelimiter (d : Char) (expression : Bool) : Nat → Bytes → Option (Bytes × Bytes)
  | 0, _ => none
  | _ + 1, [] => none
  | fuel + 1, '\\' :: c :: rest =>
    (untilDelimiter d expression fuel rest).map fun (a, b) =>
      (if c = d then c :: a else '\\' :: c :: a, b)
  | fuel + 1, c :: rest =>
    if c = d then some ([], rest)
    else if expression && c = '[' then
      match bracketText rest with
      | some (inner, rest) =>
        (untilDelimiter d expression fuel rest).map fun (a, b) => (c :: inner ++ a, b)
      | none => none
    else (untilDelimiter d expression fuel rest).map fun (a, b) => (c :: a, b)

/-- A text up to a delimiter, or a failure. -/
def readUntil (d : Char) (expression : Bool) (fault : String) : Reading Bytes := do
  let text := (← get).text
  match untilDelimiter d expression (text.length + 1) text with
  | some (inner, rest) =>
    moveTo rest
    return inner
  | none =>
    moveTo []
    refuse fault

/-- The expression of a text. -/
def readRegex (extended folded : Bool) (text : Bytes) : Reading (Option Regex) := do
  if text.isEmpty then return none
  match Regex.ofText extended folded text with
  | .ok r => return some r
  | .error fault => refuse fault

/-- An address, if the text goes on with one. -/
def address? (extended : Bool) : Reading (Option Address) := do
  match (← get).text with
  | '$' :: rest =>
    moveTo rest
    return some .last
  | '/' :: rest =>
    moveTo rest
    like '/'
  | '\\' :: d :: rest =>
    moveTo rest
    like d
  | c :: _ =>
    if c.isDigit then
      let n ← readNumber
      if ← accept '~' then return some (.step n (← readNumber))
      return some (.number n)
    else return none
  | [] => return none
where
  /-- An address that is an expression up to a delimiter. -/
  like (d : Char) : Reading (Option Address) := do
    let text ← readUntil d true "unterminated address regex"
    let folded ← accept 'I'
    let r ← readRegex extended folded text
    if r.isNone then throw "-e expression #1, char 0: no previous regular expression"
    return some (.like r)

/-- The end of a range. -/
def rangeEnd (extended : Bool) : Reading RangeEnd := do
  if ← accept '+' then return .count (← readNumber)
  if ← accept '~' then return .multiple (← readNumber)
  match ← address? extended with
  | some a => return .address a
  | none => refuse "unexpected \x60,'"

/-- The lines that the next command is for. -/
def readLines (extended : Bool) : Reading Lines := do
  match ← address? extended with
  | none =>
    if (← accept '+') || (← accept '~') then
      let _ ← nextChar
      refuse "invalid usage of +N or ~N as first address"
    return .all
  | some a =>
    skipBlanks
    if ← accept ',' then
      skipBlanks
      let e ← rangeEnd extended
      match a, e with
      | .number 0, .address (.like r) => return .fromBeginning (.like r)
      | .number 0, _ => refuse "invalid usage of line address 0"
      | a, e => return .range a e
    else
      match a with
      | .number 0 =>
        let _ ← nextChar
        refuse "invalid usage of line address 0"
      | a => return .one a

/-- Passes over the end of a command. -/
def endCommand : Reading Unit := do
  skipBlanks
  match (← get).text with
  | [] => pure ()
  | '}' :: _ => pure ()
  | '#' :: _ => pure ()
  | c :: rest =>
    moveTo rest
    if c ≠ '\n' ∧ c ≠ ';' then refuse "extra characters after command"

/-- The text of a label. -/
def readLabel : Reading Bytes := do
  skipBlanks
  let name := (← get).text.takeWhile fun c => c ≠ ';' && c ≠ '\n' && c ≠ ' '
  moveTo ((← get).text.drop name.length)
  return name

/-- Lines of text up to one whose end is not escaped; `fuel` bounds them. -/
def textLines : Nat → Bytes → Bytes × Bytes
  | 0, text => ([], text)
  | _ + 1, [] => (['\n'], [])
  | fuel + 1, '\\' :: c :: rest =>
    let (a, b) := textLines fuel rest
    (c :: a, b)
  | fuel + 1, c :: rest =>
    if c = '\n' then (['\n'], rest)
    else
      let (a, b) := textLines fuel rest
      (c :: a, b)

/-- The text that a command adds. -/
def readText : Reading Bytes := do
  skipBlanks
  match (← get).text with
  | [] => refuse "expected \\ after \x60a', \x60c' or \x60i'"
  | '\\' :: rest =>
    let rest := match rest.dropWhile fun c => c = ' ' || c = '\t' with
      | '\n' :: rest => rest
      | _ => rest
    if rest.isEmpty then
      moveTo []
      return []
    let (text, rest) := textLines (rest.length + 1) rest
    moveTo rest
    return text
  | text =>
    let (text, rest) := textLines (text.length + 1) text
    moveTo rest
    return text

/-- The parts of a replacement; `fuel` bounds its text. -/
def replacementParts : Nat → Bytes → List ReplacementPart
  | 0, _ => []
  | _ + 1, [] => []
  | fuel + 1, '&' :: rest => .group 0 :: replacementParts fuel rest
  | fuel + 1, '\\' :: 'x' :: c :: rest =>
    if isDigitOf 16 c then
      let digits := (c :: rest).take 2 |>.takeWhile (isDigitOf 16)
      .text [Char.ofNat (numberTo 16 digits)] ::
        replacementParts fuel ((c :: rest).drop digits.length)
    else .text ['x'] :: replacementParts fuel (c :: rest)
  | fuel + 1, '\\' :: c :: rest =>
    let part := match c with
      | 'U' => .change .upper
      | 'L' => .change .lower
      | 'E' => .change .plain
      | 'u' => .change .nextUpper
      | 'l' => .change .nextLower
      | 'n' => .text ['\n']
      | c =>
        if c.isDigit then .group (c.toNat - 48)
        else
          match escapeOf? c with
          | some e => if c = 'b' ∨ c = 'e' then .text [c] else .text [e]
          | none => .text [c]
    part :: replacementParts fuel rest
  | fuel + 1, c :: rest => .text [c] :: replacementParts fuel rest

/-- What is known of the letters behind a replacement. -/
structure Flags where
  everywhere : Bool := false
  print : Bool := false
  folded : Bool := false
  first : Option Nat := none

/-- The letters behind a replacement; `fuel` bounds them. -/
def readFlags : Nat → Flags → Reading Flags
  | 0, f => return f
  | fuel + 1, f => do
    match (← get).text with
    | 'g' :: rest =>
      moveTo rest
      if f.everywhere then refuse "multiple \x60g' options to \x60s' command"
      readFlags fuel { f with everywhere := true }
    | 'p' :: rest =>
      moveTo rest
      if f.print then refuse "multiple \x60p' options to \x60s' command"
      readFlags fuel { f with print := true }
    | c :: rest =>
      if c = 'i' ∨ c = 'I' then
        moveTo rest
        readFlags fuel { f with folded := true }
      else if c = 'm' ∨ c = 'M' then
        moveTo rest
        readFlags fuel f
      else if c.isDigit then
        let n ← readNumber
        if n = 0 then refuse "number option to \x60s' command may not be zero"
        if f.first.isSome then refuse "multiple number options to \x60s' command"
        readFlags fuel { f with first := some n }
      else if c = '}' ∨ c = '#' then return f
      else if c = ';' ∨ c = '\n' then
        moveTo rest
        return f
      else if c = ' ' then
        moveTo rest
        readFlags fuel f
      else
        moveTo rest
        refuse "unknown option to \x60s'"
    | [] => return f

/-- The number of groups that an expression has. -/
def groupsOf : RegexTree → Nat
  | .group _ r => groupsOf r + 1
  | .both a b => groupsOf a + groupsOf b
  | .either a b => groupsOf a + groupsOf b
  | .repeated r _ _ => groupsOf r
  | _ => 0

/-- A replacement, from its delimiter on. -/
def readReplacement (extended : Bool) : Reading Replacement := do
  let fault := "unterminated \x60s' command"
  match ← nextChar with
  | none => refuse fault
  | some d =>
    let expression ← readUntil d true fault
    let text ← readUntil d false fault
    let f ← readFlags ((← get).text.length + 1) {}
    let regex ← readRegex extended f.folded expression
    let parts := replacementParts (text.length + 1) text
    let count := match regex with
      | some r => groupsOf r.tree
      | none => 9
    let wanted : List Nat := parts.filterMap fun p => match p with
      | .group n => if count < n then some n else none
      | _ => none
    match wanted.max? with
    | some n => refuse ("invalid reference \\" ++ toString n ++ " on \x60s' command's RHS")
    | none => return ⟨regex, parts, f.first.getD 1, f.everywhere, f.print⟩

/-- The characters of a list whose backslashes escape; `fuel` bounds it. -/
def plainChars : Nat → Bytes → Bytes
  | 0, _ => []
  | _ + 1, [] => []
  | fuel + 1, '\\' :: 'n' :: rest => '\n' :: plainChars fuel rest
  | fuel + 1, '\\' :: '\\' :: rest => '\\' :: plainChars fuel rest
  | fuel + 1, c :: rest => c :: plainChars fuel rest

/-- The pairs of characters of a transliteration, from its delimiter on. -/
def readPairs : Reading (List (Char × Char)) := do
  let fault := "unterminated \x60y' command"
  match ← nextChar with
  | none => refuse fault
  | some d =>
    let a ← readUntil d false fault
    let b ← readUntil d false fault
    let a := plainChars (a.length + 1) a
    let b := plainChars (b.length + 1) b
    if a.length ≠ b.length then refuse "strings for \x60y' command are different lengths"
    endCommand
    return a.zip b

/-- An action that nothing follows. -/
def plainly (a : Action) : Reading Action := do
  endCommand
  return a

/-- What the command of a letter does. -/
def readAction (extended : Bool) (letter : Char) : Reading Action := do
  match letter with
  | 's' => return .replace (← readReplacement extended)
  | 'y' => return .transliterate (← readPairs)
  | 'd' => plainly .delete
  | 'D' => plainly .deleteFirst
  | 'p' => plainly .print
  | 'P' => plainly .printFirst
  | '=' => plainly .number
  | 'n' => plainly .next
  | 'N' => plainly .nextAppended
  | 'h' => plainly (.hold false)
  | 'H' => plainly (.hold true)
  | 'g' => plainly (.get false)
  | 'G' => plainly (.get true)
  | 'x' => plainly .exchange
  | 'z' => plainly .empty
  | 'l' => plainly .display
  | 'q' =>
    skipBlanks
    plainly (.quit false (← readNumber))
  | 'Q' =>
    skipBlanks
    plainly (.quit true (← readNumber))
  | 'a' => return .append (← readText)
  | 'i' => return .insert (← readText)
  | 'c' => return .change (← readText)
  | 'b' => jump .always
  | 't' => jump .replaced
  | 'T' => jump .notReplaced
  | c => refuse ("unknown command: \x60" ++ String.ofList [c] ++ "'")
where
  /-- A jump to a label. -/
  jump (c : JumpCondition) : Reading Action := do
    let name ← readLabel
    plainly (.jump c name)

/-- The commands of a script, `depth` of whose blocks are open; `fuel` bounds their number. -/
def readCommands (extended : Bool) : Nat → Nat → Reading (List Command)
  | 0, _ => return []
  | fuel + 1, depth => do
    skip fun c => " \t\n;".toList.contains c
    match (← get).text with
    | [] =>
      if depth = 0 then return []
      throw "-e expression #1, char 0: unmatched \x60\x7b'"
    | '#' :: rest =>
      moveTo (rest.dropWhile (· ≠ '\n'))
      readCommands extended fuel depth
    | _ =>
      let lines ← readLines extended
      skipBlanks
      let negated ← accept '!'
      skipBlanks
      if negated && (← accept '!') then refuse "multiple \x60!'s"
      match ← nextChar with
      | none => refuse "missing command"
      | some '\x7b' => return ⟨lines, negated, .openBlock⟩ :: (← readCommands extended fuel (depth + 1))
      | some '\x7d' =>
        if depth = 0 then refuse "unexpected \x60\x7d'"
        endCommand
        return ⟨lines, negated, .closeBlock⟩ :: (← readCommands extended fuel (depth - 1))
      | some ':' =>
        let name ← readLabel
        if name.isEmpty then refuse "\":\" lacks a label"
        return ⟨lines, negated, .label name⟩ :: (← readCommands extended fuel depth)
      | some letter =>
        let action ← readAction extended letter
        return ⟨lines, negated, action⟩ :: (← readCommands extended fuel depth)

/-- The commands of a script, or what is wrong with it. -/
def readScript (extended : Bool) (text : Bytes) : Except String (List Command) :=
  ((readCommands extended (text.length + 1) 0).run ⟨text, 0⟩).map Prod.fst

/-- A label that commands jump to but that is not there. -/
def missingLabel? (commands : List Command) : Option Bytes :=
  let labels := commands.filterMap fun c => match c.action with
    | .label name => some name
    | _ => none
  commands.findSome? fun c => match c.action with
    | .jump _ name => if name.isEmpty || labels.contains name then none else some name
    | _ => none

/-! ## Replacing -/

/-- Text that is built by a replacement: what was written, what all letters become, and what the next
one becomes. -/
structure Built where
  out : Bytes := []
  all : CaseChange := .plain
  one : CaseChange := .plain

/-- A character after a change of case. -/
def changed (b : Built) (c : Char) : Char :=
  let all := match b.all with
    | .upper => c.toUpper
    | .lower => c.toLower
    | _ => c
  match b.one with
  | .nextUpper => c.toUpper
  | .nextLower => c.toLower
  | _ => all

/-- Adds a part of a replacement. -/
def Built.add (f : Found) (b : Built) (p : ReplacementPart) : Built :=
  let write (b : Built) (text : Bytes) : Built :=
    text.foldl (fun b c => { b with out := b.out ++ [changed b c], one := .plain }) b
  match p with
  | .text cs => write b cs
  | .group n => write b (f.group n)
  | .change .nextUpper => { b with one := .nextUpper }
  | .change .nextLower => { b with one := .nextLower }
  | .change c => { b with all := c, one := .plain }

/-- What a match is replaced by. -/
def replacementOf (parts : List ReplacementPart) (f : Found) : Bytes :=
  (parts.foldl (Built.add f) {}).out

/-- A line with matches replaced, from the match with the number `count` on, and whether any was. An
empty match right behind another one is none; `fuel` bounds the matches. -/
def replaceFrom (r : Regex) (x : Replacement) :
    Nat → Nat → Option Char → Bool → Bytes → Bytes × Bool
  | 0, _, _, _, text => (text, false)
  | fuel + 1, count, before, behindMatch, text =>
    match r.find? before text with
    | none => (text, false)
    | some f =>
      let goOn (count : Nat) (f : Found) : Bytes × Bool :=
        if f.whole.isEmpty then
          match f.rest with
          | [] => ([], false)
          | c :: rest =>
            let (out, replaced) := replaceFrom r x fuel count (some c) false rest
            (c :: out, replaced)
        else replaceFrom r x fuel count f.whole.getLast? true f.rest
      if f.whole.isEmpty && f.front.isEmpty && behindMatch then
        goOn count f
      else if count < x.first then
        let (out, replaced) := goOn (count + 1) f
        (f.front ++ f.whole ++ out, replaced)
      else
        let here := f.front ++ replacementOf x.parts f
        if x.everywhere then (here ++ (goOn (count + 1) f).1, true)
        else (here ++ f.rest, true)

/-! ## Running scripts -/

/-- Whether a range is open, and at which line it ends if that is known. -/
inductive RangeState where
  | inactive
  | active (finish : Option Nat)
  | closed
  deriving Repr, DecidableEq

/-- The state of an edit: the lines to come and whether the last one has no end, the number of the
line, the line and whether it has no end, what is held and whether that has none, whether something was
replaced, the ranges by the place of their command, the expression that was used last, what was written
in reverse order and whether it lacks an end, what follows the line, and the status of an edit that has
ended. -/
structure State where
  input : List Bytes
  lastOpen : Bool
  number : Nat := 0
  line : Bytes := []
  isOpen : Bool := false
  held : Bytes := []
  heldOpen : Bool := false
  replaced : Bool := false
  ranges : List (Nat × RangeState) := []
  lastRegex : Option Regex := none
  out : List Bytes := []
  lacksEnd : Bool := false
  queue : List Bytes := []
  status : Option Nat := none

namespace State

/-- Writes a text, behind the end of a line that lacks it. -/
def write (s : State) (text : Bytes) : State :=
  { s with out := text :: (if s.lacksEnd then ['\n'] :: s.out else s.out), lacksEnd := false }

/-- Writes a text as a line that ends as the current line does. -/
def writeLine (s : State) (text : Bytes) : State :=
  if s.isOpen then { s.write text with lacksEnd := true } else s.write (text ++ ['\n'])

/-- Writes the end that what was written lacks. -/
def completed (s : State) : State := if s.lacksEnd then s.write [] else s

/-- Writes what follows the line. -/
def flush (s : State) : State := { s.queue.foldl write s with queue := [] }

/-- Reads the next line, if there is one. -/
def readLine? (s : State) : Option State :=
  match s.input with
  | [] => none
  | line :: rest =>
    some { s with input := rest, line, number := s.number + 1, isOpen := s.lastOpen && rest.isEmpty }

/-- Whether a line is one that an address is for, and the state after that was found out. -/
def isAt (s : State) (a : Address) : Bool × State :=
  match a with
  | .number n => (s.number = n, s)
  | .step first distance =>
    (if distance = 0 then s.number = first
      else first ≤ s.number && (s.number - first) % distance = 0, s)
  | .last => (s.input.isEmpty, s)
  | .like r =>
    let r := r <|> s.lastRegex
    (r.any (·.occursIn s.line), { s with lastRegex := r })

/-- Changes the state of a range. -/
def setRange (s : State) (place : Nat) (r : RangeState) : State :=
  { s with ranges := (place, r) :: s.ranges.filter (·.1 ≠ place) }

/-- The line that a range ends at that begins here, if it is known. -/
def finishOf (s : State) : RangeEnd → Option Nat
  | .address (.number n) => some n
  | .address _ => none
  | .count n => some (s.number + n)
  | .multiple n => some (if n = 0 then s.number else (s.number / n + 1) * n)

/-- Whether a line lies in a range that is open. -/
def inActive (s : State) (place : Nat) (finish : Option Nat) (e : RangeEnd) : Bool × State :=
  match finish with
  | some n => (s.number ≤ n, if n ≤ s.number then s.setRange place .closed else s)
  | none =>
    match e with
    | .address a =>
      let (ends, s) := s.isAt a
      (true, if ends then s.setRange place .closed else s)
    | _ => (true, s)

/-- Whether a command is for the current line. -/
def applies (s : State) (place : Nat) (lines : Lines) : Bool × State :=
  let state := s.ranges.lookup place
  match lines with
  | .all => (true, s)
  | .one a => s.isAt a
  | .fromBeginning e =>
    match state with
    | some .closed => (false, s)
    | _ => s.inActive place none (.address e)
  | .range a e =>
    match state with
    | some (.active finish) => s.inActive place finish e
    | _ =>
      let (begins, s) := s.isAt a
      if begins then
        match s.finishOf e with
        | some n => (true, if n ≤ s.number then s.setRange place .closed else s.setRange place (.active n))
        | none => (true, s.setRange place (.active none))
      else (false, s)

end State

/-- How a cycle goes on after a command: with the command at a place, at its end with the line written
or not, with its commands again, or not at all. -/
inductive Step where
  | go (place : Nat)
  | finish
  | discard
  | again
  | quit (silent : Bool) (status : Nat)

/-- The place behind the block that a command opens. -/
def behindBlock : Nat → Nat → List Command → Nat
  | place, _, [] => place
  | place, depth, c :: cs =>
    match c.action, depth with
    | .openBlock, depth => behindBlock (place + 1) (depth + 1) cs
    | .closeBlock, 0 => place + 1
    | .closeBlock, depth + 1 => behindBlock (place + 1) depth cs
    | _, depth => behindBlock (place + 1) depth cs

/-- The place of a label. -/
def placeOf (name : Bytes) (commands : List Command) : Nat :=
  if name.isEmpty then commands.length
  else
    commands.findIdx fun c => match c.action with
      | .label n => n = name
      | _ => false

/-- A line as it is shown with escapes. -/
def shownLine (line : Bytes) : Bytes :=
  line.flatMap (fun c =>
    match c with
    | '\\' => ['\\', '\\']
    | '\x07' => ['\\', 'a']
    | '\x08' => ['\\', 'b']
    | '\x0C' => ['\\', 'f']
    | '\n' => ['\\', 'n']
    | '\r' => ['\\', 'r']
    | '\t' => ['\\', 't']
    | '\x0B' => ['\\', 'v']
    | c =>
      if ' ' ≤ c ∧ c ≤ '~' then [c]
      else
        let digits := Nat.toDigits 8 c.toNat
        '\\' :: List.replicate (3 - digits.length) '0' ++ digits) ++ ['$']

/-- Does what a command does. -/
def perform (commands : List Command) (silent : Bool) (place : Nat) (c : Command) (s : State) :
    State × Step :=
  let next := Step.go (place + 1)
  match c.action with
  | .openBlock => (s, next)
  | .closeBlock => (s, next)
  | .label _ => (s, next)
  | .replace x =>
    match x.regex <|> s.lastRegex with
    | none => (s, next)
    | some r =>
      let s := { s with lastRegex := some r }
      let (line, replaced) := replaceFrom r x (s.line.length + 2) 1 none false s.line
      if replaced then
        let s := { s with line, replaced := true }
        (if x.print then s.writeLine line else s, next)
      else (s, next)
  | .delete => (s, .discard)
  | .deleteFirst =>
    if s.line.contains '\n' then
      ({ s with line := (s.line.dropWhile (· ≠ '\n')).drop 1 }, .again)
    else (s, .discard)
  | .print => (s.writeLine s.line, next)
  | .printFirst =>
    let first := s.line.takeWhile (· ≠ '\n')
    (if first.length = s.line.length then s.writeLine first else s.write (first ++ ['\n']), next)
  | .quit silent status => (s, .quit silent status)
  | .number => (s.write (numberText s.number ++ ['\n']), next)
  | .append text => ({ s with queue := s.queue ++ [text] }, next)
  | .insert text => (s.write text, next)
  | .change text =>
    match s.ranges.lookup place with
    | some (.active _) => (if c.negated then s.write text else s, .discard)
    | _ => (s.write text, .discard)
  | .next =>
    if s.input.isEmpty then (s, .finish)
    else
      let s := (if silent then s else s.writeLine s.line).flush
      ((s.readLine?).getD s, next)
  | .nextAppended =>
    match s.readLine? with
    | none => (s, .finish)
    | some after => ({ after.flush with line := s.line ++ '\n' :: after.line }, next)
  | .hold append =>
    ({ s with held := if append then s.held ++ '\n' :: s.line else s.line, heldOpen := s.isOpen }, next)
  | .get append =>
    ({ s with line := if append then s.line ++ '\n' :: s.held else s.held, isOpen := s.heldOpen }, next)
  | .exchange =>
    ({ s with line := s.held, isOpen := s.heldOpen, held := s.line, heldOpen := s.isOpen }, next)
  | .jump condition name =>
    let there := Step.go (placeOf name commands)
    match condition with
    | .always => (s, there)
    | .replaced => ({ s with replaced := false }, if s.replaced then there else next)
    | .notReplaced => ({ s with replaced := false }, if s.replaced then next else there)
  | .transliterate pairs =>
    ({ s with line := s.line.map fun c => (pairs.lookup c).getD c }, next)
  | .empty => ({ s with line := [] }, next)
  | .display => (s.write (shownLine s.line ++ ['\n']), next)

/-- Runs the commands from a place on; `fuel` bounds their number. -/
def runFrom (commands : List Command) (silent : Bool) : Nat → Nat → State → Option (State × Step)
  | 0, _, _ => none
  | fuel + 1, place, s =>
    match commands[place]? with
    | none => some (s, .finish)
    | some c =>
      let (applies, s) := s.applies place c.lines
      if applies = c.negated then
        match c.action with
        | .openBlock => runFrom commands silent fuel (behindBlock (place + 1) 0 (commands.drop (place + 1))) s
        | _ => runFrom commands silent fuel (place + 1) s
      else
        match perform commands silent place c s with
        | (s, .go place) => runFrom commands silent fuel place s
        | (s, step) => some (s, step)

/-- Runs cycles until the lines are at their end; `fuel` bounds them. -/
def runCycles (commands : List Command) (silent : Bool) (bound : Nat) : Nat → State → Option State
  | 0, _ => none
  | fuel + 1, s => do
    let (s, step) ← runFrom commands silent bound 0 s
    let printed (s : State) : State := if silent then s else s.writeLine s.line
    let goOn (s : State) : Option State :=
      match s.flush.readLine? with
      | none => some s.flush
      | some s => runCycles commands silent bound fuel { s with replaced := false }
    match step with
    | .go _ => goOn (printed s)
    | .finish => goOn (printed s)
    | .discard => goOn s
    | .again => runCycles commands silent bound fuel s.flush
    | .quit false status => some { (printed s).completed.flush with status := some status }
    | .quit true status => some { s with status := some status }

/-- Edits a text. Gives what is written and the status, or nothing if the script never ends. -/
def edit (commands : List Command) (silent : Bool) (text : Bytes) : Option (Bytes × Nat) :=
  let (lines, lastOpen) := linesOf text
  let start : State := { input := lines, lastOpen }
  match start.readLine? with
  | none => some ([], 0)
  | some s =>
    let bound := 1000 * (commands.length + 1) + 10 * text.length
    (runCycles commands silent bound (bound + lines.length) s).map fun s =>
      ((s.out.reverse).flatten, s.status.getD 0)

end ExtensionHost.Shell.StreamEdit
