import ExtensionHost.Rehearsal.Shell.Condition
import ExtensionHost.Rehearsal.Shell.Expression
import ExtensionHost.Rehearsal.Shell.Format
import ExtensionHost.Rehearsal.Shell.Program.Basic

/-!
# Programs on words

The programs of the system that work on their arguments: they write them, test them or calculate with
them, and let time go by.
-/

namespace ExtensionHost.Shell

/-- Writes words and the end of a line. The shell's own replaces escapes. -/
def echo (escapes : Bool) (args : List Bytes) : Action Nat := do
  let (ends, args) := match args with
    | ['-', 'n'] :: args => (false, args)
    | args => (true, args)
  let (escapes, args) := match escapes, args with
    | false, ['-', 'e'] :: args => (true, args)
    | escapes, args => (escapes, args)
  let text := joined args
  let (text, ended) := if escapes then unescape (text.length + 1) text else (text, false)
  put (if ends && !ended then text ++ ['\n'] else text)
  return 0

/-- Writes words by a format. -/
def printf (style : FormatStyle) (args : List Bytes) : Action Nat := do
  let report (message : Bytes) : Action Unit := match style with
    | .shell => tellBytes message
    | .system => complain ("printf: ".toList ++ message ++ ['\n'])
  let (options, words) := args.span (· = ['-', '-'])
  match if options.length = 1 then words else args with
  | [] =>
    match style with
    | .shell =>
      report "usage: printf format [arg ...]".toList
      return 2
    | .system => complainOfCall "printf" "missing operand" 1
  | format :: args =>
    if style = .shell && options.isEmpty && format.head? = some '-' && format ≠ ['-'] then
      report ("Illegal option ".toList ++ format.take 2)
      return 2
    let w := writeFormat style format args
    put w.out
    for (arg, fault) in w.faults do report (fault.message style arg)
    match w.broken, style with
    | none, _ => return if w.faults.isEmpty then 0 else 1
    | some text, .shell =>
      report (match text with
        | some text => text ++ ": invalid directive".toList
        | none => "missing format character".toList)
      return 2
    | some text, .system =>
      report (text.getD ['%'] ++ ": invalid conversion specification".toList)
      return 1

/-- The status of a condition, whose faults are reported. -/
def test (report : String → Action Unit) (words : List Bytes) : Action Nat := do
  match conditionHolds (← get) words with
  | .ok holds => return if holds then 0 else 1
  | .error fault =>
    report fault
    return 2

/-- Writes the value of an expression. -/
def expr (args : List Bytes) : Action Nat := do
  let words := if args.head? = some ['-', '-'] then args.tail else args
  if words.isEmpty then return ← complainOfCall "expr" "missing operand" 2
  match Expression.value words with
  | .error fault =>
    complainOf "expr" fault.message
    return 2
  | .ok v =>
    put (v ++ ['\n'])
    return if Expression.isNone v then 1 else 0

/-! ## Numbers in order -/

/-- A decimal number: an integer and how many of its digits stand behind the point. -/
def decimal? (text : Bytes) : Option (Int × Nat) :=
  let (negative, text) := match text with
    | '-' :: rest => (true, rest)
    | '+' :: rest => (false, rest)
    | text => (false, text)
  match pointedDigits? text with
  | some (digits, places, []) =>
    let n : Int := (leadingNumber digits).1
    some (if negative then -n else n, places)
  | _ => none

/-- A decimal number with a number of places, in a width. -/
def decimalText (places width : Nat) (i : Int) : Bytes :=
  let digits := numberText i.natAbs
  let digits := List.replicate (places + 1 - digits.length) '0' ++ digits
  let whole := digits.take (digits.length - places)
  let text := if places = 0 then whole else whole ++ '.' :: digits.drop (digits.length - places)
  let sign := if i < 0 then ['-'] else []
  sign ++ List.replicate (width - sign.length - text.length) '0' ++ text

/-- Writes numbers in order, at a distance from each other. -/
def seq (args : List Bytes) : Action Nat := do
  let isNumber (a : Bytes) : Bool := (decimal? a).isSome
  let negative (a : Bytes) : Bool := a.head? = some '-' && isNumber a
  let (options, numbers) := args.span fun a => a.head? = some '-' && !negative a
  let rest := if options.getLast?.any fun o => o = ['-', 's'] then numbers.drop 1 else numbers
  let separator := if options.getLast?.any fun o => o = ['-', 's'] then numbers.headD []
    else ((options.find? fun o => "-s".toList.isPrefixOf o).map (·.drop 2)).getD ['\n']
  let wide := options.contains ['-', 'w']
  match rest.find? fun a => !isNumber a with
  | some bad =>
    complainOfCall "seq" ("invalid floating point argument: " ++ inQuotes bad) 1
  | none =>
    let values := rest.filterMap decimal?
    let given := match values with
      | [last] => some ((1, 0), (1, 0), last)
      | [first, last] => some (first, (1, 0), last)
      | [first, distance, last] => some (first, distance, last)
      | _ => none
    match given with
    | none =>
      match rest[3]? with
      | some extra => complainOfCall "seq" ("extra operand " ++ inQuotes extra) 1
      | none => complainOfCall "seq" "missing operand" 1
    | some (first, distance, last) =>
      let places := max first.2 distance.2
      let all := max places last.2
      let scaled (d : Int × Nat) : Int := d.1 * Int.pow 10 (all - d.2)
      let (a, d, b) := (scaled first, scaled distance, scaled last)
      if d = 0 then
        return ← complainOfCall "seq"
          ("invalid Zero increment value: " ++ inQuotes ((rest[1]?).getD [])) 1
      let count := (Int.fdiv (b - a) d + 1).toNat
      let down (i : Int) : Int := Int.tdiv i (Int.pow 10 (all - places))
      let numbers := (List.range count).map fun (i : Nat) => down (a + d * i)
      let width := if wide then
          max (decimalText places 0 (down a)).length (decimalText places 0 (down b)).length
        else 0
      if 0 < count then
        put (separator.intercalate (numbers.map (decimalText places width)) ++ ['\n'])
      return 0

/-- How many lines a program without an end writes before nobody reads them any more. -/
def lineBound : Nat := 50000

/-- Writes a line again and again. Where nobody collects it, it never ends. -/
def yes (args : List Bytes) : Action Nat := do
  let line := (if args.isEmpty then ['y'] else joined args) ++ ['\n']
  if (← get).first ≠ .collected then throw .endless
  put ((List.replicate lineBound line).flatten)
  return 141

/-! ## Time -/

/-- A time in thousandths of a second: a number, which may have three places, and perhaps its unit. -/
def duration? (text : Bytes) : Option Nat :=
  match pointedDigits? text with
  | none => none
  | some (digits, places, unit) =>
    let n := (leadingNumber digits).1 * 1000 / Nat.pow 10 places
    match unit with
    | [] => some n
    | ['s'] => some n
    | ['m'] => some (n * 60)
    | ['h'] => some (n * 3600)
    | ['d'] => some (n * 86400)
    | _ => none

/-- Lets time go by. -/
def sleep (args : List Bytes) : Action Nat :=
  called "sleep" {} 1 args fun c => do
    if c.operands.isEmpty then return ← complainOfCall "sleep" "missing operand" 1
    match c.operands.find? fun a => (duration? a).isNone with
    | some bad => complainOfCall "sleep" ("invalid time interval " ++ inQuotes bad) 1
    | none =>
      letPass ((c.operands.filterMap duration?).foldl (· + ·) 0)
      return 0

/-! ## Parts of paths -/

/-- The last name of a path. -/
def lastName (path : Bytes) : Bytes :=
  let name := path.reverse.dropWhile (· = '/') |>.takeWhile (· ≠ '/') |>.reverse
  if name.isEmpty && path.contains '/' then ['/'] else name

/-- Writes the last names of paths, perhaps without an ending. -/
def basename (args : List Bytes) : Action Nat :=
  let names := [("multiple", 'a'), ("suffix", 's'), ("zero", 'z')]
  called "basename" { plain := "az", valued := "s", names } 1 args fun c => do
    let several := c.has 'a' || c.has 's'
    let without (ending name : Bytes) : Bytes :=
      if ending.isSuffixOf name && ending ≠ name then name.take (name.length - ending.length) else name
    match c.operands with
    | [] => complainOfCall "basename" "missing operand" 1
    | path :: more =>
      if several then
        let ending := (c.value? 's').getD []
        put (c.operands.flatMap fun path => without ending (lastName path) ++ ['\n'])
        return 0
      match more with
      | _ :: extra :: _ => complainOfCall "basename" ("extra operand " ++ inQuotes extra) 1
      | more =>
        put (without (more.headD []) (lastName path) ++ ['\n'])
        return 0

/-- The path without its last name. -/
def aboveLast (path : Bytes) : Bytes :=
  let above := path.reverse.dropWhile (· = '/') |>.dropWhile (· ≠ '/') |>.dropWhile (· = '/')
    |>.reverse
  if above.isEmpty then (if path.head? = some '/' then ['/'] else ['.']) else above

/-- Writes paths without their last names. -/
def dirname (args : List Bytes) : Action Nat :=
  called "dirname" { plain := "z", names := [("zero", 'z')] } 1 args fun c => do
    if c.operands.isEmpty then return ← complainOfCall "dirname" "missing operand" 1
    put (c.operands.flatMap fun path => aboveLast path ++ ['\n'])
    return 0

end ExtensionHost.Shell
