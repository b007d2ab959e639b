import ExtensionHost.File.Path
import ExtensionHost.Rehearsal.Shell.Numeral

/-!
# Filters

What the programs of the system make of a text: counting and cutting lines and choosing parts of them. All
of it works on bytes.
-/

namespace ExtensionHost.Shell

/-! ## Lines -/

/-- The lines of a text without their ends, and whether the last one has none. -/
def linesOf (text : Bytes) : List Bytes × Bool :=
  let step (c : Char) (acc : List Bytes × Bool) : List Bytes × Bool :=
    match acc with
    | (lines, unended) =>
      if c = '\n' then ([] :: lines, if lines.isEmpty then false else unended)
      else
        match lines with
        | [] => ([[c]], true)
        | line :: lines => ((c :: line) :: lines, unended)
  text.foldr step ([], false)

/-- Lines as a text; the last one may have no end. -/
def textOfLines (lines : List Bytes) (lastOpen : Bool) : Bytes :=
  match lines with
  | [] => []
  | [line] => if lastOpen then line else line ++ ['\n']
  | line :: lines => line ++ '\n' :: textOfLines lines lastOpen

/-- The first lines of a text. -/
def firstLines : Nat → Bytes → Bytes
  | 0, _ => []
  | _ + 1, [] => []
  | n + 1, c :: rest => if c = '\n' then c :: firstLines n rest else c :: firstLines (n + 1) rest

/-- The last lines of a text. -/
def lastLines (n : Nat) (text : Bytes) : Bytes :=
  let (lines, lastOpen) := linesOf text
  textOfLines (lines.drop (lines.length - n)) lastOpen

/-- The number of words of a text. -/
def wordCount (text : Bytes) : Nat :=
  let blank (c : Char) : Bool := " \t\n\r\x0B\x0C".toList.contains c
  (text.foldl (fun (acc : Nat × Bool) c =>
    if blank c then (acc.1, false) else (if acc.2 then acc.1 else acc.1 + 1, true)) (0, false)).1

/-- A text with blanks before it, up to a width. -/
def padLeft (width : Nat) (text : Bytes) : Bytes :=
  List.replicate (width - text.length) ' ' ++ text

/-! ## Parts of lines -/

/-- The ranges of a list such as `1,3-4,6-`, both ends counted; nothing for a text that is none. -/
def ranges? (text : Bytes) : Option (List (Nat × Option Nat)) :=
  (Path.splitAt ',' text).mapM fun part =>
    match Path.splitAt '-' part with
    | [n] => (number? n).map fun n => (n, some n)
    | [[], last] => (number? last).map fun last => (1, some last)
    | [first, []] => (number? first).map fun first => (first, none)
    | [first, last] => do some (← number? first, some (← number? last))
    | _ => none

/-- The elements of a list in ranges, counted from one, or those that are in none. -/
def selectRanges {α : Type} (complement : Bool) (ranges : List (Nat × Option Nat))
    (items : List α) : List α :=
  (items.zipIdx 1).filterMap fun (a, n) =>
    if (ranges.any fun (first, last) => first ≤ n && last.all (n ≤ ·)) != complement then some a
    else none

/-- The ranges of fields of a line; a line without a separator stays as it is. -/
def cutFields (separator : Char) (between : Option Bytes) (complement : Bool)
    (ranges : List (Nat × Option Nat)) (line : Bytes) : Bytes :=
  if line.contains separator then
    (between.getD [separator]).intercalate
      (selectRanges complement ranges (Path.splitAt separator line))
  else line

end ExtensionHost.Shell
