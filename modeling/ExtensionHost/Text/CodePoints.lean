/-!
# Sets of code points

A set of code points is written as a text: code points and ranges, each range as its first and its last
code point with a dash between them, all in hexadecimal digits with blanks between two. It is kept as the
list of its ranges.
-/

namespace ExtensionHost.Text

/-- The value of a hexadecimal digit. -/
def hexDigit? (c : Char) : Option Nat :=
  if '0' ≤ c ∧ c ≤ '9' then some (c.toNat - 48)
  else if 'a' ≤ c ∧ c ≤ 'f' then some (c.toNat - 87)
  else if 'A' ≤ c ∧ c ≤ 'F' then some (c.toNat - 55)
  else none

/-- The number of hexadecimal digits; other characters do not count. -/
def hexValue (digits : List Char) : Nat :=
  digits.foldl (fun n c => match hexDigit? c with
    | some d => 16 * n + d
    | none => n) 0

/-- The character with a code point in hexadecimal digits. -/
def hexChar (digits : List Char) : Char := Char.ofNat (hexValue digits)

/-- The parts of a text before and behind the first occurrence of a character; without one, all of the
text is before it. -/
def cut (separator : Char) (text : List Char) : List Char × List Char :=
  (text.takeWhile (· ≠ separator), (text.dropWhile (· ≠ separator)).drop 1)

/-- The first and the last code point of a range as it is written. -/
def rangeOfText (text : List Char) : Nat × Nat :=
  let (first, last) := cut '-' text
  (hexValue first, hexValue (if last.isEmpty then first else last))

/-- The words of a text between blanks and line ends. -/
def words (text : String) : List (List Char) :=
  ((text.splitOn "\n").flatMap (·.splitOn " ")).filterMap fun word =>
    if word = "" then none else some word.toList

/-- A set of code points: its ranges, first and last code point of each. -/
structure CodePoints where
  ranges : Array (Nat × Nat)

/-- The set that a text writes. -/
def CodePoints.ofText (text : String) : CodePoints := ⟨((words text).map rangeOfText).toArray⟩

/-- Whether a character belongs to a set. -/
def CodePoints.contains (s : CodePoints) (c : Char) : Bool :=
  s.ranges.any fun (first, last) => first ≤ c.toNat && c.toNat ≤ last

end ExtensionHost.Text
