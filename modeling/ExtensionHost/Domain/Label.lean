import ExtensionHost.Text.Composition
import ExtensionHost.Domain.Label.Table

/-!
# Labels

Which texts are labels of a domain name: none begins with a mark, joiners stand only where they change
how letters join, and in a name with letters that are written from right to left every label is read in
one direction only.
-/

namespace ExtensionHost.Domain

open Text (CodePoints)

/-! ## Marks and joiners -/

/-- The marks. -/
def marks : CodePoints := .ofText markText

/-- Characters that join on both sides. -/
def joiningBoth : CodePoints := .ofText joinsBothText

/-- Characters that join the one before. -/
def joiningBefore : CodePoints := .ofText joinsBeforeText

/-- Characters that join the one after. -/
def joiningAfter : CodePoints := .ofText joinsAfterText

/-- Characters that joins pass over. -/
def joiningThrough : CodePoints := .ofText joinsThroughText

/-- The character that keeps two letters apart. -/
def nonJoiner : Char := '\u200c'

/-- The character that joins two letters. -/
def joiner : Char := '\u200d'

/-- The class of marks that silence the vowel of a letter. -/
def silencingClass : Nat := 9

/-- Whether the first character that joins do not pass over belongs to one of two sets. -/
def meets (both one : CodePoints) (text : List Char) : Bool :=
  match text.dropWhile joiningThrough.contains with
  | c :: _ => both.contains c || one.contains c
  | [] => false

/-- Whether a joiner may stand between what is before it, the last character first, and behind it. -/
def joinerFits (c : Char) (before after : List Char) : Bool :=
  before.head?.any (fun d => Text.markClass d = silencingClass) ||
    (c = nonJoiner && meets joiningBoth joiningAfter before && meets joiningBoth joiningBefore after)

/-- Whether all joiners of a text fit. -/
def joinersFit (before : List Char) : List Char → Bool
  | [] => true
  | c :: rest =>
    (c ≠ joiner && c ≠ nonJoiner || joinerFits c before rest) && joinersFit (c :: before) rest

/-- The greatest length of a label beyond ASCII. -/
def greatestLabel : Nat := 1000

/-- Whether a text is a label. -/
def isLabel (label : List Char) : Bool :=
  !label.head?.any marks.contains && joinersFit [] label &&
    (label.all (fun c => c.toNat < 0x80) || label.length ≤ greatestLabel)

/-! ## Directions -/

/-- How a character behaves in a text of two directions. -/
inductive Direction where
  | left
  | right
  | arabic
  | arabicDigit
  | digit
  | sign
  | separator
  | terminator
  | neutral
  | boundary
  | mark
  deriving Repr, DecidableEq

/-- The characters of each direction but the first. -/
def directions : List (Direction × CodePoints) :=
  [ (.right, .ofText rightLetterDirectionText), (.arabic, .ofText arabicLetterDirectionText),
    (.arabicDigit, .ofText arabicDigitDirectionText), (.digit, .ofText digitDirectionText),
    (.sign, .ofText signDirectionText), (.separator, .ofText separatorDirectionText),
    (.terminator, .ofText terminatorDirectionText), (.neutral, .ofText neutralDirectionText),
    (.boundary, .ofText boundaryDirectionText), (.mark, .ofText markDirectionText) ]

/-- The direction of a character. -/
def direction (c : Char) : Direction :=
  match directions.find? fun (_, s) => s.contains c with
  | some (d, _) => d
  | none => .left

/-- Whether a direction makes a name one of two directions. -/
def Direction.turns (d : Direction) : Bool := d = .right || d = .arabic || d = .arabicDigit

/-- Whether a direction may occur in a label of either direction. -/
def Direction.isCommon (d : Direction) : Bool :=
  [.digit, .sign, .separator, .terminator, .neutral, .boundary, .mark].contains d

/-- Whether a label is read in one direction. -/
def isDirected (label : List Char) : Bool :=
  let ds := label.map direction
  let last := (ds.reverse.dropWhile (· = Direction.mark)).head?
  match ds with
  | [] => true
  | .left :: _ =>
    (last = some .left || last = some .digit) && ds.all fun d => d = .left || d.isCommon
  | first :: _ =>
    (first = .right || first = .arabic) &&
      (last.any fun d => d.turns || d = .digit) &&
      (ds.all fun d => d.turns || d.isCommon) &&
      !(ds.contains .digit && ds.contains .arabicDigit)

/-- Whether the labels of a name go together: all are read in one direction if any needs two. -/
def areDirected (labels : List (List Char)) : Bool :=
  if labels.any fun label => label.any fun c => 0x80 ≤ c.toNat && (direction c).turns then
    labels.all isDirected
  else true

end ExtensionHost.Domain
