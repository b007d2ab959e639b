import ExtensionHost.Error
import ExtensionHost.File.Path

/-!
# Reports

How a failure that ends the program is shown: its text, and what led to it. A single cause is indented;
several causes are numbered as well.
-/

namespace ExtensionHost

/-- The lines of a text. -/
def linesOfText (text : String) : List String :=
  (Path.splitAt '\n' text.toList).map String.ofList

/-- The lines of a cause; those after the first are indented further. -/
def causeLines (first others : String) (text : String) : List String :=
  match linesOfText text with
  | [] => [first]
  | line :: lines => (first ++ line) :: lines.map (others ++ ·)

/-- The lines of causes that are numbered from `n` on. -/
def numberedCauses (n : Nat) : List String → List String
  | [] => []
  | text :: rest =>
    let number := toString n
    let gap := String.ofList (List.replicate (5 - number.length) ' ')
    causeLines (gap ++ number ++ ": ") "       " text ++ numberedCauses (n + 1) rest

/-- The lines of causes. -/
def allCauseLines : List String → List String
  | [] => []
  | [text] => causeLines "    " "    " text
  | texts => numberedCauses 0 texts

/-- The lines of a failure that ends the program. -/
def Cause.report (c : Cause) : List String :=
  linesOfText ("Error: " ++ c.text) ++
    (if c.causes.isEmpty then [] else ["", "Caused by:"] ++ allCauseLines c.causes)

end ExtensionHost
