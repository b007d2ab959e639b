import ExtensionHost.Text.CodePoints
import ExtensionHost.Domain.Mapping.Table

/-!
# Characters of domain names

Domain names that look alike are one name. Before they are compared, capital letters, wide and other
special forms are replaced by the plain characters that they stand for, some characters are left out,
and some must not occur at all.
-/

namespace ExtensionHost.Domain

open Text (CodePoints)

/-- What replaces the characters of a range: characters that follow on from one, or always the same
ones. -/
inductive Substitute where
  | following (first : Nat)
  | same (text : List Char)
  deriving Repr

/-- What replaces every `step`-th character from a first to a last one. -/
structure Replacement where
  first : Nat
  last : Nat
  step : Nat := 1
  substitute : Substitute
  deriving Repr

/-- The code points that a text writes with points between them. -/
def charsOfText (text : List Char) : List Char :=
  ((String.ofList text).splitOn ".").map fun digits => Text.hexChar digits.toList

/-- The replacement that an entry of the table writes. -/
def Replacement.ofText (entry : List Char) : Replacement :=
  let (first, last) := Text.rangeOfText (entry.takeWhile fun c => c ≠ '>' && c ≠ '+' && c ≠ '=')
  match entry.dropWhile fun c => c ≠ '>' && c ≠ '+' && c ≠ '=' with
  | '>' :: target => { first, last, substitute := .following (Text.hexValue target) }
  | '+' :: target => { first, last, step := 2, substitute := .following (Text.hexValue target) }
  | '=' :: target => { first, last, substitute := .same (charsOfText target) }
  | _ => { first, last, substitute := .same [] }

/-- What a replacement puts in the place of a character. -/
def Replacement.instead? (r : Replacement) (c : Char) : Option (List Char) :=
  if r.first ≤ c.toNat ∧ c.toNat ≤ r.last ∧ (c.toNat - r.first) % r.step = 0 then
    match r.substitute with
    | .following first => some [Char.ofNat (first + (c.toNat - r.first))]
    | .same text => some text
  else none

/-- All replacements. -/
def replacements : Array Replacement :=
  ([replacementTextAlphabets, replacementTextSymbols, replacementTextForms,
    replacementTextSupplement].flatMap fun text =>
      (Text.words text).map Replacement.ofText).toArray

/-- The characters that may occur. -/
def allowed : CodePoints := .ofText allowedText

/-- The characters that are left out. -/
def ignored : CodePoints := .ofText ignoredText

/-- What replaces a character that is not plain. -/
def replacement? (c : Char) : Option (List Char) :=
  if ignored.contains c then some [] else replacements.findSome? (·.instead? c)

/-- The characters that a character counts as, if it may occur. -/
def mapped? (c : Char) : Option (List Char) :=
  if c.toNat < 0x80 then some [c.toLower]
  else if allowed.contains c then some ((replacement? c).getD [c])
  else none

/-- Whether a character may occur and counts as itself. -/
def isPlain (c : Char) : Bool :=
  if c.toNat < 0x80 then !c.isUpper else allowed.contains c && (replacement? c).isNone

end ExtensionHost.Domain
