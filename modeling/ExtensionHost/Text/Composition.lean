import ExtensionHost.Text.CodePoints
import ExtensionHost.Text.Composition.Table

/-!
# Composed text

A character with marks may be written as one character or as several. A composed text takes every
character apart, puts the marks behind each character into the order of their classes, and then puts
together what there is one character for. Syllables of Hangul are put together by their number.
-/

namespace ExtensionHost.Text

/-! ## What the table says -/

/-- The compositions that words write: a first part, a second part, and what is composed of both. A word
with a colon at its end names the second part of those behind it. -/
def compositionsOfWords (second : Char) : List (List Char) → List (Char × Char × Char)
  | [] => []
  | word :: rest =>
    if word.getLast? = some ':' then compositionsOfWords (hexChar word.dropLast) rest
    else
      let (first, composed) := cut '>' word
      (hexChar first, second, hexChar composed) :: compositionsOfWords second rest

/-- All compositions but those of Hangul. -/
def compositions : Array (Char × Char × Char) :=
  (compositionsOfWords ' ' (words compositionText)).toArray

/-- The classes that words write, each with a range. A word with a colon at its end names the class of
those behind it. -/
def markClassesOfWords (number : Nat) : List (List Char) → List (Nat × Nat × Nat)
  | [] => []
  | word :: rest =>
    if word.getLast? = some ':' then
      markClassesOfWords ((String.ofList word.dropLast).toNat?.getD 0) rest
    else (number, rangeOfText word) :: markClassesOfWords number rest

/-- The classes of marks, each with a range. -/
def markClasses : Array (Nat × Nat × Nat) := (markClassesOfWords 0 (words markClassText)).toArray

/-- The class of a mark; zero for a character that is no mark or lets no other one pass. -/
def markClass (c : Char) : Nat :=
  if c.toNat < 0x300 then 0
  else
    match markClasses.find? fun (_, first, last) => first ≤ c.toNat && c.toNat ≤ last with
    | some (number, _) => number
    | none => 0

/-! ## Hangul -/

/-- The first syllable of Hangul. -/
def firstSyllable : Nat := 0xAC00

/-- The number of syllables of Hangul. -/
def syllableCount : Nat := 11172

/-- The letter before the first one that ends a syllable. -/
def beforeTails : Nat := 0x11A7

/-- The number of ways to end a syllable, no letter included. -/
def tailCount : Nat := 28

/-- The number of vowels. -/
def vowelCount : Nat := 21

/-- The parts of a syllable. -/
def syllableParts (n : Nat) : List Char :=
  let tail := n % tailCount
  let start := [Char.ofNat (0x1100 + n / (vowelCount * tailCount)),
    Char.ofNat (0x1161 + n / tailCount % vowelCount)]
  if tail = 0 then start else start ++ [Char.ofNat (beforeTails + tail)]

/-- The syllable of two parts: of a first letter and a vowel, or of those and an end. -/
def syllable? (a b : Char) : Option Char :=
  let l := a.toNat - 0x1100
  let v := b.toNat - 0x1161
  let n := a.toNat - firstSyllable
  let t := b.toNat - beforeTails
  if 0x1100 ≤ a.toNat ∧ l < 19 ∧ 0x1161 ≤ b.toNat ∧ v < vowelCount then
    some (Char.ofNat (firstSyllable + (l * vowelCount + v) * tailCount))
  else if firstSyllable ≤ a.toNat ∧ n < syllableCount ∧ n % tailCount = 0 ∧
      beforeTails < b.toNat ∧ t < tailCount then
    some (Char.ofNat (a.toNat + t))
  else none

/-! ## Taking apart and putting together -/

/-- The parts of a character; its first part is taken apart again, up to a depth. -/
def parts : Nat → Char → List Char
  | 0, c => [c]
  | depth + 1, c =>
    if c.toNat < 0xC0 then [c]
    else if firstSyllable ≤ c.toNat ∧ c.toNat < firstSyllable + syllableCount then
      syllableParts (c.toNat - firstSyllable)
    else
      match compositions.find? fun (_, _, composed) => composed = c with
      | some (first, second, _) => parts depth first ++ [second]
      | none => [c]

/-- The character of two parts. -/
def composed? (a b : Char) : Option Char :=
  match syllable? a b with
  | some c => some c
  | none =>
    (compositions.find? fun (first, second, _) => first = a ∧ second = b).map fun (_, _, c) => c

/-- Puts a character behind others, the last one first: a mark passes the marks of greater classes. -/
def settle (c : Char) : List Char → List Char
  | [] => [c]
  | d :: before =>
    if 0 < markClass c ∧ markClass c < markClass d then d :: settle c before else c :: d :: before

/-- The parts of a text with the marks in the order of their classes. -/
def apart (text : List Char) : List Char :=
  ((text.flatMap (parts 4)).foldl (fun before c => settle c before) []).reverse

/-- Puts together what follows a character: `kept` are the marks behind it that stay, the last one first.
A mark stays when no character is composed with it, or when one of its class stands between. -/
def together (first : Char) (kept : List Char) : List Char → List Char
  | [] => first :: kept.reverse
  | c :: rest =>
    let free := match kept with
      | [] => true
      | d :: _ => markClass d < markClass c
    match if free then composed? first c else none with
    | some composed => together composed kept rest
    | none =>
      if markClass c = 0 then first :: kept.reverse ++ together c [] rest
      else together first (c :: kept) rest

/-- Puts a text together; marks at its beginning stay. -/
def join : List Char → List Char
  | [] => []
  | c :: rest => if markClass c = 0 then together c [] rest else c :: join rest

/-- The composed form of a text. -/
def compose (text : List Char) : List Char :=
  if text.all fun c => c.toNat < 0x300 then text else join (apart text)

end ExtensionHost.Text
