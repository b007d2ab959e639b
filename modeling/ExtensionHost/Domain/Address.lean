import ExtensionHost.File.Path
import ExtensionHost.Text.CodePoints

/-!
# Numbers in place of names

A host may be given by its number. A number of 32 bits is written as up to four parts between points,
decimal, octal behind a zero or hexadecimal behind `0x`; all parts but the last are single bytes. A
number of 128 bits is written as eight groups of hexadecimal digits between colons; two colons stand for
as many groups as are missing, and the last two groups may be written as four decimal bytes.
-/

namespace ExtensionHost.Domain

/-! ## Numbers of 32 bits -/

/-- The number of digits in a base, if all of them are digits of that base. -/
def digitsIn? (base : Nat) (digits : List Char) : Option Nat :=
  digits.foldlM (fun n c => do
    let d ← Text.hexDigit? c
    if d < base then some (n * base + d) else none) 0

/-- The number of one part. -/
def part? : List Char → Option Nat
  | [] => none
  | '0' :: 'x' :: digits => digitsIn? 16 digits
  | '0' :: 'X' :: digits => digitsIn? 16 digits
  | ['0'] => some 0
  | '0' :: digits => digitsIn? 8 digits
  | digits => digitsIn? 10 digits

/-- The parts of a name; a point at its end does not count. -/
def partsOf (name : List Char) : List (List Char) :=
  let parts := Path.splitAt '.' name
  if parts.getLast? = some [] then parts.dropLast else parts

/-- Whether a name has to be a number: its last part is one. -/
def endsInNumber (name : List Char) : Bool :=
  let parts := Path.splitAt '.' name
  let parts := if parts.getLast? = some [] && 1 < parts.length then parts.dropLast else parts
  match parts.getLast? with
  | none => false
  | some last => last ≠ [] && (last.all Char.isDigit || (part? last).isSome)

/-- Whether numbers of parts make up one of 32 bits: bytes, and a last one for all bytes that are left. -/
def fitsWord (numbers : List Nat) : Bool :=
  numbers.length ≤ 4 && numbers.dropLast.all (· < 256) &&
    numbers.getLast?.any (· < Nat.pow 256 (5 - numbers.length))

/-- Whether a name writes a number of 32 bits. -/
def isAddress (name : List Char) : Bool :=
  match (partsOf name).mapM part? with
  | some numbers => fitsWord numbers
  | none => false

/-! ## Numbers of 128 bits -/

/-- Whether a text is a byte in decimal digits without needless zeros. -/
def isByte (text : List Char) : Bool :=
  text ≠ [] && text.all Char.isDigit && (text.length = 1 || text.head? ≠ some '0') &&
    (digitsIn? 10 text).any (· < 256)

/-- How many groups a text between colons stands for: one, two for four bytes at the end, or none. -/
def groupCount (last : Bool) (text : List Char) : Option Nat :=
  let bytes := Path.splitAt '.' text
  if text ≠ [] && text.length ≤ 4 && text.all fun c => (Text.hexDigit? c).isSome then some 1
  else if last && bytes.length = 4 && bytes.all isByte then some 2
  else none

/-- How many groups there are between colons; `last` tells whether they are the last ones. -/
def groupsCount (last : Bool) : List (List Char) → Option Nat
  | [] => some 0
  | [text] => groupCount last text
  | text :: rest => do
    let n ← groupCount false text
    some (n + (← groupsCount last rest))

/-- The groups of a text; an empty text has none. -/
def groupsOf (text : List Char) : List (List Char) :=
  if text = [] then [] else Path.splitAt ':' text

/-- A text before and behind its first two colons in a row. -/
def cutAtGap : List Char → Option (List Char × List Char)
  | ':' :: ':' :: rest => some ([], rest)
  | c :: rest => (cutAtGap rest).map fun (before, after) => (c :: before, after)
  | [] => none

/-- Whether a text writes a number of 128 bits. -/
def isLongAddress (text : List Char) : Bool :=
  match cutAtGap text with
  | none => text ≠ [] && groupsCount true (groupsOf text) = some 8
  | some (before, after) =>
    match groupsCount false (groupsOf before), groupsCount true (groupsOf after) with
    | some a, some b => a + b ≤ 7
    | _, _ => false

end ExtensionHost.Domain
