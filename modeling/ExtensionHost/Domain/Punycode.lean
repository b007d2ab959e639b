/-!
# Labels in plain letters

A label with any characters has a form in plain letters, digits and dashes: first its plain characters,
then a dash, then numbers that tell which other characters stand where. A number is written in digits of
base 36, the lowest first, and ends with a digit below a threshold that moves from digit to digit and
with the numbers before.
-/

namespace ExtensionHost.Domain.Punycode

/-- The base of the digits. -/
def base : Nat := 36

/-- The least threshold. -/
def leastThreshold : Nat := 1

/-- The greatest threshold. -/
def greatestThreshold : Nat := 26

/-- The bias before the first number. -/
def firstBias : Nat := 72

/-- The code point that the numbers count from. -/
def firstCodePoint : Nat := 0x80

/-- Numbers are below this one. -/
def bound : Nat := 4294967296

/-- The value of a digit: a letter, or a digit above all letters. -/
def digit? (c : Char) : Option Nat :=
  if '0' ≤ c ∧ c ≤ '9' then some (c.toNat - 48 + 26)
  else if 'a' ≤ c ∧ c ≤ 'z' then some (c.toNat - 97)
  else if 'A' ≤ c ∧ c ≤ 'Z' then some (c.toNat - 65)
  else none

/-- The threshold of a digit at a position, a multiple of the base. -/
def threshold (bias position : Nat) : Nat :=
  if position ≤ bias then leastThreshold
  else min greatestThreshold (position - bias)

/-- Divides by 35 while a number is above 455, counting up by the base. -/
def scale : Nat → Nat → Nat × Nat
  | 0, delta => (0, delta)
  | fuel + 1, delta =>
    if delta ≤ 455 then (0, delta)
    else
      let (k, delta) := scale fuel (delta / 35)
      (k + base, delta)

/-- The bias after a number, with the count of characters there are then. -/
def adapt (delta count : Nat) (first : Bool) : Nat :=
  let delta := if first then delta / 700 else delta / 2
  let (k, delta) := scale 32 (delta + delta / count)
  k + base * delta / (delta + 38)

/-- Reads a number and adds it to `sum`. -/
def readNumber (bias : Nat) : Nat → Nat → Nat → List Char → Option (Nat × List Char)
  | _, _, _, [] => none
  | position, weight, sum, c :: rest => do
    let digit ← digit? c
    let sum := sum + digit * weight
    let t := threshold bias position
    if bound ≤ sum then none
    else if digit < t then some (sum, rest)
    else
      let weight := weight * (base - t)
      if bound ≤ weight then none else readNumber bias (position + base) weight sum rest

/-- Puts in the characters that numbers tell; `place` is where the next one goes at least. `fuel` bounds
how many there are. -/
def insertAll : Nat → (bias codePoint place : Nat) → List Char → List Char → Option (List Char)
  | 0, _, _, _, text, _ => some text
  | _ + 1, _, _, _, text, [] => some text
  | fuel + 1, bias, codePoint, place, text, input => do
    let (sum, rest) ← readNumber bias base 1 place input
    let count := text.length + 1
    let codePoint := codePoint + sum / count
    let at_ := sum % count
    if 0x10FFFF < codePoint ∨ 0xD800 ≤ codePoint ∧ codePoint ≤ 0xDFFF then none
    else
      let text := text.take at_ ++ Char.ofNat codePoint :: text.drop at_
      insertAll fuel (adapt (sum - place) count (place = 0)) codePoint (at_ + 1) text rest

/-- The text of a label in plain letters. -/
def decode? (label : List Char) : Option (List Char) :=
  let input := (label.reverse.takeWhile (· ≠ '-')).reverse
  let plain := (label.take (label.length - input.length)).dropLast
  if plain.isEmpty && label.head? = some '-' then none
  else insertAll (input.length + 1) firstBias firstCodePoint 0 plain input

end ExtensionHost.Domain.Punycode
