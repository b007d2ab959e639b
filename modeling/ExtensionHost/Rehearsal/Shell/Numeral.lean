import ExtensionHost.Rehearsal.Shell.Pattern

/-!
# Numerals and escapes

How scripts write numbers and characters: integers to the bases eight, ten and sixteen, which are held
in 64 bits, and escapes behind a backslash.
-/

namespace ExtensionHost.Shell

/-! ## Decimal numbers -/

/-- The text of a number. -/
def numberText (n : Nat) : Bytes := (toString n).toList

/-- The text of an integer. -/
def integerText (i : Int) : Bytes := (toString i).toList

/-- The number that a text of digits stands for. -/
def number? (text : Bytes) : Option Nat :=
  if text.isEmpty || !text.all Char.isDigit then none else some (leadingNumber text).1

/-- The integer that a text stands for. -/
def integer? (text : Bytes) : Option Int :=
  match text with
  | '-' :: rest => (number? rest).map fun n => -(n : Int)
  | '+' :: rest => (number? rest).map fun n => (n : Int)
  | text => (number? text).map fun n => (n : Int)

/-! ## Numbers to other bases -/

/-- The number behind the greatest one of 64 bits. -/
def wordBound : Nat := 18446744073709551616

/-- The number of 64 bits, with a sign, that an integer wraps to. -/
def wrapped (i : Int) : Int := Int.bmod i wordBound

/-- The number of 64 bits, with a sign, that is closest to an integer. -/
def clamped (i : Int) : Int := max (-9223372036854775808) (min 9223372036854775807 i)

/-- The value of a digit. -/
def digitValue (c : Char) : Nat :=
  if c.isDigit then c.toNat - 48 else if c.isLower then c.toNat - 87 else c.toNat - 55

/-- Whether a character is a digit to a base of up to sixteen. -/
def isDigitOf (base : Nat) (c : Char) : Bool :=
  (c.isDigit || 'a' ≤ c && c ≤ 'f' || 'A' ≤ c && c ≤ 'F') && digitValue c < base

/-- The number of digits to a base. -/
def numberTo (base : Nat) (digits : Bytes) : Nat :=
  digits.foldl (fun n c => n * base + digitValue c) 0

/-- The number at the front of a text without a sign, and the text behind it. A zero at its front says
that it is octal, and `0x` that it is hexadecimal. -/
def constant? (text : Bytes) : Option (Nat × Bytes) :=
  let digitsTo (base : Nat) (text : Bytes) : Nat × Bytes :=
    (numberTo base (text.takeWhile (isDigitOf base)), text.dropWhile (isDigitOf base))
  match text with
  | '0' :: x :: c :: rest =>
    if (x = 'x' ∨ x = 'X') ∧ isDigitOf 16 c then some (digitsTo 16 (c :: rest))
    else some (digitsTo 8 text)
  | '0' :: rest => some (digitsTo 8 ('0' :: rest))
  | c :: rest => if c.isDigit then some (digitsTo 10 (c :: rest)) else none
  | [] => none

/-- Whether a character is a blank within numbers. -/
def isSpace (c : Char) : Bool := " \t\n\r\x0B\x0C".toList.contains c

/-- The number at the front of a text, perhaps behind blanks and with a sign, and the text behind it. -/
def signedConstant? (text : Bytes) : Option (Int × Bytes) :=
  match text.dropWhile isSpace with
  | '-' :: rest => (constant? rest).map fun (n, rest) => (-(n : Int), rest)
  | '+' :: rest => (constant? rest).map fun (n, rest) => ((n : Int), rest)
  | rest => (constant? rest).map fun (n, rest) => ((n : Int), rest)

/-! ## Escapes -/

/-- Whether a character is an octal digit. -/
def isOctal (c : Char) : Bool := '0' ≤ c && c ≤ '7'

/-- The byte of up to `count` octal digits, and the text behind them. -/
def octal (count : Nat) (text : Bytes) : Char × Bytes :=
  let digits := (text.take count).takeWhile isOctal
  (Char.ofNat (digits.foldl (fun n c => n * 8 + (c.toNat - 48)) 0 % 256), text.drop digits.length)

/-- The character of a letter behind a backslash. -/
def escapeOf? : Char → Option Char
  | 'a' => some '\x07'
  | 'b' => some '\x08'
  | 'e' => some '\x1B'
  | 'f' => some '\x0C'
  | 'n' => some '\n'
  | 'r' => some '\r'
  | 't' => some '\t'
  | 'v' => some '\x0B'
  | '\\' => some '\\'
  | _ => none

/-- A text whose escapes are replaced, up to one that ends the output. Octal digits may follow a zero.
`fuel` bounds the text. -/
def unescape : Nat → Bytes → Bytes × Bool
  | 0, _ => ([], false)
  | _ + 1, [] => ([], false)
  | fuel + 1, '\\' :: rest =>
    match rest with
    | 'c' :: _ => ([], true)
    | '0' :: rest =>
      let (c, rest) := octal 3 rest
      let (out, ended) := unescape fuel rest
      (c :: out, ended)
    | c :: behind =>
      if isOctal c then
        let (c, rest) := octal 3 rest
        let (out, ended) := unescape fuel rest
        (c :: out, ended)
      else
        let (out, ended) := unescape fuel behind
        match escapeOf? c with
        | some c => (c :: out, ended)
        | none => ('\\' :: c :: out, ended)
    | [] => (['\\'], false)
  | fuel + 1, c :: rest =>
    let (out, ended) := unescape fuel rest
    (c :: out, ended)

end ExtensionHost.Shell
