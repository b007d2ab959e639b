import ExtensionHost.Json.Value

/-!
# Reading JSON

A strict reader: blanks are the space, the tab and the line ends; no comma is left over, no control
stands in a string, every escaped surrogate has its other half, and nothing but blanks follows the
value. The number of arrays and objects inside each other is bounded. An integer that fits into 64
bits stays one, but `-0` is the floating-point number with a sign; every other number is a
floating-point number and has to be finite.

The functions `read…` take the characters from the front of a text and give the value together with
what is left, or `none`.
-/

namespace ExtensionHost.Json

/-! ## Blanks and literals -/

/-- The blanks between tokens. -/
def isSpace (c : Char) : Bool :=
  c = ' ' || c = '\n' || c = '\t' || c = '\r'

/-- The text from its first character that is no blank. -/
def skipSpace (text : List Char) : List Char :=
  text.dropWhile isSpace

/-- The text after an expected word. -/
def afterWord? : List Char → List Char → Option (List Char)
  | [], text => some text
  | _ :: _, [] => none
  | w :: word, c :: text => if c = w then afterWord? word text else none

/-! ## Numbers -/

/-- The value of a decimal digit. -/
def digit? (c : Char) : Option Nat :=
  if '0' ≤ c ∧ c ≤ '9' then some (c.toNat - 48) else none

/-- The digits at the front, and what is left. -/
def readDigits (text : List Char) : List Nat × List Char :=
  ((text.takeWhile fun c => (digit? c).isSome).filterMap digit?,
    text.dropWhile fun c => (digit? c).isSome)

/-- A decimal that is being read: the digits kept so far, the power of ten of the last of them, and
whether digits are still kept. Digits are kept while they make a number of 64 bits. -/
structure Scan where
  digits : Nat
  exponent : Int
  keeping : Bool
  deriving Repr

/-- One more digit before the point. -/
def Scan.whole (s : Scan) (d : Nat) : Scan :=
  if s.keeping && s.digits * 10 + d < UInt64.size then { s with digits := s.digits * 10 + d }
  else { s with exponent := s.exponent + 1, keeping := false }

/-- One more digit behind the point. -/
def Scan.fraction (s : Scan) (d : Nat) : Scan :=
  if s.keeping && s.digits * 10 + d < UInt64.size then
    { s with digits := s.digits * 10 + d, exponent := s.exponent - 1 }
  else { s with keeping := false }

/-- The greatest exponent that is read; a greater one stands for infinity or zero. -/
def greatestExponent : Nat := 2147483647

/-- The floating-point number `digits * 10 ^ exponent`, if it is finite. -/
def float? (negative : Bool) (digits : Nat) (exponent : Int) : Option Number :=
  (Magnitude.ofDecimal? digits exponent).map fun m => .float ⟨negative, m⟩

/-- The number with the exponent part `10 ^ exponent` or `10 ^ -exponent`. -/
def withExponent? (negative : Bool) (s : Scan) (up : Bool) (exponent : Nat) : Option Number :=
  if exponent ≤ greatestExponent then
    float? negative s.digits (if up then s.exponent + exponent else s.exponent - exponent)
  else if up && s.digits ≠ 0 then none
  else some (.float ⟨negative, .zero⟩)

/-- The exponent part behind the letter, if there is one. -/
def readExponent (negative : Bool) (s : Scan) (text : List Char) : Option (Number × List Char) :=
  let (up, text) := match text with
    | '+' :: rest => (true, rest)
    | '-' :: rest => (false, rest)
    | text => (true, text)
  let (ds, rest) := readDigits text
  if ds.isEmpty then none
  else (withExponent? negative s up (ds.foldl (fun n d => n * 10 + d) 0)).map (·, rest)

/-- What follows the digits of a number that is no integer. -/
def readFloat (negative : Bool) (s : Scan) (text : List Char) : Option (Number × List Char) :=
  match text with
  | 'e' :: rest => readExponent negative s rest
  | 'E' :: rest => readExponent negative s rest
  | text => (float? negative s.digits s.exponent).map (·, text)

/-- The integer with these digits, or the floating-point number if 64 bits do not hold it. -/
def integer? (negative : Bool) (s : Scan) : Option Number :=
  if negative then
    if s.exponent = 0 ∧ s.digits ≠ 0 ∧ s.digits ≤ 9223372036854775808 then some (.int (-s.digits))
    else float? true s.digits s.exponent
  else if s.exponent = 0 then some (.int s.digits)
  else float? false s.digits s.exponent

/-- What follows the digits before the point. -/
def readAfterWhole (negative : Bool) (s : Scan) (text : List Char) :
    Option (Number × List Char) :=
  match text with
  | '.' :: rest =>
    let (ds, rest) := readDigits rest
    if ds.isEmpty then none
    else readFloat negative (ds.foldl Scan.fraction { s with keeping := true }) rest
  | 'e' :: rest => readExponent negative s rest
  | 'E' :: rest => readExponent negative s rest
  | text => (integer? negative s).map (·, text)

/-- A number without its sign. No digit stands before another one if it is zero. -/
def readUnsigned (negative : Bool) (text : List Char) : Option (Number × List Char) :=
  match readDigits text with
  | ([], _) => none
  | (0 :: _ :: _, _) => none
  | (ds, rest) => readAfterWhole negative (ds.foldl Scan.whole ⟨0, 0, true⟩) rest

/-- A number. -/
def readNumber (text : List Char) : Option (Number × List Char) :=
  match text with
  | '-' :: rest => readUnsigned true rest
  | text => readUnsigned false text

/-! ## Strings -/

/-- The value of a hexadecimal digit. -/
def hexValue? (c : Char) : Option Nat :=
  if '0' ≤ c ∧ c ≤ '9' then some (c.toNat - 48)
  else if 'a' ≤ c ∧ c ≤ 'f' then some (c.toNat - 87)
  else if 'A' ≤ c ∧ c ≤ 'F' then some (c.toNat - 55)
  else none

/-- Four hexadecimal digits. -/
def readHex : List Char → Option (Nat × List Char)
  | a :: b :: c :: d :: rest => do
    let a ← hexValue? a
    let b ← hexValue? b
    let c ← hexValue? c
    let d ← hexValue? d
    some (((a * 16 + b) * 16 + c) * 16 + d, rest)
  | _ => none

/-- The first of two units that make one character. -/
def isLeading (n : Nat) : Bool := 0xD800 ≤ n && n < 0xDC00

/-- The second of two units that make one character. -/
def isTrailing (n : Nat) : Bool := 0xDC00 ≤ n && n < 0xE000

/-- The character behind `\u`: one unit, or two units that belong together. -/
def readUnit (text : List Char) : Option (Char × List Char) := do
  let (first, rest) ← readHex text
  if isTrailing first then none
  else if isLeading first then
    match rest with
    | '\\' :: 'u' :: rest =>
      let (second, rest) ← readHex rest
      if isTrailing second then
        some (Char.ofNat (0x10000 + (first - 0xD800) * 1024 + (second - 0xDC00)), rest)
      else none
    | _ => none
  else some (Char.ofNat first, rest)

/-- The character behind a backslash. -/
def readEscape : List Char → Option (Char × List Char)
  | '"' :: rest => some ('"', rest)
  | '\\' :: rest => some ('\\', rest)
  | '/' :: rest => some ('/', rest)
  | 'b' :: rest => some ('\x08', rest)
  | 'f' :: rest => some ('\x0c', rest)
  | 'n' :: rest => some ('\n', rest)
  | 'r' :: rest => some ('\r', rest)
  | 't' :: rest => some ('\t', rest)
  | 'u' :: rest => readUnit rest
  | _ => none

/-- The characters of a string up to its closing quote; `fuel` bounds their number. -/
def readChars : Nat → List Char → Option (List Char × List Char)
  | 0, _ => none
  | _ + 1, [] => none
  | _ + 1, '"' :: rest => some ([], rest)
  | fuel + 1, '\\' :: rest => do
    let (c, rest) ← readEscape rest
    let (cs, rest) ← readChars fuel rest
    some (c :: cs, rest)
  | fuel + 1, c :: rest =>
    if c.toNat < 0x20 then none
    else do
      let (cs, rest) ← readChars fuel rest
      some (c :: cs, rest)

/-- A string behind its opening quote. -/
def readString (text : List Char) : Option (String × List Char) :=
  (readChars (text.length + 1) text).map fun (cs, rest) => (String.ofList cs, rest)

/-! ## Arrays and objects -/

/-- The items of an array up to its closing bracket, `item` reading each; `fuel` bounds their
number. -/
def readItems (item : List Char → Option (Json × List Char)) :
    Nat → List Char → Option (List Json × List Char)
  | 0, _ => none
  | fuel + 1, text => do
    let (v, rest) ← item text
    match skipSpace rest with
    | ',' :: rest =>
      let (vs, rest) ← readItems item fuel rest
      some (v :: vs, rest)
    | ']' :: rest => some ([v], rest)
    | _ => none

/-- A key and its value. -/
def readMember (item : List Char → Option (Json × List Char)) (text : List Char) :
    Option ((String × Json) × List Char) :=
  match skipSpace text with
  | '"' :: rest => do
    let (key, rest) ← readString rest
    match skipSpace rest with
    | ':' :: rest =>
      let (v, rest) ← item rest
      some ((key, v), rest)
    | _ => none
  | _ => none

/-- The members of an object up to its closing bracket, in the order of the text. -/
def readMembers (item : List Char → Option (Json × List Char)) :
    Nat → List Char → Option (List (String × Json) × List Char)
  | 0, _ => none
  | fuel + 1, text => do
    let (m, rest) ← readMember item text
    match skipSpace rest with
    | ',' :: rest =>
      let (ms, rest) ← readMembers item fuel rest
      some (m :: ms, rest)
    | '\x7d' :: rest => some ([m], rest)
    | _ => none

/-- An array behind its opening bracket. -/
def readArray (item : List Char → Option (Json × List Char)) (text : List Char) :
    Option (Json × List Char) :=
  match skipSpace text with
  | ']' :: rest => some (.array [], rest)
  | text => (readItems item (text.length + 1) text).map fun (vs, rest) => (.array vs, rest)

/-- An object behind its opening bracket. Of members with one key the last stays. -/
def readObject (item : List Char → Option (Json × List Char)) (text : List Char) :
    Option (Json × List Char) :=
  match skipSpace text with
  | '\x7d' :: rest => some (.object [], rest)
  | text => (readMembers item (text.length + 1) text).map fun (ms, rest) => (.obj ms, rest)

/-- A value that is no array and no object. -/
def readScalar (text : List Char) : Option (Json × List Char) :=
  match text with
  | 'n' :: rest => (afterWord? "ull".toList rest).map (.null, ·)
  | 't' :: rest => (afterWord? "rue".toList rest).map (.bool true, ·)
  | 'f' :: rest => (afterWord? "alse".toList rest).map (.bool false, ·)
  | '"' :: rest => (readString rest).map fun (s, rest) => (.string s, rest)
  | text => (readNumber text).map fun (n, rest) => (.number n, rest)

/-- A value with blanks before it and at most `levels` arrays and objects inside each other. -/
def readValue : Nat → List Char → Option (Json × List Char)
  | 0, text =>
    match skipSpace text with
    | '[' :: _ => none
    | '\x7b' :: _ => none
    | text => readScalar text
  | levels + 1, text =>
    match skipSpace text with
    | '[' :: rest => readArray (readValue levels) rest
    | '\x7b' :: rest => readObject (readValue levels) rest
    | text => readScalar text

/-! ## Whole texts -/

/-- The number of arrays and objects that may be inside each other in a text. -/
def levelLimit : Nat := 127

/-- The value that a text consists of, with at most `levels` levels. -/
def parseWithin? (levels : Nat) (text : List Char) : Option Json :=
  match readValue levels text with
  | some (v, rest) => if (skipSpace rest).isEmpty then some v else none
  | none => none

/-- The value that a text consists of. -/
def parse? (text : String) : Option Json :=
  parseWithin? levelLimit text.toList

end ExtensionHost.Json
